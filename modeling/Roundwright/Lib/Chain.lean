/-
Chains by parent pointer. Rows carry an id and the id of the row they follow; `Linked p l` says that
`l` is one chain in order: its first row follows `p` and every other row follows the one before it.
The ids and the parents of a chain then determine each other, so a chain has one root, no row is
followed twice, and the row nobody follows is the last.
-/
import Mathlib.Data.List.Chain
import Mathlib.Data.List.Nodup
import Mathlib.Tactic.Common

namespace Roundwright.Lib

section Linked

variable {ρ κ : Type} (id : ρ → κ) (parent : ρ → Option κ)

/-- The rows form one chain that starts after `p`. -/
def Linked : Option κ → List ρ → Prop
  | _, [] => True
  | p, a :: rest => parent a = p ∧ Linked (some (id a)) rest

variable {id parent}

theorem linked_append_singleton {r : ρ} : ∀ {p : Option κ} {l : List ρ},
    Linked id parent p (l ++ [r]) ↔ Linked id parent p l ∧ parent r = (l.getLast?.map id).or p
  | p, [] => by simp [Linked]
  | p, a :: rest => by
    rw [List.cons_append, Linked, Linked, linked_append_singleton, and_assoc]
    cases hlast : rest.getLast? with
    | none => simp [List.getLast?_cons, hlast]
    | some b => simp [List.getLast?_cons, hlast]

/-- A change of the rows that keeps ids and parents keeps the chain. -/
theorem Linked.map {f : ρ → ρ} (hid : ∀ a, id (f a) = id a) (hp : ∀ a, parent (f a) = parent a) :
    ∀ {p : Option κ} {l : List ρ}, Linked id parent p l → Linked id parent p (l.map f)
  | _, [], _ => trivial
  | _, a :: rest, h => ⟨(hp a).trans h.1, by rw [hid]; exact Linked.map hid hp h.2⟩

theorem Linked.isChain : ∀ {p : Option κ} {l : List ρ}, Linked id parent p l →
    l.IsChain fun a b => parent b = some (id a)
  | _, [], _ => .nil
  | _, [a], _ => .singleton a
  | _, _ :: _ :: _, h => List.isChain_cons_cons.2 ⟨h.2.1, h.2.isChain⟩

variable {l : List ρ}

/-- A row that follows another stands right after it. -/
theorem Linked.after (h : Linked id parent none l) {b : ρ} (hb : b ∈ l) {k : κ} (hk : parent b = some k) :
    ∃ a, [a, b] <:+: l ∧ id a = k := by
  obtain ⟨before, rest, rfl⟩ := List.append_of_mem hb
  rcases List.eq_nil_or_concat before with rfl | ⟨init, a, rfl⟩
  · rw [h.1] at hk; cases hk
  · have hadjacent : [a, b] <:+: init.concat a ++ b :: rest := ⟨init, rest, by simp⟩
    have hlink := List.isChain_pair.1 ( List.IsChain.infix h.isChain hadjacent)
    exact ⟨a, hadjacent, Option.some.inj (hlink.symm.trans hk)⟩

/-- The parents of the rows are what the chain starts after, then every id but the last. -/
theorem Linked.parents : ∀ {p : Option κ} {l : List ρ}, Linked id parent p l → l ≠ [] →
    l.map parent = p :: ((l.map id).dropLast.map some)
  | _, [], _, h => absurd rfl h
  | _, [a], h, _ => by simp [h.1]
  | _, a :: b :: rest, h, _ => by
    have ih := Linked.parents h.2 (by simp)
    simp only [List.map_cons] at ih ⊢
    rw [ih, h.1]
    simp

/-- No two rows of a chain follow the same row, and only one follows none. -/
theorem Linked.parents_nodup (h : Linked id parent none l) (hid : (l.map id).Nodup) : (l.map parent).Nodup := by
  by_cases hl : l = []
  · subst hl; exact List.nodup_nil
  · rw [h.parents hl, List.nodup_cons]
    refine ⟨fun hmem => ?_, (hid.sublist (List.dropLast_sublist _)).map fun _ _ heq => Option.some.inj heq⟩
    obtain ⟨_, -, hnone⟩ := List.mem_map.1 hmem
    cases hnone

/-- A row of the chain is followed exactly when its id is not the last. -/
theorem Linked.followed_iff (h : Linked id parent none l) {k : κ} : (∃ b ∈ l, parent b = some k) ↔ k ∈ (l.map id).dropLast := by
  by_cases hl : l = []
  · subst hl; simp
  · have hmem : some k ∈ l.map parent ↔ k ∈ (l.map id).dropLast := by
      rw [h.parents hl, List.mem_cons, List.mem_map]
      simp only [Option.some.injEq, exists_eq_right, reduceCtorEq, false_or]
    rw [← hmem, List.mem_map]

/-- The row a row follows is in the chain. -/
theorem Linked.parent_mem (h : Linked id parent none l) {b : ρ} (hb : b ∈ l) {k : κ} (hk : parent b = some k) :
    ∃ a ∈ l, id a = k :=
  List.mem_map.1 ((List.dropLast_sublist _).subset (h.followed_iff.1 ⟨b, hb, hk⟩))

theorem Linked.last_of_not_followed (h : Linked id parent none l) {a : ρ} (ha : a ∈ l)
    (hno : ∀ b ∈ l, parent b ≠ some (id a)) : l.getLast?.map id = some (id a) := by
  have hl : l ≠ [] := List.ne_nil_of_mem ha
  have hnot : id a ∉ (l.map id).dropLast := fun hmem => by
    obtain ⟨b, hb, hp⟩ := h.followed_iff.2 hmem
    exact hno b hb hp
  have hmap : l.map id ≠ [] := by simpa using hl
  have hmem : id a ∈ l.map id := List.mem_map_of_mem ha
  rw [← List.dropLast_append_getLast hmap, List.mem_append, List.mem_singleton] at hmem
  rw [← List.getLast?_map, List.getLast?_eq_some_getLast hmap, hmem.resolve_left hnot]

end Linked

end Roundwright.Lib
