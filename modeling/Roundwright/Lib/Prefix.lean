/-
Loops read as laws about prefixes. Where the accumulator of a loop is a function of the elements done so far, the loop
returns exactly when each element is allowed by the ones before it. `Sole` is for the laws that say of some kind of
element that there is exactly one, and where.
-/
import Mathlib.Data.List.Induction
import Roundwright.Lib.Transaction

namespace Roundwright.Lib

variable {α σ ε : Type} {P Q : List α → α → Prop} {p : α → Prop} {l : List α} {a b : α} {i j : Nat}

/-! ## Laws about prefixes -/

/-- Every element satisfies `P` with respect to the elements before it. -/
def Prefixwise (P : List α → α → Prop) (l : List α) : Prop := ∀ i a, l[i]? = some a → P (l.take i) a

instance [∀ l a, Decidable (P l a)] : Decidable (Prefixwise P l) :=
  decidable_of_iff (∀ i : Fin l.length, P (l.take i) l[i])
    ⟨fun h i a ha => by
      obtain ⟨hlt, rfl⟩ := List.getElem?_eq_some_iff.1 ha
      exact h ⟨i, hlt⟩,
    fun h i => h i l[i] (List.getElem?_eq_getElem i.isLt)⟩

theorem prefixwise_nil : Prefixwise P [] := by
  intro i a h
  rw [List.getElem?_nil] at h
  cases h

theorem prefixwise_append : Prefixwise P (l ++ [a]) ↔ Prefixwise P l ∧ P l a := by
  constructor
  · intro h
    constructor
    · intro i b hb
      have hlt := (List.getElem?_eq_some_iff.1 hb).1
      have hlast := h i b (by rw [List.getElem?_append_left hlt, hb])
      rwa [List.take_append_of_le_length (by omega)] at hlast
    · have hlast := h l.length a (by rw [List.getElem?_concat_length])
      rwa [List.take_left] at hlast
  · rintro ⟨h, hlast⟩ i b hb
    by_cases hlt : i < l.length
    · rw [List.getElem?_append_left hlt] at hb
      rw [List.take_append_of_le_length (by omega)]
      exact h i b hb
    · have hbound := (List.getElem?_eq_some_iff.1 hb).1
      rw [List.length_append, List.length_singleton] at hbound
      obtain rfl : i = l.length := by omega
      rw [List.getElem?_concat_length] at hb
      obtain rfl := Option.some.inj hb
      rwa [List.take_left]

/-- The law, at every place where the list is taken apart. -/
theorem Prefixwise.of_append {before after : List α} (h : Prefixwise P l) (hl : l = before ++ a :: after) : P before a := by
  subst hl
  have hlast := h before.length a (by rw [List.getElem?_append_right (Nat.le_refl _), Nat.sub_self, List.getElem?_cons_zero])
  rwa [List.take_left] at hlast

theorem prefixwise_and : Prefixwise (fun done a => P done a ∧ Q done a) l ↔ Prefixwise P l ∧ Prefixwise Q l :=
  ⟨fun h => ⟨fun i a ha => (h i a ha).1, fun i a ha => (h i a ha).2⟩, fun h i a ha => ⟨h.1 i a ha, h.2 i a ha⟩⟩

/-- A loop whose accumulator is `of` the elements done so far, each pass of which returns exactly for the elements that
the ones before them allow. -/
theorem foldlM_prefixwise {f : σ → α → Except ε σ} {of : List α → σ}
    (hpass : ∀ done a s, Prefixwise P done → (f (of done) a = .ok s ↔ P done a ∧ s = of (done ++ [a]))) {s : σ} :
    l.foldlM f (of []) = .ok s ↔ Prefixwise P l ∧ s = of l := by
  induction l using List.reverseRecOn generalizing s with
  | nil =>
    rw [List.foldlM_nil, pure_eq_ok]
    exact ⟨fun h => ⟨prefixwise_nil, h.symm⟩, fun h => h.2.symm⟩
  | append_singleton l a ih =>
    rw [List.foldlM_append, bind_eq_ok, prefixwise_append]
    constructor
    · rintro ⟨s₁, hl, ha⟩
      obtain ⟨hpassed, rfl⟩ := ih.1 hl
      rw [List.foldlM_cons, bind_eq_ok] at ha
      obtain ⟨s₂, ha, hs⟩ := ha
      obtain rfl := pure_eq_ok.1 hs
      obtain ⟨hallowed, hs⟩ := (hpass l a s₂ hpassed).1 ha
      exact ⟨⟨hpassed, hallowed⟩, hs⟩
    · rintro ⟨⟨hpassed, hallowed⟩, rfl⟩
      refine ⟨of l, ih.2 ⟨hpassed, rfl⟩, ?_⟩
      rw [List.foldlM_cons, (hpass l a _ hpassed).2 ⟨hallowed, rfl⟩]
      rfl

theorem mem_take : a ∈ l.take i ↔ ∃ j < i, l[j]? = some a := by
  rw [List.mem_iff_getElem?]
  constructor
  · rintro ⟨j, hj⟩
    rw [List.getElem?_take] at hj
    split at hj
    · exact ⟨j, ‹_›, hj⟩
    · cases hj
  · rintro ⟨j, hlt, hj⟩
    exact ⟨j, by rw [List.getElem?_take_of_lt hlt, hj]⟩

/-! ## The only one of its kind -/

/-- `a`, at place `i`, is the only element of the list with `p`. -/
structure Sole (p : α → Prop) (l : List α) (i : Nat) (a : α) : Prop where
  at_ : l[i]? = some a
  holds : p a
  only : ∀ j b, l[j]? = some b → p b → j = i

instance [DecidableEq α] [DecidablePred p] : Decidable (Sole p l i a) :=
  decidable_of_iff (l[i]? = some a ∧ p a ∧ ∀ j : Fin l.length, p l[j] → j = i)
    ⟨fun ⟨hat, hp, honly⟩ => ⟨hat, hp, fun j b hj hb => by
      obtain ⟨hlt, rfl⟩ := List.getElem?_eq_some_iff.1 hj
      exact honly ⟨j, hlt⟩ hb⟩,
    fun h => ⟨h.at_, h.holds, fun j hj => h.only j l[j] (List.getElem?_eq_getElem j.isLt) hj⟩⟩

theorem Sole.eq (h : Sole p l i a) (hb : b ∈ l) (hp : p b) : b = a := by
  obtain ⟨j, hj⟩ := List.mem_iff_getElem?.1 hb
  obtain rfl := h.only j b hj hp
  exact Option.some.inj (hj.symm.trans h.at_)

theorem Sole.mem (h : Sole p l i a) : a ∈ l := List.mem_of_getElem? h.at_

/-- A prefix with such an element has the only one. -/
theorem Sole.of_mem_take (h : Sole p l i a) (hb : b ∈ l.take j) (hp : p b) : i < j ∧ b = a := by
  obtain ⟨k, hlt, hk⟩ := mem_take.1 hb
  obtain rfl := h.only k b hk hp
  exact ⟨hlt, Option.some.inj (hk.symm.trans h.at_)⟩

/-- Where none comes after another there is one at most. -/
theorem sole_of_first (hat : l[i]? = some a) (hp : p a) (hfirst : ∀ j b, l[j]? = some b → p b → ∀ c ∈ l.take j, ¬ p c) :
    Sole p l i a := by
  refine ⟨hat, hp, fun j b hj hb => ?_⟩
  rcases Nat.lt_trichotomy j i with hlt | heq | hgt
  · exact absurd hb (hfirst i a hat hp b (mem_take.2 ⟨j, hlt, hj⟩))
  · exact heq
  · exact absurd hp (hfirst j b hj hb a (mem_take.2 ⟨i, hgt, hat⟩))

theorem exists_sole_iff [DecidablePred p] : (∃ i a, Sole p l i a) ↔ l.countP p = 1 := by
  -- over the list; at a head that has the property the rest has none
  induction l with
  | nil =>
    refine ⟨fun ⟨i, a, h⟩ => ?_, fun h => ?_⟩
    · have hat := h.at_
      rw [List.getElem?_nil] at hat
      cases hat
    · rw [List.countP_nil] at h
      cases h
  | cons c l ih =>
    by_cases hc : p c
    · have hrest : l.countP p = 0 ↔ ∀ x ∈ l, ¬ p x := by simp [List.countP_eq_zero]
      rw [List.countP_cons_of_pos (by simpa using hc), Nat.add_eq_right, hrest]
      constructor
      · rintro ⟨i, a, h⟩ x hx hpx
        obtain ⟨j, hj⟩ := List.mem_iff_getElem?.1 hx
        have hhead := h.only 0 c rfl hc
        have htail := h.only (j + 1) x hj hpx
        omega
      · intro hnone
        refine ⟨0, c, rfl, hc, fun j b hj hb => ?_⟩
        cases j with
        | zero => rfl
        | succ j => exact absurd hb (hnone b (List.mem_of_getElem? hj))
    · rw [List.countP_cons_of_neg (by simpa using hc), ← ih]
      constructor
      · rintro ⟨i, a, h⟩
        cases i with
        | zero =>
          obtain rfl := Option.some.inj h.at_
          exact absurd h.holds hc
        | succ i => exact ⟨i, a, h.at_, h.holds, fun j b hj hb => Nat.succ.inj (h.only (j + 1) b hj hb)⟩
      · rintro ⟨i, a, h⟩
        refine ⟨i + 1, a, h.at_, h.holds, fun j b hj hb => ?_⟩
        cases j with
        | zero =>
          obtain rfl := Option.some.inj hj
          exact absurd hb hc
        | succ j => rw [h.only j b hj hb]

end Roundwright.Lib
