/-
Names in several scopes. A name that occurs once is kept, any other is renamed after its scope; the results are distinct
exactly when none of the names that are kept looks like one that was made.
-/
import Mathlib.Data.List.Nodup
import Mathlib.Data.List.Count
import Mathlib.Tactic.Common

namespace Roundwright.Lib

variable {ι α : Type} [DecidableEq α]

/-- How often a name occurs. -/
def occurrences (names : List (ι × α)) (a : α) : Nat := (names.map Prod.snd).count a

/-- Names that occur once, and every other under its scope. -/
def inScopes (rename : ι → α → α) (names : List (ι × α)) : List α :=
  names.map fun n => if occurrences names n.2 = 1 then n.2 else rename n.1 n.2

/-- A name that is kept is not one that is made. -/
def Apart (rename : ι → α → α) (names : List (ι × α)) : Prop :=
  ∀ n ∈ names, ∀ m ∈ names, occurrences names n.2 = 1 → occurrences names m.2 ≠ 1 → n.2 ≠ rename m.1 m.2

variable {rename : ι → α → α} {names : List (ι × α)}

theorem mem_of_occurrences {n m : ι × α} (hn : n ∈ names) (hm : m ∈ names) (heq : n.2 = m.2) (hone : occurrences names n.2 = 1) :
    n = m := by
  have hlength : (names.filter fun k => k.2 = n.2).length = 1 := by
    rw [← hone, occurrences, List.count_eq_countP, List.countP_map, List.countP_eq_length_filter]
    congr 1
  obtain ⟨k, hk⟩ := List.length_eq_one_iff.1 hlength
  have hmem : ∀ j ∈ names, j.2 = n.2 → j = k := by
    intro j hj hsame
    have hfilter : j ∈ names.filter fun k => k.2 = n.2 := List.mem_filter.2 ⟨hj, by simpa using hsame⟩
    rw [hk] at hfilter
    exact List.mem_singleton.1 hfilter
  rw [hmem n hn rfl, hmem m hm heq.symm]

theorem inScopes_nodup_iff (hinj : ∀ i a j b, rename i a = rename j b → i = j ∧ a = b) :
    (inScopes rename names).Nodup ↔ names.Nodup ∧ Apart rename names := by
  constructor
  · intro h
    have hnames : names.Nodup := h.of_map
    have hinjective := (List.nodup_map_iff_inj_on hnames).1 h
    refine ⟨hnames, fun n hn m hm hone hmany heq => ?_⟩
    have hsame := hinjective n hn m hm (by rw [if_pos hone, if_neg hmany, heq])
    rw [hsame] at hone
    exact hmany hone
  · rintro ⟨hnames, hapart⟩
    refine (List.nodup_map_iff_inj_on hnames).2 fun n hn m hm heq => ?_
    -- by whether each of the two is kept
    by_cases hone : occurrences names n.2 = 1 <;> by_cases hone' : occurrences names m.2 = 1
    · rw [if_pos hone, if_pos hone'] at heq
      exact mem_of_occurrences hn hm heq hone
    · rw [if_pos hone, if_neg hone'] at heq
      exact absurd heq (hapart n hn m hm hone hone')
    · rw [if_neg hone, if_pos hone'] at heq
      exact absurd heq.symm (hapart m hm n hn hone' hone)
    · rw [if_neg hone, if_neg hone'] at heq
      obtain ⟨hscope, hname⟩ := hinj _ _ _ _ heq
      exact Prod.ext hscope hname

/-! ## Scopes by their number -/

/-- The names of each list, under the number of the list from one on. -/
def numbered (lists : List (List α)) : List (Nat × α) := (lists.zipIdx 1).flatMap fun l => l.1.map (l.2, ·)

omit [DecidableEq α]

theorem numbered_nodup_iff {lists : List (List α)} : (numbered lists).Nodup ↔ ∀ names ∈ lists, names.Nodup := by
  unfold numbered
  generalize 1 = first
  induction lists generalizing first with
  | nil => simp
  | cons names lists ih =>
    rw [List.zipIdx_cons, List.flatMap_cons, List.nodup_append', ih, List.forall_mem_cons]
    have hnames : (names.map (first, ·)).Nodup ↔ names.Nodup := List.nodup_map_iff fun a b h => (Prod.mk.inj h).2
    have hapart : (names.map (first, ·)).Disjoint ((lists.zipIdx (first + 1)).flatMap fun l => l.1.map (l.2, ·)) := by
      intro n hn hlater
      obtain ⟨a, -, rfl⟩ := List.mem_map.1 hn
      obtain ⟨⟨other, index⟩, hother, hmem⟩ := List.mem_flatMap.1 hlater
      obtain ⟨b, -, heq⟩ := List.mem_map.1 hmem
      have hindex := (List.mk_mem_zipIdx_iff_le_and_getElem?_sub.1 hother).1
      have hsame := (Prod.mk.inj heq).1
      omega
    simp only [hnames, hapart, and_true]

end Roundwright.Lib
