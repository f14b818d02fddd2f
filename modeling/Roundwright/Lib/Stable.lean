/-
Sorting is stable: it keeps the order of the rows that have one key. So two lists sort to the same list as soon as they
have the same rows in the same order under every key.
-/
import Roundwright.Lib.Table

namespace Roundwright.Lib

variable {α κ : Type} [LinearOrder κ] {key : α → κ}

theorem filter_sortBy (key : α → κ) (k : κ) (l : List α) :
    (sortBy key l).filter (fun a => key a = k) = l.filter fun a => key a = k := by
  have : IsTrans α fun a b => key a ≤ key b := ⟨fun _ _ _ h h' => le_trans h h'⟩
  have : Std.Total fun a b : α => key a ≤ key b := ⟨fun a b => le_total (key a) (key b)⟩
  have hsame : (l.filter fun a => key a = k).Pairwise fun a b => key a ≤ key b := by
    refine List.pairwise_of_forall_mem_list fun a ha b hb => ?_
    rw [List.mem_filter, decide_eq_true_eq] at ha hb
    exact (ha.2.trans hb.2.symm).le
  have hsub := (List.sublist_insertionSort hsame List.filter_sublist).filter fun a => key a = k
  rw [List.filter_filter] at hsub
  simp only [Bool.and_self] at hsub
  exact (hsub.eq_of_length ((sortBy_perm key l).filter _).length_eq.symm).symm

/-- Two sorted lists with the same rows under every key. -/
theorem eq_of_filter_key : ∀ {l m : List α}, l.Pairwise (fun a b => key a ≤ key b) → m.Pairwise (fun a b => key a ≤ key b) →
    (∀ k, l.filter (fun a => key a = k) = m.filter fun a => key a = k) → l = m
  | [], [], _, _, _ => rfl
  | [], b :: m, _, _, h => by simpa using h (key b)
  | a :: l, [], _, _, h => by simpa using h (key a)
  | a :: l, b :: m, hl, hm, h => by
    have hmem : ∀ x, x ∈ a :: l ↔ x ∈ b :: m := by
      intro x
      have hx := congrArg (x ∈ ·) (h (key x))
      simpa only [List.mem_filter, decide_true, and_true] using Iff.of_eq hx
    have hle : key a ≤ key b := by
      rcases List.mem_cons.1 ((hmem b).2 List.mem_cons_self) with heq | hb
      · rw [heq]
      · exact (List.pairwise_cons.1 hl).1 b hb
    have hge : key b ≤ key a := by
      rcases List.mem_cons.1 ((hmem a).1 List.mem_cons_self) with heq | ha
      · rw [heq]
      · exact (List.pairwise_cons.1 hm).1 a ha
    have hkey := le_antisymm hle hge
    have hhead := h (key a)
    rw [List.filter_cons_of_pos (by simp), List.filter_cons_of_pos (by simp [hkey]), List.cons.injEq] at hhead
    obtain ⟨rfl, -⟩ := hhead
    congr 1
    refine eq_of_filter_key hl.of_cons hm.of_cons fun k => ?_
    have hk := h k
    rw [List.filter_cons, List.filter_cons] at hk
    split at hk
    · exact (List.cons.inj hk).2
    · exact hk

/-- Rows with a property of their key can be put first before sorting. -/
theorem sortBy_partition (p : α → Bool) (hp : ∀ a b, key a = key b → p a = p b) (l : List α) :
    sortBy key (l.filter p ++ l.filter fun a => !p a) = sortBy key l := by
  refine eq_of_filter_key (sortBy_pairwise key _) (sortBy_pairwise key _) fun k => ?_
  rw [filter_sortBy, filter_sortBy, List.filter_append, List.filter_filter, List.filter_filter]
  -- all rows of one key are on one side
  by_cases hk : ∃ a ∈ l, key a = k ∧ p a = true
  · obtain ⟨a, -, rfl, ha⟩ := hk
    have hall : ∀ b, key b = key a → p b = true := fun b hb => (hp b a hb).trans ha
    have hright : (l.filter fun b => decide (key b = key a) && !p b) = [] := by
      refine List.filter_eq_nil_iff.2 fun b _ hb => ?_
      simp only [Bool.and_eq_true, decide_eq_true_eq, Bool.not_eq_true'] at hb
      rw [hall b hb.1] at hb
      exact absurd hb.2 (by decide)
    rw [hright, List.append_nil]
    refine List.filter_congr fun b _ => ?_
    by_cases hb : key b = key a
    · simp [hb, hall b hb]
    · simp [hb]
  · have hnone : ∀ b ∈ l, key b = k → p b = false := by
      intro b hb hbk
      by_contra hpb
      exact hk ⟨b, hb, hbk, by simpa using hpb⟩
    have hleft : (l.filter fun b => decide (key b = k) && p b) = [] := by
      refine List.filter_eq_nil_iff.2 fun b hb hbp => ?_
      simp only [Bool.and_eq_true, decide_eq_true_eq] at hbp
      rw [hnone b hb hbp.1] at hbp
      exact absurd hbp.2 (by decide)
    rw [hleft, List.nil_append]
    refine List.filter_congr fun b hb => ?_
    by_cases hbk : key b = k
    · simp [hbk, hnone b hb hbk]
    · simp [hbk]

end Roundwright.Lib
