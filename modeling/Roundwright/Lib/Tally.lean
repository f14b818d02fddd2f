/-
Tallies. A log of charges and resets under keys, and what a key has been charged since its last reset.
-/
import Mathlib.Algebra.BigOperators.Group.List.Basic
import Mathlib.Data.List.Induction
import Mathlib.Order.Basic
import Mathlib.Tactic.Common

namespace Roundwright.Lib.Tally

inductive Entry (κ μ : Type) where
  | charge (key : κ) (amount : μ)
  | reset (key : κ)

variable {κ μ : Type} [DecidableEq κ]

/-- What an entry charges the key. -/
def Entry.charged (k : κ) : Entry κ μ → Option μ
  | .charge key amount => if key = k then some amount else none
  | .reset _ => none

/-- The entry resets the key. -/
def Entry.resets (k : κ) : Entry κ μ → Bool
  | .charge _ _ => false
  | .reset key => key = k

@[simp] theorem Entry.charged_self (k : κ) (amount : μ) : (Entry.charge k amount).charged k = some amount := if_pos rfl

@[simp] theorem Entry.charged_reset (k key : κ) : (Entry.reset key : Entry κ μ).charged k = none := rfl

@[simp] theorem Entry.resets_charge (k key : κ) (amount : μ) : (Entry.charge key amount).resets k = false := rfl

@[simp] theorem Entry.resets_reset (k key : κ) : (Entry.reset key : Entry κ μ).resets k = decide (key = k) := rfl

/-- The charges of a key after its last reset, the newest first. -/
def charges (k : κ) (log : List (Entry κ μ)) : List μ :=
  (log.reverse.takeWhile fun e => !e.resets k).filterMap (Entry.charged k)

/-- The sum of the charges of a key since its last reset. -/
def tally [Add μ] [Zero μ] (k : κ) (log : List (Entry κ μ)) : μ := (charges k log).sum

section

variable [Add μ] [Zero μ]

@[simp] theorem tally_nil (k : κ) : tally k ([] : List (Entry κ μ)) = 0 := rfl

theorem tally_charge (k : κ) (amount : μ) (log : List (Entry κ μ)) :
    tally k (log ++ [.charge k amount]) = amount + tally k log := by
  simp [tally, charges]

theorem tally_charge_other {k key : κ} (h : key ≠ k) (amount : μ) (log : List (Entry κ μ)) :
    tally k (log ++ [.charge key amount]) = tally k log := by
  simp [tally, charges, Entry.charged, h]

theorem tally_reset (k : κ) (log : List (Entry κ μ)) : tally k (log ++ [.reset k]) = 0 := by
  simp [tally, charges]

theorem tally_reset_other {k key : κ} (h : key ≠ k) (log : List (Entry κ μ)) :
    tally k (log ++ [.reset key]) = tally k log := by
  simp [tally, charges, List.filterMap_cons, h]

end

/-- Until a key is reset its tally only grows, when no charge is negative. -/
theorem tally_le_append [AddMonoid μ] [Preorder μ] {k : κ} (log : List (Entry κ μ)) :
    ∀ {more : List (Entry κ μ)}, (∀ e ∈ more, e.resets k = false) →
      (∀ e ∈ more, ∀ amount, e.charged k = some amount → ∀ t, t ≤ amount + t) → tally k log ≤ tally k (log ++ more) := by
  intro more
  induction more using List.reverseRecOn with
  | nil => intro _ _; rw [List.append_nil]
  | append_singleton more e ih =>
    intro hreset hcharge
    have hold : tally k log ≤ tally k (log ++ more) :=
      ih (fun a ha => hreset a (List.mem_append_left _ ha)) (fun a ha => hcharge a (List.mem_append_left _ ha))
    have hlast : e ∈ more ++ [e] := List.mem_append_right _ (List.mem_singleton_self e)
    rw [← List.append_assoc]
    refine le_trans hold ?_
    cases e with
    | charge key amount =>
      by_cases h : key = k
      · subst h
        rw [tally_charge]
        exact hcharge _ hlast amount (Entry.charged_self _ _) _
      · rw [tally_charge_other h]
    | reset key =>
      have h : key ≠ k := by simpa using hreset _ hlast
      rw [tally_reset_other h]

end Roundwright.Lib.Tally
