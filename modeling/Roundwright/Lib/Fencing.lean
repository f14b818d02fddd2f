/-
Generation fencing. One holder at a time, a counter that every grant moves past, extensions that
replace the held value under the same generation, and releases. The rules here are about runs of
that machine alone: what a release fences off stays fenced off, whoever asks next.
-/
import Mathlib.Algebra.Order.Ring.Int
import Mathlib.Data.List.Basic
import Mathlib.Tactic.Common

namespace Roundwright.Lib.Fencing

variable {L : Type}

/-- The value held, if any, and the counter. -/
structure Fence (L : Type) where
  holder : Option L
  counter : Option Int

inductive Event (L : Type) where
  | granted (lease : L)
  | extended (old new : L)
  | released (lease : L)
  | idle

/-- The value an event hands out. -/
def Event.issued : Event L → Option L
  | .granted lease => some lease
  | .extended _ new => some new
  | .released _ => none
  | .idle => none

/-- The value an event gives back. -/
def Event.returned : Event L → Option L
  | .released lease => some lease
  | _ => none

variable (generation : L → Int)

inductive Step : Fence L → Event L → Fence L → Prop
  | granted {s : Fence L} {lease : L} (free : s.holder = none)
      (past : ∀ c, s.counter = some c → c < generation lease) :
      Step s (.granted lease) ⟨some lease, some (generation lease)⟩
  | extended {s : Fence L} {old new : L} (held : s.holder = some old)
      (same : generation new = generation old) : Step s (.extended old new) ⟨some new, s.counter⟩
  | released {s : Fence L} {lease : L} (held : s.holder = some lease) :
      Step s (.released lease) ⟨none, s.counter⟩
  | idle (s : Fence L) : Step s .idle s

inductive Run : Fence L → List (Event L) → Fence L → Prop
  | nil (s : Fence L) : Run s [] s
  | snoc {s s' s'' : Fence L} {log : List (Event L)} {e : Event L} :
      Run s log s' → Step generation s' e s'' → Run s (log ++ [e]) s''

/-- What is held was granted at or below the counter. -/
def Bounded (s : Fence L) : Prop :=
  ∀ lease, s.holder = some lease → ∃ c, s.counter = some c ∧ generation lease ≤ c

/-- Generations up to `g` are spent: the counter has reached `g` and nothing held is that old. -/
def Spent (g : Int) (s : Fence L) : Prop :=
  (∃ c, s.counter = some c ∧ g ≤ c) ∧ ∀ lease, s.holder = some lease → g < generation lease

variable {generation} {s s' : Fence L} {e : Event L} {log : List (Event L)}

/-! ## Steps -/

theorem Step.bounded (h : Step generation s e s') (hb : Bounded generation s) : Bounded generation s' := by
  cases h with
  | granted => rintro _ ⟨⟩; exact ⟨_, rfl, le_rfl⟩
  | extended held same =>
    rintro _ ⟨⟩
    obtain ⟨c, hc, hle⟩ := hb _ held
    exact ⟨c, hc, same ▸ hle⟩
  | released => rintro _ ⟨⟩
  | idle => exact hb

theorem Step.counter_mono (h : Step generation s e s') {c : Int} (hc : s.counter = some c) :
    ∃ c', s'.counter = some c' ∧ c ≤ c' := by
  cases h with
  | granted free past => exact ⟨_, rfl, le_of_lt (past c hc)⟩
  | extended => exact ⟨c, hc, le_rfl⟩
  | released => exact ⟨c, hc, le_rfl⟩
  | idle => exact ⟨c, hc, le_rfl⟩

variable {lease : L}

/-- A value handed out is held right after. -/
theorem Step.issued_held (h : Step generation s e s') (hi : e.issued = some lease) : s'.holder = some lease := by
  cases h <;> cases hi <;> rfl

/-- What is held was held before or has just been handed out. -/
theorem Step.held_from (h : Step generation s e s') (hh : s'.holder = some lease) :
    s.holder = some lease ∨ e.issued = some lease := by
  cases h with
  | granted => cases hh; exact .inr rfl
  | extended => cases hh; exact .inr rfl
  | released => cases hh
  | idle => exact .inl hh

theorem Step.spent {g : Int} (h : Step generation s e s') (hs : Spent generation g s) : Spent generation g s' := by
  obtain ⟨⟨c, hc, hg⟩, hold⟩ := hs
  cases h with
  | granted free past =>
    have hlt := past c hc
    exact ⟨⟨_, rfl, by omega⟩, by rintro _ ⟨⟩; omega⟩
  | extended held same => exact ⟨⟨c, hc, hg⟩, by rintro _ ⟨⟩; rw [same]; exact hold _ held⟩
  | released => exact ⟨⟨c, hc, hg⟩, by rintro _ ⟨⟩⟩
  | idle => exact ⟨⟨c, hc, hg⟩, hold⟩

/-- Nothing is held right after a release. -/
theorem Step.returned_free (h : Step generation s e s') (hr : e.returned = some lease) : s'.holder = none := by
  cases h <;> cases hr
  rfl

/-- A release spends the generation it gives back. -/
theorem Step.returned_spent (h : Step generation s e s') (hb : Bounded generation s) (hr : e.returned = some lease) :
    Spent generation (generation lease) s' := by
  cases h with
  | released held => cases hr; exact ⟨hb _ held, by rintro _ ⟨⟩⟩
  | granted => cases hr
  | extended => cases hr
  | idle => cases hr

/-! ## Runs -/

section

variable (h : Run generation s log s')

include h

theorem Run.bounded (hb : Bounded generation s) : Bounded generation s' := by
  induction h with
  | nil => exact hb
  | snoc _ hstep ih => exact hstep.bounded ih

theorem Run.counter_mono {c : Int} (hc : s.counter = some c) : ∃ c', s'.counter = some c' ∧ c ≤ c' := by
  induction h with
  | nil => exact ⟨c, hc, le_rfl⟩
  | snoc _ hstep ih =>
    obtain ⟨c₁, hc₁, hle⟩ := ih
    obtain ⟨c₂, hc₂, hle'⟩ := hstep.counter_mono hc₁
    exact ⟨c₂, hc₂, hle.trans hle'⟩

/-- Every generation handed out is at or below the counter. -/
theorem Run.issued_le (hb : Bounded generation s) (hi : lease ∈ log.filterMap Event.issued) :
    ∃ c, s'.counter = some c ∧ generation lease ≤ c := by
  induction h with
  | nil => cases hi
  | snoc hrun hstep ih =>
    rw [List.filterMap_append, List.mem_append] at hi
    rcases hi with hi | hi
    · obtain ⟨c, hc, hle⟩ := ih hi
      obtain ⟨c', hc', hle'⟩ := hstep.counter_mono hc
      exact ⟨c', hc', hle.trans hle'⟩
    · have he := by simpa using hi
      exact hstep.bounded (hrun.bounded hb) lease (hstep.issued_held he)

theorem Run.spent {g : Int} (hs : Spent generation g s) : Spent generation g s' := by
  induction h with
  | nil => exact hs
  | snoc _ hstep ih => exact hstep.spent ih

/-- Nothing handed out after a generation is spent is that old. -/
theorem Run.issued_past {g : Int} (hs : Spent generation g s) (hi : lease ∈ log.filterMap Event.issued) : g < generation lease := by
  induction h with
  | nil => cases hi
  | snoc hrun hstep ih =>
    rw [List.filterMap_append, List.mem_append] at hi
    rcases hi with hi | hi
    · exact ih hi
    · have he := by simpa using hi
      exact (hstep.spent (hrun.spent hs)).2 lease (hstep.issued_held he)

theorem Run.returned_spent (hb : Bounded generation s) (hr : lease ∈ log.filterMap Event.returned) :
    Spent generation (generation lease) s' := by
  induction h with
  | nil => cases hr
  | snoc hrun hstep ih =>
    rw [List.filterMap_append, List.mem_append] at hr
    rcases hr with hr | hr
    · exact hstep.spent (ih hr)
    · exact hstep.returned_spent (hrun.bounded hb) (by simpa using hr)

/-- What is held at the end was held at the start or handed out on the way. -/
theorem Run.held_from (hh : s'.holder = some lease) : s.holder = some lease ∨ lease ∈ log.filterMap Event.issued := by
  induction h with
  | nil => exact .inl hh
  | snoc _ hstep ih =>
    rw [List.filterMap_append, List.mem_append]
    rcases hstep.held_from hh with hh | he
    · exact (ih hh).imp_right .inl
    · exact .inr (.inr (by simp [he]))

end

end Roundwright.Lib.Fencing
