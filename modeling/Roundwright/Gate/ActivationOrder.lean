/-
The activation times of policies. A gate context keeps the text of the time at which its policy was activated, and a
context under another policy replaces it only when its text is greater; that is the order of the instants.
-/
import Roundwright.Gate.Recording
import Roundwright.Lib.Calendar

namespace Roundwright.Gate

open Lib Lib.Calendar

/-- What may replace the values of a context, by the instants at which the policies were activated: the same trusted
policy under another source count or graph, or a policy that was activated later. -/
structure Supersedes (old new : ContextValues) (before after : Nat) (graphPass : Bool) : Prop where
  rebind : old.trusted = new.trusted ∧ before = after → old.sourceCount ≠ new.sourceCount → 1 < new.sourceCount → graphPass = true
  newer : before < after ∨ (old.trusted = new.trusted ∧ before = after) ∧
    (old.sourceCount ≠ new.sourceCount ∨ old.isolatedLocalTask = new.isolatedLocalTask)

/-- For all times in UTC the texts are in the order of the instants, and so the check of a context decides by the
instants. -/
theorem activation_order (a b : DateTime) :
    (a.isoformat < b.isoformat ↔ a.instant < b.instant) ∧ (a.isoformat ≤ b.isoformat ↔ a.instant ≤ b.instant) ∧
    (a.isoformat = b.isoformat ↔ a.instant = b.instant) ∧
    ∀ (old new : ContextValues) (graphPass : Bool),
      requireRebind ⟨old, a.isoformat⟩ ⟨new, b.isoformat⟩ graphPass = .ok () ↔ Supersedes old new a.instant b.instant graphPass := by
  have hlt : ∀ a b : DateTime, a.isoformat < b.isoformat ↔ a.instant < b.instant := fun a b =>
    DateTime.isoformat_strictMono.lt_iff_lt.trans DateTime.instant_strictMono.lt_iff_lt.symm
  have heq : a.isoformat = b.isoformat ↔ a.instant = b.instant :=
    DateTime.isoformat_strictMono.injective.eq_iff.trans DateTime.instant_strictMono.injective.eq_iff.symm
  have hle : ∀ a b : DateTime, a.isoformat ≤ b.isoformat ↔ a.instant ≤ b.instant := fun a b => by
    rw [← not_lt, hlt, not_lt]
  -- the three comparisons of the texts are those of the instants
  refine ⟨hlt a b, hle a b, heq, fun old new graphPass => ?_⟩
  rw [requireRebind, bind_eq_ok]
  simp only [exists_unit, refuse_eq_ok, heq, hle b a]
  constructor
  · rintro ⟨hrebind, hnewer⟩
    constructor
    · intro hsame hcount hmany
      by_contra hpass
      exact hrebind ⟨⟨hsame, hcount⟩, hmany, by simpa using hpass⟩
    · by_contra hnone
      rw [not_or, not_lt] at hnone
      refine hnewer ⟨?_, hnone.1⟩
      rintro (⟨hsame, hcount⟩ | ⟨hsame, -, hisolated⟩)
      · exact hnone.2 ⟨hsame, .inl hcount⟩
      · exact hnone.2 ⟨hsame, .inr hisolated⟩
  · rintro ⟨hrebind, hnewer⟩
    constructor
    · rintro ⟨⟨hsame, hcount⟩, hmany, hpass⟩
      rw [hrebind hsame hcount hmany] at hpass
      cases hpass
    · rintro ⟨hnone, hle⟩
      rcases hnewer with hlater | ⟨hsame, hcount⟩
      · omega
      · by_cases hequal : old.sourceCount = new.sourceCount
        · exact hnone (.inr ⟨hsame, hequal, hcount.resolve_left (not_not.2 hequal)⟩)
        · exact hnone (.inl ⟨hsame, hequal⟩)

end Roundwright.Gate
