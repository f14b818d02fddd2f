/-
Programs whose calls are watched. A call that is watched leaves a note beside the state; `Shows` says that a program
does what another one does, apart from its notes, and goes through the statements of a program. What is proved of the
notes is then about the program.
-/
import Roundwright.Lib.Triple

namespace Roundwright.Lib.Tx

variable {ε σ ν α β : Type}

/-- What a call does, and a note of it. -/
def watch (x : Tx ε σ α) (note : Option α → ν) : Tx ε (σ × List ν) α := fun s =>
  ((x s.1).1, (x s.1).2, s.2 ++ [note (x s.1).1.toOption])

/-- A call that is not watched. -/
def unwatched (x : Tx ε σ α) : Tx ε (σ × List ν) α := fun s => ((x s.1).1, (x s.1).2, s.2)

/-! ## Watching changes nothing -/

/-- The program does what the other one does, and its notes. -/
def Shows (y : Tx ε (σ × List ν) α) (x : Tx ε σ α) : Prop := ∀ s log, ((y (s, log)).1, (y (s, log)).2.1) = x s

variable {x : Tx ε σ α} {y : Tx ε (σ × List ν) α}

theorem Shows.fst (h : Shows y x) (s : σ) (log : List ν) : (y (s, log)).1 = (x s).1 :=
  congrArg Prod.fst (h s log)

theorem shows_watch (x : Tx ε σ α) (note : Option α → ν) : Shows (watch x note) x := fun _ _ => rfl

theorem shows_unwatched (x : Tx ε σ α) : Shows (unwatched (ν := ν) x) x := fun _ _ => rfl

theorem shows_check (r : Except ε α) : Shows (σ := σ) (ν := ν) (Tx.check r) (Tx.check r) := fun _ _ => rfl

theorem Shows.bind {g : α → Tx ε (σ × List ν) β} {f : α → Tx ε σ β} (h : Shows y x) (hf : ∀ a, Shows (g a) (f a)) :
    Shows (y >>= g) (x >>= f) := by
  intro s log
  have h := h s log
  simp only [Bind.bind]
  rcases hy : y (s, log) with ⟨e | a, s', log'⟩ <;> rw [hy] at h <;> rw [← h]
  exact hf a s' log'

theorem Shows.onError {caught : ε → Bool} {noted : Tx ε (σ × List ν) Unit} {handler : Tx ε σ Unit} (h : Shows y x)
    (hh : Shows noted handler) : Shows (y.onError caught noted) (x.onError caught handler) := by
  intro s log
  have h := h s log
  simp only [Tx.onError]
  rcases hy : y (s, log) with ⟨e | a, s', log'⟩ <;> rw [hy] at h <;> rw [← h]
  cases hc : caught e with
  | false => simp [hc]
  | true => simpa [hc] using (hh.bind fun _ => shows_check (.error e)) s' log'

/-! ## The notes -/

theorem watch_triple {P E : List ν → Prop} {Q : α → List ν → Prop} {note : Option α → ν}
    (hok : ∀ a log, P log → Q a (log ++ [note (some a)])) (herror : ∀ log, P log → E (log ++ [note none])) :
    Triple (fun s => P s.2) (watch x note) (fun a s => Q a s.2) fun _ s => E s.2 := by
  intro s hs
  unfold watch
  rcases x s.1 with ⟨e | a, s'⟩
  · exact herror s.2 hs
  · exact hok a s.2 hs

theorem unwatched_triple {P : List ν → Prop} :
    Triple (fun s => P s.2) (unwatched x) (fun _ s => P s.2) fun _ s => P s.2 := by
  intro s hs
  unfold unwatched
  rcases x s.1 with ⟨e | a, s'⟩ <;> exact hs

end Roundwright.Lib.Tx
