/-
Where a script that runs alone can be stopped. `Walks` says of all answers at once that every state the script goes
through, the first and the last included, satisfies one predicate, and its result another. The rules follow the script
from its first action; what is proved so holds of every run and of every state in which the process can die.
-/
import Roundwright.Lib.Interference

namespace Roundwright.Lib

namespace Proc

variable {label ι σ τ α β : Type} {D D' : σ → Prop} {Q Q' : α → σ → Prop}

/-- On all answers the program goes through states of `D` only and returns with `Q`. -/
def Walks (D : σ → Prop) (Q : α → σ → Prop) : Proc label ι σ α → σ → Prop
  | .ret a, s => D s ∧ Q a s
  | .act _ effect next, s => D s ∧ ∀ i, (next s i).Walks D Q (effect s i)

variable {p : Proc label ι σ α} {s d t : σ} {a : α}

theorem Walks.bind {R : β → σ → Prop} {f : α → Proc label ι σ β} (h : p.Walks D (fun a t => (f a).Walks D R t) s) :
    (p.bind f).Walks D R s := by
  induction p generalizing s with
  | ret a => exact h.2
  | act l effect next ih => exact ⟨h.1, fun i => ih s i (h.2 i)⟩

theorem Walks.mono (h : p.Walks D Q s) (hD : ∀ t, D t → D' t) (hQ : ∀ a t, D t → Q a t → Q' a t) : p.Walks D' Q' s := by
  induction p generalizing s with
  | ret a => exact ⟨hD s h.1, hQ a s h.1 h.2⟩
  | act l effect next ih => exact ⟨hD s h.1, fun i => ih s i (h.2 i)⟩

/-- A run that returns comes from a walk. -/
theorem Walks.respond (h : p.Walks D Q s) (environment : label → τ → ι × τ) (e : τ) :
    Q (p.respond environment s e).1 (p.respond environment s e).2.1 := by
  induction p generalizing s e with
  | ret a => exact h.2
  | act l effect next ih => exact ih s _ (h.2 _) _

theorem Walks.ends {live : ι → Prop} (h : p.Walks D Q s) (hends : p.Ends live s a t) : D t ∧ Q a t := by
  induction p generalizing s with
  | ret b =>
    obtain ⟨rfl, rfl⟩ := hends
    exact h
  | act l effect next ih =>
    obtain ⟨i, -, hends⟩ := hends
    exact ih s i (h.2 i) hends

/-- Wherever the process dies on its way, the state is one of the walk. -/
theorem Walks.passes {live : ι → Prop} (h : p.Walks D Q s) (hpasses : p.Passes live s d a t) : D d := by
  induction p generalizing s with
  | ret b =>
    obtain ⟨rfl, -⟩ := hpasses
    exact h.1
  | act l effect next ih =>
    obtain ⟨i, -, ⟨rfl, -⟩ | hpasses⟩ := hpasses
    · exact h.1
    · exact ih s i (h.2 i) hpasses

/-- What a program returns against an environment it returns on some answers. -/
theorem ends_respond (environment : label → τ → ι × τ) (p : Proc label ι σ α) (s : σ) (e : τ) :
    p.Ends (fun _ => True) s (p.respond environment s e).1 (p.respond environment s e).2.1 := by
  induction p generalizing s e with
  | ret a => exact ⟨rfl, rfl⟩
  | act l effect next ih => exact ⟨_, trivial, ih s _ _ _⟩

end Proc

namespace Script

variable {label ε ι σ τ α β : Type} {D : σ → Prop} {Q Q' : Except ε α → σ → Prop} {R : Except ε β → σ → Prop}
  {x : Script label ε ι σ α} {s d t : σ}

def Walks (D : σ → Prop) (Q : Except ε α → σ → Prop) (x : Script label ε ι σ α) (s : σ) : Prop := Proc.Walks D Q x s

/-- The script goes on after a part that returns, and is over after a part that raises. -/
def Onward (D : σ → Prop) (R : Except ε β → σ → Prop) (f : α → Script label ε ι σ β) : Except ε α → σ → Prop
  | .ok a, s => Walks D R (f a) s
  | .error e, s => D s ∧ R (.error e) s

variable {f : α → Script label ε ι σ β}

theorem Walks.bind (h : Walks D (Onward D R f) x s) : Walks D R (x >>= f) s := by
  refine Proc.Walks.bind (Proc.Walks.mono h (fun _ => id) fun r t hD hr => ?_)
  cases r with
  | ok a => exact hr
  | error e => exact hr

theorem Walks.mono (h : Walks D Q x s) (hQ : ∀ r t, D t → Q r t → Q' r t) : Walks D Q' x s :=
  Proc.Walks.mono h (fun _ => id) hQ

theorem Walks.pure {a : α} (hs : D s) (h : Q (.ok a) s) : Walks D Q (pure a : Script label ε ι σ α) s := ⟨hs, h⟩

variable {r : Except ε α}

theorem Walks.check (hs : D s) (h : Q r s) : Walks D Q (Script.check r : Script label ε ι σ α) s := ⟨hs, h⟩

theorem Walks.check_ok {a : α} (hr : r = .ok a) (h : Walks D R (f a) s) :
    Walks D R ((Script.check r : Script label ε ι σ α) >>= f) s := by
  subst hr
  exact h

theorem Walks.check_error {e : ε} (hr : r = .error e) (hs : D s) (h : R (.error e) s) :
    Walks D R ((Script.check r : Script label ε ι σ α) >>= f) s := by
  subst hr
  exact ⟨hs, h⟩

theorem Walks.commit {l : label} {y : ι → Tx ε σ α} (hs : D s) (h : ∀ i, D (y i s).2 ∧ Q (y i s).1 (y i s).2) :
    Walks D Q (Script.commit l y) s := ⟨hs, h⟩

/-- A transaction that returns. -/
theorem Walks.commit_ok {l : label} {y : ι → Tx ε σ α} (hs : D s)
    (h : ∀ i, ∃ a t, y i s = (.ok a, t) ∧ D t ∧ Walks D R (f a) t) : Walks D R (Script.commit l y >>= f) s := by
  refine Walks.bind (Walks.commit hs fun i => ?_)
  obtain ⟨a, t, hy, ht, hf⟩ := h i
  rw [hy]
  exact ⟨ht, hf⟩

/-- A transaction that raises. -/
theorem Walks.commit_error {l : label} {y : ι → Tx ε σ α} (hs : D s)
    (h : ∀ i, ∃ e t, y i s = (.error e, t) ∧ D t ∧ R (.error e) t) : Walks D R (Script.commit l y >>= f) s := by
  refine Walks.bind (Walks.commit hs fun i => ?_)
  obtain ⟨e, t, hy, ht, hR⟩ := h i
  rw [hy]
  exact ⟨ht, ht, hR⟩

theorem Walks.run (h : Walks D Q x s) (environment : label → τ → ι × τ) (e : τ) :
    Q (x.run environment s e).1 (x.run environment s e).2.1 :=
  Proc.Walks.respond h environment e

/-! ### Checks on the way -/

abbrev Passes (live : ι → Prop) (x : Script label ε ι σ α) (s d : σ) (r : Except ε α) (t : σ) : Prop := Proc.Passes live x s d r t

theorem passes_check_bind {live : ι → Prop} {b : β} :
    Passes live (Script.check r >>= f) s d (.ok b) t ↔ ∃ a, r = .ok a ∧ Passes live (f a) s d (.ok b) t := by
  cases r with
  | ok a =>
    constructor
    · intro h
      exact ⟨a, rfl, h⟩
    · rintro ⟨_, ha, h⟩
      cases ha
      exact h
  | error e =>
    constructor
    · rintro ⟨-, hresult, -⟩
      cases hresult
    · rintro ⟨a, ha, -⟩
      cases ha

theorem ends_check_bind {live : ι → Prop} {b : β} :
    Proc.Ends (α := Except ε β) live (Script.check r >>= f : Script label ε ι σ β) s (.ok b) t ↔
      ∃ a, r = .ok a ∧ Proc.Ends (α := Except ε β) live (f a) s (.ok b) t := by
  cases r with
  | ok a =>
    constructor
    · intro h
      exact ⟨a, rfl, h⟩
    · rintro ⟨_, ha, h⟩
      cases ha
      exact h
  | error e =>
    constructor
    · rintro ⟨hresult, -⟩
      cases hresult
    · rintro ⟨a, ha, -⟩
      cases ha

/-! ### Scripts that only read -/

/-- Alone, the script changes nothing and returns what a function of the state returns. -/
def Reads (x : Script label ε ι σ α) (value : σ → Except ε α) : Prop :=
  ∀ (D : σ → Prop) (Q : Except ε α → σ → Prop) (s : σ), D s → Q (value s) s → Walks D Q x s

theorem reads_check (r : Except ε α) : Reads (Script.check r : Script label ε ι σ α) fun _ => r :=
  fun _ _ _ hs hQ => Walks.check hs hQ

theorem reads_query (l : label) (f : σ → Except ε α) : Reads (Script.commit l fun _ : ι => Tx.query f) f :=
  fun _ _ _ hs hQ => Walks.commit hs fun _ => ⟨hs, hQ⟩

theorem Reads.bind {value : σ → Except ε α} {value' : α → σ → Except ε β} (h : Reads x value)
    (hf : ∀ a, Reads (f a) (value' a)) : Reads (x >>= f) fun s => value s >>= fun a => value' a s := by
  intro D Q s hs hQ
  refine Walks.bind (h D _ s hs ?_)
  cases hvalue : value s with
  | error e =>
    simp only [hvalue] at hQ
    exact ⟨hs, hQ⟩
  | ok a =>
    simp only [hvalue] at hQ
    exact hf a D Q s hs hQ

theorem Reads.run {value : σ → Except ε α} (h : Reads x value) (environment : label → τ → ι × τ) (e : τ) :
    (x.run environment s e).1 = value s ∧ (x.run environment s e).2.1 = s :=
  Walks.run (h (fun t => t = s) (fun r t => r = value s ∧ t = s) s rfl ⟨rfl, rfl⟩) environment e

end Script

end Roundwright.Lib
