/-
Preconditions and postconditions of programs that can raise. A triple has one postcondition for what the program returns
and one for what it raises, since the writes before an exception stay in the working copy; the rules follow the
statements of the source.
-/
import Roundwright.Lib.Transaction

namespace Roundwright.Lib.Tx

variable {ε σ α β : Type}

theorem map_id (x : Tx ε σ α) : id <$> x = x := by
  funext s
  show (x >>= fun a => Pure.pure a) s = x s
  simp only [Bind.bind]
  rcases x s with ⟨e | a, s'⟩ <;> rfl

theorem assoc {γ : Type} (x : Tx ε σ α) (f : α → Tx ε σ β) (g : β → Tx ε σ γ) : x >>= f >>= g = x >>= fun a => f a >>= g := by
  funext s
  simp only [Bind.bind]
  rcases x s with ⟨e | a, s'⟩ <;> rfl

/-- A program is taken apart and put together by the laws of a monad. -/
theorem lawfulMonad : LawfulMonad (Tx ε σ) := LawfulMonad.mk' (Tx ε σ) map_id (fun _ _ => rfl) assoc

/-- From a state in `P` the program returns in `Q` or raises in `E`. -/
def Triple (P : σ → Prop) (x : Tx ε σ α) (Q : α → σ → Prop) (E : ε → σ → Prop) : Prop :=
  ∀ s, P s → match x s with
    | (.ok a, s') => Q a s'
    | (.error e, s') => E e s'

namespace Triple

variable {P P' : σ → Prop} {x : Tx ε σ α} {f : α → Tx ε σ β} {Q Q' : α → σ → Prop} {R : β → σ → Prop} {E E' : ε → σ → Prop}

theorem ok (h : Triple P x Q E) {s s' : σ} {a : α} (hs : P s) (hx : x s = (.ok a, s')) : Q a s' := by
  have h := h s hs
  rw [hx] at h
  exact h

/-- What holds however the program ends. -/
theorem state {I : σ → Prop} (h : Triple P x (fun _ => I) (fun _ => I)) {s : σ} (hs : P s) : I (x s).2 := by
  have h := h s hs
  rcases hx : x s with ⟨e | a, s'⟩ <;> rw [hx] at h <;> exact h

theorem mono (h : Triple P x Q E) (hP : ∀ s, P' s → P s) (hQ : ∀ a s, Q a s → Q' a s) (hE : ∀ e s, E e s → E' e s) :
    Triple P' x Q' E' := by
  intro s hs
  have h := h s (hP s hs)
  rcases hx : x s with ⟨e | a, s'⟩ <;> rw [hx] at h
  · exact hE e s' h
  · exact hQ a s' h

/-- A part of the precondition that is not about the state. -/
theorem of_and {p : Prop} (h : p → Triple P x Q E) : Triple (fun s => p ∧ P s) x Q E := fun s hs => h hs.1 s hs.2

theorem of_exists {ι : Sort*} {P : ι → σ → Prop} (h : ∀ i, Triple (P i) x Q E) : Triple (fun s => ∃ i, P i s) x Q E :=
  fun s ⟨i, hs⟩ => h i s hs

theorem pure {a : α} (h : ∀ s, P s → Q a s) : Triple P (Pure.pure a : Tx ε σ α) Q E := fun s hs => h s hs

theorem check {r : Except ε α} (hok : ∀ a, r = .ok a → ∀ s, P s → Q a s) (herror : ∀ e, r = .error e → ∀ s, P s → E e s) :
    Triple P (Tx.check r) Q E := by
  intro s hs
  cases r with
  | error e => exact herror e rfl s hs
  | ok a => exact hok a rfl s hs

theorem bind (h : Triple P x Q E) (hf : ∀ a, Triple (Q a) (f a) R E) : Triple P (x >>= f) R E := by
  intro s hs
  have h := h s hs
  simp only [Bind.bind]
  rcases hx : x s with ⟨e | a, s'⟩ <;> rw [hx] at h
  · exact h
  · exact hf a s' h

/-- After the handler the first exception is raised again, unless the handler raises one of its own. -/
theorem onError {caught : ε → Bool} {handler : Tx ε σ Unit} {F : ε → σ → Prop} (h : Triple P x Q F)
    (hpass : ∀ e s, caught e = false → F e s → E e s)
    (hhandler : ∀ e, caught e = true → Triple (F e) handler (fun _ => E e) E) : Triple P (x.onError caught handler) Q E := by
  intro s hs
  have h := h s hs
  simp only [Tx.onError]
  rcases hx : x s with ⟨e | a, s'⟩ <;> rw [hx] at h
  · cases hc : caught e with
    | false => simpa [hc] using hpass e s' hc h
    | true => simpa [hc] using (hhandler e hc).bind (fun _ => check (r := .error e) (by simp) (by simp)) s' h
  · exact h

end Triple

end Roundwright.Lib.Tx
