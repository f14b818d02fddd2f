/-
A thing that one process makes and the others find. The first process to ask for it makes it and is the only one to work
on it; it is in the making until it is complete, and complete from then on. `Moves` is what a process does to it,
whatever else it does to the state: an assertion about a thing of its own, or about one that is complete, survives the
steps of the others.
-/
import Roundwright.Lib.Interference

namespace Roundwright.Lib

/-! ## What a process does to the thing -/

namespace Exclusive

variable {π χ σ : Type} (view : σ → Option (Option π × χ)) (making : χ → Prop) (final : χ)

/-- A step of a process: it leaves the thing alone, makes it, or works on what it has made. -/
def Moves (p : π) (s t : σ) : Prop :=
  view t = view s ∨ ∃ c, view t = some (some p, c) ∧ (making c ∨ c = final) ∧
    (view s = none ∨ ∃ c', view s = some (some p, c') ∧ (c' = final → c = final))

/-- Where the thing is, it is in the making or complete. -/
def Sound (s : σ) : Prop := ∀ o c, view s = some (o, c) → making c ∨ c = final

def Done (s : σ) : Prop := ∃ o, view s = some (o, final)

def Own (p : π) (c : χ) (s : σ) : Prop := view s = some (some p, c)

variable {view making final} {p : π} {s t : σ}

theorem Moves.refl (h : view t = view s) : Moves view making final p s t := .inl h

theorem Moves.make {c : χ} (hs : view s = none) (ht : Own view p c t) (hc : making c) : Moves view making final p s t :=
  .inr ⟨c, ht, .inl hc, .inl hs⟩

theorem Moves.work {c c' : χ} (hs : Own view p c s) (ht : Own view p c' t) (hc : making c' ∨ c' = final)
    (hdone : c = final → c' = final) :
    Moves view making final p s t :=
  .inr ⟨c', ht, hc, .inr ⟨c, hs, hdone⟩⟩

theorem Moves.sound (h : Moves view making final p s t) (hs : Sound view making final s) : Sound view making final t := by
  intro o c hc
  rcases h with hsame | ⟨c', hview, hmade, -⟩
  · exact hs o c (hsame ▸ hc)
  · obtain ⟨-, rfl⟩ := Prod.mk.inj (Option.some.inj (hc.symm.trans hview))
    exact hmade

theorem Moves.done (h : Moves view making final p s t) (hs : Done view final s) : Done view final t := by
  obtain ⟨o, ho⟩ := hs
  rcases h with hsame | ⟨c, hview, -, hnone | ⟨c', hview', hdone⟩⟩
  · exact ⟨o, hsame.trans ho⟩
  · rw [ho] at hnone
    cases hnone
  · obtain ⟨-, rfl⟩ := Prod.mk.inj (Option.some.inj (ho.symm.trans hview'))
    exact ⟨some p, hdone rfl ▸ hview⟩

theorem Moves.made (h : Moves view making final p s t) (hs : view s ≠ none) : view t ≠ none := by
  rcases h with hsame | ⟨c, hview, -⟩
  · exact hsame ▸ hs
  · rw [hview]
    exact Option.some_ne_none _

/-- What is sound and not in the making is complete. -/
theorem Sound.done (h : Sound view making final s) {o : Option π} {c : χ} (hc : view s = some (o, c)) (hnot : ¬ making c) :
    Done view final s := by
  obtain rfl := (h o c hc).resolve_left hnot
  exact ⟨o, hc⟩

/-! ### What the others leave alone -/

theorem sound_stable : Proc.Stable (Pool.Foreign (Moves view making final) p) (Sound view making final) :=
  fun _ _ hs ⟨_, _, hmove⟩ => hmove.sound hs

theorem done_stable : Proc.Stable (Pool.Foreign (Moves view making final) p) (Done view final) :=
  fun _ _ hs ⟨_, _, hmove⟩ => hmove.done hs

/-- Nobody else works on what a process has made. -/
theorem own_stable {c : χ} : Proc.Stable (Pool.Foreign (Moves view making final) p) (Own view p c) := by
  rintro s t hs ⟨q, hq, hsame | ⟨c', hview, -, hnone | ⟨c'', hview', -⟩⟩⟩
  · exact hsame.trans hs
  · rw [Own, hnone] at hs
    cases hs
  · rw [Own, hview'] at hs
    exact absurd (Option.some.inj (Prod.mk.inj (Option.some.inj hs)).1) hq

/-! ## Programs among others -/

section Programs

variable {label ε ι α β : Type} {inv P P' : σ → Prop} {A A' : α → σ → Prop} {B : β → σ → Prop} {x : Script label ε ι σ α}

variable (view making final) in
/-- The program moves the thing as a process does, whatever the others do, and returns with `A`. -/
def Works (inv : σ → Prop) (p : π) (P : σ → Prop) (x : Script label ε ι σ α) (A : α → σ → Prop) : Prop :=
  Script.Triple (Pool.Foreign (Moves view making final) p) (Moves view making final p) inv P x A fun _ => True

theorem trivial_stable : Proc.Stable (Pool.Foreign (Moves view making final) p) fun _ : σ => True := fun _ _ _ _ => trivial

/-- What does not depend on the state is kept beside what is. -/
theorem and_stable {q : Prop} (h : Proc.Stable (Pool.Foreign (Moves view making final) p) P) :
    Proc.Stable (Pool.Foreign (Moves view making final) p) fun s => q ∧ P s :=
  fun s t hs hmove => ⟨hs.1, h s t hs.2 hmove⟩

theorem Works.weaken (h : Works view making final inv p P x A) (hP : ∀ s, P' s → P s) (hA : ∀ a s, A a s → A' a s) :
    Works view making final inv p P' x A' :=
  Script.Triple.weaken h hP hA fun _ _ => trivial

section Rules

variable (hinv : Proc.Stable (Pool.Foreign (Moves view making final) p) inv)

include hinv

theorem Works.query {l : label} {f : σ → Except ε α} (hP : Proc.Stable (Pool.Foreign (Moves view making final) p) P)
    (hA : ∀ a, Proc.Stable (Pool.Foreign (Moves view making final) p) (A a)) (h : ∀ s a, inv s → P s → f s = .ok a → A a s) :
    Works view making final inv p P (Script.commit l fun _ : ι => Tx.query f) A := by
  refine Script.Triple.commit (hinv.and hP) (fun a => hinv.and (hA a)) (hinv.and trivial_stable) fun s _ hi hs => ⟨.refl rfl, hi, ?_⟩
  cases hf : f s with
  | ok a =>
    simp only [Tx.query, hf]
    exact h s a hi hs hf
  | error e =>
    simp only [Tx.query, hf]

theorem Works.bind {f : α → Script label ε ι σ β} (h : Works view making final inv p P x A)
    (hf : ∀ a, Works view making final inv p (A a) (f a) B) : Works view making final inv p P (x >>= f) B :=
  Script.Triple.bind h (hinv.and trivial_stable) hf

theorem Works.check {r : Except ε α} {f : α → Script label ε ι σ β} (hf : ∀ a, r = .ok a → Works view making final inv p P (f a) B) :
    Works view making final inv p P ((Script.check r : Script label ε ι σ α) >>= f) B :=
  Script.Triple.check_bind (hinv.and trivial_stable) (fun _ _ => trivial) hf

theorem Works.pure {a : α} (h : Proc.Stable (Pool.Foreign (Moves view making final) p) (A a)) :
    Works view making final inv p (A a) (pure a : Script label ε ι σ α) A :=
  Script.Triple.pure (hinv.and h)

end Rules

/-! ### Once the thing is complete -/

variable (view making final) in
/-- Where the thing is complete the program returns this, whatever the others do. -/
def Answers (p : π) (x : Script label ε ι σ α) (a : α) : Prop :=
  Script.Triple (Pool.Foreign (Moves view making final) p) (Moves view making final p) (Done view final)
    (fun _ => True) x (fun a' _ => a' = a) fun _ => False

theorem answers_commit {l : label} {y : ι → Tx ε σ α} {a : α}
    (h : ∀ s i, Done view final s → ∃ t, y i s = (.ok a, t) ∧ view t = view s) :
    Answers view making final p (Script.commit l y) a := by
  have hsteady : ∀ q : Prop, Script.Steady (Pool.Foreign (Moves view making final) p) (Done view final) fun _ => q :=
    fun q s t hs hmove => ⟨done_stable s t hs.1 hmove, hs.2⟩
  refine Script.Triple.commit (hsteady True) (fun _ => hsteady _) (hsteady False) fun s i hi _ => ?_
  obtain ⟨t, hy, hview⟩ := h s i hi
  rw [hy]
  have hmove : Moves view making final p s t := .refl hview
  exact ⟨hmove, hmove.done hi, rfl⟩

theorem answers_query {l : label} {f : σ → Except ε α} {a : α} (h : ∀ s, Done view final s → f s = .ok a) :
    Answers view making final p (Script.commit l fun _ : ι => Tx.query f) a :=
  answers_commit fun s _ hi => ⟨s, by rw [Tx.query, h s hi], rfl⟩

theorem answers_check {r : Except ε α} {a : α} (h : r = .ok a) :
    Answers view making final p (Script.check r : Script label ε ι σ α) a := by
  subst h
  have hsteady : Script.Steady (Pool.Foreign (Moves view making final) p) (Done view final) fun _ => a = a :=
    fun s t hs hmove => ⟨done_stable s t hs.1 hmove, hs.2⟩
  exact Script.Triple.weaken (Script.Triple.pure (A := fun a' _ => a' = a) hsteady) (fun _ _ => rfl) (fun _ _ => id) fun _ => id

theorem Answers.bind {f : α → Script label ε ι σ β} {a : α} {c : β} (h : Answers view making final p x a)
    (hf : Answers view making final p (f a) c) : Answers view making final p (x >>= f) c := by
  refine Script.Triple.bind h (fun s t hs hmove => ⟨done_stable s t hs.1 hmove, hs.2⟩) fun a' s hi hs => ?_
  subst hs
  exact hf s hi trivial

end Programs

end Exclusive

/-! ## What was returned -/

namespace Pool

variable {π κ label ι σ α : Type} [DecidableEq π] {program : π → κ → Proc label ι σ α} {guarantee : π → σ → σ → Prop}
  {Q K : α → σ → Prop} {inv : σ → Prop} {start pool : Pool π label ι σ α}

/-- What holds of a result when it is returned, and is kept by every step, holds of all results. -/
theorem returned_run (hprogram : ∀ p call s, inv s → (program p call).Safe (Foreign guarantee p) (guarantee p) Q s)
    (hinv : ∀ p s t, inv s → guarantee p s t → inv t) (hQ : ∀ a s, Q a s → K a s)
    (hK : ∀ p a s t, K a s → guarantee p s t → K a t) (h : Relation.ReflTransGen (Turn program) start pool)
    (hi : inv start.shared) (hsafe : AllSafe guarantee Q start) (hstart : ∀ r ∈ start.returned, K r.2 start.shared) :
    ∀ r ∈ pool.returned, K r.2 pool.shared := by
  induction h with
  | refl => exact hstart
  | @tail pool pool' hrun hturn ih =>
    have hall := (allSafe_run hprogram hinv hrun hi hsafe).2
    have hkept : ∀ r ∈ pool.returned, K r.2 pool'.shared := by
      intro r hr
      rcases hturn.shared hall with hsame | ⟨p, hstep⟩
      · rw [hsame]
        exact ih r hr
      · exact hK p r.2 _ _ (ih r hr) hstep
    cases hturn with
    | start p call idle => exact hkept
    | act p at_ i => exact hkept
    | @finish p a at_ =>
      intro r hr
      rcases List.mem_append.1 hr with hr | hr
      · exact hkept r hr
      · obtain rfl := List.mem_singleton.1 hr
        exact hQ a _ (hall p _ at_ _ .refl)
    | die p => exact hkept

/-- A process that is idle where `P` holds, which every step keeps: from then on it returns only what its programs
return from there. -/
theorem answered_run {p : π} {P : σ → Prop} {E : α → Prop}
    (hprogram : ∀ p call s, inv s → (program p call).Safe (Foreign guarantee p) (guarantee p) Q s)
    (hinv : ∀ p s t, inv s → guarantee p s t → inv t) (hkeep : ∀ q s t, P s → guarantee q s t → P t)
    (hanswer : ∀ call s, P s → (program p call).Safe (Foreign guarantee p) (guarantee p) (fun a _ => E a) s)
    (h : Relation.ReflTransGen (Turn program) start pool) (hi : inv start.shared) (hsafe : AllSafe guarantee Q start)
    (hidle : start.running p = none) (hP : P start.shared) :
    ∃ new, pool.returned = start.returned ++ new ∧ ∀ a, (p, a) ∈ new → E a :=
  (answering_run hprogram hinv (fun s t h ⟨q, _, hstep⟩ => hkeep q s t h hstep) (hkeep p) hanswer h hi hsafe hidle hP).2.1

end Pool

end Roundwright.Lib
