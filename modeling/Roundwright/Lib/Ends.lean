/-
Runs of a program that end, with the actions they take. What holds on all answers of a kind holds at the end of a run
whose answers are of it; and a run of two programs in sequence is a run of the one followed by a run of the other.
-/
import Roundwright.Lib.Process

namespace Roundwright.Lib

/-- An action that was taken: what it was, the answer to it and the state it left. -/
structure Event (label ι σ : Type) where
  label : label
  answer : ι
  after : σ

namespace Proc

variable {label ι σ α β : Type}

/-- The actions that a program takes on a list of answers. -/
def trace : Proc label ι σ α → List ι → σ → List (Event label ι σ)
  | .ret _, _, _ => []
  | .act _ _ _, [], _ => []
  | .act l effect next, i :: answers, s => ⟨l, i, effect s i⟩ :: (next s i).trace answers (effect s i)

/-- The program ends with this result, in this state, by these actions. -/
inductive Finishes : Proc label ι σ α → σ → List (Event label ι σ) → α → σ → Prop
  | ret (a : α) (s : σ) : Finishes (.ret a) s [] a s
  | act {l : label} {effect : σ → ι → σ} {next : σ → ι → Proc label ι σ α} {s s' : σ} {i : ι}
      {events : List (Event label ι σ)} {a : α} (rest : Finishes (next s i) (effect s i) events a s') :
        Finishes (.act l effect next) s (⟨l, i, effect s i⟩ :: events) a s'

/-- From this state, and on answers of this kind: what the program returns satisfies `Q` with the state it returns
in. -/
def Under (kind : ι → Prop) (Q : α → σ → Prop) : Proc label ι σ α → σ → Prop
  | .ret a, s => Q a s
  | .act _ effect next, s => ∀ i, kind i → (next s i).Under kind Q (effect s i)

/-- The program takes only actions of these labels. -/
def Within (labels : label → Prop) : Proc label ι σ α → Prop
  | .ret _ => True
  | .act l _ next => labels l ∧ ∀ s i, (next s i).Within labels

section Finishes

variable {p : Proc label ι σ α} {f : α → Proc label ι σ β} {s s' : σ} {events : List (Event label ι σ)} {a : α} {b : β}

theorem finishes_of_run {answers : List ι} (h : (p.run answers s).1 = some a) : p.Finishes s (p.trace answers s) a
    (p.run answers s).2 := by
  induction p generalizing s answers with
  | ret b =>
    cases h
    exact .ret _ s
  | act l effect next ih =>
    cases answers with
    | nil => cases h
    | cons i answers => exact .act (ih s i h)

theorem answer_of_mem_trace {answers : List ι} {e : Event label ι σ} (h : e ∈ p.trace answers s) : e.answer ∈ answers := by
  induction p generalizing s answers with
  | ret b => cases h
  | act l effect next ih =>
    cases answers with
    | nil => cases h
    | cons i answers =>
      rcases List.mem_cons.1 h with rfl | h
      · exact List.mem_cons_self
      · exact List.mem_cons_of_mem _ (ih s i h)

theorem getLast?_states (p : Proc label ι σ α) (answers : List ι) (s : σ) :
    (p.states answers s).getLast? = some (p.run answers s).2 := by
  induction p generalizing s answers with
  | ret a => rfl
  | act l effect next ih =>
    cases answers with
    | nil => rfl
    | cons i answers =>
      obtain ⟨rest, heq⟩ := states_eq_cons (next s i) answers (effect s i)
      have hlast := ih s i answers (effect s i)
      rw [heq] at hlast
      rw [states, heq, List.getLast?_cons_cons, hlast]
      rfl

/-- The steps to two neighbouring states, between them and from them to the end. -/
theorem Holds.neighbours {step : ι → σ → σ → Prop} {Q : α → σ → Prop} (h : p.Holds step Q s) {answers : List ι}
    {s₁ s₂ : σ} (hmem : [s₁, s₂] <:+: p.states answers s) :
    Relation.ReflTransGen (OneOf step answers) s s₁ ∧ OneOf step answers s₁ s₂ ∧
      Relation.ReflTransGen (OneOf step answers) s₂ (p.run answers s).2 := by
  obtain ⟨before, after, heq⟩ := hmem
  have hchain := h.chain answers
  have hlast := getLast?_states p answers s
  obtain ⟨rest, hfirst⟩ := states_eq_cons p answers s
  rw [← heq] at hchain hlast hfirst
  rw [List.append_assoc, List.isChain_append] at hchain
  obtain ⟨hbefore, hafter, hbetween⟩ := hchain
  obtain ⟨hstep, hrest⟩ := List.isChain_cons_cons.1 hafter
  refine ⟨?_, hstep, ?_⟩
  · cases before with
    | nil =>
      obtain rfl : s₁ = s := List.cons.inj hfirst |>.1
      exact .refl
    | cons first before =>
      obtain rfl : first = s := List.cons.inj hfirst |>.1
      have hto : (first :: before ++ [s₁]).IsChain (OneOf step answers) := by
        rw [List.isChain_append]
        exact ⟨hbefore, .singleton _, fun x hx y hy => hbetween x hx y (by simpa using hy)⟩
      exact List.relationReflTransGen_of_exists_isChain_cons (before ++ [s₁]) hto (by simp)
  · rw [List.append_assoc, List.getLast?_append] at hlast
    refine List.relationReflTransGen_of_exists_isChain_cons after hrest ?_
    rw [← Option.some_inj, ← List.getLast?_eq_some_getLast, ← hlast]
    show (s₂ :: after).getLast? = (s₁ :: s₂ :: after).getLast?.or before.getLast?
    rw [List.getLast?_cons_cons, List.getLast?_cons]
    rfl

theorem finishes_ret_iff {a b : α} : (Proc.ret b : Proc label ι σ α).Finishes s events a s' ↔ events = [] ∧ a = b ∧ s' = s := by
  constructor
  · rintro ⟨⟩
    exact ⟨rfl, rfl, rfl⟩
  · rintro ⟨rfl, rfl, rfl⟩
    exact .ret _ _

theorem finishes_action_iff {l : label} {effect : σ → ι → σ} {result : σ → ι → α} :
    (Proc.action l effect result).Finishes s events a s' ↔ ∃ i, events = [⟨l, i, effect s i⟩] ∧ a = result s i ∧
    s' = effect s i := by
  constructor
  · intro h
    cases h with
    | act rest =>
      obtain ⟨rfl, rfl, rfl⟩ := finishes_ret_iff.1 rest
      exact ⟨_, rfl, rfl, rfl⟩
  · rintro ⟨i, rfl, rfl, rfl⟩
    exact .act (.ret _ _)

theorem finishes_bind_iff : (p >>= f).Finishes s events b s' ↔
    ∃ a middle before after, p.Finishes s before a middle ∧ (f a).Finishes middle after b s' ∧ events = before ++ after := by
  constructor
  · intro h
    induction p generalizing s events with
    | ret a => exact ⟨a, s, [], events, .ret a s, h, rfl⟩
    | act l effect next ih =>
      cases h with
      | act rest =>
        obtain ⟨a, middle, before, after, hp, hf, rfl⟩ := ih s _ rest
        exact ⟨a, middle, _ :: before, after, .act hp, hf, rfl⟩
  · rintro ⟨a, middle, before, after, hp, hf, rfl⟩
    induction hp with
    | ret a s => exact hf
    | act rest ih => exact .act (ih hf)

/-- A program ends when every action is answered. -/
theorem exists_finishes (answer : label → ι) (p : Proc label ι σ α) (s : σ) :
    ∃ events a s', p.Finishes s events a s' ∧ ∀ e ∈ events, e.answer = answer e.label := by
  induction p generalizing s with
  | ret a => exact ⟨[], a, s, .ret a s, by simp⟩
  | act l effect next ih =>
    obtain ⟨events, a, s', hends, hanswers⟩ := ih s (answer l) (effect s (answer l))
    exact ⟨_, a, s', .act hends, List.forall_mem_cons.2 ⟨rfl, hanswers⟩⟩

/-- A program that ends by steps ends in what they lead to. -/
theorem Holds.finishes {step : ι → σ → σ → Prop} {Q : α → σ → Prop} (h : p.Holds step Q s)
    (hends : p.Finishes s events a s') : Q a s' := by
  induction hends with
  | ret a s => exact h
  | act rest ih => exact ih (h _).2

theorem Within.label_of_mem {labels : label → Prop} (h : p.Within labels) (hends : p.Finishes s events a s') :
    ∀ e ∈ events, labels e.label := by
  induction hends with
  | ret a s => simp
  | act rest ih => exact List.forall_mem_cons.2 ⟨h.1, ih (h.2 _ _)⟩

theorem Within.bind {labels : label → Prop} (h : p.Within labels) (hf : ∀ a, (f a).Within labels) : (p >>= f).Within labels := by
  induction p with
  | ret a => exact hf a
  | act l effect next ih => exact ⟨h.1, fun s i => ih s i (h.2 s i)⟩

theorem Within.embed {label' ι' τ : Type} {labels : label' → Prop} {name : label → label'} {answer : ι' → ι}
    {get : τ → σ} {set : τ → σ → τ} (h : ∀ l, labels (name l)) (p : Proc label ι σ α) :
    (p.embed name answer get set).Within labels := by
  induction p with
  | ret a => trivial
  | act l effect next ih => exact ⟨h l, fun t i => ih _ _⟩

end Finishes

section Under

variable {kind : ι → Prop} {Q Q' : α → σ → Prop} {R : β → σ → Prop} {p : Proc label ι σ α} {f : α → Proc label ι σ β} {s s' : σ}

theorem Under.finishes {events : List (Event label ι σ)} {a : α} (h : p.Under kind Q s)
    (hends : p.Finishes s events a s') (hkind : ∀ e ∈ events, kind e.answer) : Q a s' := by
  induction hends with
  | ret a s => exact h
  | act rest ih =>
    obtain ⟨hi, hkind⟩ := List.forall_mem_cons.1 hkind
    exact ih (h _ hi) hkind

theorem Holds.under {step : ι → σ → σ → Prop} (h : p.Holds step Q s) : p.Under kind Q s := by
  induction p generalizing s with
  | ret a => exact h
  | act l effect next ih => exact fun i _ => ih s i (h i).2

theorem Under.bind (h : p.Under kind Q s) (hf : ∀ a s, Q a s → (f a).Under kind R s) : (p >>= f).Under kind R s := by
  induction p generalizing s with
  | ret a => exact hf a s h
  | act l effect next ih => exact fun i hi => ih s i (h i hi)

/-- On a part of a larger state. -/
theorem Under.embed {label' ι' τ : Type} {kind' : ι' → Prop} {name : label → label'} {answer : ι' → ι} {get : τ → σ}
    {set : τ → σ → τ} (hget : ∀ t s, get (set t s) = s) (hkind : ∀ i, kind' i → kind (answer i)) {p : Proc label ι σ α}
    {t : τ} (h : p.Under kind Q (get t)) : (p.embed name answer get set).Under kind' (fun a t' => Q a (get t')) t := by
  induction p generalizing t with
  | ret a => exact h
  | act l effect next ih =>
    intro i hi
    exact ih (get t) (answer i) (by rw [hget]; exact h _ (hkind i hi))

end Under

end Proc

end Roundwright.Lib
