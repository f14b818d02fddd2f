/-
Programs of atomic actions. An action looks at the shared state and at an answer of the environment,
changes the state and goes on. A program can be run alone on a list of answers, where it dies at the
action for which no answer is left, or in a pool of programs that take their actions in any order.

`Holds` is the rule for a program that runs alone: which steps its actions take, and what is true when it
returns. `Guards` is the rule for a program in a pool: assertions that the actions of the others keep, and
what its own actions do.
-/
import Mathlib.Logic.Function.Basic
import Mathlib.Logic.Relation
import Mathlib.Data.List.Chain
import Mathlib.Tactic.Common

namespace Roundwright.Lib

/-- A program: `label` says what kind of action comes next, `ι` is the type of answers. -/
inductive Proc (label ι σ α : Type) where
  | ret (a : α)
  | act (l : label) (effect : σ → ι → σ) (next : σ → ι → Proc label ι σ α)

namespace Proc

variable {label ι σ α β : Type}

def bind : Proc label ι σ α → (α → Proc label ι σ β) → Proc label ι σ β
  | .ret a, f => f a
  | .act l effect next, f => .act l effect fun s i => (next s i).bind f

instance : Monad (Proc label ι σ) where
  pure := .ret
  bind := Proc.bind

/-- One action that returns what it saw. -/
def action (l : label) (effect : σ → ι → σ) (result : σ → ι → α) : Proc label ι σ α :=
  .act l effect fun s i => .ret (result s i)

/-- The result of a program that has none of its actions left. -/
def value? : Proc label ι σ α → Option α
  | .ret a => some a
  | .act _ _ _ => none

@[simp] theorem ret_bind (a : α) (f : α → Proc label ι σ β) : (Proc.ret a >>= f) = f a := rfl

@[simp] theorem act_bind (l : label) (effect : σ → ι → σ) (next : σ → ι → Proc label ι σ α) (f : α → Proc label ι σ β) :
    (Proc.act l effect next >>= f) = .act l effect fun s i => next s i >>= f := rfl

@[simp] theorem action_bind (l : label) (effect : σ → ι → σ) (result : σ → ι → α) (f : α → Proc label ι σ β) :
    (action l effect result >>= f) = .act l effect fun s i => f (result s i) := rfl

theorem bind_assoc {γ : Type} (p : Proc label ι σ α) (f : α → Proc label ι σ β) (g : β → Proc label ι σ γ) :
    ((p >>= f) >>= g) = p >>= fun a => f a >>= g := by
  induction p with
  | ret a => rfl
  | act l effect next ih =>
    simp only [act_bind]
    congr 1
    funext s i
    exact ih s i

/-! ## Alone -/

/-- The result, unless the answers run out, and the state the program leaves behind. -/
def run : Proc label ι σ α → List ι → σ → Option α × σ
  | .ret a, _, s => (some a, s)
  | .act _ _ _, [], s => (none, s)
  | .act _ effect next, i :: answers, s => (next s i).run answers (effect s i)

/-- The states a program goes through on a list of answers, the first and the last included. -/
def states : Proc label ι σ α → List ι → σ → List σ
  | .ret _, _, s => [s]
  | .act _ _ _, [], s => [s]
  | .act _ effect next, i :: answers, s => s :: (next s i).states answers (effect s i)

/-- From this state, whatever the answers are: every action is a `step` on its answer, and what the
program returns satisfies `Q` with the state it returns in. -/
def Holds (step : ι → σ → σ → Prop) (Q : α → σ → Prop) : Proc label ι σ α → σ → Prop
  | .ret a, s => Q a s
  | .act _ effect next, s => ∀ i, step i s (effect s i) ∧ (next s i).Holds step Q (effect s i)

/-- A step on one of the answers. -/
def OneOf (step : ι → σ → σ → Prop) (answers : List ι) (s s' : σ) : Prop := ∃ i ∈ answers, step i s s'

theorem OneOf.cons {step : ι → σ → σ → Prop} {i : ι} {answers : List ι} {s s' : σ} (h : OneOf step answers s s') :
    OneOf step (i :: answers) s s' := by
  obtain ⟨j, hj, hs⟩ := h
  exact ⟨j, List.mem_cons_of_mem _ hj, hs⟩

section Holds

variable {step : ι → σ → σ → Prop} {Q Q' : α → σ → Prop} {R : β → σ → Prop} {p : Proc label ι σ α} {s : σ}

theorem Holds.mono (h : p.Holds step Q s) (hQ : ∀ a s, Q a s → Q' a s) : p.Holds step Q' s := by
  induction p generalizing s with
  | ret a => exact hQ a s h
  | act l effect next ih => exact fun i => ⟨(h i).1, ih s i (h i).2⟩

theorem Holds.bind {f : α → Proc label ι σ β} (h : p.Holds step Q s) (hf : ∀ a s, Q a s → (f a).Holds step R s) :
    (p >>= f).Holds step R s := by
  induction p generalizing s with
  | ret a => exact hf a s h
  | act l effect next ih => exact fun i => ⟨(h i).1, ih s i (h i).2⟩

theorem states_eq_cons (p : Proc label ι σ α) (answers : List ι) (s : σ) : ∃ rest, p.states answers s = s :: rest := by
  cases p with
  | ret a => exact ⟨[], rfl⟩
  | act l effect next =>
    cases answers with
    | nil => exact ⟨[], rfl⟩
    | cons i answers => exact ⟨_, rfl⟩

/-- One state follows the other by a step. -/
theorem Holds.chain (h : p.Holds step Q s) (answers : List ι) : (p.states answers s).IsChain (OneOf step answers) := by
  induction p generalizing s answers with
  | ret a => exact .singleton s
  | act l effect next ih =>
    cases answers with
    | nil => exact .singleton s
    | cons i answers =>
      have hrest := (ih s i (h i).2 answers).imp fun _ _ hs => OneOf.cons (i := i) hs
      obtain ⟨rest, heq⟩ := states_eq_cons (next s i) answers (effect s i)
      rw [states, heq]
      rw [heq] at hrest
      exact .cons_cons ⟨i, by simp, (h i).1⟩ hrest

/-- Wherever the program stops, it got there by steps. -/
theorem Holds.steps (h : p.Holds step Q s) (answers : List ι) :
    Relation.ReflTransGen (OneOf step answers) s (p.run answers s).2 := by
  induction p generalizing s answers with
  | ret a => exact .refl
  | act l effect next ih =>
    cases answers with
    | nil => exact .refl
    | cons i answers =>
      exact .head ⟨i, by simp, (h i).1⟩ (Relation.ReflTransGen.mono (fun _ _ hs => OneOf.cons hs) _ _ (ih s i (h i).2 answers))

theorem Holds.result (h : p.Holds step Q s) {answers : List ι} {a : α} (hrun : (p.run answers s).1 = some a) :
    Q a (p.run answers s).2 := by
  induction p generalizing s answers with
  | ret b =>
    cases hrun
    exact h
  | act l effect next ih =>
    cases answers with
    | nil => cases hrun
    | cons i answers => exact ih s i (h i).2 hrun

end Holds

/-! ## On part of a larger state -/

variable {label' ι' τ : Type}

/-- The program on the part of a larger state that `get` reads and `set` writes. -/
def embed (name : label → label') (answer : ι' → ι) (get : τ → σ) (set : τ → σ → τ) :
    Proc label ι σ α → Proc label' ι' τ α
  | .ret a => .ret a
  | .act l effect next =>
    .act (name l) (fun t i => set t (effect (get t) (answer i)))
      fun t i => (next (get t) (answer i)).embed name answer get set

/-- What holds of the program holds of it on the larger state, where an invariant `frame` may be carried
along. -/
theorem Holds.embed {name : label → label'} {answer : ι' → ι} {get : τ → σ} {set : τ → σ → τ} {step : ι → σ → σ → Prop}
    {Q : α → σ → Prop} {step' : ι' → τ → τ → Prop} {Q' : α → τ → Prop} (frame : τ → Prop)
    (hget : ∀ t s, get (set t s) = s)
    (hstep : ∀ i t s, frame t → step (answer i) (get t) s → step' i t (set t s) ∧ frame (set t s))
    (hQ : ∀ a t, frame t → Q a (get t) → Q' a t) {p : Proc label ι σ α} {t : τ} (hf : frame t)
    (h : p.Holds step Q (get t)) : (p.embed name answer get set).Holds step' Q' t := by
  induction p generalizing t with
  | ret a => exact hQ a t hf h
  | act l effect next ih =>
    intro i
    obtain ⟨hs, hn⟩ := h (answer i)
    obtain ⟨hs', hf'⟩ := hstep i t _ hf hs
    exact ⟨hs', ih (get t) (answer i) hf' (by rw [hget]; exact hn)⟩

/-! ## In a pool -/

/-- The program is at an assertion that the actions of others keep, and each of its own actions, where it
is one of those that are taken, does what is guaranteed and reaches the next such point. -/
def Guards (rely : σ → σ → Prop) (taken : label → σ → σ → Prop) (guarantee : label → σ → σ → Option α → Prop) :
    Proc label ι σ α → (σ → Prop) → Prop
  | .ret _, _ => True
  | .act l effect next, P => (∀ s s', P s → rely s s' → P s') ∧
    ∀ s i, P s → taken l s (effect s i) → guarantee l s (effect s i) (next s i).value? ∧
      ∃ P', P' (effect s i) ∧ (next s i).Guards rely taken guarantee P'

/-- Whatever states with `P` its actions see, the program returns with `Q`. -/
def Sees (P : σ → Prop) (Q : α → Prop) : Proc label ι σ α → Prop
  | .ret a => Q a
  | .act _ _ next => ∀ s i, P s → (next s i).Sees P Q

end Proc

/-- Programs that share a state, and what those that returned have returned. -/
structure Pool (π label ι σ α : Type) where
  shared : σ
  running : π → Option (Proc label ι σ α)
  returned : List (π × α)

namespace Pool

variable {π κ label ι σ α : Type} [DecidableEq π]

/-- One step of the pool, with the label of the action if it is one: a process starts the program of a
call, takes an action, returns, or dies. -/
inductive Step (program : κ → Proc label ι σ α) (allowed : label → σ → Prop) :
    Pool π label ι σ α → Option label → Pool π label ι σ α → Prop
  | start {pool : Pool π label ι σ α} (p : π) (call : κ) (idle : pool.running p = none) :
      Step program allowed pool none { pool with running := Function.update pool.running p (some (program call)) }
  | act {pool : Pool π label ι σ α} (p : π) {l : label} {effect : σ → ι → σ} {next : σ → ι → Proc label ι σ α}
      (at_ : pool.running p = some (.act l effect next)) (i : ι) (may : allowed l pool.shared) :
      Step program allowed pool (some l)
        { pool with shared := effect pool.shared i, running := Function.update pool.running p (some (next pool.shared i)) }
  | finish {pool : Pool π label ι σ α} (p : π) {a : α} (at_ : pool.running p = some (.ret a)) :
      Step program allowed pool none
        { pool with running := Function.update pool.running p none, returned := pool.returned ++ [(p, a)] }
  | die {pool : Pool π label ι σ α} (p : π) :
      Step program allowed pool none { pool with running := Function.update pool.running p none }

/-- What an action of another process may do. -/
def Others (guarantee : label → σ → σ → Option α → Prop) (s s' : σ) : Prop := ∃ l a, guarantee l s s' a

/-- Every running program is at one of its assertions, which holds. -/
def Guarded (taken : label → σ → σ → Prop) (guarantee : label → σ → σ → Option α → Prop) (pool : Pool π label ι σ α) : Prop :=
  ∀ p program, pool.running p = some program → ∃ P, P pool.shared ∧ program.Guards (Others guarantee) taken guarantee P

variable {program : κ → Proc label ι σ α} {allowed : label → σ → Prop} {taken : label → σ → σ → Prop}
  {guarantee : label → σ → σ → Option α → Prop} {pool pool' : Pool π label ι σ α} {event : Option label}

omit [DecidableEq π] in
theorem Guarded.initial {s : σ} {returned : List (π × α)} :
    Guarded taken guarantee (⟨s, fun _ => none, returned⟩ : Pool π label ι σ α) := by
  intro p program h
  cases h

/-- An assertion of a program that takes no action is kept by the actions of the others. -/
theorem Guarded.stable {P : σ → Prop} {prog : Proc label ι σ α} {s s' : σ} {l : label} {a : Option α}
    (hg : prog.Guards (Others guarantee) taken guarantee P) (hP : P s) (h : guarantee l s s' a) :
    ∃ P, P s' ∧ prog.Guards (Others guarantee) taken guarantee P := by
  cases prog with
  | ret b => exact ⟨fun _ => True, trivial, trivial⟩
  | act k effect next => exact ⟨P, hg.1 _ _ hP ⟨l, a, h⟩, hg⟩

/-- Programs that guard themselves alone guard themselves together, as long as their actions are ones that are taken. -/
theorem Guarded.step (hprogram : ∀ call, (program call).Guards (Others guarantee) taken guarantee fun _ => True)
    (h : Guarded taken guarantee pool) (hs : Step program allowed pool event pool')
    (ht : ∀ l, event = some l → taken l pool.shared pool'.shared) : Guarded taken guarantee pool' := by
  intro q prog hq
  -- the process that moves is guarded by its own step, the others by their stability
  cases hs with
  | start p call idle =>
    by_cases hpq : q = p
    · subst hpq
      obtain rfl : program call = prog := by simpa using hq
      exact ⟨_, trivial, hprogram call⟩
    · exact h q prog (by simpa [hpq] using hq)
  | @act p l effect next at_ i may =>
    obtain ⟨P, hP, hg⟩ := h p _ at_
    obtain ⟨hdone, hnext⟩ := hg.2 pool.shared i hP (ht l rfl)
    by_cases hpq : q = p
    · subst hpq
      obtain rfl : next pool.shared i = prog := by simpa using hq
      exact hnext
    · obtain ⟨P', hP', hg'⟩ := h q prog (by simpa [hpq] using hq)
      exact Guarded.stable hg' hP' hdone
  | finish p at_ =>
    by_cases hpq : q = p
    · subst hpq
      simp at hq
    · exact h q prog (by simpa [hpq] using hq)
  | die p =>
    by_cases hpq : q = p
    · subst hpq
      simp at hq
    · exact h q prog (by simpa [hpq] using hq)

omit [DecidableEq π] in
/-- What an action of the pool does is guaranteed. -/
theorem Guarded.guaranteed (h : Guarded taken guarantee pool) {p : π} {l : label} {effect : σ → ι → σ}
    {next : σ → ι → Proc label ι σ α} (hp : pool.running p = some (.act l effect next)) (i : ι)
    (ht : taken l pool.shared (effect pool.shared i)) :
    guarantee l pool.shared (effect pool.shared i) (next pool.shared i).value? := by
  obtain ⟨P, hP, hg⟩ := h p _ hp
  exact (hg.2 pool.shared i hP ht).1

/-! ## Schedules -/

inductive Move (π κ ι : Type) where
  | start (p : π) (call : κ)
  | act (p : π) (i : ι)
  | finish (p : π)

/-- The pool after a move, when the move can be made. -/
def move (program : κ → Proc label ι σ α) (allowed : label → σ → Prop) [∀ l s, Decidable (allowed l s)]
    (pool : Pool π label ι σ α) : Move π κ ι → Option (Pool π label ι σ α)
  | .start p call =>
    match pool.running p with
    | none => some { pool with running := Function.update pool.running p (some (program call)) }
    | some _ => none
  | .act p i =>
    match pool.running p with
    | some (.act l effect next) =>
      if allowed l pool.shared then
        some { pool with
          shared := effect pool.shared i
          running := Function.update pool.running p (some (next pool.shared i)) }
      else none
    | _ => none
  | .finish p =>
    match pool.running p with
    | some (.ret a) =>
      some { pool with running := Function.update pool.running p none, returned := pool.returned ++ [(p, a)] }
    | _ => none

theorem move_step [∀ l s, Decidable (allowed l s)] {m : Move π κ ι} (h : move program allowed pool m = some pool') :
    ∃ event, Step program allowed pool event pool' := by
  cases m with
  | start p call =>
    simp only [move] at h
    split at h
    · rename_i hp
      cases h
      exact ⟨_, .start p call hp⟩
    · cases h
  | act p i =>
    simp only [move] at h
    split at h
    · rename_i l effect next hp
      split at h
      · rename_i hmay
        cases h
        exact ⟨_, .act p hp i hmay⟩
      · cases h
    · cases h
  | finish p =>
    simp only [move] at h
    split at h
    · rename_i a hp
      cases h
      exact ⟨_, .finish p hp⟩
    · cases h

/-- A schedule that can be carried out is a run. -/
theorem moves_steps [∀ l s, Decidable (allowed l s)] : ∀ {moves : List (Move π κ ι)} {pool pool' : Pool π label ι σ α},
    moves.foldlM (move program allowed) pool = some pool' →
      Relation.ReflTransGen (fun a b => ∃ event, Step program allowed a event b) pool pool'
  | [], pool, pool', h => by
    cases h
    exact .refl
  | m :: moves, pool, pool', h => by
    rw [List.foldlM_cons, Option.bind_eq_bind, Option.bind_eq_some_iff] at h
    obtain ⟨middle, hm, hrest⟩ := h
    exact .head (move_step hm) (moves_steps hrest)

end Pool

end Roundwright.Lib
