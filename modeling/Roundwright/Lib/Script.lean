/-
Programs of transactions that can raise. Every action of a script is a transaction on the shared state, and between
two of them its process can die. `Ends` are the runs that return, `Passes` the runs that return with a state they pass
through, in which the process could have died. `Acts` is the rule for what every action does, wherever the program is
and whatever the others have done since.
-/
import Roundwright.Lib.Process
import Roundwright.Lib.Transaction

namespace Roundwright.Lib

namespace Proc

variable {label ι σ α β : Type} {live : ι → Prop}

/-! ## What the actions do -/

def Acts (step : label → σ → σ → Prop) : Proc label ι σ α → Prop
  | .ret _ => True
  | .act l effect next => (∀ s i, step l s (effect s i)) ∧ ∀ s i, (next s i).Acts step

variable {p : Proc label ι σ α}

theorem Acts.bind {step : label → σ → σ → Prop} {f : α → Proc label ι σ β} (h : p.Acts step) (hf : ∀ a, (f a).Acts step) :
    (p.bind f).Acts step := by
  induction p with
  | ret a => exact hf a
  | act l effect next ih => exact ⟨h.1, fun s i => ih s i (h.2 s i)⟩

/-! ## Runs that return -/

/-- On some answers the program returns this result in this state. -/
def Ends (live : ι → Prop) : Proc label ι σ α → σ → α → σ → Prop
  | .ret a, s, b, t => b = a ∧ t = s
  | .act _ effect next, s, b, t => ∃ i, live i ∧ (next s i).Ends live (effect s i) b t

/-- On some answers the program passes through a state and then returns. -/
def Passes (live : ι → Prop) : Proc label ι σ α → σ → σ → α → σ → Prop
  | .ret a, s, d, b, t => d = s ∧ b = a ∧ t = s
  | .act _ effect next, s, d, b, t =>
    ∃ i, live i ∧ ((d = s ∧ (next s i).Ends live (effect s i) b t) ∨ (next s i).Passes live (effect s i) d b t)

theorem Passes.start {s t : σ} {a : α} (h : p.Ends live s a t) : p.Passes live s s a t := by
  cases p with
  | ret b => exact ⟨rfl, h⟩
  | act l effect next =>
    obtain ⟨i, hi, h⟩ := h
    exact ⟨i, hi, .inl ⟨rfl, h⟩⟩

/-- A process that returns could have died after its last action. -/
theorem Passes.finish {s t : σ} {a : α} (h : p.Ends live s a t) : p.Passes live s t a t := by
  induction p generalizing s with
  | ret b => exact ⟨h.2, h⟩
  | act l effect next ih =>
    obtain ⟨i, hi, h⟩ := h
    exact ⟨i, hi, .inr (ih s i h)⟩

theorem Passes.ends {s d t : σ} {a : α} (h : p.Passes live s d a t) : p.Ends live s a t := by
  induction p generalizing s with
  | ret b => exact h.2
  | act l effect next ih =>
    obtain ⟨i, hi, ⟨-, h⟩ | h⟩ := h
    · exact ⟨i, hi, h⟩
    · exact ⟨i, hi, ih s i h⟩

/-! ## Its own actions -/

/-- On some answers, and whatever the others do between its actions, the program takes these actions, each with the
states before and after it, and returns. -/
inductive Trace : Proc label ι σ α → List (label × σ × σ) → α → Prop
  | ret (a : α) : Trace (.ret a) [] a
  | act {l : label} {effect : σ → ι → σ} {next : σ → ι → Proc label ι σ α} {rest : List (label × σ × σ)} {a : α} (s : σ)
      (i : ι) (h : Trace (next s i) rest a) : Trace (.act l effect next) ((l, s, effect s i) :: rest) a

theorem Trace.of_bind {f : α → Proc label ι σ β} {actions : List (label × σ × σ)} {b : β}
    (h : (p.bind f).Trace actions b) : ∃ a first rest, p.Trace first a ∧ (f a).Trace rest b ∧ actions = first ++ rest := by
  induction p generalizing actions with
  | ret a => exact ⟨a, [], actions, .ret a, h, rfl⟩
  | act l effect next ih =>
    rw [Proc.bind] at h
    cases h with
    | act s i h =>
      obtain ⟨a, first, rest, hp, hf, rfl⟩ := ih s i h
      exact ⟨a, _, rest, .act s i hp, hf, rfl⟩

end Proc

/-! ## In a pool -/

namespace Pool

variable {π κ label ι σ α : Type} [DecidableEq π] {program : κ → Proc label ι σ α} {allowed : label → σ → Prop}
  {step : label → σ → σ → Prop} {pool pool' : Pool π label ι σ α} {event : Option label}

/-- What is left of every running program acts as the programs do. -/
def Acting (step : label → σ → σ → Prop) (pool : Pool π label ι σ α) : Prop :=
  ∀ p prog, pool.running p = some prog → prog.Acts step

theorem acting_step (hprogram : ∀ call, (program call).Acts step) (h : Acting step pool)
    (hs : Step program allowed pool event pool') :
    Acting step pool' ∧ (pool'.shared = pool.shared ∨ ∃ l, allowed l pool.shared ∧ step l pool.shared pool'.shared) := by
  have hother : ∀ {q p : π} {prog : Proc label ι σ α} {x : Option (Proc label ι σ α)}, (∀ prog, x = some prog → prog.Acts step) →
      Function.update pool.running p x q = some prog → prog.Acts step := by
    intro q p prog x hx hq
    by_cases hpq : q = p
    · subst hpq
      exact hx prog (by simpa using hq)
    · exact h q prog (by simpa [hpq] using hq)
  cases hs with
  | start p call idle => exact ⟨fun q prog => hother fun prog hprog => Option.some.inj hprog ▸ hprogram call, .inl rfl⟩
  | @act p l effect next at_ i may =>
    obtain ⟨hact, hnext⟩ := h p _ at_
    exact ⟨fun q prog => hother fun prog hprog => Option.some.inj hprog ▸ hnext pool.shared i, .inr ⟨l, may, hact pool.shared i⟩⟩
  | finish p at_ => exact ⟨fun q prog => hother (fun prog hprog => nomatch hprog), .inl rfl⟩
  | die p => exact ⟨fun q prog => hother (fun prog hprog => nomatch hprog), .inl rfl⟩

/-- In every run of a pool the shared state moves by allowed steps of the programs. -/
theorem acting_run (hprogram : ∀ call, (program call).Acts step) {s : σ}
    (h : Relation.ReflTransGen (fun a b => ∃ event, Step program allowed a event b)
      (⟨s, fun _ => none, []⟩ : Pool π label ι σ α) pool) :
    Acting step pool ∧ Relation.ReflTransGen (fun s s' => ∃ l, allowed l s ∧ step l s s') s pool.shared := by
  induction h with
  | refl => exact ⟨fun p prog hp => (nomatch hp), .refl⟩
  | tail _ hstep ih =>
    obtain ⟨event, hstep⟩ := hstep
    obtain ⟨hacting, hshared⟩ := acting_step hprogram ih.1 hstep
    refine ⟨hacting, ?_⟩
    rcases hshared with heq | hmove
    · rw [heq]
      exact ih.2
    · exact ih.2.tail hmove

end Pool

/-! ## Scripts -/

/-- A program that can raise. -/
def Script (label ε ι σ α : Type) : Type := Proc label ι σ (Except ε α)

namespace Script

variable {label ε ι σ α β : Type} {live : ι → Prop}

/-- The rest of a script after its first part. -/
def next (f : α → Script label ε ι σ β) : Except ε α → Proc label ι σ (Except ε β)
  | .ok a => f a
  | .error e => .ret (.error e)

instance : Monad (Script label ε ι σ) where
  pure a := Proc.ret (.ok a)
  bind x f := Proc.bind x (next f)

/-- A check of the arguments. -/
def check (r : Except ε α) : Script label ε ι σ α := Proc.ret r

/-- One transaction. -/
def commit (l : label) (x : ι → Tx ε σ α) : Script label ε ι σ α :=
  Proc.act l (fun s i => (x i s).2) fun s i => .ret (x i s).1

/-- `try … except Exception: handler; raise` -/
def onError (x : Script label ε ι σ α) (handler : Script label ε ι σ Unit) : Script label ε ι σ α :=
  Proc.bind x fun
    | .ok a => .ret (.ok a)
    | .error e => Proc.bind handler fun
      | .ok () => .ret (.error e)
      | .error e' => .ret (.error e')

/-- `try … except E as error: raise … from error` -/
def mapError (x : Script label ε ι σ α) (f : ε → ε) : Script label ε ι σ α :=
  Proc.bind x fun
    | .ok a => .ret (.ok a)
    | .error e => .ret (.error (f e))

/-- `try … except`, where the handler may return or raise. -/
def handle (x : Script label ε ι σ α) (handler : ε → Script label ε ι σ α) : Script label ε ι σ α :=
  Proc.bind x fun
    | .ok a => .ret (.ok a)
    | .error e => handler e

/-! ### What the actions do -/

def Acts (step : label → σ → σ → Prop) (x : Script label ε ι σ α) : Prop := Proc.Acts step x

section Acts

variable {step : label → σ → σ → Prop} {x : Script label ε ι σ α}

theorem acts_pure (a : α) : Acts step (pure a : Script label ε ι σ α) := trivial

theorem acts_check (r : Except ε α) : Acts step (check r : Script label ε ι σ α) := trivial

theorem acts_commit {l : label} {x : ι → Tx ε σ α} (h : ∀ i s, step l s (x i s).2) : Acts step (commit l x) :=
  ⟨fun s i => h i s, fun _ _ => trivial⟩

theorem Acts.bind {f : α → Script label ε ι σ β} (h : Acts step x) (hf : ∀ a, Acts step (f a)) : Acts step (x >>= f) :=
  Proc.Acts.bind h fun
    | .ok a => hf a
    | .error _ => trivial

theorem acts_check_bind {r : Except ε β} {f : β → Script label ε ι σ α} (hf : ∀ b, r = .ok b → Acts step (f b)) :
    Acts step (check r >>= f) := by
  cases r with
  | error e => exact trivial
  | ok b => exact hf b rfl

theorem Acts.onError {handler : Script label ε ι σ Unit} (h : Acts step x) (hh : Acts step handler) :
    Acts step (x.onError handler) :=
  Proc.Acts.bind h fun
    | .ok _ => trivial
    | .error _ => Proc.Acts.bind hh fun
      | .ok () => trivial
      | .error _ => trivial

theorem Acts.handle {handler : ε → Script label ε ι σ α} (h : Acts step x) (hh : ∀ e, Acts step (handler e)) :
    Acts step (x.handle handler) :=
  Proc.Acts.bind h fun
    | .ok _ => trivial
    | .error e => hh e

theorem Acts.mapError {f : ε → ε} (h : Acts step x) : Acts step (x.mapError f) :=
  Proc.Acts.bind h fun
    | .ok _ => trivial
    | .error _ => trivial

end Acts

/-! ### Its own actions -/

def Trace (x : Script label ε ι σ α) (actions : List (label × σ × σ)) (a : Except ε α) : Prop := Proc.Trace x actions a

section Trace

variable {x : Script label ε ι σ α} {actions : List (label × σ × σ)}

theorem trace_check {r a : Except ε α} (h : Trace (check r : Script label ε ι σ α) actions a) : a = r ∧ actions = [] := by
  cases h
  exact ⟨rfl, rfl⟩

theorem trace_commit {l : label} {x : ι → Tx ε σ α} {a : Except ε α} (h : Trace (commit l x) actions a) :
    ∃ i s, a = (x i s).1 ∧ actions = [(l, s, (x i s).2)] := by
  cases h with
  | act s i h =>
    cases h
    exact ⟨i, s, rfl, rfl⟩

theorem trace_bind {f : α → Script label ε ι σ β} {b : β} (h : Trace (x >>= f) actions (.ok b)) :
    ∃ a first rest, Trace x first (.ok a) ∧ Trace (f a) rest (.ok b) ∧ actions = first ++ rest := by
  obtain ⟨r, first, rest, hx, hf, rfl⟩ := Proc.Trace.of_bind h
  cases r with
  | error e => cases hf
  | ok a => exact ⟨a, first, rest, hx, hf, rfl⟩

/-- What returns has not been to the handler. -/
theorem trace_onError {handler : Script label ε ι σ Unit} {a : α} (h : Trace (x.onError handler) actions (.ok a)) :
    Trace x actions (.ok a) := by
  obtain ⟨r, first, rest, hx, hf, rfl⟩ := Proc.Trace.of_bind h
  cases r with
  | ok b =>
    cases hf
    rw [List.append_nil]
    exact hx
  | error e =>
    obtain ⟨r', first', rest', -, hr, -⟩ := Proc.Trace.of_bind hf
    cases r' with
    | ok _ => cases hr
    | error _ => cases hr

end Trace

end Script

end Roundwright.Lib
