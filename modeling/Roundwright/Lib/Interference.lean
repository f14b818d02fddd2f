/-
Programs in a pool that know which process runs them. `Safe` is the rule for one of them: whatever the others do between
its actions, each of its actions is a step it answers for, and what it returns satisfies a postcondition that the others
keep. What a process answers for may depend on the process, so an assertion of one process has to survive the steps of
the others only.
-/
import Roundwright.Lib.Script

namespace Roundwright.Lib

open Relation

namespace Proc

variable {label ι σ α β : Type} {rely guarantee : σ → σ → Prop} {Q R : α → σ → Prop} {p : Proc label ι σ α} {s t : σ}

/-- From this state the program, between whose actions the others take steps of `rely`, takes steps of `guarantee` only
and returns with `Q`. -/
def Safe (rely guarantee : σ → σ → Prop) (Q : α → σ → Prop) : Proc label ι σ α → σ → Prop
  | .ret a, s => ∀ t, ReflTransGen rely s t → Q a t
  | .act _ effect next, s => ∀ t, ReflTransGen rely s t → ∀ i,
    guarantee t (effect t i) ∧ (next t i).Safe rely guarantee Q (effect t i)

/-- The others may take their steps first. -/
theorem Safe.others (h : p.Safe rely guarantee Q s) (hs : ReflTransGen rely s t) : p.Safe rely guarantee Q t := by
  cases p with
  | ret a => exact fun u hu => h u (hs.trans hu)
  | act l effect next => exact fun u hu => h u (hs.trans hu)

theorem Safe.bind {S : β → σ → Prop} {f : α → Proc label ι σ β} (h : p.Safe rely guarantee Q s)
    (hf : ∀ a t, Q a t → (f a).Safe rely guarantee S t) : (p.bind f).Safe rely guarantee S s := by
  induction p generalizing s with
  | ret a => exact hf a s (h s .refl)
  | act l effect next ih =>
    intro t ht i
    obtain ⟨hstep, hnext⟩ := h t ht i
    exact ⟨hstep, ih t i hnext⟩

theorem Safe.mono (h : p.Safe rely guarantee Q s) (hQ : ∀ a t, Q a t → R a t) : p.Safe rely guarantee R s := by
  induction p generalizing s with
  | ret a => exact fun t ht => hQ a t (h t ht)
  | act l effect next ih =>
    intro t ht i
    obtain ⟨hstep, hnext⟩ := h t ht i
    exact ⟨hstep, ih t i hnext⟩

/-- An assertion that the others keep. -/
def Stable (rely : σ → σ → Prop) (P : σ → Prop) : Prop := ∀ s t, P s → rely s t → P t

theorem Stable.many {P : σ → Prop} (h : Stable rely P) (hs : P s) (hst : ReflTransGen rely s t) : P t := by
  induction hst with
  | refl => exact hs
  | tail _ hstep ih => exact h _ _ ih hstep

theorem Stable.and {P P' : σ → Prop} (h : Stable rely P) (h' : Stable rely P') : Stable rely fun s => P s ∧ P' s :=
  fun s t hs hst => ⟨h s t hs.1 hst, h' s t hs.2 hst⟩

theorem Safe.ret {a : α} (h : Stable rely (Q a)) (hs : Q a s) : (Proc.ret a : Proc label ι σ α).Safe rely guarantee Q s :=
  fun _ ht => h.many hs ht

theorem Safe.act {l : label} {effect : σ → ι → σ} {next : σ → ι → Proc label ι σ α} (P : σ → Prop) (h : Stable rely P)
    (hs : P s) (hnext : ∀ t i, P t → guarantee t (effect t i) ∧ (next t i).Safe rely guarantee Q (effect t i)) :
    (Proc.act l effect next).Safe rely guarantee Q s :=
  fun t ht i => hnext t i (h.many hs ht)

end Proc

namespace Pool

variable {π κ label ι σ α : Type} [DecidableEq π]

/-- A process starts the program of a call, takes an action, returns, or dies. -/
inductive Turn (program : π → κ → Proc label ι σ α) : Pool π label ι σ α → Pool π label ι σ α → Prop
  | start {pool : Pool π label ι σ α} (p : π) (call : κ) (idle : pool.running p = none) :
      Turn program pool { pool with running := Function.update pool.running p (some (program p call)) }
  | act {pool : Pool π label ι σ α} (p : π) {l : label} {effect : σ → ι → σ} {next : σ → ι → Proc label ι σ α}
      (at_ : pool.running p = some (.act l effect next)) (i : ι) :
      Turn program pool
        { pool with shared := effect pool.shared i, running := Function.update pool.running p (some (next pool.shared i)) }
  | finish {pool : Pool π label ι σ α} (p : π) {a : α} (at_ : pool.running p = some (.ret a)) :
      Turn program pool { pool with running := Function.update pool.running p none, returned := pool.returned ++ [(p, a)] }
  | die {pool : Pool π label ι σ α} (p : π) : Turn program pool { pool with running := Function.update pool.running p none }

/-- A step of another process. -/
def Foreign (guarantee : π → σ → σ → Prop) (p : π) (s t : σ) : Prop := ∃ q, q ≠ p ∧ guarantee q s t

/-- Every running program is safe from here. -/
def AllSafe (guarantee : π → σ → σ → Prop) (Q : α → σ → Prop) (pool : Pool π label ι σ α) : Prop :=
  ∀ p prog, pool.running p = some prog → prog.Safe (Foreign guarantee p) (guarantee p) Q pool.shared

variable {program : π → κ → Proc label ι σ α} {guarantee : π → σ → σ → Prop} {Q : α → σ → Prop} {inv : σ → Prop}
  {pool pool' : Pool π label ι σ α}

/-- What a turn does to the shared state: nothing, or a step that its process answers for. -/
theorem Turn.shared (h : Turn program pool pool') (hsafe : AllSafe guarantee Q pool) :
    pool'.shared = pool.shared ∨ ∃ p, guarantee p pool.shared pool'.shared := by
  cases h with
  | start => exact .inl rfl
  | act p at_ i => exact .inr ⟨p, (hsafe p _ at_ pool.shared .refl i).1⟩
  | finish => exact .inl rfl
  | die => exact .inl rfl

section Safety

variable (hprogram : ∀ p call s, inv s → (program p call).Safe (Foreign guarantee p) (guarantee p) Q s)
  (hinv : ∀ p s t, inv s → guarantee p s t → inv t)

include hprogram in
theorem Turn.allSafe (h : Turn program pool pool') (hi : inv pool.shared) (hsafe : AllSafe guarantee Q pool) :
    AllSafe guarantee Q pool' := by
  intro q prog hq
  cases h with
  | start p call idle =>
    by_cases hpq : q = p
    · subst hpq
      obtain rfl : program q call = prog := by simpa using hq
      exact hprogram q call _ hi
    · exact hsafe q prog (by simpa [hpq] using hq)
  | @act p l effect next at_ i =>
    obtain ⟨hstep, hnext⟩ := hsafe p _ at_ pool.shared .refl i
    by_cases hpq : q = p
    · subst hpq
      obtain rfl : next pool.shared i = prog := by simpa using hq
      exact hnext
    · exact (hsafe q prog (by simpa [hpq] using hq)).others (.single ⟨p, Ne.symm hpq, hstep⟩)
  | finish p at_ =>
    by_cases hpq : q = p
    · subst hpq
      simp at hq
    · exact hsafe q prog (by simpa [hpq] using hq)
  | die p =>
    by_cases hpq : q = p
    · subst hpq
      simp at hq
    · exact hsafe q prog (by simpa [hpq] using hq)

include hprogram hinv

theorem allSafe_run {start : Pool π label ι σ α} (h : ReflTransGen (Turn program) start pool) (hi : inv start.shared)
    (hsafe : AllSafe guarantee Q start) : inv pool.shared ∧ AllSafe guarantee Q pool := by
  induction h with
  | refl => exact ⟨hi, hsafe⟩
  | tail _ hturn ih =>
    refine ⟨?_, hturn.allSafe hprogram ih.1 ih.2⟩
    rcases hturn.shared ih.2 with hsame | ⟨p, hstep⟩
    · rw [hsame]
      exact ih.1
    · exact hinv p _ _ ih.1 hstep

/-- A process that is idle where `P` holds, which every step keeps: from then on it returns only what its programs
return from there. -/
theorem answering_run {p : π} {P : σ → Prop} {own : σ → σ → Prop} {E : α → Prop}
    (hothers : ∀ s t, P s → Foreign guarantee p s t → P t) (hown : ∀ s t, P s → own s t → P t)
    (hanswer : ∀ call s, P s → (program p call).Safe (Foreign guarantee p) own (fun a _ => E a) s)
    {start : Pool π label ι σ α} (h : ReflTransGen (Turn program) start pool) (hi : inv start.shared)
    (hsafe : AllSafe guarantee Q start) (hidle : start.running p = none) (hP : P start.shared) :
    P pool.shared ∧ (∃ new, pool.returned = start.returned ++ new ∧ ∀ a, (p, a) ∈ new → E a) ∧
    ∀ prog, pool.running p = some prog → prog.Safe (Foreign guarantee p) own (fun a _ => E a) pool.shared := by
  -- along the run; what the others do keeps the process safe
  induction h with
  | refl => exact ⟨hP, ⟨[], by simp, nofun⟩, fun prog hprog => by rw [hidle] at hprog; cases hprog⟩
  | @tail pool pool' hrun hturn ih =>
    obtain ⟨hshared, ⟨new, hreturned, hnew⟩, hprog⟩ := ih
    have hall := (allSafe_run hprogram hinv hrun hi hsafe).2
    cases hturn with
    | start q call idle =>
      refine ⟨hshared, ⟨new, hreturned, hnew⟩, fun prog hrunning => ?_⟩
      by_cases hpq : p = q
      · subst hpq
        obtain rfl : program p call = prog := by simpa using hrunning
        exact hanswer call _ hshared
      · exact hprog prog (by simpa [hpq] using hrunning)
    | @act q l effect next at_ i =>
      by_cases hpq : p = q
      · subst hpq
        obtain ⟨hstep, hnext⟩ := hprog _ at_ pool.shared .refl i
        refine ⟨hown _ _ hshared hstep, ⟨new, hreturned, hnew⟩, fun prog hrunning => ?_⟩
        obtain rfl : next pool.shared i = prog := by simpa using hrunning
        exact hnext
      · have hstep : Foreign guarantee p pool.shared (effect pool.shared i) :=
          ⟨q, Ne.symm hpq, (hall q _ at_ pool.shared .refl i).1⟩
        refine ⟨hothers _ _ hshared hstep, ⟨new, hreturned, hnew⟩, fun prog hrunning => ?_⟩
        exact (hprog prog (by simpa [hpq] using hrunning)).others (.single hstep)
    | @finish q a at_ =>
      refine ⟨hshared, ⟨new ++ [(q, a)], by simp [hreturned], fun b hb => ?_⟩, fun prog hrunning => ?_⟩
      · rcases List.mem_append.1 hb with hb | hb
        · exact hnew b hb
        · obtain ⟨rfl, rfl⟩ := Prod.mk.inj (List.mem_singleton.1 hb)
          exact hprog _ at_ pool.shared .refl
      · by_cases hpq : p = q
        · subst hpq
          simp at hrunning
        · exact hprog prog (by simpa [hpq] using hrunning)
    | die q =>
      refine ⟨hshared, ⟨new, hreturned, hnew⟩, fun prog hrunning => ?_⟩
      by_cases hpq : p = q
      · subst hpq
        simp at hrunning
      · exact hprog prog (by simpa [hpq] using hrunning)

/-- A process that is idle, and whose programs from now on change nothing and return only what `E` allows: the state
moves by steps of the others, and all that the process returns from now on is allowed. -/
theorem quiet_run {p : π} {P : σ → Prop} {E : α → Prop} (hstable : Proc.Stable (Foreign guarantee p) P)
    (hquiet : ∀ call s, P s → (program p call).Safe (Foreign guarantee p) (fun s t => t = s) (fun a _ => E a) s)
    {start : Pool π label ι σ α} (h : ReflTransGen (Turn program) start pool) (hi : inv start.shared)
    (hsafe : AllSafe guarantee Q start) (hidle : start.running p = none) (hP : P start.shared) :
    ReflTransGen (Foreign guarantee p) start.shared pool.shared ∧
    (∃ new, pool.returned = start.returned ++ new ∧ ∀ a, (p, a) ∈ new → E a) ∧
    ∀ prog, pool.running p = some prog → prog.Safe (Foreign guarantee p) (fun s t => t = s) (fun a _ => E a) pool.shared :=
  answering_run hprogram hinv (fun _ _ hmoved hstep => hmoved.tail hstep) (fun _ _ hmoved hsame => hsame ▸ hmoved)
    (fun call _ hmoved => hquiet call _ (hstable.many hP hmoved)) h hi hsafe hidle .refl

end Safety

end Pool

/-! ## Scripts -/

namespace Script

variable {label ε ι σ α β : Type}

/-- An assertion that the others keep where the invariant holds. -/
def Steady (rely : σ → σ → Prop) (inv P : σ → Prop) : Prop := Proc.Stable rely fun s => inv s ∧ P s

/-- The script is safe from every state with the invariant and `P`; the invariant holds when it returns, with `A` for
its result, and when it raises, with `E`. -/
def Triple (rely guarantee : σ → σ → Prop) (inv P : σ → Prop) (x : Script label ε ι σ α) (A : α → σ → Prop) (E : σ → Prop) : Prop :=
  ∀ s, inv s → P s → Proc.Safe rely guarantee
    (fun r s => inv s ∧ match r with
      | .ok a => A a s
      | .error _ => E s) x s

section Triple

variable {rely guarantee : σ → σ → Prop} {inv P P' : σ → Prop} {A A' : α → σ → Prop} {B : β → σ → Prop}
  {E E' F : σ → Prop} {x : Script label ε ι σ α}

theorem Triple.weaken (h : Triple rely guarantee inv P x A E) (hP : ∀ s, P' s → P s) (hA : ∀ a s, A a s → A' a s)
    (hE : ∀ s, E s → E' s) : Triple rely guarantee inv P' x A' E' := by
  intro s hi hs
  refine (h s hi (hP s hs)).mono fun r t ht => ⟨ht.1, ?_⟩
  cases r with
  | ok a => exact hA a t ht.2
  | error e => exact hE t ht.2

theorem Triple.check {r : Except ε α} (hok : ∀ a, r = .ok a → Steady rely inv (A a)) (herror : Steady rely inv E)
    (hA : ∀ a, r = .ok a → ∀ s, P s → A a s) (hE : ∀ s, P s → E s) :
    Triple rely guarantee inv P (Script.check r : Script label ε ι σ α) A E := by
  intro s hi hs
  cases r with
  | ok a => exact .ret (hok a rfl) ⟨hi, hA a rfl s hs⟩
  | error e => exact .ret herror ⟨hi, hE s hs⟩

theorem Triple.pure {a : α} (hok : Steady rely inv (A a)) : Triple rely guarantee inv (A a) (pure a : Script label ε ι σ α) A E :=
  fun _ hi hs => .ret hok ⟨hi, hs⟩

theorem Triple.bind {f : α → Script label ε ι σ β} (h : Triple rely guarantee inv P x A E) (herror : Steady rely inv E)
    (hf : ∀ a, Triple rely guarantee inv (A a) (f a) B E) : Triple rely guarantee inv P (x >>= f) B E := by
  intro s hi hs
  refine (h s hi hs).bind fun r t ht => ?_
  cases r with
  | ok a => exact hf a t ht.1 ht.2
  | error e => exact .ret herror ht

/-- After a check the rest may use that it passed. -/
theorem Triple.check_bind {r : Except ε α} {f : α → Script label ε ι σ β} (herror : Steady rely inv E)
    (hE : ∀ s, P s → E s) (hf : ∀ a, r = .ok a → Triple rely guarantee inv P (f a) B E) :
    Triple rely guarantee inv P ((Script.check r : Script label ε ι σ α) >>= f) B E := by
  intro s hi hs
  cases r with
  | ok a => exact hf a rfl s hi hs
  | error e => exact .ret herror ⟨hi, hE s hs⟩

theorem Triple.mapError {f : ε → ε} (h : Triple rely guarantee inv P x A E) (hok : ∀ a, Steady rely inv (A a))
    (herror : Steady rely inv E) : Triple rely guarantee inv P (x.mapError f) A E := by
  intro s hi hs
  refine (h s hi hs).bind fun r t ht => ?_
  cases r with
  | ok a => exact .ret (hok a) ht
  | error e => exact .ret herror ht

theorem Triple.handle {handler : ε → Script label ε ι σ α} (h : Triple rely guarantee inv P x A F)
    (hok : ∀ a, Steady rely inv (A a)) (hhandler : ∀ e, Triple rely guarantee inv F (handler e) A E) :
    Triple rely guarantee inv P (x.handle handler) A E := by
  intro s hi hs
  refine (h s hi hs).bind fun r t ht => ?_
  cases r with
  | ok a => exact .ret (hok a) ht
  | error e => exact hhandler e t ht.1 ht.2

theorem Triple.onError {handler : Script label ε ι σ Unit} (h : Triple rely guarantee inv P x A F)
    (hok : ∀ a, Steady rely inv (A a)) (herror : Steady rely inv E)
    (hhandler : Triple rely guarantee inv F handler (fun _ => E) E) : Triple rely guarantee inv P (x.onError handler) A E := by
  intro s hi hs
  refine (h s hi hs).bind fun r t ht => ?_
  cases r with
  | ok a => exact .ret (hok a) ht
  | error e =>
    refine (hhandler t ht.1 ht.2).bind fun r u hu => ?_
    cases r with
    | ok _ => exact .ret herror hu
    | error e' => exact .ret herror hu

/-- One transaction from a state with the assertion. -/
theorem Triple.commit {l : label} {y : ι → Tx ε σ α} (hsteady : Steady rely inv P) (hok : ∀ a, Steady rely inv (A a))
    (herror : Steady rely inv E) (h : ∀ s i, inv s → P s → guarantee s (y i s).2 ∧ inv (y i s).2 ∧
      match (y i s).1 with
      | .ok a => A a (y i s).2
      | .error _ => E (y i s).2) : Triple rely guarantee inv P (Script.commit l y) A E := by
  intro s hi hs
  refine .act (fun s => inv s ∧ P s) hsteady ⟨hi, hs⟩ fun t i ht => ?_
  obtain ⟨hstep, hinv, hpost⟩ := h t i ht.1 ht.2
  refine ⟨hstep, ?_⟩
  generalize (y i t).1 = r at hpost ⊢
  cases r with
  | ok a => exact .ret (hok a) ⟨hinv, hpost⟩
  | error e => exact .ret herror ⟨hinv, hpost⟩

end Triple

end Script

/-! ## Against a machine

An environment whose answers come from a machine of its own: the program runs to its end. -/

namespace Proc

variable {label ι σ τ α β : Type}

/-- The result, the state and the state of the environment after the whole program. -/
def respond (environment : label → τ → ι × τ) : Proc label ι σ α → σ → τ → α × σ × τ
  | .ret a, s, e => (a, s, e)
  | .act l effect next, s, e =>
    (next s (environment l e).1).respond environment (effect s (environment l e).1) (environment l e).2

theorem respond_bind (environment : label → τ → ι × τ) (p : Proc label ι σ α) (f : α → Proc label ι σ β) (s : σ) (e : τ) :
    (p.bind f).respond environment s e =
      (f (p.respond environment s e).1).respond environment (p.respond environment s e).2.1 (p.respond environment s e).2.2 := by
  induction p generalizing s e with
  | ret a => rfl
  | act l effect next ih => exact ih s _ _ _

/-- A program that returns goes on with its result. -/
theorem respond_next {environment : label → τ → ι × τ} {p : Proc label ι σ α} {f : α → Proc label ι σ β} {s s' : σ}
    {e e' : τ} {a : α} (h : p.respond environment s e = (a, s', e')) : (p.bind f).respond environment s e =
    (f a).respond environment s' e' := by
  rw [respond_bind, h]

/-- What every action keeps, the whole program keeps. -/
theorem Acts.respond {environment : label → τ → ι × τ} {step : label → σ → σ → Prop} {K : σ → τ → Prop}
    {p : Proc label ι σ α} (h : p.Acts step) (hK : ∀ l s s' e, step l s s' → K s e → K s' (environment l e).2) {s : σ}
    {e : τ} (hs : K s e) :
    K (p.respond environment s e).2.1 (p.respond environment s e).2.2 := by
  induction p generalizing s e with
  | ret a => exact hs
  | act l effect next ih => exact ih s _ (h.2 s _) (hK l s _ e (h.1 s _) hs)

end Proc

namespace Pool

variable {π κ label ι σ τ α : Type} [DecidableEq π] {program : π → κ → Proc label ι σ α}

/-- A process that is left alone goes through its program and returns. -/
theorem turns_respond (environment : label → τ → ι × τ) {p : π} {prog : Proc label ι σ α} {pool : Pool π label ι σ α}
    (h : pool.running p = some prog) (e : τ) :
    ReflTransGen (Turn program) pool
      ⟨(prog.respond environment pool.shared e).2.1, Function.update pool.running p none,
        pool.returned ++ [(p, (prog.respond environment pool.shared e).1)]⟩ := by
  induction prog generalizing pool e with
  | ret a => exact .single (.finish p h)
  | act l effect next ih =>
    have hturn : Turn program pool _ := .act p h (environment l e).1
    have hrest := @ih pool.shared (environment l e).1 { pool with
      shared := effect pool.shared (environment l e).1
      running := Function.update pool.running p (some (next pool.shared (environment l e).1)) }
      (Function.update_self p _ _) (environment l e).2
    rw [Function.update_idem] at hrest
    exact hrest.head hturn

end Pool

namespace Script

variable {label ε ι σ τ α β : Type} {environment : label → τ → ι × τ} {x : Script label ε ι σ α} {s s' : σ} {e e' : τ}

/-- The script against an environment. -/
def run (environment : label → τ → ι × τ) (x : Script label ε ι σ α) (s : σ) (e : τ) : Except ε α × σ × τ :=
  Proc.respond environment x s e

@[simp] theorem run_pure (a : α) : (pure a : Script label ε ι σ α).run environment s e = (.ok a, s, e) := rfl

@[simp] theorem run_check (r : Except ε α) : (Script.check r : Script label ε ι σ α).run environment s e = (r, s, e) := rfl

@[simp] theorem run_commit (l : label) (y : ι → Tx ε σ α) :
    (Script.commit l y).run environment s e =
      ((y (environment l e).1 s).1, (y (environment l e).1 s).2, (environment l e).2) := rfl

variable {f : α → Script label ε ι σ β}

theorem run_bind {a : α} (h : x.run environment s e = (.ok a, s', e')) : (x >>= f).run environment s e =
    (f a).run environment s' e' :=
  Proc.respond_next h

theorem run_bind_error {er : ε} (h : x.run environment s e = (.error er, s', e')) : (x >>= f).run environment s e =
    (.error er, s', e') :=
  Proc.respond_next h

/-- When a script returns, its first part has returned. -/
theorem run_bind_ok {b : β} {t : σ × τ} (h : (x >>= f).run environment s e = (.ok b, t)) :
    ∃ a s' e', x.run environment s e = (.ok a, s', e') ∧ (f a).run environment s' e' = (.ok b, t) := by
  rcases hx : x.run environment s e with ⟨er | a, s', e'⟩
  · rw [run_bind_error hx] at h
    cases h
  · rw [run_bind hx] at h
    exact ⟨a, s', e', rfl, h⟩

theorem run_mapError {f : ε → ε} {a : α} (h : x.run environment s e = (.ok a, s', e')) :
    (x.mapError f).run environment s e = (.ok a, s', e') :=
  Proc.respond_next h

theorem run_handle {handler : ε → Script label ε ι σ α} {a : α} (h : x.run environment s e = (.ok a, s', e')) :
    (x.handle handler).run environment s e = (.ok a, s', e') :=
  Proc.respond_next h

theorem run_handle_error {handler : ε → Script label ε ι σ α} {er : ε} (h : x.run environment s e = (.error er, s', e')) :
    (x.handle handler).run environment s e = (handler er).run environment s' e' :=
  Proc.respond_next h

/-- A script with a clean-up that returns has not used it. -/
theorem run_onError_ok {handler : Script label ε ι σ Unit} {a : α} {t : σ × τ}
    (h : (x.onError handler).run environment s e = (.ok a, t)) : x.run environment s e = (.ok a, t) := by
  rcases hx : x.run environment s e with ⟨er | b, s', e'⟩
  · rcases hh : handler.run environment s' e' with ⟨e₂ | ⟨⟩, t'⟩
    · have hraised : (x.onError handler).run environment s e = (.error e₂, t') := (Proc.respond_next hx).trans (Proc.respond_next hh)
      rw [hraised] at h
      cases h
    · have hraised : (x.onError handler).run environment s e = (.error er, t') := (Proc.respond_next hx).trans (Proc.respond_next hh)
      rw [hraised] at h
      cases h
  · have hreturned : (x.onError handler).run environment s e = (.ok b, s', e') := Proc.respond_next hx
    rw [hreturned] at h
    exact h

theorem Acts.run {step : label → σ → σ → Prop} {K : σ → τ → Prop} (h : Acts step x)
    (hK : ∀ l s s' e, step l s s' → K s e → K s' (environment l e).2) (hs : K s e) :
    K (x.run environment s e).2.1 (x.run environment s e).2.2 :=
  Proc.Acts.respond h hK hs

end Script

end Roundwright.Lib
