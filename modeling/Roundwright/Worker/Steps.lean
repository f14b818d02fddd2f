/-
The loop over the tool requests of a turn, against any turn and any callbacks: whatever they answer and whenever they
raise, the requests are executed in order, and every result is submitted between its two records. A turn that uses the
whole step budget and then answers is not read again.
-/
import Roundwright.Lib.Interference
import Roundwright.Lib.Prefix
import Roundwright.Lib.Watch
import Roundwright.Worker.Dispatch

namespace Roundwright.Worker

open Lib State Recovery Provider

/-! ## The loop -/

/-- The turn and the callbacks of `_consume_steps`. Every call may change the state and may raise; `except Exception`
catches what `isException` says. -/
structure StepCalls (ε σ : Type) where
  authorizeEffect : Tx ε σ Unit
  readStep : Tx ε σ NativeWorkerTurnStep
  /-- Nothing stands for an answer that is no `NativeWorkerToolResult`. -/
  execute : NativeWorkerToolRequest → Tx ε σ (Option NativeWorkerToolResult)
  submitToolResult : NativeWorkerToolResult → Tx ε σ Unit
  checkpointNextTurn : Tx ε σ String
  checkpointSubmission : Option (NativeWorkerToolRequest → NativeWorkerToolResult → SubmissionState → Option String → Tx ε σ Unit)
  protocolError : ε
  isException : ε → Bool

namespace StepCalls

variable {ε σ : Type} (c : StepCalls ε σ)

/-- A submission checkpoint with its authorization, when the caller has given one. -/
def record (request : NativeWorkerToolRequest) (result : NativeWorkerToolResult) (state : SubmissionState) (next : Option String) :
    Tx ε σ Unit :=
  match c.checkpointSubmission with
  | some checkpoint => do
    c.authorizeEffect
    checkpoint request result state next
  | none => pure ()

/-- The body of the `try`. -/
def handOver (result : NativeWorkerToolResult) : Tx ε σ String := do
  c.authorizeEffect
  c.submitToolResult result
  c.authorizeEffect
  c.checkpointNextTurn

/-- `_consume_steps` with the number of steps that are left. -/
def consumeSteps : Nat → Nat → Tx ε σ NativeWorkerResponse
  | 0, _ => Tx.check (.error c.protocolError)
  | left + 1, expected => do
    c.authorizeEffect
    match ← c.readStep with
    | .response response => return response
    | .request request => do
      Tx.check (refuse (request.sequence ≠ expected) c.protocolError)
      let answer ← c.execute request
      let result ← Tx.check (demand (answer.filter fun r => (r.sequence, r.tool) = (request.sequence, request.tool)) c.protocolError)
      c.record request result .intent none
      let next ← Tx.onError (c.handOver result) c.isException (c.record request result .uncertain none)
      c.record request result .submitted (some next)
      consumeSteps left (expected + 1)

end StepCalls

/-! ## What can be observed -/

/-- A call to the outside, with whether it returned. -/
inductive Observed where
  | executed (request : NativeWorkerToolRequest) (returned : Bool)
  | recorded (sequence : Nat) (state : SubmissionState) (next : Option String) (returned : Bool)
  | submitted (sequence : Nat) (returned : Bool)
  /-- The checkpoint of the next turn, with the identity it returned. -/
  | checkpointed (turn : Option String)

namespace Observed

def executed? : Observed → Option Nat
  | executed request _ => some request.sequence
  | _ => none

/-- The call has raised, or records that a submission has. -/
def failed : Observed → Bool
  | executed _ returned | submitted _ returned => !returned
  | recorded _ state _ returned => !returned || state = .uncertain
  | checkpointed turn => turn.isNone

end Observed

namespace StepCalls

variable {ε σ : Type} (c : StepCalls ε σ)

/-- The same calls, whose state also has the calls to the outside so far. -/
def watched : StepCalls ε (σ × List Observed) where
  authorizeEffect := Tx.unwatched c.authorizeEffect
  readStep := Tx.unwatched c.readStep
  execute request := Tx.watch (c.execute request) fun a => .executed request a.isSome
  submitToolResult result := Tx.watch (c.submitToolResult result) fun a => .submitted result.sequence a.isSome
  checkpointNextTurn := Tx.watch c.checkpointNextTurn .checkpointed
  checkpointSubmission := c.checkpointSubmission.map fun checkpoint request result state next =>
    Tx.watch (checkpoint request result state next) fun a => .recorded request.sequence state next a.isSome
  protocolError := c.protocolError
  isException := c.isException

/-- The caller has given a submission checkpoint. -/
def durable : Bool := c.checkpointSubmission.isSome

/-- The calls to the outside of one `_consume_steps`. -/
def observed (s : σ) : List Observed := (c.watched.consumeSteps maxToolSteps 1 (s, [])).2.2

end StepCalls

/-! ### Watching changes nothing -/

section Watching

open Tx (Shows shows_check shows_watch shows_unwatched)

variable {ε σ : Type} {c : StepCalls ε σ}

theorem shows_record (request : NativeWorkerToolRequest) (result : NativeWorkerToolResult) (state : SubmissionState)
    (next : Option String) : Shows (c.watched.record request result state next) (c.record request result state next) := by
  unfold StepCalls.record
  cases hc : c.checkpointSubmission with
  | none =>
    rw [show c.watched.checkpointSubmission = none by simp [StepCalls.watched, hc]]
    exact shows_check (.ok ())
  | some checkpoint =>
    rw [show c.watched.checkpointSubmission = some fun request result state next =>
      Tx.watch (checkpoint request result state next) fun a => .recorded request.sequence state next a.isSome by
        simp [StepCalls.watched, hc]]
    exact (shows_unwatched c.authorizeEffect).bind fun _ => shows_watch _ _

theorem shows_handOver (result : NativeWorkerToolResult) : Shows (c.watched.handOver result) (c.handOver result) := by
  have hauthorize : Shows c.watched.authorizeEffect c.authorizeEffect := shows_unwatched _
  have hsubmit : Shows (c.watched.submitToolResult result) (c.submitToolResult result) := shows_watch _ _
  have hnext : Shows c.watched.checkpointNextTurn c.checkpointNextTurn := shows_watch _ _
  exact hauthorize.bind fun _ => hsubmit.bind fun _ => hauthorize.bind fun _ => hnext

/-- The loop over the watched calls returns what the loop returns and leaves the same state. -/
theorem shows_consumeSteps (left expected : Nat) : Shows (c.watched.consumeSteps left expected) (c.consumeSteps left expected) := by
  induction left generalizing expected with
  | zero => exact shows_check _
  | succ left ih =>
    have hauthorize : Shows c.watched.authorizeEffect c.authorizeEffect := shows_unwatched _
    have hread : Shows c.watched.readStep c.readStep := shows_unwatched _
    refine hauthorize.bind fun _ => hread.bind fun step => ?_
    cases step with
    | response response => exact shows_check (.ok response)
    | request request =>
      have hexecute : Shows (c.watched.execute request) (c.execute request) := shows_watch _ _
      refine (shows_check _).bind fun _ => hexecute.bind fun answer => (shows_check _).bind fun result => ?_
      refine (shows_record request result .intent none).bind fun _ => ?_
      refine Shows.bind ((shows_handOver result).onError (shows_record request result .uncertain none)) fun next => ?_
      exact (shows_record request result .submitted (some next)).bind fun _ => ih (expected + 1)

end Watching

variable {request : NativeWorkerToolRequest}

/-! ## The order of the calls -/

section Order

variable {durable : Bool} {log before after : List Observed} {o : Observed} {k n : Nat}

/-- What the calls before a call are: an execution comes after no failure and has the next number, a submission comes
after the intent, and the record of a submission comes right after the submission and the checkpoint of its next
turn. -/
def Observed.Due (durable : Bool) (before : List Observed) : Observed → Prop
  | executed request _ => before.filterMap executed? = List.range' 1 (request.sequence - 1) ∧ 1 ≤ request.sequence ∧
      request.sequence ≤ maxToolSteps ∧ ∀ o ∈ before, o.failed = false
  | submitted k _ => durable = true → .recorded k .intent none true ∈ before
  | recorded k .submitted next _ => ∃ turn, next = some turn ∧ [.submitted k true, .checkpointed (some turn)] <:+ before
  | _ => True

/-- The protocol of the tool steps, with durable records or without. -/
structure Ordered (durable : Bool) (log : List Observed) : Prop where
  numbered : ∃ n ≤ maxToolSteps, log.filterMap Observed.executed? = List.range' 1 n
  intended : durable = true → ∀ before k returned after, log = before ++ .submitted k returned :: after →
    .recorded k .intent none true ∈ before
  checkpointed : ∀ before k next returned after, log = before ++ .recorded k .submitted next returned :: after →
    ∃ turn, next = some turn ∧ [.submitted k true, .checkpointed (some turn)] <:+ before
  stopped : ∀ before request returned after, log = before ++ .executed request returned :: after → ∀ o ∈ before, o.failed = false

theorem range'_succ_end (n : Nat) : List.range' 1 (n + 1) = List.range' 1 n ++ [n + 1] := by
  rw [List.range'_concat, Nat.one_mul, Nat.add_comm 1 n]

theorem numbered_of_due (h : Prefixwise (Observed.Due durable) log) :
    ∃ n ≤ maxToolSteps, log.filterMap Observed.executed? = List.range' 1 n := by
  induction log using List.reverseRecOn with
  | nil => exact ⟨0, Nat.zero_le _, rfl⟩
  | append_singleton log o ih =>
    obtain ⟨hlog, ho⟩ := prefixwise_append.1 h
    cases o with
    | executed request returned =>
      obtain ⟨hbefore, hpos, hbound, -⟩ := ho
      refine ⟨request.sequence, hbound, ?_⟩
      obtain ⟨n, hn⟩ := Nat.exists_eq_add_of_le' hpos
      rw [List.filterMap_append, hbefore, hn, Nat.add_sub_cancel, range'_succ_end]
      simp [Observed.executed?, hn]
    | recorded | submitted | checkpointed =>
      obtain ⟨n, hn, hnumbers⟩ := ih hlog
      exact ⟨n, hn, by rw [List.filterMap_append, hnumbers]; exact List.append_nil _⟩

theorem ordered_of_due (h : Prefixwise (Observed.Due durable) log) : Ordered durable log where
  numbered := numbered_of_due h
  intended hdurable _ _ _ _ hlog := h.of_append hlog hdurable
  checkpointed _ _ _ _ _ hlog := h.of_append hlog
  stopped _ _ _ _ hlog := (h.of_append hlog).2.2.2

/-! ### The stages of a step -/

/-- The calls of a loop that has executed some requests and in which nothing has failed. -/
structure Stage (durable : Bool) (done : Nat) (log : List Observed) : Prop where
  due : Prefixwise (Observed.Due durable) log
  numbers : log.filterMap Observed.executed? = List.range' 1 done
  clean : ∀ o ∈ log, o.failed = false

theorem Stage.start : Stage durable 0 [] := ⟨prefixwise_nil, rfl, by simp⟩

/-- A call that is due, whether it returns or not. -/
theorem Stage.fails (h : Stage durable n log) (ho : o.Due durable log) : Prefixwise (Observed.Due durable) (log ++ [o]) :=
  prefixwise_append.2 ⟨h.due, ho⟩

theorem Stage.snoc (h : Stage durable n log) (ho : o.Due durable log) (hreturned : o.failed = false) :
    Stage durable (n + o.executed?.toList.length) (log ++ [o]) where
  due := h.fails ho
  numbers := by
    cases o with
    | executed request returned =>
      obtain ⟨hbefore, hpos, -⟩ := ho
      have hn : request.sequence - 1 = n := by
        have hlength := congrArg List.length (hbefore.symm.trans h.numbers)
        simpa using hlength
      rw [List.filterMap_append, h.numbers]
      show _ = List.range' 1 (n + 1)
      rw [range'_succ_end, ← hn, Nat.sub_add_cancel hpos]
      rfl
    | recorded | submitted | checkpointed =>
      rw [List.filterMap_append, h.numbers]
      exact List.append_nil _
  clean := by
    simp only [List.mem_append, List.mem_singleton, or_imp, forall_and, forall_eq]
    exact ⟨h.clean, hreturned⟩

/-- The request with the next number may be executed. -/
theorem Stage.next (h : Stage durable n log) (hn : request.sequence = n + 1)
    (hbound : n < maxToolSteps) (returned : Bool) : (Observed.executed request returned).Due durable log := by
  refine ⟨?_, by omega, by omega, h.clean⟩
  rw [hn, Nat.add_sub_cancel]
  exact h.numbers

end Order

variable {result : NativeWorkerToolResult}

/-! ### The loop keeps the order

What every exception leaves behind is a log in which every call was due. -/

section Loop

variable {ε σ α : Type} {c : StepCalls ε σ} {n k : Nat}

theorem record_triple {P Q E : List Observed → Prop}
    {state : SubmissionState} {next : Option String} (hauthorize : ∀ log, P log → E log)
    (hskipped : c.durable = false → ∀ log, P log → Q log)
    (hrecorded : c.durable = true → ∀ log, P log → Q (log ++ [.recorded request.sequence state next true]))
    (hfailed : c.durable = true → ∀ log, P log → E (log ++ [.recorded request.sequence state next false])) :
    Tx.Triple (fun s => P s.2) (c.watched.record request result state next) (fun _ s => Q s.2) fun _ s => E s.2 := by
  unfold StepCalls.record
  cases hc : c.checkpointSubmission with
  | none =>
    rw [show c.watched.checkpointSubmission = none by simp [StepCalls.watched, hc]]
    exact Tx.Triple.pure fun s hs => hskipped (by simp [StepCalls.durable, hc]) s.2 hs
  | some checkpoint =>
    have hdurable : c.durable = true := by simp [StepCalls.durable, hc]
    rw [show c.watched.checkpointSubmission = some fun request result state next =>
      Tx.watch (checkpoint request result state next) fun a => .recorded request.sequence state next a.isSome by
        simp [StepCalls.watched, hc]]
    refine Tx.Triple.bind (Q := fun _ s => P s.2) ?_ fun _ => ?_
    · exact Tx.unwatched_triple.mono (fun _ hs => hs) (fun _ _ hs => hs) fun _ s hs => hauthorize s.2 hs
    · exact Tx.watch_triple (Q := fun _ => Q) (fun _ log hs => hrecorded hdurable log hs) fun log hs => hfailed hdurable log hs

/-- The intent of the step is recorded. -/
structure IntentRecorded (durable : Bool) (k : Nat) (log : List Observed) : Prop where
  stage : Stage durable k log
  intent : durable = true → .recorded k .intent none true ∈ log

/-- The result was submitted, and then the next turn checkpointed. -/
structure Handed (durable : Bool) (k : Nat) (turn : String) (log : List Observed) : Prop where
  stage : Stage durable k log
  last : [.submitted k true, .checkpointed (some turn)] <:+ log

theorem intent_triple (hk : request.sequence = k) :
    Tx.Triple (fun s => Stage c.durable k s.2) (c.watched.record request result .intent none)
    (fun _ s => IntentRecorded c.durable k s.2)
      fun _ s => Prefixwise (Observed.Due c.durable) s.2 := by
  subst hk
  refine record_triple (fun _ h => h.due) (fun hdurable log h => ⟨h, fun h' => ?_⟩) (fun _ log h => ⟨?_, fun _ => ?_⟩)
    fun _ log h => ?_
  · rw [hdurable] at h'
    cases h'
  · exact h.snoc (o := .recorded _ .intent none true) trivial rfl
  · exact List.mem_append_right _ (List.mem_singleton_self _)
  · exact h.fails (o := .recorded _ .intent none false) trivial

/-- The result was submitted. -/
structure Submitted (durable : Bool) (k : Nat) (log : List Observed) : Prop where
  stage : Stage durable k log
  last : [.submitted k true] <:+ log

theorem submit_triple (hk : result.sequence = k) :
    Tx.Triple (fun s => IntentRecorded c.durable k s.2) (c.watched.submitToolResult result) (fun _ s => Submitted c.durable k s.2)
      fun _ s => Prefixwise (Observed.Due c.durable) s.2 := by
  subst hk
  show Tx.Triple _ (Tx.watch (c.submitToolResult result) fun a => Observed.submitted result.sequence a.isSome) _ _
  refine Tx.watch_triple (P := IntentRecorded c.durable result.sequence)
    (Q := fun _ => Submitted c.durable result.sequence) (E := Prefixwise (Observed.Due c.durable))
      (fun _ log h => ⟨?_, List.suffix_append _ _⟩) fun log h => ?_
  · exact h.stage.snoc (o := .submitted _ true) h.intent rfl
  · exact h.stage.fails (o := .submitted _ false) h.intent

theorem checkpoint_triple :
    Tx.Triple (fun s => Submitted c.durable k s.2) c.watched.checkpointNextTurn (fun turn s => Handed c.durable k turn s.2)
      fun _ s => Prefixwise (Observed.Due c.durable) s.2 := by
  show Tx.Triple _ (Tx.watch c.checkpointNextTurn Observed.checkpointed) _ _
  refine Tx.watch_triple (P := Submitted c.durable k) (Q := Handed c.durable k)
    (E := Prefixwise (Observed.Due c.durable)) (fun turn log h => ⟨?_, ?_⟩) fun log h => ?_
  · exact h.stage.snoc (o := .checkpointed (some turn)) trivial rfl
  · obtain ⟨earlier, hlog⟩ := h.last
    exact ⟨earlier, by rw [← hlog, List.append_assoc]; rfl⟩
  · exact h.stage.fails (o := .checkpointed none) trivial

theorem execute_triple (hn : request.sequence = n + 1) (hlt : n < maxToolSteps) :
    Tx.Triple (fun s => Stage c.durable n s.2) (c.watched.execute request) (fun _ s => Stage c.durable (n + 1) s.2)
      fun _ s => Prefixwise (Observed.Due c.durable) s.2 := by
  show Tx.Triple _ (Tx.watch (c.execute request) fun a => Observed.executed request a.isSome) _ _
  refine Tx.watch_triple (P := Stage c.durable n) (Q := fun _ => Stage c.durable (n + 1))
    (E := Prefixwise (Observed.Due c.durable)) (fun _ log h => ?_) fun log h => ?_
  · exact h.snoc (o := .executed request true) (h.next hn hlt true) rfl
  · exact h.fails (o := .executed request false) (h.next hn hlt false)

/-- An authorization is not watched, and a denied one leaves the log as it is. -/
theorem authorize_triple {P E : List Observed → Prop} (hPE : ∀ log, P log → E log) :
    Tx.Triple (fun s => P s.2) c.watched.authorizeEffect (fun _ s => P s.2) fun _ s => E s.2 :=
  Tx.unwatched_triple.mono (fun _ h => h) (fun _ _ h => h) fun _ s h => hPE s.2 h

theorem handOver_triple (hk : result.sequence = k) :
    Tx.Triple (fun s => IntentRecorded c.durable k s.2) (c.watched.handOver result) (fun turn s => Handed c.durable k turn s.2)
      fun _ s => Prefixwise (Observed.Due c.durable) s.2 :=
  (authorize_triple fun _ h => h.stage.due).bind fun _ => (submit_triple hk).bind fun _ =>
    (authorize_triple fun _ h => h.stage.due).bind fun _ => checkpoint_triple

theorem submitted_triple {turn : String}
    (hk : request.sequence = k) :
    Tx.Triple (fun s => Handed c.durable k turn s.2) (c.watched.record request result .submitted (some turn))
      (fun _ s => Stage c.durable k s.2) fun _ s => Prefixwise (Observed.Due c.durable) s.2 := by
  subst hk
  have hdue : ∀ {log : List Observed} (returned : Bool), Handed c.durable request.sequence turn log →
      (Observed.recorded request.sequence .submitted (some turn) returned).Due c.durable log := fun _ h => ⟨turn, rfl, h.last⟩
  exact record_triple (fun _ h => h.stage.due) (fun _ _ h => h.stage) (fun _ _ h => h.stage.snoc (hdue true h) rfl)
    fun _ _ h => h.stage.fails (hdue false h)

/-- However the loop ends, every call it has made was due. The induction is on the steps that are left. -/
theorem consumeSteps_triple (left : Nat) (hbound : n + left = maxToolSteps) :
    Tx.Triple (fun s => Stage c.durable n s.2) (c.watched.consumeSteps left (n + 1))
      (fun _ s => Prefixwise (Observed.Due c.durable) s.2) fun _ s => Prefixwise (Observed.Due c.durable) s.2 := by
  induction left generalizing n with
  | zero => exact Tx.Triple.check (fun _ _ s h => h.due) fun _ _ s h => h.due
  | succ left ih =>
    have hlt : n < maxToolSteps := by omega
    rw [StepCalls.consumeSteps]
    refine (authorize_triple fun _ h => h.due).bind fun _ => ?_
    refine Tx.Triple.bind (Q := fun _ s => Stage c.durable n s.2) ?_ fun step => ?_
    · exact Tx.unwatched_triple.mono (fun _ h => h) (fun _ _ h => h) fun _ s h => h.due
    cases step with
    | response response => exact Tx.Triple.pure fun _ h => h.due
    | request request =>
      refine Tx.Triple.bind (Q := fun _ s => request.sequence = n + 1 ∧ Stage c.durable n s.2) ?_ fun _ => ?_
      · exact Tx.Triple.check (fun _ hok s h => ⟨not_not.1 (refuse_eq_ok.1 hok), h⟩) fun _ _ s h => h.due
      refine Tx.Triple.of_and fun hrequest => (execute_triple hrequest hlt).bind fun answer => ?_
      refine Tx.Triple.bind (Q := fun result s => result.sequence = n + 1 ∧ Stage c.durable (n + 1) s.2) ?_ fun result => ?_
      · refine Tx.Triple.check (fun result hok s h => ⟨?_, h⟩) fun _ _ s h => h.due
        obtain ⟨-, hmatches⟩ := Option.filter_eq_some_iff.1 (demand_eq_ok.1 hok)
        have hpair : (result.sequence, result.tool) = (request.sequence, request.tool) := of_decide_eq_true hmatches
        exact (Prod.mk.inj hpair).1.trans hrequest
      refine Tx.Triple.of_and fun hresult => (intent_triple hrequest).bind fun _ => Tx.Triple.bind ?_ fun turn =>
        (submitted_triple hrequest).bind fun _ => ih (by omega)
      -- a failure before the next turn is recorded, and raised again
      refine (handOver_triple hresult).onError (fun _ _ _ h => h) fun e _ => ?_
      exact record_triple (fun _ h => h) (fun _ _ h => h) (fun _ log h => prefixwise_append.2 ⟨h, trivial⟩)
        fun _ log h => prefixwise_append.2 ⟨h, trivial⟩

/-- The calls of every `_consume_steps` are in order. -/
theorem ordered_observed (c : StepCalls ε σ) (s : σ) : Ordered c.durable (c.observed s) :=
  ordered_of_due ((consumeSteps_triple maxToolSteps (Nat.zero_add _)).state Stage.start)

end Loop

/-! ## Turns that answer -/

namespace StepCalls

variable {ε σ : Type} (c : StepCalls ε σ)

/-- One correct exchange: the turn asks for the tool with the expected number, and every callback and the submission
succeed. -/
inductive Exchange (expected : Nat) (s s' : σ) : Prop
  | mk {s₁ s₂ s₃ s₄ s₅ : σ} {request : NativeWorkerToolRequest} {result : NativeWorkerToolResult} {turn : String}
      (authorized : c.authorizeEffect s = (.ok (), s₁))
      (read : c.readStep s₁ = (.ok (.request request), s₂))
      (numbered : request.sequence = expected)
      (executed : c.execute request s₂ = (.ok (some result), s₃))
      (replied : result.sequence = request.sequence ∧ result.tool = request.tool)
      (intended : c.record request result .intent none s₃ = (.ok (), s₄))
      (handed : c.handOver result s₄ = (.ok turn, s₅))
      (acknowledged : c.record request result .submitted (some turn) s₅ = (.ok (), s'))

/-- From this state the turn makes this many correct exchanges and then delivers a response. -/
def Delivers (response : NativeWorkerResponse) : Nat → Nat → σ → Prop
  | 0, _, s => ∃ s₁ s₂, c.authorizeEffect s = (.ok (), s₁) ∧ c.readStep s₁ = (.ok (.response response), s₂)
  | n + 1, expected, s => ∃ s', c.Exchange expected s s' ∧ Delivers response n (expected + 1) s'

/-- The tool-step protocol of a turn: its calls are in order, and a response after at most the budget of requests is
returned. -/
def StepProtocol (s : σ) : Prop :=
  Ordered c.durable (c.observed s) ∧
    ∀ n ≤ maxToolSteps, ∀ response, c.Delivers response n 1 s → (c.consumeSteps maxToolSteps 1 s).1 = .ok response

variable {c} {s s' : σ} {n left expected : Nat} {response : NativeWorkerResponse}

theorem Exchange.pass (h : c.Exchange expected s s') :
    c.consumeSteps (left + 1) expected s = c.consumeSteps left (expected + 1) s' := by
  obtain @⟨s₁, s₂, s₃, s₄, s₅, request, result, turn, authorized, read, rfl, executed, replied, intended, handed, acknowledged⟩ := h
  have hmatches : (some result).filter (fun r => (r.sequence, r.tool) = (request.sequence, request.tool)) = some result := by
    simp [Option.filter, replied]
  have hsubmitted : (c.handOver result).onError c.isException (c.record request result .uncertain none) s₄ = (.ok turn, s₅) := by
    simp only [Tx.onError, handed]
  rw [consumeSteps]
  simp only [Bind.bind, authorized, read, Tx.check, refuse_of_not (not_not.2 rfl), executed, hmatches, demand, intended,
    hsubmitted, acknowledged]

theorem Delivers.returned (h : c.Delivers response n expected s) (hn : n < left) :
    (c.consumeSteps left expected s).1 = .ok response := by
  induction n generalizing left expected s with
  | zero =>
    obtain ⟨s₁, s₂, authorized, read⟩ := h
    obtain ⟨left, rfl⟩ := Nat.exists_eq_add_of_le' hn
    rw [consumeSteps]
    simp only [Bind.bind, authorized, read]
    rfl
  | succ n ih =>
    obtain ⟨s', hexchange, hrest⟩ := h
    obtain ⟨left, rfl⟩ := Nat.exists_eq_add_of_le' (Nat.zero_lt_of_lt hn)
    rw [hexchange.pass]
    exact ih hrest (by omega)

/-- A response after as many requests as there are steps is not read. -/
theorem Delivers.exhausted (h : c.Delivers response n expected s) : (c.consumeSteps n expected s).1 = .error c.protocolError := by
  induction n generalizing expected s with
  | zero => rfl
  | succ n ih =>
    obtain ⟨s', hexchange, hrest⟩ := h
    rw [hexchange.pass]
    exact ih hrest

end StepCalls

/-- Every turn is consumed by the protocol, except those that use the whole budget of steps before they answer. -/
theorem consume_steps_exact {ε σ : Type} (c : StepCalls ε σ) (s : σ) :
    c.StepProtocol s ↔ ¬ ∃ response, c.Delivers response maxToolSteps 1 s := by
  constructor
  · rintro ⟨-, hreturns⟩ ⟨response, hdelivers⟩
    have hreturned := hreturns maxToolSteps (Nat.le_refl _) response hdelivers
    rw [hdelivers.exhausted] at hreturned
    cases hreturned
  · intro hspare
    refine ⟨ordered_observed c s, fun n hn response hdelivers => hdelivers.returned (Nat.lt_of_le_of_ne hn ?_)⟩
    rintro rfl
    exact hspare ⟨response, hdelivers⟩

namespace Sample

/-- A turn that reads one file after the other and then ends; its state is the number of results it has. -/
def reader (total : Nat) : StepCalls Unit Nat where
  authorizeEffect := pure ()
  readStep := Tx.query fun k =>
    .ok (if k < total then .request ⟨k + 1, .workspaceRead, some "README.md", none, none⟩ else .response .incomplete)
  execute request := pure (some ⟨request.sequence, request.tool, .denied, .none, none⟩)
  submitToolResult _ := Tx.write fun k => .ok (k + 1)
  checkpointNextTurn := pure "turn"
  checkpointSubmission := some fun _ _ _ _ => pure ()
  protocolError := ()
  isException _ := true

theorem reader_delivers (total n : Nat) (hn : n ≤ total) : (reader total).Delivers .incomplete n (total - n + 1) (total - n) := by
  induction n with
  | zero => exact ⟨total, total, rfl, by simp [reader, Tx.query]⟩
  | succ n ih =>
    refine ⟨total - n, ?_, ?_⟩
    · have hlt : total - (n + 1) < total := by omega
      have hnext : total - (n + 1) + 1 = total - n := by omega
      have hread : (reader total).readStep (total - (n + 1)) =
          (.ok (.request ⟨total - (n + 1) + 1, .workspaceRead, some "README.md", none, none⟩), total - (n + 1)) := by
        simp [reader, Tx.query, hlt]
      have hhanded : (reader total).handOver ⟨total - (n + 1) + 1, .workspaceRead, .denied, .none, none⟩
          (total - (n + 1)) = (.ok "turn", total - n) := by
        rw [← hnext]
        rfl
      exact .mk rfl hread rfl rfl ⟨rfl, rfl⟩ rfl hhanded rfl
    · have hnext : total - (n + 1) + 1 = total - n := by omega
      rw [hnext]
      exact ih (by omega)

end Sample

open Sample in
/-- A turn that reads 32 files, each with success, and then answers: the loop raises its protocol error. -/
theorem last_answer_unread : ¬ (reader 32).StepProtocol 0 := by
  rintro ⟨-, hreturns⟩
  have hdelivers : (reader 32).Delivers .incomplete maxToolSteps 1 0 := reader_delivers 32 32 (Nat.le_refl _)
  have hreturned := hreturns maxToolSteps (Nat.le_refl _) .incomplete hdelivers
  rw [hdelivers.exhausted] at hreturned
  cases hreturned

/-! ## The loop of a coding dispatch

The coding dispatch runs the same loop over its own callbacks. What it keeps in memory is a part of the state here. -/

section Dispatch

attribute [local instance] Tx.lawfulMonad

variable {τ α β γ : Type} (environment : Ask → τ → Reply × τ)

/-- A program of the dispatch that leaves the memory alone. -/
def answered (x : Program α) : Tx Raised (World × τ × Memory) α := fun (w, e, m) =>
  let (result, w', e') := x.run environment w e
  (result, w', e', m)

/-- A program of the dispatch that returns what is to be remembered. -/
def remembering (x : Memory → Program β) (memory : β → Memory) (value : β → α) : Tx Raised (World × τ × Memory) α := fun (w, e, m) =>
  match (x m).run environment w e with
  | (.ok b, w', e') => (.ok (value b), w', e', memory b)
  | (.error raised, w', e') => (.error raised, w', e', m)

variable (host : Host) (self : Nat) {taskId attemptId : String} (call : Call taskId attemptId) (session : String)

/-- The calls of `_consume_steps` in a coding dispatch. -/
def codingCalls : StepCalls Raised (World × τ × Memory) where
  authorizeEffect := answered environment admitEffect
  readStep := answered environment (ask .readStep (·.step))
  execute request := fun s => answered environment (some <$> authorizedToolRequest host self call s.2.2 request) s
  submitToolResult result := answered environment (require (.submit result))
  checkpointNextTurn := remembering environment (fun m => do
    let next ← identityOf .turnIdentity "turn"
    let m ← recordTurn host call m session next
    return (m, next)) Prod.fst Prod.snd
  checkpointSubmission := some fun request _ state next =>
    remembering environment (fun m => submission self taskId attemptId m request.sequence state next) id fun _ => ()
  protocolError := .protocol
  isException _ := true

variable {environment host self call session} {m : Memory}

/-- With this memory the program of the dispatch does what the program over the whole state does. -/
def Carries (environment : Ask → τ → Reply × τ) (m : Memory) (x : Program α) (y : Tx Raised (World × τ × Memory) α) : Prop :=
  ∀ w e, x.run environment w e = ((y (w, e, m)).1, (y (w, e, m)).2.1, (y (w, e, m)).2.2.1)

theorem carries_check (r : Except Raised α) : Carries environment m (Script.check r) (Tx.check r) := fun _ _ => rfl

variable {f : β → Program α}

theorem carries_check_bind {r : Except Raised β} {g : β → Tx Raised (World × τ × Memory) α}
    (h : ∀ b, Carries environment m (f b) (g b)) : Carries environment m (Script.check r >>= f) (Tx.check r >>= g) := by
  intro w e
  cases r with
  | error raised => rfl
  | ok b => exact h b w e

theorem carries_answered_bind {x : Program β} {g : β → Tx Raised (World × τ × Memory) α}
    (h : ∀ b, Carries environment m (f b) (g b)) : Carries environment m (x >>= f) (answered environment x >>= g) := by
  intro w e
  rcases hx : x.run environment w e with ⟨raised | b, w', e'⟩
  · rw [Script.run_bind_error hx]
    simp only [Bind.bind, answered, hx]
  · rw [Script.run_bind hx, h b w' e']
    simp only [Bind.bind, answered, hx]

theorem carries_remembering_bind {x : Memory → Program β} {memory : β → Memory} {value : β → γ}
    {g : γ → Tx Raised (World × τ × Memory) α} (h : ∀ b, Carries environment (memory b) (f b) (g (value b))) :
    Carries environment m (x m >>= f) (remembering environment x memory value >>= g) := by
  intro w e
  rcases hx : (x m).run environment w e with ⟨raised | b, w', e'⟩
  · rw [Script.run_bind_error hx]
    simp only [Bind.bind, remembering, hx]
  · rw [Script.run_bind hx, h b w' e']
    simp only [Bind.bind, remembering, hx]

/-- A `try` whose handler raises the exception again. -/
theorem carries_onError_bind {x : Memory → Program β} {memory : β → Memory} {value : β → γ}
    {g : γ → Tx Raised (World × τ × Memory) α} {cleanup : Program Unit} {handler : Tx Raised (World × τ × Memory) Unit}
    (hh : Carries environment m cleanup handler) (h : ∀ b, Carries environment (memory b) (f b) (g (value b))) :
    Carries environment m (Script.onError (x m) cleanup >>= f)
      (Tx.onError (remembering environment x memory value) (fun _ => true) handler >>= g) := by
  intro w e
  rcases hx : (x m).run environment w e with ⟨raised | b, w', e'⟩
  · have hcleanup := hh w' e'
    rcases hc : handler (w', e', m) with ⟨again | ⟨⟩, w'', e'', m''⟩
    · rw [hc] at hcleanup
      have hraised : (Script.onError (x m) cleanup).run environment w e = (.error again, w'', e'') :=
        (Proc.respond_next hx).trans (Proc.respond_next hcleanup)
      rw [Script.run_bind_error hraised]
      simp [Bind.bind, Tx.onError, remembering, hx, hc]
    · rw [hc] at hcleanup
      have hraised : (Script.onError (x m) cleanup).run environment w e = (.error raised, w'', e'') :=
        (Proc.respond_next hx).trans (Proc.respond_next hcleanup)
      rw [Script.run_bind_error hraised]
      simp [Bind.bind, Tx.onError, Tx.check, remembering, hx, hc]
  · have hreturned : (Script.onError (x m) cleanup).run environment w e = (.ok b, w', e') := Proc.respond_next hx
    rw [Script.run_bind hreturned, h b w' e']
    simp only [Bind.bind, Tx.onError, remembering, hx]

/-- What comes before the statement that is remembered leaves the memory alone. -/
theorem answered_remembering {x : Program γ} {y : Memory → Program β} {memory : β → Memory} {value : β → α} :
    (answered environment x >>= fun _ => remembering environment y memory value) =
      remembering environment (fun m => x >>= fun _ => y m) memory value := by
  funext ⟨w, e, m⟩
  have hremembered : ∀ r : Except Raised β × World × τ, (x >>= fun _ => y m).run environment w e = r →
      remembering environment (fun m => x >>= fun _ => y m) memory value (w, e, m) = match r with
        | (.ok b, w', e') => (.ok (value b), w', e', memory b)
        | (.error raised, w', e') => (.error raised, w', e', m) := by
    rintro _ rfl
    rfl
  rcases hx : x.run environment w e with ⟨raised | c, w', e'⟩
  · rw [hremembered _ (Script.run_bind_error hx)]
    simp only [Bind.bind, answered, hx]
  · rw [hremembered _ (Script.run_bind hx)]
    simp only [Bind.bind, answered, remembering, hx]

variable {request : NativeWorkerToolRequest}

/-- A submission checkpoint of the dispatch, whose memory goes on to the rest. -/
theorem carries_record_bind {state : SubmissionState} {next : Option String}
    {f : Memory → Program α} {g : Unit → Tx Raised (World × τ × Memory) α} (h : ∀ m, Carries environment m (f m) (g ()))
    :
    Carries environment m (do
        admitEffect
        let m ← submission self taskId attemptId m request.sequence state next
        f m) ((codingCalls environment host self call session).record request result state next >>= g) := by
  show Carries environment m _ (answered environment admitEffect >>= (fun _ =>
    remembering environment (fun m => submission self taskId attemptId m request.sequence state next) id fun _ => ()) >>= g)
  rw [bind_assoc]
  refine carries_answered_bind fun _ => ?_
  exact carries_remembering_bind (x := fun m => submission self taskId attemptId m request.sequence state next) h

/-- The handler of a failed submission. -/
theorem carries_uncertain :
    Carries environment m (do
        admitEffect
        let _ ← submission self taskId attemptId m request.sequence .uncertain none)
      ((codingCalls environment host self call session).record request result .uncertain none) := by
  rw [← bind_pure ((codingCalls environment host self call session).record request result .uncertain none)]
  exact carries_record_bind fun _ => carries_check (.ok ())

theorem codingCalls_handOver (result : NativeWorkerToolResult) : (codingCalls environment host self call session).handOver result =
    remembering environment (fun m => submitResult host call m session result) Prod.fst Prod.snd := by
  unfold submitResult
  rw [← answered_remembering, ← answered_remembering, ← answered_remembering]
  rfl

/-- The reply of the callback is always a result, so its check is the comparison with the request. -/
theorem carries_execute_bind {f : NativeWorkerToolResult → Program α}
    {g : NativeWorkerToolResult → Tx Raised (World × τ × Memory) α} (h : ∀ result, Carries environment m (f result) (g result)) :
    Carries environment m (do
        let result ← authorizedToolRequest host self call m request
        Script.check (refuse ((result.sequence, result.tool) ≠ (request.sequence, request.tool)) .protocol)
        f result) (do
        let answer ← (codingCalls environment host self call session).execute request
        let result ← Tx.check (demand (answer.filter fun r => (r.sequence, r.tool) = (request.sequence, request.tool))
          Raised.protocol)
        g result) := by
  intro w e
  rcases hx : (authorizedToolRequest host self call m request).run environment w e with ⟨raised | result, w', e'⟩
  · rw [Script.run_bind_error hx]
    have hanswer : (codingCalls environment host self call session).execute request (w, e, m) = (.error raised, w', e', m) := by
      have hmap : (some <$> authorizedToolRequest host self call m request).run environment w e = (.error raised, w', e') :=
        Script.run_bind_error hx
      simp only [codingCalls, answered, hmap]
    simp only [Bind.bind, hanswer]
  · rw [Script.run_bind hx]
    have hanswer : (codingCalls environment host self call session).execute request (w, e, m) = (.ok (some result), w', e', m) := by
      have hmap : (some <$> authorizedToolRequest host self call m request).run environment w e = (.ok (some result), w', e') :=
        Script.run_bind hx
      simp only [codingCalls, answered, hmap]
    simp only [Bind.bind, hanswer]
    by_cases hmatches : (result.sequence, result.tool) = (request.sequence, request.tool)
    · rw [refuse_of_not (not_not.2 hmatches), show (some result).filter
        (fun r => (r.sequence, r.tool) = (request.sequence, request.tool)) = some result by simp [Option.filter, hmatches]]
      exact h result w' e'
    · rw [show refuse ((result.sequence, result.tool) ≠ (request.sequence, request.tool)) Raised.protocol = .error .protocol from
        if_pos hmatches, show (some result).filter (fun r => (r.sequence, r.tool) = (request.sequence, request.tool)) = none by
          simp [Option.filter, hmatches]]
      rfl

/-- The loop of a coding dispatch is `_consume_steps` over its callbacks. -/
theorem run_consumeSteps (left expected : Nat) (m : Memory) :
    Carries environment m (consumeSteps host self call session left expected m)
      ((codingCalls environment host self call session).consumeSteps left expected) := by
  induction left generalizing expected m with
  | zero => exact carries_check _
  | succ left ih =>
    rw [consumeSteps, StepCalls.consumeSteps]
    refine carries_answered_bind fun _ => carries_answered_bind fun step => ?_
    cases step with
    | response response => exact carries_check (.ok response)
    | request request =>
      refine carries_check_bind fun _ => carries_execute_bind fun result => ?_
      refine carries_record_bind fun m => ?_
      rw [codingCalls_handOver]
      refine carries_onError_bind (x := fun m => submitResult host call m session result) carries_uncertain fun handed => ?_
      exact carries_record_bind fun m => ih (expected + 1) m

end Dispatch

end Roundwright.Worker
