/-
A coding dispatch against one conversation: the backend opens a session, asks for its tools one after the other and
starts a fresh turn with every result that it is handed, and it ends in an accepted response. The attempt of the
provider admits one turn, so the turn after the first result cannot be checkpointed: a dispatch completes when its
conversation asks for no tool.
-/
import Roundwright.Worker.Dispatch
import Roundwright.Lib.Interference
import Roundwright.Provider.Machine

namespace Roundwright.Worker

open Lib State Recovery Provider

/-! ## One turn of an attempt -/

section Provider

variable {host : Host} {identity : TaskIdentity} {c : RecoveryContext} {attemptId session turn other : String}
  {lease : Option TransitionLease} {observed : Int} {s s' : Recovery.Store}

theorem recordExternalTurn_ok {row : AttemptRow}
    (h : recordExternalTurn host identity c attemptId session turn lease observed s = (.ok row, s')) :
    ∃ stored, s'.providerAttempt? attemptId = some stored ∧ stored.state = .dispatched ∧
    stored.externalTurnIdentity = some turn := by
  simp only [recordExternalTurn, Tx.check_bind, exists_unit] at h
  obtain ⟨-, -, -, -, h⟩ := h
  obtain ⟨replayed, s₁, htransaction, hread⟩ := Tx.bind_ok.1 h
  obtain rfl : s' = s₁ := by
    cases replayed with
    | some row => exact (Tx.pure_ok.1 hread).2.symm
    | none => exact (Tx.query_ok.1 hread).2.symm
  have htransaction := transaction_ok.1 (Tx.mapError_ok.1 htransaction)
  obtain ⟨⟨row, sealed⟩, s₂, hauthorized, hbody⟩ := Tx.bind_ok.1 htransaction
  obtain ⟨hframe, hfound, -⟩ := authorizeAttempt_ok hauthorized
  have hfound : s₂.providerAttempt? attemptId = some row := by
    rw [hframe]
    exact hfound
  dsimp only at hbody
  split at hbody
  · rename_i hreplay
    simp only [Tx.query_bind, Tx.pure_ok, exists_unit] at hbody
    obtain ⟨-, -, rfl⟩ := hbody
    exact ⟨row, hfound, hreplay.1, hreplay.2.2⟩
  · simp only [Tx.query_bind, Tx.check_bind, Tx.write_bind, Tx.pure_ok, exists_unit] at hbody
    obtain ⟨-, -, s₃, hupdate, s₄, hafter, -, rfl⟩ := hbody
    obtain ⟨hmoved, -⟩ := updateAttempt_ok hupdate hfound fun _ => rfl
    obtain ⟨-, rfl⟩ := providerAttempt?_eq_some.1 hfound
    refine ⟨{ row with externalTurnIdentity := some turn, state := .dispatched }, ?_, rfl, rfl⟩
    rw [checkpoint_frame hafter]
    exact hmoved.attempt?

theorem recordExternalTurn_other {row stored : AttemptRow} (hstored : s.providerAttempt? attemptId = some stored)
    (hstate : stored.state = .dispatched) (hturn : stored.externalTurnIdentity = some turn) (hne : other ≠ turn) :
    recordExternalTurn host identity c attemptId session other lease observed s ≠ (.ok row, s') := by
  intro h
  simp only [recordExternalTurn, Tx.check_bind, exists_unit] at h
  obtain ⟨-, -, -, -, h⟩ := h
  obtain ⟨replayed, s₁, htransaction, -⟩ := Tx.bind_ok.1 h
  have htransaction := transaction_ok.1 (Tx.mapError_ok.1 htransaction)
  obtain ⟨⟨row, sealed⟩, s₂, hauthorized, hbody⟩ := Tx.bind_ok.1 htransaction
  obtain ⟨-, hfound, -⟩ := authorizeAttempt_ok hauthorized
  obtain rfl := Option.some.inj (hfound.symm.trans hstored)
  dsimp only at hbody
  split at hbody
  · rename_i hreplay
    exact hne (Option.some.inj (hreplay.2.2.symm.trans hturn))
  · simp only [Tx.check_bind, exists_unit, refuse_eq_ok, not_or, not_not] at hbody
    obtain ⟨⟨hprepared, -⟩, -⟩ := hbody
    rw [hstate] at hprepared
    cases hprepared

end Provider

/-! ## Conversations -/

/-- A conversation of the backend: every result that is submitted starts the next turn, and the turns are pairwise
distinct. The tools that it asks for are permitted and run with success, and it ends in an accepted response. -/
structure Conversation where
  session : String
  turns : List String
  requests : List NativeWorkerToolRequest
  run : NativeWorkerToolRequest → ToolRun
  output : StructuredOutput
  named : isName session = true ∧ ∀ turn ∈ turns, isName turn = true
  distinct : turns.Nodup
  length : turns.length = requests.length + 1
  numbered : requests.map (·.sequence) = List.range' 1 requests.length
  short : requests.length < maxToolSteps
  allowed : ∀ r ∈ requests, (run r).outcome = .allowed ∧ (run r).fits = true ∧
    NativeWorkerToolResult.check ⟨r.sequence, r.tool, .allowed, (run r).evidence, (run r).feedback⟩ = .ok ()

namespace Conversation

variable (c : Conversation)

/-- The answer to a question after some results were submitted: every check passes and no database fails. -/
def reply (submitted : Nat) (q : Ask) : Reply where
  check := .ok ()
  identity := .ok (match q with
    | .openSession => c.session
    | _ => (c.turns[submitted]?).getD "")
  step := .ok (match c.requests[submitted]? with
    | some request => .request request
    | none => .response (.accepted c.output))
  tool := match q with
    | .tool request => .ok (.ok (c.run request))
    | _ => .error .protocol
  fails := false
  late := false

def environment (q : Ask) (submitted : Nat) : Reply × Nat :=
  (c.reply submitted q, match q with
    | .submit _ => submitted + 1
    | _ => submitted)

end Conversation

section Dispatch

variable {taskId attemptId : String} {α : Type}

/-- What the dispatch starts from: a coding request whose session is the one that is opened, no coding effect of the
attempt, and an attempt whose dispatch, session and first turn the provider ledger records. -/
structure Dispatchable (host : Host) (call : Call taskId attemptId) (c : Conversation) (w : World) : Prop where
  coding : call.action ≠ .planning
  resumed : ∀ session ∈ call.resumeSessionIdentity, session = c.session
  tokens : isEventToken taskId = true ∧ isEventToken attemptId = true
  submissions : ∀ r ∈ w.coding.submissions.rows, ¬ (r.key.taskId = taskId ∧ r.key.implementationAttemptId = attemptId)
  claims : ∀ r ∈ w.coding.claims.rows, ¬ (r.taskId = taskId ∧ r.implementationAttemptId = attemptId)
  intents : ∀ r ∈ w.coding.intents, ¬ (r.taskId = taskId ∧ r.implementationAttemptId = attemptId)
  events : ∀ r ∈ w.coding.events.rows, ¬ (r.taskId = taskId ∧ r.implementationAttemptId = attemptId)
  recorded : ∃ a₁ s₁ a₂ s₂ a₃ s₃,
    claimWorkerDispatch host call.identity call.recovery attemptId call.lease call.observedAt w.provider = (.ok a₁, s₁) ∧
    recordSessionIdentity host call.identity call.recovery attemptId c.session call.lease call.observedAt s₁ = (.ok a₂, s₂) ∧
    recordExternalTurn host call.identity call.recovery attemptId c.session ((c.turns[0]?).getD "") call.lease
      call.observedAt s₂ = (.ok a₃, s₃)

def CodingStore.eventsOf (taskId attemptId : String) (store : CodingStore) : List CodingToolEventRecord :=
  store.events.rows.filter fun r => r.taskId = taskId ∧ r.implementationAttemptId = attemptId

def CodingStore.submittedOf (taskId attemptId : String) (store : CodingStore) : List SubmissionRow :=
  store.submissions.rows.filter fun r => r.key.taskId = taskId ∧ r.key.implementationAttemptId = attemptId ∧ r.state = .submitted

/-- The dispatch has accepted the output in the final turn, and its tools and submissions are all recorded. -/
def Completes (taskId attemptId : String) (c : Conversation) (out : Except Raised CodexWorkerResult × World × Nat) : Prop :=
  ∃ result, out.1 = .ok result ∧ result.kind = .accepted ∧ result.sessionIdentity = some c.session ∧
    result.turnIdentity = c.turns[c.requests.length]? ∧
    (out.2.1.coding.eventsOf taskId attemptId).length = c.requests.length ∧
    (out.2.1.coding.submittedOf taskId attemptId).length = c.requests.length

variable {host : Host} {self : Nat} {call : Call taskId attemptId} {c : Conversation} {w w' : World} {e e' : Nat}

/-! ## Up to the conversation -/

theorem run_admitEffect : admitEffect.run c.environment w e = (.ok (), w, e) := rfl

theorem run_require {q : Ask} (h : (c.environment q e).2 = e) : (require q).run c.environment w e = (.ok (), w, e) := by
  show (_, w, (c.environment q e).2) = _
  rw [h]
  rfl

theorem run_identityOf {q : Ask} {name identity : String} (hq : (c.environment q e).2 = e)
    (h : (c.reply e q).identity = .ok identity) (hname : isName identity = true) :
    (identityOf q name).run c.environment w e = (.ok identity, w, e) := by
  have hask : (ask q (·.identity)).run c.environment w e = (.ok identity, w, e) := by
    show ((c.reply e q).identity, w, (c.environment q e).2) = _
    rw [h, hq]
  rw [identityOf, Script.run_bind hask]
  have hcheck : refuse (isName identity = false) (worker ("native Worker " ++ name ++ " identity is invalid")) = .ok () := by
    simp [refuse, hname]
  rw [hcheck]
  rfl

variable {message : String}

theorem run_transact {x : Tx Error Recovery.Store α} {done : List Event → List Event} {a : α} {store : Recovery.Store}
    (h : x w.provider = (.ok a, store)) :
    (transact message x done).run c.environment w e = (.ok a, { w with provider := store, log := done w.log }, e) := by
  refine (Script.run_commit _ _).trans ?_
  simp [Conversation.environment, Conversation.reply, h]

/-- A checkpoint that returns has committed. -/
theorem run_transact_ok {x : Tx Error Recovery.Store α} {done : List Event → List Event} {a : α} {t : World × Nat}
    (h : (transact message x done).run c.environment w e = (.ok a, t)) : ∃ store, x w.provider = (.ok a, store) := by
  have h := (Script.run_commit _ _).symm.trans h
  rcases hx : x w.provider with ⟨raised | b, store⟩
  · simp [Conversation.environment, Conversation.reply, hx] at h
  · simp only [Conversation.environment, Conversation.reply, hx, Bool.false_eq_true, if_false, Prod.mk.injEq, Except.ok.injEq] at h
    exact ⟨store, by rw [h.1]⟩

/-- A `try` that succeeds. -/
theorem run_attempt {x : Program α} {handler : Raised → Program (Except CodexWorkerResult α)}
    {next : α → Program CodexWorkerResult} {a : α} (h : x.run c.environment w e = (.ok a, w', e')) :
    (attempt x handler next).run c.environment w e = (next a).run c.environment w' e' := by
  have hx : (x >>= fun a => pure (.ok a) : Program (Except CodexWorkerResult α)).run c.environment w e = (.ok (.ok a), w', e') :=
    Script.run_bind h
  exact Script.run_bind (Script.run_handle hx)

/-- A `try` whose handler returns from the dispatch. -/
theorem run_attempt_error {x : Program α} {handler : Raised → Program (Except CodexWorkerResult α)}
    {next : α → Program CodexWorkerResult} {raised : Raised} {result : CodexWorkerResult}
    (h : x.run c.environment w e = (.error raised, w', e')) (hhandler : handler raised = pure (.error result)) :
    (attempt x handler next).run c.environment w e = (.ok result, w', e') := by
  have hx : (x >>= fun a => pure (.ok a) : Program (Except CodexWorkerResult α)).run c.environment w e = (.error raised, w', e') :=
    Script.run_bind_error h
  have hhandled : (Script.handle (x >>= fun a => pure (.ok a)) handler).run c.environment w e = (.ok (.error result), w', e') := by
    rw [Script.run_handle_error hx, hhandler]
    rfl
  exact Script.run_bind hhandled

/-- With no effect of the attempt there is nothing to reconcile. -/
theorem run_requireReconciled (h : Dispatchable host call c w) :
    (requireReconciled taskId attemptId []).run c.environment w e = (.ok (), w, e) := by
  have hselect : ∀ {β : Type} {message : String} {read : CodingStore → β},
      (select message read).run c.environment w e = (.ok (read w.coding), w, e) := rfl
  have hunresolved : (requiresReconciliation taskId attemptId []).run c.environment w e = (.ok false, w, e) := by
    unfold requiresReconciliation
    have hcheck : refuse (¬ (isEventToken taskId ∧ isEventToken attemptId) ∨ ([] : List Nat).any (· < 1))
        (codingState "coding reconciliation lookup is invalid") = .ok () := by
      simp [refuse, h.tokens]
    rw [hcheck, Script.run_bind (Script.run_check _), Script.run_bind hselect, Script.run_bind hselect,
      Script.run_bind hselect, Script.run_pure]
    congr 2
    simp only [List.any_eq_false, Bool.or_eq_false_iff, decide_eq_true_eq, List.mem_map, List.mem_filter, not_true,
      List.not_mem_nil, not_false_eq_true]
    refine ⟨⟨fun r hr hof => ?_, fun r hr hof => ?_⟩, ?_⟩
    · exact h.submissions r hr ⟨hof.1, hof.2.1⟩
    · exact h.intents r hr hof
    · rintro _ ⟨r, ⟨hr, hof⟩, -⟩
      exact absurd hof (h.claims r hr)
  rw [requireReconciled, Script.run_bind (Script.run_mapError hunresolved)]
  rfl

/-- The conversation of a session, from its first turn. -/
def conversation (host : Host) (self : Nat) (call : Call taskId attemptId) (session turn : String) (m : Memory) :
    Program CodexWorkerResult :=
  attempt (do
      let response ← consumeSteps host self call session maxToolSteps 1 m
      return (response, ← identityOf .turnIdentity "turn"))
    (conversationFallback session turn) fun (response, turn) => return response.result session turn

/-- The first turn of a conversation. -/
def Conversation.first (c : Conversation) : String := (c.turns[0]?).getD ""

theorem Conversation.isName_turn {k : Nat} (h : k ≤ c.requests.length) : isName ((c.turns[k]?).getD "") = true := by
  have hk : k < c.turns.length := by rw [c.length]; omega
  rw [List.getElem?_eq_getElem hk]
  exact c.named.2 _ (List.getElem_mem hk)

variable (self) in
/-- The dispatch comes to its conversation, with the first turn in the ledger of the provider. -/
theorem run_adapterDispatch (h : Dispatchable host call c w) :
    ∃ w₃ : World, (adapterDispatch host self call).run c.environment w 0 =
        (conversation host self call c.session c.first ⟨some c.session, some c.first, [], []⟩).run c.environment w₃ 0 ∧
      w₃.coding = w.coding ∧
      ∃ stored, w₃.provider.providerAttempt? attemptId = some stored ∧ stored.state = .dispatched ∧
        stored.externalTurnIdentity = some c.first := by
  obtain ⟨a₁, s₁, a₂, s₂, a₃, s₃, hclaim, hsession, hturn⟩ := h.recorded
  have hresumed : ¬ (call.resumeSessionIdentity.any (· ≠ c.session)) := by
    simp only [Option.any_eq_true, not_exists, not_and, decide_eq_true_eq, not_not]
    exact fun session hresume => h.resumed session hresume
  refine ⟨⟨s₃, w.coding, ⟨self, .dispatched⟩ :: w.log⟩, ?_, rfl, recordExternalTurn_ok hturn⟩
  have hfirst : isName c.first = true := c.isName_turn (Nat.zero_le _)
  unfold adapterDispatch
  rw [Script.run_bind (Script.run_mapError run_admitEffect)]
  -- the claim and the session
  have hopen : (do admitEffect; checkpointDispatch host self call; identityOf .openSession "session" :
      Program String).run c.environment w 0 = (.ok c.session, ⟨s₁, w.coding, ⟨self, .dispatched⟩ :: w.log⟩, 0) := by
    rw [Script.run_bind run_admitEffect, Script.run_bind (Script.run_bind (run_transact hclaim))]
    exact run_identityOf rfl rfl c.named.1
  rw [run_attempt hopen, if_neg hresumed]
  have hrecord : (do admitEffect; recordSession host call c.session : Program Memory).run c.environment
      ⟨s₁, w.coding, ⟨self, .dispatched⟩ :: w.log⟩ 0 =
      (.ok ⟨some c.session, none, [], []⟩, ⟨s₂, w.coding, ⟨self, .dispatched⟩ :: w.log⟩, 0) := by
    rw [Script.run_bind run_admitEffect, recordSession, Script.run_bind (run_transact hsession), Script.run_bind (run_require rfl)]
    rfl
  rw [run_attempt hrecord]
  -- the first turn
  have hstart : (do admitEffect; identityOf .startTurn "turn" : Program String).run c.environment
      ⟨s₂, w.coding, ⟨self, .dispatched⟩ :: w.log⟩ 0 = (.ok c.first, ⟨s₂, w.coding, ⟨self, .dispatched⟩ :: w.log⟩, 0) := by
    rw [Script.run_bind run_admitEffect]
    exact run_identityOf rfl rfl hfirst
  rw [run_attempt hstart]
  have hrecordTurn : (do admitEffect; recordTurn host call ⟨some c.session, none, [], []⟩ c.session c.first :
      Program Memory).run c.environment ⟨s₂, w.coding, ⟨self, .dispatched⟩ :: w.log⟩ 0 =
      (.ok ⟨some c.session, some c.first, [], []⟩, ⟨s₃, w.coding, ⟨self, .dispatched⟩ :: w.log⟩, 0) := by
    have hbound : refuse (some c.session ≠ some c.session) (shadow "coding turn checkpoint is not session-bound") = .ok () := by
      simp [refuse]
    rw [Script.run_bind run_admitEffect, recordTurn, hbound, Script.run_bind (Script.run_check _), Script.run_bind
      (run_transact hturn), Script.run_bind (run_require rfl)]
    rfl
  rw [run_attempt hrecordTurn]
  rfl

theorem run_dispatch (h : Dispatchable host call c w) :
    (dispatch host self call).run c.environment w 0 = (do
      let result ← adapterDispatch host self call
      if result.kind = .blocked then do
        recordTerminalFailure host call result
        return result
      else return result : Program CodexWorkerResult).run c.environment w 0 := by
  have hcoding : refuse (call.action = .planning)
    (shadow "planning requests require the separate no-tools entrypoint") = .ok () := by
    simp [refuse, h.coding]
  unfold dispatch
  rw [Script.run_bind (Script.run_mapError (run_require rfl)), hcoding, Script.run_bind (Script.run_check _),
    Script.run_bind (run_require rfl), Script.run_bind (run_require rfl), Script.run_bind (Script.run_mapError (run_require rfl)),
    Script.run_bind (run_requireReconciled h)]

/-! ## No tool -/

variable {m : Memory}

theorem run_conversation_nil (h : c.requests = []) : (conversation host self call c.session c.first m).run c.environment w 0 =
      (.ok ((NativeWorkerResponse.accepted c.output).result c.session c.first), w, 0) := by
  have hstep : (ask .readStep (·.step)).run c.environment w 0 = (.ok (.response (.accepted c.output)), w, 0) := by
    show ((c.reply 0 .readStep).step, w, 0) = _
    simp [Conversation.reply, h]
  have hsteps : (consumeSteps host self call c.session maxToolSteps 1 m).run c.environment w 0 =
    (.ok (.accepted c.output), w, 0) := by
    rw [maxToolSteps, consumeSteps, Script.run_bind run_admitEffect, Script.run_bind hstep]
    rfl
  have hturn : (identityOf .turnIdentity "turn").run c.environment w 0 = (.ok c.first, w, 0) :=
    run_identityOf rfl rfl (c.isName_turn (Nat.zero_le _))
  unfold conversation
  refine run_attempt (a := (NativeWorkerResponse.accepted c.output, c.first)) ?_
  rw [Script.run_bind hsteps, Script.run_bind hturn]
  rfl

/-! ## A tool

Up to the submission of a result nothing reaches the provider. -/

def Ask.submits : Ask → Bool
  | .submit _ => true
  | _ => false

/-- The action submits no result and leaves the attempts of the provider alone. -/
def Local (q : Ask) (w w' : World) : Prop := q.submits = false ∧ w'.provider = w.provider

theorem local_require {q : Ask} (h : q.submits = false) : Script.Acts Local (require q) :=
  Script.acts_commit fun _ _ => ⟨h, rfl⟩

theorem local_select {read : CodingStore → α} : Script.Acts Local (select message read) :=
  Script.acts_commit fun _ _ => ⟨rfl, rfl⟩

theorem local_write {statement : World → Option World} (h : ∀ w w', statement w = some w' → w'.provider = w.provider) :
    Script.Acts Local (write message statement) := by
  refine Script.acts_commit fun i w => ⟨rfl, ?_⟩
  cases hs : if i.fails then none else statement w with
  | none => rfl
  | some w' =>
    split_ifs at hs
    exact h w w' hs

theorem local_admitEffect : Script.Acts Local admitEffect :=
  (local_require rfl).bind fun _ => (local_require rfl).mapError

theorem local_requireReconciled {acknowledged : List Nat} : Script.Acts Local (requireReconciled taskId attemptId acknowledged) := by
  refine Script.Acts.bind (Script.Acts.mapError ?_) fun _ => Script.acts_check _
  refine (Script.acts_check _).bind fun _ => local_select.bind fun _ => local_select.bind fun _ => local_select.bind fun _ => ?_
  exact Script.acts_pure _

theorem local_claimEffect {sequence : Nat} {digest : Digest} : Script.Acts Local
    (claimEffect self taskId attemptId sequence digest) := by
  refine (Script.acts_check _).bind fun _ => local_select.bind fun existing => ?_
  cases existing with
  | some stored => exact (Script.acts_check _).bind fun _ => Script.acts_pure _
  | none =>
    refine (local_write fun w w' h => ?_).bind fun _ => Script.acts_pure _
    obtain ⟨claims, -, rfl⟩ := Option.map_eq_some_iff.1 h
    rfl

theorem local_append {record : CodingToolEventRecord} : Script.Acts Local (append record) := by
  refine local_select.bind fun existing => ?_
  cases existing with
  | some stored => exact Script.acts_check _
  | none =>
    refine local_write fun w w' h => ?_
    obtain ⟨events, -, rfl⟩ := Option.map_eq_some_iff.1 h
    rfl

theorem local_recordSubmission {key : SubmissionKey} {state : SubmissionState} {next : Option String} :
    Script.Acts Local (recordSubmission self key state next) := by
  refine (Script.acts_check _).bind fun _ => local_select.bind fun existing => ?_
  cases existing with
  | some value =>
    dsimp only
    split
    · exact Script.acts_pure _
    · split
      · refine local_write fun w w' h => ?_
        obtain rfl := Option.some.inj h
        rfl
      · exact Script.acts_check _
  | none =>
    refine (Script.acts_check _).bind fun _ => local_write fun w w' h => ?_
    obtain ⟨submissions, -, rfl⟩ := Option.map_eq_some_iff.1 h
    rfl

theorem local_makeResult {r : NativeWorkerToolResult} : Script.Acts Local (makeResult r) :=
  (Script.acts_check _).bind fun _ => Script.acts_pure _

variable {request : NativeWorkerToolRequest}

theorem local_persistToolEvent {session turn : String} {result : NativeWorkerToolResult} {lifecycle : Lifecycle} :
    Script.Acts Local (persistToolEvent host call session turn request result lifecycle) :=
  (Script.acts_check _).bind fun _ => local_append.mapError

theorem local_toolResult {answer : Except ToolFailure ToolRun} : Script.Acts Local (toolResult request answer) := by
  cases answer with
  | ok run =>
    simp only [toolResult]
    split
    · exact local_makeResult.bind fun _ => Script.acts_pure _
    · exact local_makeResult.bind fun _ => Script.acts_pure _
  | error failure => exact local_makeResult.bind fun _ => (Script.acts_check _).bind fun _ => Script.acts_pure _

theorem local_authorizedToolRequest : Script.Acts Local (authorizedToolRequest host self call m request) := by
  have hexecute : Script.Acts Local (executeRequest host self call m request) := by
    refine (local_require rfl).bind fun _ => (local_require rfl).bind fun _ => (Script.acts_check _).bind fun _ => ?_
    refine (Script.acts_check _).bind fun _ => local_requireReconciled.bind fun _ => local_claimEffect.bind fun claimed => ?_
    split
    · refine Script.Acts.bind (Script.acts_commit fun _ _ => ⟨rfl, rfl⟩) fun answer => local_toolResult.bind fun result => ?_
      exact local_persistToolEvent.bind fun _ => Script.acts_pure _
    · exact local_makeResult.bind fun _ => local_persistToolEvent.bind fun _ => Script.acts_pure _
  refine Script.Acts.bind (Script.Acts.handle ?_ fun raised => ?_) fun granted => ?_
  · exact local_admitEffect.bind fun _ => (local_require rfl).bind fun _ => Script.acts_pure _
  · split
    · exact Script.acts_pure _
    · exact Script.acts_check _
  · split
    · exact hexecute
    · exact local_makeResult

theorem local_submission {sequence : Nat} {state : SubmissionState} {next : Option String} :
    Script.Acts Local (submission self taskId attemptId m sequence state next) := by
  refine (Script.acts_check _).bind fun _ => (Script.acts_check _).bind fun _ => ?_
  exact local_recordSubmission.mapError.bind fun _ => Script.acts_pure _

/-- After local actions the provider is where it was, and so is the conversation. -/
theorem Local.run {x : Program α} {r : Except Raised α} (h : Script.Acts Local x) (hrun : x.run c.environment w e = (r, w', e')) :
    w'.provider = w.provider ∧ e' = e := by
  have hkept : (x.run c.environment w e).2.1.provider = w.provider ∧ (x.run c.environment w e).2.2 = e := by
    refine h.run (K := fun u k => u.provider = w.provider ∧ k = e) ?_ ⟨rfl, rfl⟩
    rintro q u u' k ⟨hq, hprovider⟩ ⟨hu, rfl⟩
    refine ⟨hprovider.trans hu, ?_⟩
    cases q with
    | submit result => cases hq
    | _ => rfl
  rw [hrun] at hkept
  exact hkept

/-- The turn after the first result is not recorded. -/
theorem run_submitResult_fails {result : NativeWorkerToolResult} {out : Memory × String} {t : World × Nat}
    {stored : AttemptRow} (hpos : c.requests ≠ []) (hstored : w.provider.providerAttempt? attemptId = some stored)
    (hstate : stored.state = .dispatched) (hturn : stored.externalTurnIdentity = some c.first) :
    (submitResult host call m c.session result).run c.environment w 0 ≠ (.ok out, t) := by
  intro h
  have hlen : 0 < c.requests.length := List.length_pos_iff.2 hpos
  have hsubmit : (require (.submit result)).run c.environment w 0 = (.ok (), w, 1) := rfl
  have hidentity : (identityOf .turnIdentity "turn").run c.environment w 1 = (.ok ((c.turns[1]?).getD ""), w, 1) :=
    run_identityOf rfl rfl (c.isName_turn hlen)
  -- the turns of the conversation are distinct
  have hne : (c.turns[1]?).getD "" ≠ c.first := by
    have h0 : 0 < c.turns.length := by rw [c.length]; omega
    have h1 : 1 < c.turns.length := by rw [c.length]; omega
    rw [Conversation.first, List.getElem?_eq_getElem h0, List.getElem?_eq_getElem h1, Option.getD_some, Option.getD_some]
    intro heq
    exact absurd ((c.distinct.getElem_inj_iff).1 heq) (by decide)
  rw [submitResult, Script.run_bind run_admitEffect, Script.run_bind hsubmit, Script.run_bind run_admitEffect,
    Script.run_bind hidentity] at h
  obtain ⟨m', w₁, e₁, hrecord, -⟩ := Script.run_bind_ok h
  obtain ⟨_, w₂, e₂, hcheck, hrecord⟩ := Script.run_bind_ok hrecord
  obtain ⟨-, rfl, rfl⟩ : _ ∧ w = w₂ ∧ 1 = e₂ := by simpa using hcheck
  obtain ⟨_, w₃, e₃, htransact, -⟩ := Script.run_bind_ok hrecord
  obtain ⟨store, hresult⟩ := run_transact_ok htransact
  exact recordExternalTurn_other hstored hstate hturn hne hresult

/-- A conversation that asks for a tool does not return. -/
theorem run_consumeSteps_fails {left : Nat} {response : NativeWorkerResponse} {t : World × Nat} {stored : AttemptRow}
    (hpos : c.requests ≠ []) (hstored : w.provider.providerAttempt? attemptId = some stored)
    (hstate : stored.state = .dispatched) (hturn : stored.externalTurnIdentity = some c.first) :
    (consumeSteps host self call c.session left 1 m).run c.environment w 0 ≠ (.ok response, t) := by
  intro h
  cases left with
  | zero => cases h
  | succ left =>
    obtain ⟨request, rest, hrequests⟩ := List.exists_cons_of_ne_nil hpos
    have hstep : (ask .readStep (·.step)).run c.environment w 0 = (.ok (.request request), w, 0) := by
      show ((c.reply 0 .readStep).step, w, 0) = _
      simp [Conversation.reply, hrequests]
    rw [consumeSteps, Script.run_bind run_admitEffect, Script.run_bind hstep] at h
    obtain ⟨_, w₁, e₁, hcheck, h⟩ := Script.run_bind_ok h
    obtain ⟨hprovider₁, rfl⟩ := Local.run (Script.acts_check _) hcheck
    obtain ⟨result, w₂, e₂, htool, h⟩ := Script.run_bind_ok h
    obtain ⟨hprovider₂, rfl⟩ := Local.run local_authorizedToolRequest htool
    obtain ⟨_, w₃, e₃, hcheck, h⟩ := Script.run_bind_ok h
    obtain ⟨hprovider₃, rfl⟩ := Local.run (Script.acts_check _) hcheck
    rw [Script.run_bind run_admitEffect] at h
    obtain ⟨m', w₄, e₄, hintent, h⟩ := Script.run_bind_ok h
    obtain ⟨hprovider₄, rfl⟩ := Local.run local_submission hintent
    obtain ⟨next, w₅, e₅, hsubmit, -⟩ := Script.run_bind_ok h
    have hstored₄ : w₄.provider.providerAttempt? attemptId = some stored := by
      rw [hprovider₄, hprovider₃, hprovider₂, hprovider₁]
      exact hstored
    exact run_submitResult_fails hpos hstored₄ hstate hturn (Script.run_onError_ok hsubmit)

/-! ## Every conversation -/

/-- A dispatch that is handed a tool request accepts no output. -/
theorem not_completes_of_request (h : Dispatchable host call c w) (hpos : c.requests ≠ []) :
    ¬ Completes taskId attemptId c ((dispatch host self call).run c.environment w 0) := by
  rintro ⟨result, hresult, hkind, -⟩
  rw [run_dispatch h] at hresult
  obtain ⟨w₃, hadapter, -, stored, hstored, hstate, hturn⟩ := run_adapterDispatch self h
  have hfails : ∃ raised w' e', (do
      let response ← consumeSteps host self call c.session maxToolSteps 1 ⟨some c.session, some c.first, [], []⟩
      return (response, ← identityOf .turnIdentity "turn") : Program (NativeWorkerResponse × String)).run c.environment
        w₃ 0 = (.error raised, w', e') := by
    rcases hsteps : (consumeSteps host self call c.session maxToolSteps 1 ⟨some c.session, some c.first, [], []⟩).run
      c.environment w₃ 0 with ⟨raised | response, w', e'⟩
    · exact ⟨raised, w', e', Script.run_bind_error hsteps⟩
    · exact absurd hsteps (run_consumeSteps_fails hpos hstored hstate hturn)
  -- whatever was raised, the adapter answers that it failed or that it does not know
  have hanswer : ∃ answer w' e', (adapterDispatch host self call).run c.environment w 0 = (.ok answer, w', e') ∧
      answer.kind ≠ .accepted := by
    obtain ⟨raised, w', e', hfails⟩ := hfails
    rw [hadapter]
    cases raised with
    | adapter failure => exact ⟨_, w', e', run_attempt_error hfails rfl, nofun⟩
    | protocol => exact ⟨_, w', e', run_attempt_error hfails rfl, nofun⟩
    | error raised => exact ⟨_, w', e', run_attempt_error hfails rfl, nofun⟩
  obtain ⟨answer, w', e', hanswer, hrefused⟩ := hanswer
  rw [Script.run_bind hanswer] at hresult
  split at hresult
  · rcases hterminal : (recordTerminalFailure host call answer).run c.environment w' e' with ⟨raised | _, w'', e''⟩
    · rw [Script.run_bind_error hterminal] at hresult
      cases hresult
    · rw [Script.run_bind hterminal] at hresult
      obtain rfl := Except.ok.inj hresult
      exact hrefused hkind
  · obtain rfl := Except.ok.inj hresult
    exact hrefused hkind

variable (self) in
/-- A dispatch without tools ends in its first turn with what the adapter makes of the output. -/
theorem run_dispatch_nil (h : Dispatchable host call c w) (hnil : c.requests = []) :
    ∃ w', (dispatch host self call).run c.environment w 0 =
        (.ok ((NativeWorkerResponse.accepted c.output).result c.session c.first), w', 0) ∧ w'.coding = w.coding := by
  obtain ⟨w₃, hadapter, hcoding, -⟩ := run_adapterDispatch self h
  refine ⟨w₃, ?_, hcoding⟩
  rw [run_dispatch h, Script.run_bind (hadapter.trans (run_conversation_nil hnil)), if_neg]
  · rfl
  · unfold NativeWorkerResponse.result
    dsimp only
    split <;> nofun

/-- A coding dispatch completes exactly when its conversation asks for no tool and its output is one that can be
accepted: the ledger of the provider keeps one turn of an attempt. -/
theorem coding_dispatch_completes_iff (h : Dispatchable host call c w) :
    Completes taskId attemptId c ((dispatch host self call).run c.environment w 0) ↔
      c.requests = [] ∧ (normalizedOutput c.output).isSome := by
  -- a request makes a second turn, which is refused; without one the answer is the result
  constructor
  · intro hcompletes
    have hnil : c.requests = [] := by
      by_contra hpos
      exact not_completes_of_request h hpos hcompletes
    refine ⟨hnil, ?_⟩
    obtain ⟨w', hrun, -⟩ := run_dispatch_nil self h hnil
    rw [hrun] at hcompletes
    obtain ⟨result, hresult, hkind, -⟩ := hcompletes
    obtain rfl := Except.ok.inj hresult
    cases houtput : normalizedOutput c.output with
    | some output => rfl
    | none => simp [NativeWorkerResponse.result, houtput] at hkind
  · rintro ⟨hnil, houtput⟩
    obtain ⟨w', hrun, hcoding⟩ := run_dispatch_nil self h hnil
    obtain ⟨output, houtput⟩ := Option.isSome_iff_exists.1 houtput
    have hturns : 0 < c.turns.length := by rw [c.length]; omega
    rw [hrun]
    refine ⟨_, rfl, ?_, ?_, ?_, ?_, ?_⟩
    · simp [NativeWorkerResponse.result, houtput]
    · simp [NativeWorkerResponse.result, houtput]
    · simp [NativeWorkerResponse.result, houtput, hnil, Conversation.first, List.getElem?_eq_getElem hturns]
    · simp only [hcoding, hnil, CodingStore.eventsOf, List.length_nil, List.length_eq_zero_iff, List.filter_eq_nil_iff,
        decide_eq_true_eq]
      exact h.events
    · simp only [hcoding, hnil, CodingStore.submittedOf, List.length_nil, List.length_eq_zero_iff,
        List.filter_eq_nil_iff, decide_eq_true_eq]
      exact fun r hr hof => h.submissions r hr ⟨hof.1, hof.2.1⟩

end Dispatch

/-! ## A conversation with a tool, and one without -/

namespace Sample

open Provider.Sample (identity lease prepared)

def coding : Call "task" "attempt" :=
  ⟨.implementation, Provider.Sample.digest 1, none, .ofNat 40 1, identity, Provider.Sample.worker, some lease, 10⟩

/-- The prepared attempt, and no coding effect. -/
def fresh : World := ⟨prepared.1, .empty, []⟩

def claimed := claimWorkerDispatch .sample identity Provider.Sample.worker "attempt" (some lease) 10 prepared.1
def sessioned := recordSessionIdentity .sample identity Provider.Sample.worker "attempt" "session" (some lease) 10 claimed.2
def turned := recordExternalTurn .sample identity Provider.Sample.worker "attempt" "session" "first" (some lease) 10 sessioned.2

theorem recorded : claimed.1.isOk = true ∧ sessioned.1.isOk = true ∧ turned.1.isOk = true := by
  decide +kernel

/-- The backend answers at once. -/
def silent : Conversation where
  session := "session"
  turns := ["first"]
  requests := []
  run := fun _ => ⟨.allowed, .none, none, true⟩
  output := some ([("action", .str "implementation")], 27)
  named := by decide +kernel
  distinct := by decide
  length := rfl
  numbered := rfl
  short := by decide
  allowed := nofun

/-- The backend reads one file. -/
def reading : Conversation where
  session := "session"
  turns := ["first", "second"]
  requests := [⟨1, .workspaceRead, some "README.md", none, none⟩]
  run := fun _ => ⟨.allowed, { ToolEvidence.none with afterDigest := some (Provider.Sample.digest 1) }, some "text", true⟩
  output := some ([("action", .str "implementation")], 27)
  named := by decide +kernel
  distinct := by decide
  length := rfl
  numbered := rfl
  short := by decide
  allowed := by decide +kernel

theorem dispatchable {c : Conversation} (hsession : c.session = "session") (hfirst : (c.turns[0]?).getD "" = "first") :
    Dispatchable .sample coding c fresh := by
  have hnone : ∀ {α : Type} {p : α → Prop}, ∀ r ∈ ([] : List α), ¬ p r := fun _ hr => absurd hr List.not_mem_nil
  refine ⟨by decide, nofun, by decide +kernel, hnone, hnone, hnone, hnone, ?_⟩
  rw [hsession, hfirst]
  obtain ⟨hclaimed, hsessioned, hturned⟩ := recorded
  obtain ⟨a₁, h₁⟩ : ∃ a, claimed = (.ok a, claimed.2) := ok_of_isOk hclaimed
  obtain ⟨a₂, h₂⟩ : ∃ a, sessioned = (.ok a, sessioned.2) := ok_of_isOk hsessioned
  obtain ⟨a₃, h₃⟩ : ∃ a, turned = (.ok a, turned.2) := ok_of_isOk hturned
  exact ⟨a₁, claimed.2, a₂, sessioned.2, a₃, turned.2, h₁, h₂, h₃⟩
where
  ok_of_isOk {α : Type} {x : Except Error α × Recovery.Store} (h : x.1.isOk = true) : ∃ a, x = (.ok a, x.2) := by
    obtain ⟨_ | a, s⟩ := x
    · cases h
    · exact ⟨a, rfl⟩

end Sample

open Sample in
theorem coding_dispatch_completes_iff_silent :
    Completes "task" "attempt" silent ((dispatch .sample 0 coding).run silent.environment fresh 0) :=
  (coding_dispatch_completes_iff (dispatchable rfl rfl)).2 ⟨rfl, by decide⟩

open Sample in
/-- The dispatch of a conversation with one tool request does not complete. -/
theorem coding_dispatch_incomplete_reading :
    ¬ ∀ (host : Host) (self : Nat) (taskId attemptId : String) (call : Call taskId attemptId) (c : Conversation) (w : World),
      Dispatchable host call c w → Completes taskId attemptId c ((dispatch host self call).run c.environment w 0) := by
  intro hclaim
  have h : Dispatchable .sample coding reading fresh := dispatchable rfl rfl
  exact not_completes_of_request h (by decide) (hclaim .sample 0 "task" "attempt" coding reading fresh h)

end Roundwright.Worker
