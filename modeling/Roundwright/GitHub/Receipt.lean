/-
What a returned receipt stands for: the context it carries and the read that verified it.

A receipt is made once, from the context of the call that makes it, and is returned again from the
journal or from memory. The journal compares the evidence of an entry with the context of the call that
asks for it; memory compares nothing but the intent.
-/
import Roundwright.GitHub.Dispatch

namespace Roundwright.GitHub

open Lib

variable {host : Host}

/-! ## The context of a receipt -/

/-- The values of a context that its receipts carry. -/
structure Bound (context : MutationBrokerContext) (receipt : SemanticMutationReceipt) : Prop where
  candidate : receipt.candidateSha = context.candidateSha
  configuration : receipt.configurationDigest = context.configurationDigest
  gate : receipt.gateIdentity = context.gateIdentity
  base : receipt.baseSha = context.baseSha
  task : receipt.taskFingerprint = context.mutationContext.taskFingerprint

variable {call : BrokerCall}

variable {receipt : SemanticMutationReceipt}

/-- What a receipt takes from its call and from the read that verified it. -/
theorem semanticReceipt_ok {bundle : SchemaV2AuthorizationBundle} {preDigest preCompleteness : Option Digest}
    {observed : CompleteRead} {locator : Option CreatedResourceLocator} {disposition : MutationDisposition}
    {entry : Option MutationJournalEntry}
    (h : call.semanticReceipt host bundle preDigest preCompleteness observed locator disposition entry = .ok receipt) :
    (∃ binding, call.context.policy.binding = some binding ∧ receipt.taskFingerprint = binding.taskFingerprint) ∧
      receipt.candidateSha = call.context.candidateSha ∧ receipt.configurationDigest = call.context.configurationDigest ∧
      receipt.gateIdentity = call.context.gateIdentity ∧ receipt.baseSha = call.context.baseSha ∧
      postStateDigest host call.intent observed.1 = .ok receipt.postStateDigest ∧
      affectedIdentity host call.intent observed.1 locator = .ok receipt.affectedIdentity ∧
      receipt.createdResourceIdentity = (entry.bind fun e => e.createdResource).map (CreatedResourceLocator.identity host) := by
  simp only [BrokerCall.semanticReceipt, bind_eq_ok, exists_unit, refuse_eq_ok, demand_eq_ok, pure_eq_ok] at h
  obtain ⟨postDigest, hpost, affected, haffected, binding, hbinding, -, preComplete, -, postComplete, -, digest, -, -, rfl⟩ := h
  refine ⟨⟨binding, hbinding, rfl⟩, rfl, rfl, rfl, rfl, hpost, haffected, ?_⟩
  cases entry with
  | none => rfl
  | some e => rfl

theorem authorize_task {now : Int} {bundle : SchemaV2AuthorizationBundle}
    (h : call.authorize host now = .ok (.ok bundle)) {binding : RepositoryMutationBinding}
    (hb : call.context.policy.binding = some binding) : binding.taskFingerprint = call.context.mutationContext.taskFingerprint := by
  simp only [BrokerCall.authorize, bind_eq_ok, exists_unit] at h
  obtain ⟨-, made, hmade, -⟩ := h
  simp only [schemaV2AuthorizationBundle, bind_eq_ok, exists_unit, refuse_eq_ok] at hmade
  obtain ⟨-, -, -, -, hmatches, -⟩ := hmade
  have hbound : bindingMatches call.authority call.context = true := by simpa using hmatches
  simp only [bindingMatches, hb, Option.any_some, decide_eq_true_eq, Bool.decide_and, Bool.and_eq_true] at hbound
  exact hbound.2.2.2.1

/-- The call passes its authorization at some instant. -/
def Authorized (host : Host) (call : BrokerCall) : Prop := ∃ now bundle, call.authorize host now = .ok (.ok bundle)

theorem Made.bound {reads : List GitHubReadResult}
    (h : Made host call reads receipt) (hauthorized : Authorized host call) : Bound call.context receipt := by
  obtain ⟨readback, observed, locator, hv⟩ := h
  obtain ⟨bundle, preDigest, preCompleteness, disposition, entry, hreceipt, -⟩ := hv.made
  obtain ⟨⟨binding, hbinding, htask⟩, hcandidate, hconfiguration, hgate, hbase, -⟩ := semanticReceipt_ok hreceipt
  obtain ⟨now, made, hmade⟩ := hauthorized
  exact ⟨hcandidate, hconfiguration, hgate, hbase, htask.trans (authorize_task hmade hbinding)⟩

variable {w : World host}

/-- No receipt comes from a call that is never authorized. -/
theorem submit_unauthorized (h : ¬ Authorized host call) :
    call.submit.Holds (fun _ _ _ => True) (fun outcome _ => ∀ r, outcome ≠ .ok (.receipt r)) w := by
  unfold BrokerCall.submit
  split
  · rintro r ⟨⟩
  · refine preflight_holds (fun _ => trivial) fun r => ?_
    unfold BrokerCall.submitAt
    split
    · rintro r ⟨⟩
    · split
      · rintro r ⟨⟩
      · rintro r ⟨⟩
      · rename_i bundle hbundle
        exact absurd ⟨_, bundle, hbundle⟩ h

theorem reconcile_unauthorized (h : ¬ Authorized host call) :
    call.reconcile.Holds (fun _ _ _ => True) (fun outcome _ => ∀ r, outcome ≠ .ok (.receipt r)) w := by
  unfold BrokerCall.reconcile
  split
  · rintro r ⟨⟩
  · refine preflight_holds (fun _ => trivial) fun r => ?_
    unfold BrokerCall.reconcilePreflight
    split
    · rintro r ⟨⟩
    · split
      · rintro r ⟨⟩
      · rintro r ⟨⟩
      · rename_i bundle hbundle
        exact absurd ⟨_, bundle, hbundle⟩ h

/-- A receipt is returned by an authorized call, and was made by it, remembered or stored. -/
theorem Once.returns (h : Once w) {event : BrokerEvent} (hcall : event.call? = some call)
    (hreturns : w.returns event = some (.ok (.receipt receipt))) :
    Authorized host call ∧ (Made host call (w.after event).reads receipt ∨
      w.completed (call.intent.identity host) = some receipt ∨ Stored call w.file receipt) := by
  cases event with
  | submit c answers =>
    obtain rfl : c = call := Option.some.inj hcall
    refine ⟨?_, (submit_serves (h.undispatched c)).result hreturns receipt rfl⟩
    by_contra hno
    exact (submit_unauthorized hno).result hreturns receipt rfl
  | reconcile c answers =>
    obtain rfl : c = call := Option.some.inj hcall
    refine ⟨?_, reconcile_serves.result hreturns receipt rfl⟩
    by_contra hno
    exact (reconcile_unauthorized hno).result hreturns receipt rfl
  | restart => cases hcall

/-- What is remembered for the intent of the call is of its context, and a receipt stored under its key is of
its base and its task. -/
structure Consistent (call : BrokerCall) (w : World host) : Prop where
  remembered : ∀ r, w.completed (call.intent.identity host) = some r → Bound call.context r
  stored : ∀ entry r, w.file.get (call.key host) = some entry → entry.receipt = some r →
    r.baseSha = call.context.baseSha ∧ r.taskFingerprint = call.context.mutationContext.taskFingerprint

/-- A stored receipt of the call's evidence is of the candidate, the configuration and the gate of its
context. -/
theorem Stored.bound (h : Stored call w.file receipt)
    (hconsistent : Consistent call w) : Bound call.context receipt := by
  obtain ⟨entry, hget, hreceipt, hfits⟩ := h
  have hmatches := (MutationJournalEntry.check_ok (JournalFile.get_valid hget).1).2.2.2 receipt hreceipt
  obtain ⟨-, -, -, -, -, -, -, hcandidate, hconfiguration, hgate, -⟩ := hmatches
  obtain ⟨hbase, htask⟩ := hconsistent.stored entry receipt hget hreceipt
  exact ⟨hcandidate.trans hfits.candidate, hconfiguration.trans hfits.configuration, hgate.trans hfits.gate, hbase, htask⟩

/-- In every run, a call that begins in a consistent world returns only receipts of its own context. -/
theorem receipt_of_own_context (file : JournalFile host) (events : List BrokerEvent) (event : BrokerEvent)
    (call : BrokerCall) (hcall : event.call? = some call)
    (hconsistent : Consistent call ((World.initial file).run events)) (receipt : SemanticMutationReceipt)
    (hreturns : ((World.initial file).run events).returns event = some (.ok (.receipt receipt))) :
    Bound call.context receipt := by
  obtain ⟨hauthorized, hmade | hremembered | hstored⟩ := ((Once.initial file).run events).returns hcall hreturns
  · exact hmade.bound hauthorized
  · exact hconsistent.remembered receipt hremembered
  · exact hstored.bound hconsistent

namespace BrokerSample

def issue (state : IssueState) : GitHubReadResult :=
  ⟨⟨.issue, repository, some 5, none, none⟩, .ok (.issue ⟨repository, "issue", 5, state, digest 4, digest 5, none, []⟩)⟩

/-- The closing of an issue, for a candidate over a base. -/
def closeIssue (journal : Bool) (candidateSha baseSha : String) : BrokerCall where
  broker := ⟨journal, none, true, false⟩
  authority := authority
  intent := ⟨repository, "close", .closeIssue 5 .completed⟩
  context := context .closeIssue candidateSha baseSha
  payload := none
  suppliesSemantics := false

/-- The issue is open until the adapter has closed it. -/
def closing (candidateSha : String) : BrokerEvent :=
  .submit (closeIssue false candidateSha "base") (answers 3 (issue .open) ++ answers 2 (issue .closed))

/-- The issue is closed already when it is submitted. -/
def recorded (baseSha : String) : List BrokerEvent :=
  [.submit (closeIssue true "head" baseSha) (answers 40 (issue .closed))]

/-- The receipt a call returns. -/
def receiptOf : Option Outcome → Option SemanticMutationReceipt
  | some (.ok (.receipt receipt)) => some receipt
  | _ => none

end BrokerSample

theorem returns_of_receiptOf {outcome : Option Outcome}
    (h : BrokerSample.receiptOf outcome = some receipt) : outcome = some (.ok (.receipt receipt)) := by
  unfold BrokerSample.receiptOf at h
  split at h
  · cases h
    rfl
  · cases h

open BrokerSample in
/-- The issue of one candidate is closed, and the receipt is returned for another candidate; and a journaled
receipt over one base is returned to a reconciliation over another. -/
theorem receipt_of_other_context :
    (¬ ∀ (events : List BrokerEvent) (call : BrokerCall) (answers : List Answer) (receipt : SemanticMutationReceipt),
      ((World.initial file).run events).returns (.submit call answers) = some (.ok (.receipt receipt)) →
        Bound call.context receipt) ∧
    ¬ ∀ (events : List BrokerEvent) (call : BrokerCall) (answers : List Answer) (receipt : SemanticMutationReceipt),
      ((World.initial file).run events).returns (.reconcile call answers) = some (.ok (.receipt receipt)) →
        Bound call.context receipt := by
  constructor
  · intro hall
    have hreceipt : (receiptOf (((World.initial file).run [closing "first"]).returns (closing "second"))).map
        (·.candidateSha) = some "first" := by decide +kernel
    obtain ⟨receipt, hreturned, hcandidate⟩ := Option.map_eq_some_iff.1 hreceipt
    have hbound := (hall _ _ _ receipt (returns_of_receiptOf hreturned)).candidate
    rw [hcandidate] at hbound
    revert hbound
    decide
  · intro hall
    have hreceipt : (receiptOf (((World.initial file).run (recorded "first")).returns
        (.reconcile (closeIssue true "head" "second") (answers 40 (issue .closed))))).map (·.baseSha) = some "first" := by
      decide +kernel
    obtain ⟨receipt, hreturned, hbase⟩ := Option.map_eq_some_iff.1 hreceipt
    have hbound := (hall _ _ _ receipt (returns_of_receiptOf hreturned)).base
    rw [hbase] at hbound
    revert hbound
    decide

open BrokerSample in
/-- A first submission returns a receipt of its own candidate. -/
theorem receipt_of_own_context_first : ∃ receipt, (World.initial file).returns (closing "head") = some (.ok (.receipt receipt)) ∧
    Bound (context .closeIssue "head" "base") receipt := by
  have hsome : (receiptOf ((World.initial file).returns (closing "head"))).isSome = true := by decide +kernel
  obtain ⟨receipt, hreceipt⟩ := Option.isSome_iff_exists.1 hsome
  have hreturned := returns_of_receiptOf hreceipt
  refine ⟨receipt, hreturned, receipt_of_own_context file [] (closing "head") (closeIssue false "head" "base") rfl
    ⟨?_, ?_⟩ receipt hreturned⟩
  · rintro r ⟨⟩
  · rintro entry r ⟨⟩

end Roundwright.GitHub
