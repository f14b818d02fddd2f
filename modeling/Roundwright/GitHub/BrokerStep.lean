/-
What one step of a broker call can do to the world, and what a call returns. Every invariant of the
brokers is derived from these two facts.
-/
import Roundwright.GitHub.Broker
import Roundwright.GitHub.JournalAlone

namespace Roundwright.GitHub

open Lib

variable {host : Host}

/-! ## Steps -/

/-- The receipt was made by this call from one of the reads, which shows the effect of the intent. -/
structure Verification (host : Host) (call : BrokerCall) (reads : List GitHubReadResult)
    (receipt : SemanticMutationReceipt) (readback : SemanticReadback) (observed : CompleteRead)
    (locator : Option CreatedResourceLocator) : Prop where
  made : ∃ bundle preDigest preCompleteness disposition entry,
    call.semanticReceipt host bundle preDigest preCompleteness observed locator disposition entry = .ok receipt ∧
      (entry.bind fun e => e.createdResource) = locator
  wasRead : observed.1 ∈ reads
  asked : postReadbackForLocator host call.intent locator = some readback
  shows : readbackMatches readback call.intent observed.1 locator = true
  reviewers : readback.request.operation.isCollection = true → ∀ s, observed.1.snapshot = some (.requestedReviewers s) →
    s.reviewerSetDigest = host.digestValue (reviewersJson s.reviewers)

def Made (host : Host) (call : BrokerCall) (reads : List GitHubReadResult) (receipt : SemanticMutationReceipt) : Prop :=
  ∃ readback observed locator, Verification host call reads receipt readback observed locator

/-- The entry is of the intent of the call and of the candidate, configuration and gate of its context. -/
structure EvidenceFits (host : Host) (call : BrokerCall) (entry : MutationJournalEntry) : Prop where
  intent : entry.evidence.intentIdentity = call.intent.identity host
  candidate : entry.evidence.candidateSha = call.context.candidateSha
  configuration : entry.evidence.configurationDigest = call.context.configurationDigest
  gate : entry.evidence.gateIdentity = call.context.gateIdentity

/-- The receipt of a verified entry. -/
def Stored (call : BrokerCall) (file : JournalFile host) (receipt : SemanticMutationReceipt) : Prop :=
  ∃ entry, file.get (call.key host) = some entry ∧ entry.receipt = some receipt ∧ EvidenceFits host call entry

/-- How a call changes the entry of its key. -/
inductive EntryChange (host : Host) (call : BrokerCall) (reads : List GitHubReadResult) :
    Option MutationJournalEntry → MutationJournalEntry → Prop
  | claim (bundle : SchemaV2AuthorizationBundle) :
      EntryChange host call reads none (claimEntry host call.intent call.context bundle)
  | move {prior updated : MutationJournalEntry} (moved : Moved host prior updated)
      (located : updated.createdResource = prior.createdResource ∨ prior.createdResource = none)
      (receipt : ∀ r ∈ updated.receipt, Made host call reads r) : EntryChange host call reads (some prior) updated

/-- The result is no stale response. -/
def NotStale (result : GitHubReadResult) : Prop := ∀ f, result.outcome = .error f → f.kind ≠ .staleResponse

/-- One step, on an answer, of a call that began in the world `start`. -/
inductive CallStep (call : BrokerCall) (start : World host) : Answer → World host → World host → Prop
  | idle {i : Answer} (w : World host) : CallStep call start i w w
  | observe {i : Answer} (w : World host) (result : GitHubReadResult) (source : result = i.read ∨ NotStale result) :
      CallStep call start i w (w.observe result)
  | file {i : Answer} (w : World host) (file : JournalFile host)
      (step : FileStep (call.key host) (EntryChange host call w.reads) w.file file) : CallStep call start i w { w with file }
  | dispatch {i : Answer} (w : World host) (request : OwnerMutationRequest) (entry : MutationJournalEntry)
      (ofKey : request.journalIdentity = call.key host) (fresh : start.file.get (call.key host) = none)
      (stored : w.file.get (call.key host) = some entry) (started : entry.lifecycle = .executionStarted)
      (captured : entry.preState ≠ none) (first : ∀ r ∈ w.requests, r.journalIdentity ≠ call.key host) :
      CallStep call start i w { w with requests := w.requests ++ [request] }
  | submit {i : Answer} (w : World host) :
      CallStep call start i w { w with submissions := w.submissions ++ [call.intent] }
  | remember {i : Answer} (w : World host) (receipt : SemanticMutationReceipt)
      (known : Made host call w.reads receipt ∨ Stored call w.file receipt) :
      CallStep call start i w
        { w with completed := Function.update w.completed (call.intent.identity host) (some receipt) }
  | forget {i : Answer} (w : World host) :
      CallStep call start i w { w with completed := Function.update w.completed (call.intent.identity host) none }

/-- A receipt that is returned was made by the call, remembered before it, or stored before it. -/
def Answered (call : BrokerCall) (start : World host) (outcome : Outcome) (w : World host) : Prop :=
  ∀ r, outcome = .ok (.receipt r) →
    Made host call w.reads r ∨ start.completed (call.intent.identity host) = some r ∨ Stored call start.file r

/-- The program takes steps of the call and answers. -/
abbrev Serves (call : BrokerCall) (start : World host) (p : BrokerProc host Outcome) (w : World host) : Prop :=
  p.Holds (CallStep call start) (Answered call start) w

section Parts

variable {call : BrokerCall} {start w : World host}

theorem answered_failure (failure : GitHubFailure) (reconciliation : Bool) :
    Answered call start (.ok (.failure failure reconciliation)) w := fun r h => by cases h

theorem answered_error (e : Error) : Answered call start (.error e) w := fun r h => by cases h

theorem answered_made {receipt : SemanticMutationReceipt} (h : Made host call w.reads receipt) :
    Answered call start (.ok (.receipt receipt)) w := fun r hr => by
  cases hr
  exact .inl h

/-! ## The journal -/

theorem journaled_holds {α : Type} {p : JournalProc host α}
    {change : Option MutationJournalEntry → MutationJournalEntry → Prop} {Q : α → JournalFile host → Prop}
    (h : p.Holds (fun _ => FileStep (call.key host) change) Q w.file)
    (hchange : ∀ (file : JournalFile host) prior entry, file.get (call.key host) = prior → change prior entry →
      EntryChange host call w.reads prior entry) :
    (journaled p).Holds (CallStep call start) (fun a w' => w' = { w with file := w'.file } ∧ Q a w'.file) w := by
  refine Proc.Holds.embed (fun t => t = { w with file := t.file }) (fun t s => rfl) (fun i t s ht hs => ?_)
    (fun a t ht hQ => ⟨ht, hQ⟩) rfl h
  refine ⟨.file t s (hs.mono fun prior entry hprior hc => ?_), ?_⟩
  · rw [ht]
    exact hchange _ _ _ hprior hc
  · show { t with file := s } = _
    rw [ht]

/-- What a transition of the broker may be asked for. -/
structure Fair (host : Host) (call : BrokerCall) (reads : List GitHubReadResult) (request : TransitionRequest) : Prop where
  located : request.createdResource ≠ none → request.lifecycle = .transportAccepted
  receipt : ∀ r ∈ request.receipt, Made host call reads r

theorem Fair.moveTo (lifecycle : JournalLifecycle) (reads : List GitHubReadResult) :
    Fair host call reads (BrokerCall.moveTo lifecycle) :=
  ⟨fun h => absurd rfl h, fun r h => by cases h⟩

variable {request : TransitionRequest}

theorem entryChange_of_updated {reads : List GitHubReadResult} (hfair : Fair host call reads request)
    {prior updated : MutationJournalEntry} (hvalid : prior.check host = .ok ())
    (hupdated : updatedEntry host prior request = .ok updated) : EntryChange host call reads (some prior) updated := by
  obtain ⟨hmoved, hlife, hreceipt, hcreated⟩ := updatedEntry_ok hupdated
  refine .move hmoved ?_ (by rw [hreceipt]; exact hfair.receipt)
  by_cases hloc : request.createdResource = none
  · left
    rw [hcreated, hloc]
    rfl
  · -- only an accepted transport brings a locator, and before it there is none
    right
    have hallowed := hmoved.allowed
    rw [hlife, hfair.located hloc] at hallowed
    have hstarted : prior.lifecycle = .executionStarted := by
      revert hallowed
      cases prior.lifecycle <;> simp [JournalLifecycle.allows]
    by_contra hsome
    have := (MutationJournalEntry.check_ok hvalid).2.2.1 hsome
    rw [hstarted] at this
    cases this

/-- The entry is in the journal under the key of the call. -/
def Keyed (host : Host) (call : BrokerCall) (entry : Option MutationJournalEntry) : Prop :=
  ∀ e ∈ entry, e.key host = call.key host

theorem journalTransition_holds {entry : MutationJournalEntry} (hkey : entry.key host = call.key host)
    (hfair : Fair host call w.reads request) :
    (call.journalTransition entry request).Holds (CallStep call start) (fun r w' => w' = { w with file := w'.file } ∧
      ∀ updated ∈ r, w'.file.get (call.key host) = some updated ∧ updatedEntry host entry request = .ok updated) w := by
  have hrun : (journaled (transition entry request)).Holds (CallStep call start) _ w :=
    journaled_holds (hkey ▸ transition_holds entry request w.file) fun file prior updated hget hchange => by
      obtain ⟨rfl, hupdated⟩ := hchange
      exact entryChange_of_updated hfair (JournalFile.get_valid hget).1 hupdated
  refine hrun.bind fun r w' hr => ?_
  obtain ⟨hframe, hr⟩ := hr
  cases r with
  | error e => exact ⟨hframe, fun updated h => by cases h⟩
  | ok updated =>
    have hupdated : ∀ other ∈ some updated, w'.file.get (call.key host) = some other ∧
        updatedEntry host entry request = .ok other := by
      intro other hother
      cases hother
      obtain ⟨hget, hok, -⟩ := hr updated rfl
      exact ⟨hkey ▸ hget, hok⟩
    change Proc.Holds _ _ (call.observeCheckpoint updated) w'
    unfold BrokerCall.observeCheckpoint
    split
    · exact fun i => ⟨.idle w', hframe, hupdated⟩
    · exact ⟨hframe, hupdated⟩

theorem updatedEntry_key {entry updated : MutationJournalEntry} (h : updatedEntry host entry request = .ok updated) :
    updated.key host = entry.key host :=
  (updatedEntry_ok h).1.key

/-- A checkpoint leaves the call without an entry, or with the next one. -/
theorem checkpoint_holds {entry : Option MutationJournalEntry} (hkey : Keyed host call entry)
    (hfair : Fair host call w.reads request) :
    (call.checkpoint entry request).Holds (CallStep call start) (fun r w' => w' = { w with file := w'.file } ∧
      ∀ next ∈ r, (next = none ∧ entry = none) ∨ ∃ e updated, entry = some e ∧ next = some updated ∧
        w'.file.get (call.key host) = some updated ∧ updatedEntry host e request = .ok updated) w := by
  cases entry with
  | none => exact ⟨rfl, fun next h => by cases h; exact .inl ⟨rfl, rfl⟩⟩
  | some e =>
    refine (journalTransition_holds (hkey e rfl) hfair).bind fun r w' hr => ⟨hr.1, fun next hnext => ?_⟩
    obtain ⟨updated, hupdated, rfl⟩ := Option.map_eq_some_iff.1 hnext
    obtain ⟨hget, hok⟩ := hr.2 updated hupdated
    exact .inr ⟨e, updated, rfl, rfl, hget, hok⟩

theorem noteCheckpoint_serves {entry : Option MutationJournalEntry} {outcome : Outcome} (hkey : Keyed host call entry)
    (hfair : Fair host call w.reads request) (hanswered : ∀ w', Answered call start outcome w') :
    Serves call start (call.noteCheckpoint entry request outcome) w := by
  cases entry with
  | none => exact hanswered w
  | some e => exact (journalTransition_holds (hkey e rfl) hfair).bind fun r w' _ => hanswered w'

theorem remember_serves {receipt : Option SemanticMutationReceipt} {p : BrokerProc host Outcome}
    (hknown : ∀ r ∈ receipt, Made host call w.reads r ∨ Stored call w.file r) (hrest : Serves call start p
      { w with completed := Function.update w.completed (call.intent.identity host) receipt }) :
    Serves call start (call.remember receipt >>= fun _ => p) w := by
  intro i
  refine ⟨?_, hrest⟩
  cases receipt with
  | none => exact .forget w
  | some r => exact .remember w r (hknown r rfl)

end Parts

end Roundwright.GitHub
