/-
Every stage of a broker call takes the steps of the call and answers as it may. The invariant that a stage
before the dispatch carries is `Owns`: the call itself claimed the key, and nothing was dispatched for it.
-/
import Roundwright.GitHub.BrokerStep

namespace Roundwright.GitHub

open Lib

variable {host : Host} {call : BrokerCall} {start w : World host}

/-! ## Reads -/

/-- The digest of the requested reviewers that a result shows is the digest of their list. -/
def ReviewersDigested (host : Host) (result : GitHubReadResult) : Prop :=
  ∀ s, result.snapshot = some (.requestedReviewers s) → s.reviewerSetDigest = host.digestValue (reviewersJson s.reviewers)

/-- What a complete read leaves behind: its result is among the reads, unless there were too many pages. -/
structure ReadDone (request : GitHubReadRequest) (w : World host) (r : Except Error CompleteRead) (w' : World host) : Prop where
  frame : w' = { w with reads := w'.reads }
  grows : ∀ result ∈ w.reads, result ∈ w'.reads
  wasRead : ∀ read, r = .ok read → read.1 ∈ w'.reads ∨ ∃ reason, read.1 = .failed request .malformedResponse reason
  reviewers : request.operation.isCollection = true → ∀ read, r = .ok read → ReviewersDigested host read.1

variable {request : GitHubReadRequest} {read : CompleteRead}

theorem readDone_observe (h : request.operation.isCollection = true → ReviewersDigested host read.1) :
    ReadDone request w (.ok read) (w.observe read.1) := by
  refine ⟨rfl, fun _ hmem => List.mem_append_left _ hmem, ?_, ?_⟩
  · rintro _ ⟨⟩
    exact .inl (by simp [World.observe])
  · rintro hcollection _ ⟨⟩
    exact h hcollection

variable {pages : List CollectionPage}

/-- The pages give a malformed response or the collection of their items. -/
theorem normalize_cases {r : Except GitHubReadResult CollectionSnapshot}
    (h : normalizeCompleteCollectionPages host request pages = .ok r) :
    (∃ reason, r = .error (.failed request .malformedResponse reason)) ∨
      ∃ first items, r = .ok (normalizedCollection host first pages items) := by
  unfold normalizeCompleteCollectionPages at h
  split at h
  · cases h
    exact .inl ⟨_, rfl⟩
  · split at h
    · cases h
    · cases h
      exact .inl ⟨_, rfl⟩
    · split at h
      · cases h
        exact .inl ⟨_, rfl⟩
      · dsimp only at h
        split at h
        · cases h
        · cases h
          exact .inr ⟨_, _, rfl⟩

/-- A malformed response is not stale and shows no reviewers. -/
theorem failed_done (request : GitHubReadRequest) (reason : String) :
    NotStale (.failed request .malformedResponse reason) ∧
    ReviewersDigested host (.failed request .malformedResponse reason) := by
  constructor
  · rintro f ⟨⟩
    simp
  · rintro s ⟨⟩

variable {binding : ReadBinding}

theorem endOfPages_done (h : endOfPages host binding request pages = .ok read) :
    NotStale read.1 ∧ ReviewersDigested host read.1 := by
  unfold endOfPages at h
  split at h
  · cases h
  · rename_i failure hnorm
    cases h
    obtain ⟨reason, hfailed⟩ | ⟨first, items, hok⟩ := normalize_cases hnorm
    · cases hfailed
      exact failed_done request reason
    · cases hok
  · rename_i collection hnorm
    cases h
    obtain ⟨reason, hfailed⟩ | ⟨first, items, hok⟩ := normalize_cases hnorm
    · cases hfailed
    · cases hok
      refine ⟨(fun f hf => by cases hf), fun s hs => ?_⟩
      cases first with
      | comments f => cases hs
      | reviews f => cases hs
      | requestedReviewers f =>
        cases hs
        rfl

/-- A page that ends a collection gives no stale response. -/
theorem takePage_done {cursor : Option String} {page : Option CollectionPage}
    (h : takePage host binding request cursor pages page = .error (.ok read)) :
    NotStale read.1 ∧ ReviewersDigested host read.1 := by
  unfold takePage at h
  split at h
  · cases h
    exact failed_done request _
  · split at h
    · cases h
      exact failed_done request _
    · split at h
      · exact endOfPages_done (Except.error.inj h)
      · cases h

theorem readPages_holds (binding : ReadBinding) (request : GitHubReadRequest) :
    ∀ (left : Nat) (pages : List CollectionPage) (cursor : Option String) (w : World host),
      (readPages binding request left pages cursor).Holds (CallStep call start) (ReadDone request w) w
  | 0, _, _, w => by
    refine ⟨rfl, fun _ h => h, ?_, ?_⟩
    · rintro _ ⟨⟩
      exact .inr ⟨_, rfl⟩
    · rintro _ _ ⟨⟩ s hs
      cases hs
  | left + 1, pages, cursor, w => by
    intro i
    dsimp only
    cases htake : takePage host binding request cursor pages i.page with
    | ok next => exact ⟨.idle w, readPages_holds binding request left next.1 next.2 w⟩
    | error finished =>
      cases finished with
      | error e =>
        refine ⟨.idle w, rfl, fun _ h => h, ?_, ?_⟩
        · rintro _ ⟨⟩
        · rintro _ _ ⟨⟩
      | ok read =>
        obtain ⟨hfresh, hreviewers⟩ := takePage_done htake
        exact ⟨.observe w read.1 (.inr hfresh), readDone_observe fun _ => hreviewers⟩

theorem completeBrokerRead_holds (binding : ReadBinding) (request : GitHubReadRequest) (w : World host) :
    (completeBrokerRead binding request).Holds (CallStep call start) (ReadDone request w) w := by
  unfold completeBrokerRead
  split
  · exact readPages_holds binding request 32 [] none w
  · rename_i hcollection
    exact fun i => ⟨.observe w i.read (.inl rfl), readDone_observe fun h => absurd h hcollection⟩

/-- A result that was read, with its reviewers digested where collections are read. -/
def Seen (collections : Prop) (w : World host) (result : GitHubReadResult) : Prop :=
  result ∈ w.reads ∧ (collections → ReviewersDigested host result)

theorem preDispatchReads_holds {collections : Prop} :
    ∀ {requests : List GitHubReadRequest} {first : Option GitHubReadResult} {evidence : List Json} {w : World host},
      (∀ q ∈ requests, collections → q.operation.isCollection = true) → (∀ f ∈ first, Seen collections w f) →
      (preDispatchReads binding requests first evidence).Holds (CallStep call start) (fun r w' =>
        w' = { w with reads := w'.reads } ∧ ∀ before pre, r = .ok (before, pre) → before.ok = true →
          Seen collections w' before) w
  | [], none, _, w, _, _ => ⟨rfl, fun _ _ h => by cases h⟩
  | [], some first, _, w, _, hfirst => ⟨rfl, fun before pre h _ => by cases h; exact hfirst first rfl⟩
  | request :: requests, first, evidence, w, hrequests, hfirst => by
    refine (completeBrokerRead_holds binding request w).bind fun r w' hr => ?_
    cases r with
    | error e => exact ⟨hr.frame, fun _ _ h => by cases h⟩
    | ok read =>
      obtain ⟨result, completeness⟩ := read
      have hseen : result.ok = true → Seen collections w' result := fun hok => by
        refine ⟨?_, fun hc => hr.reviewers (hrequests request (by simp) hc) _ rfl⟩
        rcases hr.wasRead _ rfl with hmem | ⟨reason, hfailed⟩
        · exact hmem
        · change result = _ at hfailed
          rw [hfailed] at hok
          cases hok
      dsimp only
      split
      · exact ⟨hr.frame, fun before pre h hok => by cases h; exact hseen hok⟩
      · rename_i snapshot hsnapshot
        split
        · exact ⟨hr.frame, fun before pre h hok => by cases h; exact hseen hok⟩
        · have hok : result.ok = true := by
            unfold GitHubReadResult.snapshot at hsnapshot
            unfold GitHubReadResult.ok
            cases hout : result.outcome with
            | ok value => rfl
            | error f =>
              rw [hout] at hsnapshot
              cases hsnapshot
          have hnext : ∀ f ∈ first.or (some result), Seen collections w' f := by
            intro f hf
            cases first with
            | none =>
              cases hf
              exact hseen hok
            | some g =>
              cases hf
              exact ⟨hr.grows _ (hfirst _ rfl).1, (hfirst _ rfl).2⟩
          refine (preDispatchReads_holds (fun q hq => hrequests q (List.mem_cons_of_mem _ hq)) hnext).mono fun r w'' h => ?_
          obtain ⟨hframe, hdone⟩ := h
          refine ⟨?_, hdone⟩
          rw [hframe, hr.frame]

variable {intent : GitHubMutationIntent}

/-- Where the read-back is of a collection, so are the reads before the dispatch. -/
theorem plan_collections :
    ∀ q ∈ (brokerSemanticPlan host intent).preDispatchReads,
      (brokerSemanticPlan host intent).readback.request.operation.isCollection = true → q.operation.isCollection = true := by
  intro q hq
  cases hm : intent.mutation <;>
    simp [brokerSemanticPlan, planReads, hm, GitHubReadOperation.isCollection] at hq ⊢ <;> simp [hq]

/-! ## Receipts -/

/-- The locator of a call is the one its entry holds. -/
def Located (entry : Option MutationJournalEntry) (locator : Option CreatedResourceLocator) : Prop :=
  (entry.bind fun e => e.createdResource) = locator

variable {locator : Option CreatedResourceLocator}

theorem readbackMatches_malformed {readback : SemanticReadback} {reason : String} :
    readbackMatches readback intent (.failed request .malformedResponse reason) locator = false := by
  unfold readbackMatches
  split <;> simp [GitHubReadResult.failed]

variable {bundle : SchemaV2AuthorizationBundle} {disposition : MutationDisposition} {receipt : SemanticMutationReceipt}

variable {entry : Option MutationJournalEntry}

/-- A receipt over a read-back that shows the effect was made by the call. -/
theorem made_of_readback {readback : SemanticReadback}
    {preDigest preCompleteness : Option Digest} {w' : World host}
    (hasked : postReadbackForLocator host call.intent locator = some readback)
    (hread : ReadDone readback.request w (.ok read) w')
    (hshows : readbackMatches readback call.intent read.1 locator = true) (hlocated : Located entry locator)
    (hreceipt : call.semanticReceipt host bundle preDigest preCompleteness read locator disposition entry = .ok receipt) :
    Made host call w'.reads receipt := by
  refine ⟨readback, read, locator, ⟨_, _, _, _, _, hreceipt, hlocated⟩, ?_, hasked, hshows,
    fun hcollection => hread.reviewers hcollection read rfl⟩
  rcases hread.wasRead _ rfl with hmem | ⟨reason, hfailed⟩
  · exact hmem
  · rw [hfailed, readbackMatches_malformed] at hshows
    cases hshows

/-- Without a locator nothing that is allocated is read back. -/
theorem readbackMatches_unlocated {result : GitHubReadResult} (halloc : intent.operation.allocates = true) :
    readbackMatches (brokerSemanticPlan host intent).readback intent result none = false := by
  have hcondition : (brokerSemanticPlan host intent).readback.condition ≠ .branchAbsent := by
    cases hm : intent.mutation <;>
      simp [brokerSemanticPlan, planReads, hm, GitHubMutationIntent.operation, GitHubMutationOperation.allocates] at halloc ⊢
  unfold readbackMatches
  rw [if_neg hcondition]
  cases result.outcome with
  | error f => rfl
  | ok snapshot =>
    cases hop : intent.operation <;> simp only [hop, GitHubMutationOperation.allocates, Bool.false_eq_true] at halloc
    · cases snapshot <;> rfl
    · cases snapshot <;> rfl

/-- What shows the effect of a mutation without a locator is the read-back of the plan. -/
theorem postReadback_none {result : GitHubReadResult}
    (hshows : readbackMatches (brokerSemanticPlan host intent).readback intent result none = true) :
    postReadbackForLocator host intent none = some (brokerSemanticPlan host intent).readback := by
  have halloc : intent.operation.allocates = false := by
    by_contra hne
    rw [readbackMatches_unlocated (by simpa using hne)] at hshows
    cases hshows
  unfold postReadbackForLocator
  cases hop : intent.operation <;> simp [hop, GitHubMutationOperation.allocates] at halloc <;> rfl

/-! ## Execution -/

/-- The call claimed the key of its entry itself, and nothing was dispatched for it yet. -/
structure Owns (call : BrokerCall) (start w : World host) (entry : MutationJournalEntry) : Prop where
  fresh : start.file.get (call.key host) = none
  stored : w.file.get (call.key host) = some entry
  first : ∀ r ∈ w.requests, r.journalIdentity ≠ call.key host

theorem Owns.key {entry : MutationJournalEntry} (h : Owns call start w entry) : entry.key host = call.key host :=
  (JournalFile.get_valid h.stored).2

theorem Owns.keyed (h : ∀ e ∈ entry, Owns call start w e) : Keyed host call entry :=
  fun e he => (h e he).key

/-- A request is sealed only over an entry that has started with a captured pre-state. -/
theorem sealedRequest_ok {payload : GhMutationPayload} {entry : MutationJournalEntry} {request : OwnerMutationRequest}
    (h : call.sealedRequest host payload bundle entry = .ok request) :
    request.journalIdentity = entry.key host ∧ entry.lifecycle = .executionStarted ∧ entry.preState ≠ none := by
  simp only [BrokerCall.sealedRequest, bind_eq_ok, exists_unit, refuse_eq_ok, demand_eq_ok, pure_eq_ok, not_or, not_not] at h
  obtain ⟨-, ⟨hlife, -⟩, preState, hpre, -, -, rfl⟩ := h
  exact ⟨rfl, hlife, by simp [hpre]⟩

variable {created : Option CreatedResourceLocator}

/-- Only an allocating mutation comes with a locator. -/
theorem ownerExecution_created {request : OwnerMutationRequest} {answer : OwnerAnswer}
    (h : call.ownerExecution host request answer = (.ok disposition, created))
    (halloc : call.intent.operation.allocates = false) : created = none := by
  unfold BrokerCall.ownerExecution at h
  split at h
  · cases h
  · split at h <;> cases h
  · split at h
    · rename_i hfact
      cases h
      have hvalid := hfact.2.2
      unfold BrokerCall.validateCreatedResourceLocator at hvalid
      cases hop : call.intent.operation <;> simp_all [GitHubMutationOperation.allocates]
    · cases h

variable {now : Int}

/-- An execution dispatches at most the sealed request of the entry that the call owns. -/
theorem execute_holds (howns : ∀ e ∈ entry, Owns call start w e) :
    (call.execute bundle entry now).Holds (CallStep call start) (fun r w' => w'.file = w.file ∧
      ∀ disposition created, r = (.ok disposition, created) →
        call.intent.operation.allocates = false ∨ entry = none → created = none) w := by
  unfold BrokerCall.execute
  split
  · exact ⟨rfl, fun _ _ h => by cases h⟩
  · cases entry with
    | none => exact ⟨rfl, fun _ _ h => by cases h⟩
    | some entry =>
      dsimp only
      unfold BrokerCall.executorExecute
      split
      · exact ⟨rfl, fun _ _ h => by cases h⟩
      · split
        · exact ⟨rfl, fun _ _ h => by cases h⟩
        · rename_i request hrequest
          have hown := howns entry rfl
          obtain ⟨hkey, hstarted, hcaptured⟩ := sealedRequest_ok hrequest
          refine fun i => ⟨.dispatch w request entry (hkey.trans hown.key) hown.fresh hown.stored hstarted hcaptured
            hown.first, rfl, fun disposition created h hcase => ?_⟩
          rcases hcase with halloc | hnone
          · exact ownerExecution_created h halloc
          · cases hnone
  · exact ⟨rfl, fun _ _ h => by cases h⟩
  · exact fun i => ⟨.submit w, rfl, fun disposition created h _ => (Prod.mk.inj h).2.symm⟩

/-! ## Submission -/

theorem answered_denied (reason : String) : Answered call start (call.denied reason) w := answered_failure _ _

theorem answered_stale (reason : String) : Answered call start (call.stale reason) w := answered_failure _ _

theorem answered_unreconciled (reason : String) : Answered call start (call.unreconciled reason) w := answered_failure _ _

theorem finishVerified_serves (hkey : Keyed host call entry) (hmade : Made host call w.reads receipt) :
    Serves call start (call.finishVerified entry receipt) w := by
  refine remember_serves (fun r hr => by cases hr; exact .inl hmade) ?_
  generalize hw : { w with completed := Function.update w.completed (call.intent.identity host) (some receipt) } = known
  have hmade : Made host call known.reads receipt := by
    rw [← hw]
    exact hmade
  cases entry with
  | none => exact answered_made hmade
  | some entry =>
    have hfair : Fair host call known.reads ⟨.verified, some receipt, none, none⟩ :=
      ⟨fun h => absurd rfl h, fun r hr => by cases hr; exact hmade⟩
    refine (journalTransition_holds (hkey entry rfl) hfair).bind fun r w' hr => ?_
    cases r with
    | some updated =>
      have hreads : w'.reads = known.reads := by rw [hr.1]
      exact answered_made (hreads ▸ hmade)
    | none => exact remember_serves (fun r hr => by cases hr) (answered_unreconciled _)

variable {pre : Option (Digest × Digest)}

theorem verifyReadback_serves (hkey : Keyed host call entry) (hlocated : Located entry created) :
    Serves call start (call.verifyReadback bundle pre entry disposition created) w := by
  unfold BrokerCall.verifyReadback
  split
  · exact answered_denied _
  · rename_i readback hasked
    refine (completeBrokerRead_holds _ readback.request w).bind fun r w' hr => ?_
    cases r with
    | error e => exact answered_error e
    | ok after =>
      dsimp only
      split
      · rename_i hshows
        split
        · exact answered_error _
        · rename_i receipt hreceipt
          exact finishVerified_serves hkey (made_of_readback hasked hr hshows hlocated hreceipt)
      · exact noteCheckpoint_serves hkey (.moveTo _ _) fun _ => answered_unreconciled _

/-- The entry of an accepted mutation holds its locator. -/
theorem finishAccepted_serves (hkey : Keyed host call entry) (hunlocated : ∀ e ∈ entry, e.createdResource = none)
    (hcreated : call.intent.operation.allocates = false ∨ entry = none → created = none) :
    Serves call start (call.finishAccepted bundle pre entry disposition created) w := by
  have hfair : Fair host call w.reads
      ⟨.transportAccepted, none, none, if call.intent.operation.allocates then some created else none⟩ :=
    ⟨fun _ => rfl, fun r hr => by cases hr⟩
  refine (checkpoint_holds hkey hfair).bind fun r w₁ hr => ?_
  cases r with
  | none => exact answered_unreconciled _
  | some accepted =>
    have haccepted : Keyed host call accepted ∧ Located accepted created := by
      rcases hr.2 accepted rfl with ⟨rfl, hnone⟩ | ⟨e, updated, rfl, rfl, -, hupdated⟩
      · refine ⟨(fun e h => by cases h), ?_⟩
        rw [hcreated (.inr hnone)]
        rfl
      · refine ⟨(fun e' h => by cases h; exact (updatedEntry_key hupdated).trans (hkey e rfl)), ?_⟩
        change updated.createdResource = created
        rw [(updatedEntry_ok hupdated).2.2.2]
        cases halloc : call.intent.operation.allocates with
        | true => rfl
        | false =>
          rw [hcreated (.inl halloc)]
          exact hunlocated e rfl
    refine (checkpoint_holds haccepted.1 (.moveTo _ _)).bind fun r w₂ hr => ?_
    cases r with
    | none => exact answered_unreconciled _
    | some applied =>
      rcases hr.2 applied rfl with ⟨rfl, rfl⟩ | ⟨e, updated, rfl, rfl, -, hupdated⟩
      · exact verifyReadback_serves haccepted.1 haccepted.2
      · refine verifyReadback_serves (fun e' h => by cases h; exact (updatedEntry_key hupdated).trans (haccepted.1 e rfl)) ?_
        have hkept : updated.createdResource = e.createdResource := (updatedEntry_ok hupdated).2.2.2
        exact hkept.trans haccepted.2

theorem finishExecution_serves {execution : Execution} (hkey : Keyed host call entry)
    (hunlocated : ∀ e ∈ entry, e.createdResource = none)
    (hcreated : ∀ disposition created, execution = (.ok disposition, created) →
      call.intent.operation.allocates = false ∨ entry = none → created = none) :
    Serves call start (call.finishExecution bundle pre entry execution) w := by
  unfold BrokerCall.finishExecution
  split
  · exact noteCheckpoint_serves hkey (.moveTo _ _) fun _ => answered_failure _ _
  · exact noteCheckpoint_serves hkey (.moveTo _ _) fun _ => answered_failure _ _
  · exact finishAccepted_serves hkey hunlocated (hcreated _ _ rfl)

/-- An entry that was just started has no locator. -/
theorem unlocated_of_started {entry updated : MutationJournalEntry}
    (h : updatedEntry host entry (BrokerCall.moveTo .executionStarted) = .ok updated) : updated.createdResource = none := by
  obtain ⟨hmoved, hlife, -, -⟩ := updatedEntry_ok h
  by_contra hsome
  have := (MutationJournalEntry.check_ok hmoved.valid).2.2.1 hsome
  rw [hlife] at this
  cases this

theorem startExecution_serves (howns : ∀ e ∈ entry, Owns call start w e) :
    Serves call start (call.startExecution bundle now pre entry) w := by
  refine (checkpoint_holds (Owns.keyed howns) (.moveTo _ _)).bind fun r w' hr => ?_
  cases r with
  | none => exact answered_stale _
  | some started =>
    have hrequests : w'.requests = w.requests := by rw [hr.1]
    have hstarted : ∀ e ∈ started, Owns call start w' e ∧ e.createdResource = none := by
      intro e he
      rcases hr.2 started rfl with ⟨rfl, -⟩ | ⟨prior, updated, rfl, rfl, hget, hupdated⟩
      · cases he
      · cases he
        have hprior := howns prior rfl
        exact ⟨⟨hprior.fresh, hget, hrequests ▸ hprior.first⟩, unlocated_of_started hupdated⟩
    refine (execute_holds fun e he => (hstarted e he).1).bind fun r w'' hr => ?_
    exact finishExecution_serves (Owns.keyed fun e he => (hstarted e he).1) (fun e he => (hstarted e he).2) hr.2

theorem alreadySatisfied_serves {before : GitHubReadResult} (hkey : Keyed host call entry)
    (hunlocated : ∀ e ∈ entry, e.createdResource = none)
    (hseen : Seen ((call.plan host).readback.request.operation.isCollection = true) w before)
    (hshows : readbackMatches (call.plan host).readback call.intent before none = true) :
    Serves call start (call.alreadySatisfied bundle before pre entry) w := by
  cases entry with
  | none => exact answered_denied _
  | some entry =>
    simp only [BrokerCall.alreadySatisfied]
    split
    · exact answered_error _
    · rename_i receipt hreceipt
      have hmade : Made host call w.reads receipt :=
        ⟨_, _, none, ⟨_, _, _, _, _, hreceipt, hunlocated entry rfl⟩, hseen.1, postReadback_none hshows, hshows, hseen.2⟩
      have hfair : Fair host call w.reads ⟨.verified, some receipt, none, none⟩ :=
        ⟨fun h => absurd rfl h, fun r hr => by cases hr; exact hmade⟩
      refine (journalTransition_holds (hkey entry rfl) hfair).bind fun r w' hr => ?_
      have hreads : w'.reads = w.reads := by rw [hr.1]
      cases r with
      | none => exact answered_stale _
      | some updated =>
        exact remember_serves (fun r h => by cases h; exact .inl (hreads ▸ hmade)) (answered_made (hreads ▸ hmade))

/-- An entry whose pre-state was just captured has no locator. -/
theorem unlocated_of_captured {entry updated : MutationJournalEntry}
    (h : updatedEntry host entry ⟨.prestateCaptured, none, pre, none⟩ = .ok updated) : updated.createdResource = none := by
  obtain ⟨hmoved, hlife, -, -⟩ := updatedEntry_ok h
  by_contra hsome
  have := (MutationJournalEntry.check_ok hmoved.valid).2.2.1 hsome
  rw [hlife] at this
  cases this

theorem submitRead_serves {r : Except Error (GitHubReadResult × Option (Digest × Digest))}
    (howns : ∀ e ∈ entry, Owns call start w e) (hseen : ∀ before pre, r = .ok (before, pre) → before.ok = true →
      Seen ((call.plan host).readback.request.operation.isCollection = true) w before) :
    Serves call start (call.submitRead bundle now entry r) w := by
  unfold BrokerCall.submitRead
  split
  · exact answered_error _
  · rename_i before pre
    split
    · rename_i hok
      have hfair : Fair host call w.reads ⟨.prestateCaptured, none, pre, none⟩ :=
        ⟨fun h => absurd rfl h, fun r hr => by cases hr⟩
      refine (checkpoint_holds (Owns.keyed howns) hfair).bind fun r w' hr => ?_
      cases r with
      | none => exact answered_stale _
      | some captured =>
        have hrequests : w'.requests = w.requests := by rw [hr.1]
        have hreads : w'.reads = w.reads := by rw [hr.1]
        have hcaptured : ∀ e ∈ captured, Owns call start w' e ∧ e.createdResource = none := by
          intro e he
          rcases hr.2 captured rfl with ⟨rfl, -⟩ | ⟨prior, updated, rfl, rfl, hget, hupdated⟩
          · cases he
          · cases he
            have hprior := howns prior rfl
            exact ⟨⟨hprior.fresh, hget, hrequests ▸ hprior.first⟩, unlocated_of_captured hupdated⟩
        dsimp only
        split
        · rename_i hshows
          obtain ⟨hmem, hdigested⟩ := hseen before pre rfl hok
          exact alreadySatisfied_serves (Owns.keyed fun e he => (hcaptured e he).1) (fun e he => (hcaptured e he).2)
            ⟨hreads ▸ hmem, hdigested⟩ hshows
        · exact startExecution_serves fun e he => (hcaptured e he).1
    · exact noteCheckpoint_serves (Owns.keyed howns) (.moveTo _ _) fun _ => answered_stale _

theorem submitFresh_serves (howns : ∀ e ∈ entry, Owns call start w e) : Serves call start
    (call.submitFresh bundle now entry) w := by
  unfold BrokerCall.submitFresh
  split
  · exact answered_denied _
  · refine (preDispatchReads_holds plan_collections (fun f h => by cases h)).bind fun r w' hr => ?_
    obtain ⟨hframe, hseen⟩ := hr
    refine submitRead_serves (fun e he => ?_) hseen
    have hown := howns e he
    rw [hframe]
    exact ⟨hown.fresh, hown.stored, hown.first⟩

/-! ## Reconciliation -/

theorem finishReconciled_serves (hkey : Keyed host call entry) (hmade : Made host call w.reads receipt) :
    Serves call start (call.finishReconciled receipt entry) w := by
  cases entry with
  | none => exact answered_unreconciled _
  | some entry =>
    have hfair : Fair host call w.reads ⟨.verified, some receipt, none, none⟩ :=
      ⟨fun h => absurd rfl h, fun r hr => by cases hr; exact hmade⟩
    refine (journalTransition_holds (hkey entry rfl) hfair).bind fun r w' hr => ?_
    have hreads : w'.reads = w.reads := by rw [hr.1]
    cases r with
    | none => exact answered_unreconciled _
    | some updated =>
      exact remember_serves (fun r h => by cases h; exact .inl (hreads ▸ hmade)) (answered_made (hreads ▸ hmade))

theorem settleEntry_holds {entry : MutationJournalEntry} (hkey : entry.key host = call.key host) :
    (call.settleEntry entry).Holds (CallStep call start) (fun r w' => w'.reads = w.reads ∧ Keyed host call r) w := by
  have hmove : ∀ lifecycle, (call.journalTransition entry (BrokerCall.moveTo lifecycle)).Holds (CallStep call start)
      (fun r w' => w'.reads = w.reads ∧ Keyed host call r) w := fun lifecycle =>
    (journalTransition_holds hkey (.moveTo lifecycle _)).mono fun r w' hr =>
      ⟨by rw [hr.1], fun e he => (updatedEntry_key (hr.2 e he).2).trans hkey⟩
  unfold BrokerCall.settleEntry
  split
  · exact hmove _
  · exact hmove _
  · exact ⟨rfl, fun e he => by cases he; exact hkey⟩

theorem reconcileReadback_serves {entry : MutationJournalEntry} {preState : PreStateEvidence}
    (hkey : entry.key host = call.key host) :
    Serves call start (call.reconcileReadback bundle entry preState) w := by
  unfold BrokerCall.reconcileReadback
  split
  · exact answered_denied _
  · rename_i readback hasked
    refine (completeBrokerRead_holds _ readback.request w).bind fun r w' hr => ?_
    cases r with
    | error e => exact answered_error e
    | ok observed =>
      dsimp only
      split
      · rename_i hshows
        split
        · exact answered_error _
        · rename_i receipt hreceipt
          have hlocated : Located (some entry) entry.createdResource := rfl
          have hmade := made_of_readback hasked hr hshows hlocated hreceipt
          refine (settleEntry_holds hkey).bind fun r w'' hsettled => ?_
          exact finishReconciled_serves hsettled.2 (hsettled.1 ▸ hmade)
      · exact answered_unreconciled _

/-- A call on the entry that it found when it began. -/
structure Finds (call : BrokerCall) (start : World host) (entry : MutationJournalEntry) : Prop where
  found : start.file.get (call.key host) = some entry
  fits : EvidenceFits host call entry

theorem reconcileEntry_serves {entry : MutationJournalEntry} (h : Finds call start entry) :
    Serves call start (call.reconcileEntry bundle entry) start := by
  unfold BrokerCall.reconcileEntry
  split
  · exact answered_denied _
  · split
    · exact answered_denied _
    · split
      · rename_i receipt _ hreceipt
        have hstored : Stored call start.file receipt := ⟨entry, h.found, hreceipt, h.fits⟩
        refine remember_serves (fun r hr => by cases hr; exact .inr hstored) fun r hr => ?_
        cases hr
        exact .inr (.inr hstored)
      · exact answered_error _
      · exact answered_denied _
      · exact answered_denied _
      · exact reconcileReadback_serves (JournalFile.get_valid h.found).2

/-- The preflight looks at the clock and changes nothing. -/
theorem preflight_holds {step : Answer → World host → World host → Prop} {Q : Outcome → World host → Prop}
    {f : Except Error Int → BrokerProc host Outcome} (hrefl : ∀ i, step i w w) (h : ∀ r, (f r).Holds step Q w) :
    (call.preflight >>= f).Holds step Q w := by
  unfold BrokerCall.preflight
  split
  · rw [Proc.bind_assoc]
    unfold BrokerCall.now
    split
    · exact h _
    · exact fun i => ⟨hrefl i, h _⟩
  · exact h _

theorem preflight_serves {f : Except Error Int → BrokerProc host Outcome} (h : ∀ r, Serves call start (f r) w) :
    Serves call start (call.preflight >>= f) w :=
  preflight_holds (fun _ => .idle w) h

theorem reconcileJournal_serves {entry : MutationJournalEntry} (h : Finds call start entry) :
    Serves call start (call.reconcileJournal bundle entry) start := by
  refine preflight_serves fun r => ?_
  unfold BrokerCall.reconcileAt
  split
  · exact answered_denied _
  · split
    · exact answered_stale _
    · split
      · exact answered_denied _
      · split
        · exact answered_denied _
        · exact reconcileEntry_serves h

/-! ## The two operations -/

/-- The bundle that an authorized call is given seals its own time. -/
theorem authorize_ok (h : call.authorize host now = .ok (.ok bundle)) :
    bundle.timeIdentity = timeIdentityOf host bundle.evaluatedAt bundle.freshUntil := by
  simp only [BrokerCall.authorize, bind_eq_ok, exists_unit, pure_eq_ok] at h
  obtain ⟨-, made, hmade, hauthorized⟩ := h
  have hsame : made = bundle := by
    cases hi : authorizeIntent call.intent call.context with
    | error f =>
      rw [hi] at hauthorized
      cases hauthorized
    | ok u =>
      rw [hi] at hauthorized
      cases hauthorized
      rfl
  subst hsame
  simp only [schemaV2AuthorizationBundle, bind_eq_ok, exists_unit, refuse_eq_ok, pure_eq_ok] at hmade
  obtain ⟨-, -, -, -, -, -, -, rfl⟩ := hmade
  rfl

theorem claimEntry_check {context : MutationBrokerContext}
    (h : bundle.timeIdentity = timeIdentityOf host bundle.evaluatedAt bundle.freshUntil) :
    (claimEntry host intent context bundle).check host = .ok () := by
  simp [MutationJournalEntry.check, claimEntry, bind_eq_ok, h, JournalLifecycle.executionCapable, JournalLifecycle.located]

theorem claimEntry_fits {entry : MutationJournalEntry}
    (h : entry.evidence = (claimEntry host call.intent call.context bundle).evidence) : EvidenceFits host call entry := by
  constructor <;> rw [h] <;> rfl

theorem recoverable_fits {entry : MutationJournalEntry} (h : recoverable host call.intent call.context entry) :
    EvidenceFits host call entry := by
  obtain ⟨-, -, -, hintent, -, -, -, -, -, -, hcandidate, hconfiguration, hgate⟩ := h
  exact ⟨hintent, hcandidate, hconfiguration, hgate⟩

/-- Where the journal holds nothing for a key, nothing was dispatched for it. -/
def Undispatched (call : BrokerCall) (start : World host) : Prop :=
  start.file.get (call.key host) = none → ∀ r ∈ start.requests, r.journalIdentity ≠ call.key host

theorem submitAuthorized_serves (hstart : Undispatched call start)
    (htime : bundle.timeIdentity = timeIdentityOf host bundle.evaluatedAt bundle.freshUntil) :
    Serves call start (call.submitAuthorized bundle now) start := by
  unfold BrokerCall.submitAuthorized
  split
  · exact answered_denied _
  · refine fun i => ⟨.idle start, ?_⟩
    dsimp only [Proc.action]
    cases hcached : start.completed (call.intent.identity host) with
    | some prior =>
      intro r hr
      cases hr
      exact .inr (.inl hcached)
    | none =>
      change Serves call start (if call.broker.journal then _ else _) start
      split
      · have hrun : (journaled (claim (claimEntry host call.intent call.context bundle))).Holds (CallStep call start) _ start :=
          journaled_holds (claim_holds (claimEntry_check htime) start.file) fun file prior entry _ hchange => by
            obtain ⟨rfl, rfl⟩ := hchange
            exact .claim bundle
        refine hrun.bind fun r w' hr => ?_
        obtain ⟨hframe, hr⟩ := hr
        unfold BrokerCall.submitClaimed
        split
        · exact answered_denied _
        · rename_i entry
          obtain ⟨hget, -, hprior⟩ := hr entry false rfl
          obtain ⟨hfile, hevidence⟩ := hprior rfl
          have hsame : w' = start := by rw [hframe, hfile]
          subst hsame
          exact reconcileJournal_serves ⟨hget, claimEntry_fits hevidence⟩
        · rename_i entry
          obtain ⟨hget, hcreated, -⟩ := hr entry true rfl
          obtain ⟨hnone, -⟩ := hcreated rfl
          have hrequests : w'.requests = start.requests := by rw [hframe]
          refine submitFresh_serves fun e he => ?_
          cases he
          exact ⟨hnone, hget, hrequests ▸ hstart hnone⟩
      · exact submitFresh_serves fun e he => by cases he

/-- Every submission takes the steps of its call and answers as it may. -/
theorem submit_serves (hstart : Undispatched call start) : Serves call start call.submit start := by
  unfold BrokerCall.submit
  split
  · exact answered_denied _
  · refine preflight_serves fun r => ?_
    unfold BrokerCall.submitAt
    split
    · exact answered_denied _
    · split
      · exact answered_denied _
      · exact answered_failure _ _
      · rename_i bundle hbundle
        exact submitAuthorized_serves hstart (authorize_ok hbundle)

theorem reconcileAuthorized_serves : Serves call start (call.reconcileAuthorized bundle) start := by
  unfold BrokerCall.reconcileAuthorized
  split
  · have hrun : (journaled (findEntry (call.key host))).Holds (CallStep call start) _ start :=
      journaled_holds (findEntry_holds (call.key host) start.file) fun _ _ _ _ h => h.elim
    refine hrun.bind fun r w' hr => ?_
    obtain ⟨hframe, hfile, hfound⟩ := hr
    have hsame : w' = start := by rw [hframe, hfile]
    subst hsame
    unfold BrokerCall.reconcileFound
    split
    · exact answered_denied _
    · exact answered_denied _
    · rename_i entry
      split
      · rename_i hrecoverable
        exact reconcileJournal_serves ⟨hfound _ rfl, recoverable_fits hrecoverable⟩
      · exact answered_denied _
  · split
    · exact answered_denied _
    · refine (completeBrokerRead_holds _ _ start).bind fun r w' hr => ?_
      unfold BrokerCall.reconcileObserved
      split
      · exact answered_error _
      · rename_i observed
        split
        · rename_i hshows
          split
          · exact answered_error _
          · rename_i receipt hreceipt
            have hlocated : Located none none := rfl
            have hmade := made_of_readback (postReadback_none hshows) hr hshows hlocated hreceipt
            exact remember_serves (fun r h => by cases h; exact .inl hmade) (answered_made hmade)
        · exact answered_unreconciled _

/-- Every reconciliation takes the steps of its call and answers as it may. -/
theorem reconcile_serves : Serves call start call.reconcile start := by
  unfold BrokerCall.reconcile
  split
  · exact answered_denied _
  · refine preflight_serves fun r => ?_
    unfold BrokerCall.reconcilePreflight
    split
    · exact answered_denied _
    · split
      · exact answered_denied _
      · exact answered_failure _ _
      · exact reconcileAuthorized_serves

end Roundwright.GitHub
