/-
What the journal holds of a call whose mutation has an unknown outcome. A call that has written that its execution
starts and returns a failure leaves the entry ambiguous, unless the operation allocates and the transport did not accept
it: then there is no locator, without which an ambiguous entry of such an operation is refused, and the entry stays as
it was when the execution started.
-/
import Roundwright.GitHub.Receipt
import Roundwright.Lib.Ends

namespace Roundwright.GitHub

open Lib

variable {host : Host}

/-! ## Transitions on a disk without faults -/

variable {entry : MutationJournalEntry}

theorem MutationJournalEntry.check_iff : entry.check host = .ok () ↔
    entry.evidence.timeIdentity = timeIdentityOf host entry.evidence.evaluatedAt entry.evidence.freshUntil ∧
    decide (entry.lifecycle = .verified) = entry.receipt.isSome ∧
    (∀ p ∈ entry.preState, p.identity = entry.evidence.preStateIdentity host p.completenessIdentity p.digest) ∧
    (entry.lifecycle.executionCapable = true → entry.preState ≠ none) ∧
    (entry.lifecycle = .claimed → entry.preState = none) ∧
    (entry.evidence.operation.allocates = true → entry.lifecycle.located = true → entry.createdResource ≠ none) ∧
    (∀ l ∈ entry.createdResource, l.operation = entry.evidence.operation ∧ l.repository = entry.evidence.repository) ∧
    (entry.createdResource ≠ none → entry.lifecycle.unlocated = false) ∧
    ∀ r ∈ entry.receipt, entry.receiptMatches host r := by
  simp only [MutationJournalEntry.check, bind_eq_ok, exists_unit, refuse_eq_ok, not_and, not_exists, not_or, not_not,
    ne_eq, Bool.not_eq_true]

variable {request : TransitionRequest}

/-- A transition that captures no pre-state is refused only by the entry it would make. -/
theorem updatedEntry_eq {prior : MutationJournalEntry}
    (hallow : prior.lifecycle.allows request.lifecycle = true) (hlife : request.lifecycle ≠ .prestateCaptured)
    (hpre : request.preState = none) (hreceipt : request.lifecycle = .verified ↔ request.receipt ≠ none) :
    updatedEntry host prior request =
      let updated : MutationJournalEntry := { prior with
        lifecycle := request.lifecycle
        receipt := request.receipt
        createdResource := request.createdResource.getD prior.createdResource }
      (updated.check host).map fun _ => updated := by
  have hverified : ¬ (request.lifecycle = .verified ∧ request.receipt = none) := fun h => hreceipt.1 h.1 h.2
  have hother : ¬ (request.lifecycle ≠ .verified ∧ request.receipt ≠ none) := fun h => h.1 (hreceipt.2 h.2)
  unfold updatedEntry
  rw [refuse_of_not (by simp [hallow]), refuse_of_not (by simp [hlife]), refuse_of_not (by simp [hpre]),
    refuse_of_not hverified, refuse_of_not hother, hpre]
  cases hcheck : MutationJournalEntry.check host { prior with
    lifecycle := request.lifecycle
    receipt := request.receipt
    createdResource := request.createdResource.getD prior.createdResource } with
  | error e =>
    simp only [ok_bind, Option.map_none, Option.none_or, hcheck]
    rfl
  | ok _ =>
    simp only [ok_bind, Option.map_none, Option.none_or, hcheck]
    rfl

section Journal

variable {α : Type} {Q : α → JournalFile host → Prop} {s : JournalFile host}

/-- A load finds the contents of a file without a temporary one. -/
theorem load_under {f : Except Error (Records host) → JournalProc host α}
    (herror : ∀ e, (s.temporary = none → ∃ e, s.contents = .error e) → (f (.error e)).Under (· = false) Q s)
    (hok : ∀ records, s.temporary = none → s.contents = .ok records → (f (.ok records)).Under (· = false) Q s) :
    (load >>= f).Under (· = false) Q s := by
  rw [load_bind]
  rintro _ rfl
  show Proc.Under _ _ (if s.temporary.isSome then _ else _) s
  cases htemporary : s.temporary with
  | some text => exact herror _ fun h => absurd (htemporary.symm.trans h) (by simp)
  | none =>
    rw [loadPath_bind]
    rintro _ rfl
    show Proc.Under _ _ (if s.path.isSome then _ else _) s
    cases hpath : s.path with
    | none => exact hok _ htemporary (by simp [JournalFile.contents, hpath])
    | some text =>
      rintro _ rfl
      show Proc.Under _ _ (f (readResult s false)) s
      have hcontents : s.contents = decode text := by simp [JournalFile.contents, hpath]
      cases hdecode : decode text with
      | error e =>
        have hread : readResult s false = .error e := by simp [readResult, hpath, hdecode]
        rw [hread]
        exact herror e fun _ => ⟨e, hcontents.trans hdecode⟩
      | ok records =>
        have hread : readResult s false = .ok records := by simp [readResult, hpath, hdecode]
        rw [hread]
        exact hok _ htemporary (hcontents.trans hdecode)

theorem store_under {f : Except Error Unit → JournalProc host α} {records : Records host} {key : Digest}
    (hcontents : s.contents = .ok records) (hvalid : entry.check host = .ok ())
    (hok : ∀ s', s'.temporary = none → s'.contents = .ok (records.upsert entry) → (f (.ok ())).Under (· = false) Q s') :
    (store (records.upsert entry) records key >>= f).Under (· = false) Q s := by
  rw [store_bind]
  rintro _ rfl _ rfl
  refine hok _ rfl ?_
  simp [replaced, written, JournalFile.contents, decode_upsert (JournalFile.contents_valid hcontents) hvalid]

/-- A claim that fails leaves the file, one that finds an entry leaves it too, and one that makes an entry stores it. -/
theorem claim_under {evidence : MutationJournalEntry} (hvalid : evidence.check host = .ok ()) (s : JournalFile host) :
    (claim evidence).Under (· = false) (fun r s' => (∀ e, r = .error e → s' = s) ∧
      (∀ entry, r = .ok (entry, false) → s' = s ∧ s.get (evidence.key host) = some entry) ∧
      ∀ entry, r = .ok (entry, true) → entry = evidence ∧ s'.temporary = none ∧
        s'.get (evidence.key host) = some evidence) s := by
  refine load_under (fun e _ => ⟨fun _ _ => rfl, by rintro _ ⟨⟩, by rintro _ ⟨⟩⟩) fun records _ hcontents => ?_
  have hget : s.get (evidence.key host) = records.get (evidence.key host) := by simp [JournalFile.get, hcontents]
  simp only [claimLoaded]
  cases hfound : records.get (evidence.key host) with
  | some prior =>
    dsimp only
    by_cases hmatch : prior.evidence = evidence.evidence
    · rw [if_pos hmatch]
      refine ⟨by rintro _ ⟨⟩, ?_, by rintro _ ⟨⟩⟩
      rintro entry ⟨⟩
      exact ⟨rfl, hget.trans hfound⟩
    · rw [if_neg hmatch]
      exact ⟨fun _ _ => rfl, by rintro _ ⟨⟩, by rintro _ ⟨⟩⟩
  | none =>
    refine store_under hcontents hvalid fun s' htemporary hafter => ⟨by rintro _ ⟨⟩, by rintro _ ⟨⟩, ?_⟩
    rintro entry ⟨⟩
    exact ⟨rfl, htemporary, by simp [JournalFile.get, hafter, Records.get_upsert_self]⟩

/-- A transition of the entry that the file holds fails only if the entry refuses it. -/
theorem transition_under (htemporary : s.temporary = none)
    (hget : s.get (entry.key host) = some entry) :
    (transition entry request).Under (· = false) (fun r s' =>
      (∀ e, updatedEntry host entry request = .error e → r = .error e ∧ s' = s) ∧
      ∀ updated, updatedEntry host entry request = .ok updated →
        r = .ok updated ∧ s'.temporary = none ∧ s'.get (entry.key host) = some updated) s := by
  refine load_under (fun e hno => ?_) fun records _ hcontents => ?_
  · obtain ⟨e, hcontents⟩ := hno htemporary
    simp [JournalFile.get, hcontents] at hget
  · have hfound : records.get (entry.key host) = some entry := by simpa [JournalFile.get, hcontents] using hget
    simp only [transitionLoaded, if_pos hfound]
    cases hupdated : updatedEntry host entry request with
    | error e =>
      refine ⟨?_, by rintro _ ⟨⟩⟩
      rintro _ ⟨⟩
      exact ⟨rfl, rfl⟩
    | ok updated =>
      have hmoved := (updatedEntry_ok hupdated).1
      refine store_under hcontents hmoved.valid fun s' htemporary hafter => ⟨by rintro _ ⟨⟩, ?_⟩
      rintro _ ⟨⟩
      refine ⟨rfl, htemporary, ?_⟩
      rw [← hmoved.key]
      simp [JournalFile.get, hafter, Records.get_upsert_self]

end Journal

/-! ## The entry of a call -/

/-- The disk carries out its part. -/
def Faultless (i : Answer) : Prop := i.fault = false

/-- The journal holds the entry under the key of the call, with nothing pending. -/
structure AtEntry (call : BrokerCall) (w : World host) (entry : MutationJournalEntry) : Prop where
  settled : w.file.temporary = none
  stored : w.file.get (call.key host) = some entry

section Entry

variable {call : BrokerCall} {w w' : World host} {entry : MutationJournalEntry} {request : TransitionRequest}

theorem AtEntry.key (h : AtEntry call w entry) : entry.key host = call.key host := (JournalFile.get_valid h.stored).2

theorem AtEntry.valid (h : AtEntry call w entry) : entry.check host = .ok () := (JournalFile.get_valid h.stored).1

theorem AtEntry.of_file (h : AtEntry call w entry) (hfile : w'.file = w.file) : AtEntry call w' entry :=
  ⟨hfile ▸ h.settled, hfile ▸ h.stored⟩

theorem journaled_under {α : Type} {p : JournalProc host α} {Q : α → JournalFile host → Prop}
    (h : p.Under (· = false) Q w.file) :
    (journaled p).Under Faultless (fun a w' => Q a w'.file) w := by
  unfold journaled
  refine Proc.Under.embed ?_ ?_ h
  · exact fun _ _ => rfl
  · exact fun _ hi => hi

/-- A checkpoint of the entry that the journal holds stands unless the entry refuses it. -/
theorem journalTransition_under (h : AtEntry call w entry) :
    (call.journalTransition entry request).Under Faultless (fun r w' =>
      (∀ e, updatedEntry host entry request = .error e → r = none ∧ AtEntry call w' entry) ∧
      ∀ updated, updatedEntry host entry request = .ok updated → r = some updated ∧ AtEntry call w' updated) w := by
  have hget : w.file.get (entry.key host) = some entry := h.key ▸ h.stored
  refine (journaled_under (transition_under h.settled hget)).bind fun r w' hr => ?_
  cases hupdated : updatedEntry host entry request with
  | error e =>
    obtain ⟨rfl, hfile⟩ := hr.1 e hupdated
    refine ⟨fun _ _ => ⟨rfl, h.of_file hfile⟩, by rintro _ ⟨⟩⟩
  | ok updated =>
    obtain ⟨rfl, htemporary, hstored⟩ := hr.2 updated hupdated
    have hat : AtEntry call w' updated := ⟨htemporary, h.key ▸ hstored⟩
    have hresult : (∀ e, (Except.ok updated : Except Error MutationJournalEntry) = .error e → some updated = none ∧
      AtEntry call w' entry) ∧
        ∀ other, (Except.ok updated : Except Error MutationJournalEntry) = .ok other → some updated = some other ∧
          AtEntry call w' other := by
      refine ⟨by rintro _ ⟨⟩, ?_⟩
      rintro _ ⟨⟩
      exact ⟨rfl, hat⟩
    show Proc.Under _ _ (call.observeCheckpoint updated) w'
    unfold BrokerCall.observeCheckpoint
    split
    · exact fun _ _ => hresult
    · exact hresult

theorem checkpoint_under (h : AtEntry call w entry) :
    (call.checkpoint (some entry) request).Under Faultless (fun r w' =>
      (∀ e, updatedEntry host entry request = .error e → r = none ∧ AtEntry call w' entry) ∧
      ∀ updated, updatedEntry host entry request = .ok updated → r = some (some updated) ∧
        AtEntry call w' updated) w := by
  refine (journalTransition_under h).bind fun r w' hr => ⟨fun e he => ?_, fun updated hupdated => ?_⟩
  · obtain ⟨rfl, hat⟩ := hr.1 e he
    exact ⟨rfl, hat⟩
  · obtain ⟨rfl, hat⟩ := hr.2 updated hupdated
    exact ⟨rfl, hat⟩

theorem remember_under {receipt : Option SemanticMutationReceipt} {p : BrokerProc host Outcome}
    {Q : Outcome → World host → Prop}
    (h : p.Under Faultless Q { w with completed := Function.update w.completed (call.intent.identity host) receipt }) :
    (call.remember receipt >>= fun _ => p).Under Faultless Q w := fun _ _ => h

end Entry

/-! ## After the start of the execution -/

/-- The call returns a failure. -/
def Fails (outcome : Outcome) : Prop := ∃ failure reconciliation, outcome = .ok (.failure failure reconciliation)

/-- A failure leaves the entry ambiguous. -/
def LeavesAmbiguous (call : BrokerCall) (outcome : Outcome) (w : World host) : Prop :=
  Fails outcome → ∃ entry, AtEntry call w entry ∧ entry.lifecycle = .ambiguous

/-- The entry that this call claimed, at this point of its execution. -/
structure Claimed (call : BrokerCall) (bundle : SchemaV2AuthorizationBundle) (w : World host)
    (entry : MutationJournalEntry) (lifecycle : JournalLifecycle) (created : Option CreatedResourceLocator) :
    Prop extends AtEntry call w entry where
  evidence : entry.evidence = (claimEntry host call.intent call.context bundle).evidence
  lifecycle_eq : entry.lifecycle = lifecycle
  created_eq : entry.createdResource = created
  captured : entry.preState ≠ none
  unreceipted : entry.receipt = none

/-- A locator that the operation of the call goes with: the one that it allocates, and that its read-back can be asked
for. -/
structure Allocated (host : Host) (call : BrokerCall) (created : Option CreatedResourceLocator) : Prop where
  some_iff : call.intent.operation.allocates = true ↔ created ≠ none
  fits : ∀ l ∈ created, l.operation = call.intent.operation ∧ l.repository = call.intent.repository
  asked : postReadbackForLocator host call.intent created ≠ none

variable {located : Option CreatedResourceLocator} {disposition : MutationDisposition}

section Execution

variable {call : BrokerCall} {bundle : SchemaV2AuthorizationBundle} {w w' : World host} {entry : MutationJournalEntry}
  {lifecycle : JournalLifecycle} {created : Option CreatedResourceLocator}

theorem Claimed.operation (h : Claimed call bundle w entry lifecycle created) :
    entry.evidence.operation = call.intent.operation := by
  rw [h.evidence]
  rfl

theorem Claimed.move_ok (h : Claimed call bundle w entry lifecycle created) {next : JournalLifecycle}
    (hrequest : request.lifecycle = next) (hpre : request.preState = none) (hreceipt : request.receipt = none)
    (hlocated : request.createdResource.getD created = located) (hallow : lifecycle.allows next = true)
    (hnext : next ∉ [.prestateCaptured, .verified])
    (hfits : ∀ l ∈ located, l.operation = call.intent.operation ∧ l.repository = call.intent.repository)
    (hlocator : call.intent.operation.allocates = true → next.located = true → located ≠ none)
    (hearly : located ≠ none → next.unlocated = false) :
    updatedEntry host entry request = .ok { entry with lifecycle := next, receipt := none, createdResource :=
    located } := by
  subst hrequest
  obtain ⟨htime, -, hidentity, -, -, -, -, -, -⟩ := MutationJournalEntry.check_iff.1 h.valid
  rw [updatedEntry_eq (h.lifecycle_eq ▸ hallow) (fun hno => hnext (by simp [hno])) hpre]
  · rw [hreceipt, h.created_eq, hlocated]
    have hcheck : MutationJournalEntry.check host
        { entry with lifecycle := request.lifecycle, receipt := none, createdResource := located } = .ok () := by
      refine MutationJournalEntry.check_iff.2 ⟨htime, ?_, hidentity, fun _ => h.captured, ?_, ?_, ?_, hearly, by simp⟩
      · have hno : request.lifecycle ≠ .verified := fun hno => hnext (by simp [hno])
        simp [hno]
      · intro hno
        exfalso
        revert hallow
        rw [show request.lifecycle = .claimed from hno]
        cases lifecycle <;> decide
      · rw [h.operation]
        exact hlocator
      · intro l hl
        show l.operation = entry.evidence.operation ∧ l.repository = entry.evidence.repository
        rw [h.evidence]
        exact hfits l hl
    simp only [hcheck]
    rfl
  · constructor
    · intro hno
      exact absurd hno fun hno => hnext (by simp [hno])
    · intro hno
      exact absurd hreceipt hno

/-- An entry of an allocating operation without a locator is not left ambiguous. -/
theorem Claimed.ambiguous_refused (h : Claimed call bundle w entry .executionStarted none)
    (halloc : call.intent.operation.allocates = true) :
    ∃ e, updatedEntry host entry (BrokerCall.moveTo .ambiguous) = .error e := by
  cases hupdated : updatedEntry host entry (BrokerCall.moveTo .ambiguous) with
  | error e => exact ⟨e, rfl⟩
  | ok updated =>
    obtain ⟨hmoved, hlife, -, hcreated⟩ := updatedEntry_ok hupdated
    obtain ⟨-, -, -, -, -, hlocator, -, -, -⟩ := MutationJournalEntry.check_iff.1 hmoved.valid
    refine absurd (hcreated.trans h.created_eq) (hlocator ?_ ?_)
    · rw [hmoved.evidence, h.operation]
      exact halloc
    · rw [hlife]
      rfl

theorem Claimed.next (h : Claimed call bundle w entry lifecycle created) {next : JournalLifecycle}
    (hat : AtEntry call w' { entry with lifecycle := next, receipt := none, createdResource := located }) :
    Claimed call bundle w' { entry with lifecycle := next, receipt := none, createdResource := located } next located :=
  { hat with evidence := h.evidence, lifecycle_eq := rfl, created_eq := rfl, captured := h.captured, unreceipted :=
    rfl }

theorem Claimed.of_file (h : Claimed call bundle w entry lifecycle created) (hfile : w'.file = w.file) :
    Claimed call bundle w' entry lifecycle created :=
  { h.toAtEntry.of_file hfile with
    evidence := h.evidence, lifecycle_eq := h.lifecycle_eq, created_eq := h.created_eq, captured :=
      h.captured, unreceipted := h.unreceipted }

/-- The checkpoint that leaves an entry ambiguous. -/
theorem noteAmbiguous_under (h : Claimed call bundle w entry lifecycle created)
    (hallow : lifecycle.allows .ambiguous = true) (hallocated : call.intent.operation.allocates = true → created ≠ none)
    (hfits : ∀ l ∈ created, l.operation = call.intent.operation ∧ l.repository = call.intent.repository)
    (outcome : Outcome) :
    (call.noteCheckpoint (some entry) (BrokerCall.moveTo .ambiguous) outcome).Under Faultless
    (LeavesAmbiguous call) w := by
  have hok : updatedEntry host entry (BrokerCall.moveTo .ambiguous) =
      .ok { entry with lifecycle := .ambiguous, receipt := none, createdResource := created } :=
    h.move_ok rfl rfl rfl rfl hallow (by decide) hfits (fun halloc _ => hallocated halloc) (fun _ => rfl)
  refine (journalTransition_under h.toAtEntry).bind fun r w' hr => ?_
  obtain ⟨-, hat⟩ := hr.2 _ hok
  exact fun _ => ⟨_, hat, rfl⟩

theorem Claimed.receiptMatches (h : Claimed call bundle w entry lifecycle created)
    {preDigest preCompleteness : Option Digest} {observed : CompleteRead} {locator : Option CreatedResourceLocator}
    {receipt : SemanticMutationReceipt}
    (hreceipt : call.semanticReceipt host bundle preDigest preCompleteness observed locator disposition
    (some entry) = .ok receipt) :
    entry.receiptMatches host receipt := by
  simp only [BrokerCall.semanticReceipt, bind_eq_ok, exists_unit, refuse_eq_ok, demand_eq_ok, pure_eq_ok] at hreceipt
  obtain ⟨postDigest, -, affected, -, binding, -, -, preComplete, -, postComplete, -, digest, -, -, rfl⟩ := hreceipt
  have hfields : ∀ {α : Type} (f : JournalEvidence → α),
      f (claimEntry host call.intent call.context bundle).evidence = f entry.evidence := fun f => by rw [h.evidence]
  exact ⟨hfields (·.repository), hfields (·.operation), hfields (·.idempotencyKey), rfl, hfields (·.intentIdentity),
    hfields (·.semanticPlanIdentity), hfields (·.semanticReadbackIdentity), hfields (·.candidateSha),
      hfields (·.configurationDigest),
    hfields (·.gateIdentity), rfl, rfl, rfl, rfl⟩

/-- A verified receipt is stored, so that the call returns it. -/
theorem finishVerified_under (h : Claimed call bundle w entry .appliedAwaitingVerification created)
    {receipt : SemanticMutationReceipt} (hmatches : entry.receiptMatches host receipt) :
    (call.finishVerified (some entry) receipt).Under Faultless (LeavesAmbiguous call) w := by
  obtain ⟨htime, -, hidentity, -, -, hlocator, hfits, -, -⟩ := MutationJournalEntry.check_iff.1 h.valid
  have hok : updatedEntry host entry ⟨.verified, some receipt, none, none⟩ =
      .ok { entry with lifecycle := .verified, receipt := some receipt } := by
    rw [updatedEntry_eq (by rw [h.lifecycle_eq]; rfl) (by simp) rfl (by simp)]
    have hcheck : MutationJournalEntry.check host { entry with lifecycle := .verified, receipt := some receipt } =
      .ok () := by
      refine MutationJournalEntry.check_iff.2
        ⟨htime, rfl, hidentity, fun _ => h.captured, by simp, ?_, hfits, fun _ => rfl, ?_⟩
      · intro halloc _
        exact hlocator halloc (by rw [h.lifecycle_eq]; rfl)
      · rintro _ ⟨⟩
        exact hmatches
    simp only [Option.getD_none, hcheck]
    rfl
  have hat : AtEntry call { w with completed := Function.update w.completed (call.intent.identity host) (some receipt) }
    entry :=
    h.toAtEntry.of_file rfl
  refine remember_under ((journalTransition_under hat).bind fun r w' hr => ?_)
  obtain ⟨rfl, -⟩ := hr.2 _ hok
  rintro ⟨failure, reconciliation, hno⟩
  cases hno

variable {pre : Option (Digest × Digest)}

theorem verifyReadback_under (h : Claimed call bundle w entry .appliedAwaitingVerification created)
    (hallocated : Allocated host call created) :
    (call.verifyReadback bundle pre (some entry) disposition created).Under Faultless (LeavesAmbiguous call) w := by
  unfold BrokerCall.verifyReadback
  split
  · rename_i hnone
    exact absurd hnone hallocated.asked
  · rename_i readback _
    refine (completeBrokerRead_holds _ readback.request w : Proc.Holds (CallStep call w) _ _ _).under.bind fun r w'
      hr => ?_
    have hat : Claimed call bundle w' entry .appliedAwaitingVerification created := h.of_file (by rw [hr.frame])
    cases r with
    | error e =>
      rintro ⟨failure, reconciliation, hno⟩
      cases hno
    | ok after =>
      dsimp only
      split
      · split
        · rintro ⟨failure, reconciliation, hno⟩
          cases hno
        · rename_i receipt hreceipt
          exact finishVerified_under hat (hat.receiptMatches hreceipt)
      · exact noteAmbiguous_under hat rfl hallocated.some_iff.1 hallocated.fits _

theorem finishAccepted_under (h : Claimed call bundle w entry .executionStarted none)
    (hallocated : Allocated host call created) :
    (call.finishAccepted bundle pre (some entry) disposition created).Under Faultless (LeavesAmbiguous call) w := by
  have hlocated : (if call.intent.operation.allocates then some created else none).getD none = created := by
    cases halloc : call.intent.operation.allocates with
    | true => rfl
    | false =>
      by_contra hne
      have hsome := hallocated.some_iff.2 (Ne.symm hne)
      rw [halloc] at hsome
      cases hsome
  have haccepted : updatedEntry host entry
      ⟨.transportAccepted, none, none, if call.intent.operation.allocates then some created else none⟩ =
      .ok { entry with lifecycle := .transportAccepted, receipt := none, createdResource := created } :=
    h.move_ok rfl rfl rfl hlocated rfl (by decide) hallocated.fits (fun halloc _ => hallocated.some_iff.1 halloc)
      (fun _ => rfl)
  refine (checkpoint_under h.toAtEntry).bind fun r w₁ hr => ?_
  obtain ⟨rfl, hat⟩ := hr.2 _ haccepted
  have hclaimed := h.next hat
  have happlied : updatedEntry host _ (BrokerCall.moveTo .appliedAwaitingVerification) = .ok _ :=
    hclaimed.move_ok rfl rfl rfl rfl rfl (by decide) hallocated.fits (fun halloc _ => hallocated.some_iff.1 halloc)
      (fun _ => rfl)
  refine (checkpoint_under hclaimed.toAtEntry).bind fun r w₂ hr => ?_
  obtain ⟨rfl, hat⟩ := hr.2 _ happlied
  exact verifyReadback_under (hclaimed.next hat) hallocated

/-- The mutation was not accepted. -/
def Refused (result : Execution) : Prop := ∀ disposition created, result = (.ok disposition, created) →
    disposition = .rejected

theorem unacceptedLifecycle_of_claimed (h : Claimed call bundle w entry .executionStarted created) :
    BrokerCall.unacceptedLifecycle (some entry) = .ambiguous := if_pos ⟨entry, rfl, h.lifecycle_eq⟩

theorem finishExecution_refused {result : Execution} (h : Claimed call bundle w entry .executionStarted created)
    (hrefused : Refused result) (pre : Option (Digest × Digest)) : ∃ outcome, call.finishExecution bundle pre
    (some entry) result =
      (call.noteCheckpoint (some entry) (BrokerCall.moveTo .ambiguous) outcome : BrokerProc host Outcome) := by
  unfold BrokerCall.finishExecution
  rw [unacceptedLifecycle_of_claimed h]
  split
  · exact ⟨_, rfl⟩
  · exact ⟨_, rfl⟩
  · rename_i disposition created hno
    cases hrefused disposition created rfl
    exact absurd rfl hno

/-- An entry that may not be ambiguous stays as it was. -/
theorem noteAmbiguous_refused (h : Claimed call bundle w entry .executionStarted none)
    (halloc : call.intent.operation.allocates = true) (outcome : Outcome) :
    (call.noteCheckpoint (some entry) (BrokerCall.moveTo .ambiguous) outcome).Under Faultless
    (fun _ w' => AtEntry call w' entry) w := by
  obtain ⟨e, he⟩ := h.ambiguous_refused halloc
  exact (journalTransition_under h.toAtEntry).bind fun r w' hr => (hr.1 e he).2

/-! ## The execution -/

theorem allocated_none (halloc : call.intent.operation.allocates = false) : Allocated host call none := by
  refine ⟨by simp [halloc], by simp, ?_⟩
  unfold postReadbackForLocator
  cases hop : call.intent.operation <;> simp [hop, GitHubMutationOperation.allocates] at halloc <;> simp

/-- What the owner transport accepts of a sealed request comes with the locator of the operation. -/
theorem allocated_of_accepted {payload : GhMutationPayload} {request : OwnerMutationRequest} {answer : OwnerAnswer}
    (hsealed : call.sealedRequest host payload bundle entry = .ok request)
    (haccepted : call.ownerExecution host request answer = (.ok disposition, created)) :
    Allocated host call created := by
  simp only [BrokerCall.sealedRequest, bind_eq_ok, exists_unit, refuse_eq_ok, demand_eq_ok, pure_eq_ok] at hsealed
  obtain ⟨-, -, preState, -, -, -, rfl⟩ := hsealed
  -- what allocates nothing has no locator; the others have theirs checked against the intent
  cases halloc : call.intent.operation.allocates with
  | false =>
    rw [ownerExecution_created haccepted halloc]
    exact allocated_none halloc
  | true =>
    unfold BrokerCall.ownerExecution at haccepted
    split at haccepted
    · cases haccepted
    · split at haccepted <;> cases haccepted
    · split at haccepted
      · rename_i fact hfact
        cases haccepted
        obtain ⟨-, -, hvalid⟩ := hfact
        unfold BrokerCall.validateCreatedResourceLocator at hvalid
        cases hm : call.intent.mutation with
        | createPullRequest number p =>
          have hop : call.intent.operation = .createPullRequest := by simp [GitHubMutationIntent.operation, hm]
          rw [hop] at hvalid
          cases hcreated : fact.createdResource with
          | none => simp [hcreated] at hvalid
          | some l =>
            cases l with
            | comment repository issueNumber commentId markerDigest => simp [hcreated] at hvalid
            | pullRequest repository number' pullRequestId baseSha headSha markerDigest =>
              simp [hcreated, GitHubMutationIntent.pullRequestPayload, GitHubMutationIntent.bodyDigest, hm] at hvalid
              obtain ⟨rfl, rfl, rfl, rfl⟩ := hvalid
              refine ⟨by simp [halloc], ?_, ?_⟩
              · rintro _ ⟨⟩
                exact ⟨hop.symm, rfl⟩
              · simp [postReadbackForLocator, hop, locatorMatchesIntent, GitHubMutationIntent.pullRequestPayload, hm]
        | comment number body =>
          have hop : call.intent.operation = .comment := by simp [GitHubMutationIntent.operation, hm]
          rw [hop] at hvalid
          cases hcreated : fact.createdResource with
          | none => simp [hcreated] at hvalid
          | some l =>
            cases l with
            | pullRequest repository number' pullRequestId baseSha headSha markerDigest => simp [hcreated] at hvalid
            | comment repository issueNumber commentId markerDigest =>
              simp [hcreated, GitHubMutationIntent.targetNumber, GitHubMutationIntent.bodyDigest, hm] at hvalid
              obtain ⟨rfl, rfl, rfl⟩ := hvalid
              refine ⟨by simp [halloc], ?_, ?_⟩
              · rintro _ ⟨⟩
                exact ⟨hop.symm, rfl⟩
              · simp [postReadbackForLocator, hop, locatorMatchesIntent, GitHubMutationIntent.targetNumber,
                  GitHubMutationIntent.bodyDigest, hm]
        | _ => simp [GitHubMutationIntent.operation, hm, GitHubMutationOperation.allocates] at halloc
      · cases haccepted

theorem ownerExecution_ok {request : OwnerMutationRequest} {answer : OwnerAnswer}
    (h : call.ownerExecution host request answer = (.ok disposition, created)) : disposition = .accepted := by
  unfold BrokerCall.ownerExecution at h
  split at h
  · cases h
  · split at h <;> cases h
  · split at h <;> cases h
    rfl

/-- A dispatch of the call, and what the broker makes of the answer to it. -/
def Dispatched (host : Host) (call : BrokerCall) (result : Execution) (e : Event BrokerAction Answer (World host)) :
    Prop :=
  e.label = .dispatch ∧ ∃ request, e.after.requests.getLast? = some request ∧
    call.ownerExecution host request e.answer.fact = result

/-- An execution ends in what was made of its dispatch, if there was one. -/
structure Executed (host : Host) (call : BrokerCall) (events : List (Event BrokerAction Answer (World host)))
    (result : Execution) : Prop where
  dispatched : ∀ e ∈ events, e.label = .dispatch → Dispatched host call result e
  accepted : ∀ disposition created, result = (.ok disposition, created) → call.broker.executor.isSome = true →
    ∃ e ∈ events, Dispatched host call result e
  allocated : ∀ disposition created, result = (.ok disposition, created) →
    (call.intent.operation.allocates = true → call.broker.executor.isSome = true) → Allocated host call created

theorem execute_ends {now : Int} {events : List (Event BrokerAction Answer (World host))} {result : Execution}
    (h : (call.execute bundle (some entry) now).Finishes w events result w') : w'.file = w.file ∧
    Executed host call events result := by
  -- where nothing is dispatched, nothing is accepted
  have hrefused : ∀ failure, (pure (.error failure, none) : BrokerProc host Execution).Finishes w events result w' →
      w'.file = w.file ∧ Executed host call events result := by
    intro failure hends
    obtain ⟨rfl, rfl, rfl⟩ := Proc.finishes_ret_iff.1 hends
    exact ⟨rfl, by simp, by rintro _ _ ⟨⟩, by rintro _ _ ⟨⟩⟩
  unfold BrokerCall.execute at h
  split at h
  · exact hrefused _ h
  · rename_i executor payload hexecutor hpayload
    dsimp only at h
    unfold BrokerCall.executorExecute at h
    split at h
    · exact hrefused _ h
    · split at h
      · exact hrefused _ h
      · rename_i request hsealed
        obtain ⟨i, rfl, rfl, rfl⟩ := Proc.finishes_action_iff.1 h
        have hdispatched : Dispatched host call (call.ownerExecution host request i.fact)
            ⟨.dispatch, i, { w with requests := w.requests ++ [request] }⟩ := ⟨rfl, request, by simp, rfl⟩
        refine ⟨rfl, ?_, fun _ _ _ _ => ⟨_, List.mem_singleton_self _, hdispatched⟩,
          fun disposition created hresult _ => ?_⟩
        · intro e he _
          rw [List.mem_singleton.1 he]
          exact hdispatched
        · exact allocated_of_accepted hsealed hresult
  · exact hrefused _ h
  · rename_i hexecutor hpayload
    obtain ⟨i, rfl, rfl, rfl⟩ := Proc.finishes_action_iff.1 h
    refine ⟨rfl, by simp, fun _ _ _ hsome => ?_, fun disposition created hresult halloc => ?_⟩
    · rw [hexecutor] at hsome
      cases hsome
    · obtain rfl : none = created := (Prod.mk.inj hresult).2
      refine allocated_none ?_
      by_contra hno
      have hsome := halloc (by simpa using hno)
      rw [hexecutor] at hsome
      cases hsome

/-! ## Where nothing is dispatched -/

/-- The program hands nothing to the owner transport. -/
abbrev Silent {α : Type} (p : BrokerProc host α) : Prop := p.Within fun l => l ≠ .dispatch

theorem silent_journaled {α : Type} (p : JournalProc host α) : Silent (journaled p) := by
  unfold journaled
  exact Proc.Within.embed (fun _ => by simp) p

theorem silent_preflight : Silent (call.preflight : BrokerProc host _) := by
  unfold BrokerCall.preflight
  split
  · refine Proc.Within.bind ?_ fun _ => trivial
    unfold BrokerCall.now
    split
    · trivial
    · exact ⟨by simp, fun _ _ => trivial⟩
  · trivial

theorem silent_readPages (binding : ReadBinding) (request : GitHubReadRequest) :
    ∀ (left : Nat) (pages : List CollectionPage) (cursor : Option String),
    Silent (readPages binding request left pages cursor : BrokerProc host _)
  | 0, _, _ => trivial
  | left + 1, pages, cursor => by
    refine ⟨by simp, fun _ i => ?_⟩
    dsimp only
    split
    · trivial
    · exact silent_readPages binding request left _ _

theorem silent_completeBrokerRead (binding : ReadBinding) (request : GitHubReadRequest) :
    Silent (completeBrokerRead binding request : BrokerProc host _) := by
  unfold completeBrokerRead
  split
  · exact silent_readPages binding request 32 [] none
  · exact ⟨by simp, fun _ _ => trivial⟩

theorem silent_preDispatchReads (binding : ReadBinding) :
    ∀ (requests : List GitHubReadRequest) (first : Option GitHubReadResult) (evidence : List Json),
      Silent (preDispatchReads binding requests first evidence : BrokerProc host _)
  | [], none, _ => trivial
  | [], some _, _ => trivial
  | request :: requests, first, evidence => by
    refine Proc.Within.bind (silent_completeBrokerRead binding request) fun r => ?_
    split
    · trivial
    · split
      · trivial
      · split
        · trivial
        · exact silent_preDispatchReads binding requests _ _

theorem silent_journalTransition (entry : MutationJournalEntry) (request : TransitionRequest) :
    Silent (call.journalTransition entry request : BrokerProc host _) := by
  refine Proc.Within.bind (silent_journaled _) fun r => ?_
  split
  · trivial
  · unfold BrokerCall.observeCheckpoint
    split
    · exact ⟨by simp, fun _ _ => trivial⟩
    · trivial

theorem silent_checkpoint (entry : Option MutationJournalEntry) (request : TransitionRequest) :
    Silent (call.checkpoint entry request : BrokerProc host _) := by
  cases entry with
  | none => trivial
  | some entry => exact (silent_journalTransition entry request).bind fun _ => trivial

theorem silent_noteCheckpoint (entry : Option MutationJournalEntry) (request : TransitionRequest) (outcome : Outcome) :
    Silent (call.noteCheckpoint entry request outcome : BrokerProc host _) := by
  cases entry with
  | none => trivial
  | some entry => exact (silent_journalTransition entry request).bind fun _ => trivial

theorem silent_remember (receipt : Option SemanticMutationReceipt) :
    Silent (call.remember receipt : BrokerProc host _) :=
  ⟨by simp, fun _ _ => trivial⟩

theorem silent_finishExecution (entry : Option MutationJournalEntry) (result : Execution) :
    Silent (call.finishExecution bundle pre entry result : BrokerProc host _) := by
  unfold BrokerCall.finishExecution
  split
  · exact silent_noteCheckpoint _ _ _
  · exact silent_noteCheckpoint _ _ _
  · refine (silent_checkpoint _ _).bind fun r => ?_
    split
    · trivial
    · refine (silent_checkpoint _ _).bind fun r => ?_
      split
      · trivial
      · unfold BrokerCall.verifyReadback
        split
        · trivial
        · refine (silent_completeBrokerRead _ _).bind fun r => ?_
          split
          · trivial
          · split
            · split
              · trivial
              · refine (silent_remember _).bind fun _ => ?_
                split
                · trivial
                · refine (silent_journalTransition _ _).bind fun r => ?_
                  split
                  · trivial
                  · exact (silent_remember _).bind fun _ => trivial
            · exact silent_noteCheckpoint _ _ _

end Execution

/-! ## Before the start of the execution -/

/-- No entry under the key of the call is in a state from the start of its execution on. -/
def Unstarted (call : BrokerCall) (w : World host) : Prop :=
  ∀ entry, w.file.get (call.key host) = some entry → entry.lifecycle.started = false

/-- These actions hand nothing over, and then the call executes its mutation under an entry that it claimed. -/
structure Executes (call : BrokerCall) (events : List (Event BrokerAction Answer (World host))) (outcome : Outcome)
    (w : World host) :
    Prop where
  executed : ∃ bundle now pre entry result, ∃ (started finished : World host)
    (before during after : List (Event BrokerAction Answer (World host))),
      Claimed call bundle started entry .executionStarted none ∧
    (call.intent.operation.allocates = true → call.broker.executor.isSome = true) ∧
      (∀ e ∈ before, e.label ≠ .dispatch) ∧
    (call.execute bundle (some entry) now).Finishes started during result finished ∧
    (call.finishExecution bundle pre (some entry) result).Finishes finished after outcome w ∧ events = before ++
      (during ++ after)

/-- A run that fails, and either has not come to the execution or executes. -/
def Comes (call : BrokerCall) (events : List (Event BrokerAction Answer (World host))) (outcome : Outcome)
    (w : World host) : Prop :=
  Fails outcome → Unstarted call w ∨ Executes call events outcome w

section Start

variable {call : BrokerCall} {bundle : SchemaV2AuthorizationBundle} {now : Int} {w w' : World host}
  {entry : MutationJournalEntry} {events : List (Event BrokerAction Answer (World host))} {outcome : Outcome}

theorem AtEntry.unstarted (h : AtEntry call w entry) (hlife : entry.lifecycle.started = false) : Unstarted call w := by
  intro other hother
  rw [h.stored] at hother
  cases hother
  exact hlife

theorem Unstarted.of_file (h : Unstarted call w) (hfile : w'.file = w.file) : Unstarted call w' :=
    fun entry hentry => h entry (hfile ▸ hentry)

theorem not_fails_error (e : Error) : ¬ Fails (.error e) := by
  rintro ⟨failure, reconciliation, hno⟩
  cases hno

theorem not_fails_receipt (receipt : SemanticMutationReceipt) : ¬ Fails (.ok (.receipt receipt)) := by
  rintro ⟨failure, reconciliation, hno⟩
  cases hno

/-- A program that returns at once leaves what there is. -/
theorem comes_ret {returned : Outcome} (hends : (pure returned : BrokerProc host Outcome).Finishes w events outcome w')
    (h : Unstarted call w) : Comes call events outcome w' := by
  obtain ⟨-, -, rfl⟩ := Proc.finishes_ret_iff.1 hends
  exact fun _ => .inl h

theorem Comes.append {before : List (Event BrokerAction Answer (World host))} (h : Comes call events outcome w)
    (hbefore : ∀ e ∈ before, e.label ≠ .dispatch) : Comes call (before ++ events) outcome w := by
  intro hfails
  rcases h hfails with hno | ⟨bundle, now, pre, entry, result, started, finished, first, during, after, hclaimed,
    halloc, hfirst, hduring, hafter, rfl⟩
  · exact .inl hno
  · refine .inr ⟨bundle, now, pre, entry, result, started, finished, before ++ first, during, after, hclaimed, halloc,
      ?_, hduring, hafter, (List.append_assoc _ _ _).symm⟩
    intro e he
    rcases List.mem_append.1 he with he | he
    · exact hbefore e he
    · exact hfirst e he

theorem faultless_append {before after : List (Event BrokerAction Answer (World host))}
    (h : ∀ e ∈ before ++ after, Faultless e.answer) :
    (∀ e ∈ before, Faultless e.answer) ∧ ∀ e ∈ after, Faultless e.answer :=
  ⟨fun e he => h e (List.mem_append_left _ he), fun e he => h e (List.mem_append_right _ he)⟩

variable {pre : Option (Digest × Digest)}

theorem startExecution_comes (h : Claimed call bundle w entry .prestateCaptured none)
    (halloc : call.intent.operation.allocates = true → call.broker.executor.isSome = true)
    (hends : (call.startExecution bundle now pre (some entry)).Finishes w events outcome w')
    (hfaultless : ∀ e ∈ events, Faultless e.answer) :
    Comes call events outcome w' := by
  obtain ⟨r, w₁, before, rest, hcheckpoint, hrest, rfl⟩ := Proc.finishes_bind_iff.1 hends
  obtain ⟨hbefore, hfaultless⟩ := faultless_append hfaultless
  have hok : updatedEntry host entry (BrokerCall.moveTo .executionStarted) =
      .ok { entry with lifecycle := .executionStarted, receipt := none, createdResource := none } :=
    h.move_ok rfl rfl rfl rfl rfl (by decide) (by simp) (fun _ hno => by cases hno) (fun hno => absurd rfl hno)
  obtain ⟨rfl, hat⟩ := ((checkpoint_under h.toAtEntry).finishes hcheckpoint hbefore).2 _ hok
  obtain ⟨result, w₂, during, after, hduring, hafter, rfl⟩ := Proc.finishes_bind_iff.1 hrest
  exact fun _ => .inr ⟨bundle, now, pre, _, result, w₁, w₂, before, during, after, h.next hat, halloc,
    (silent_checkpoint _ _).label_of_mem hcheckpoint, hduring, hafter, rfl⟩

theorem alreadySatisfied_comes {before : GitHubReadResult} (h : Claimed call bundle w entry .prestateCaptured none)
    (hends : (call.alreadySatisfied bundle before pre (some entry)).Finishes w events outcome w')
    (hfaultless : ∀ e ∈ events, Faultless e.answer) :
    Comes call events outcome w' := by
  intro hfails
  simp only [BrokerCall.alreadySatisfied] at hends
  split at hends
  · obtain ⟨-, rfl, -⟩ := Proc.finishes_ret_iff.1 hends
    exact absurd hfails (not_fails_error _)
  · obtain ⟨r, w₁, first, rest, htransition, hrest, rfl⟩ := Proc.finishes_bind_iff.1 hends
    obtain ⟨hfirst, -⟩ := faultless_append hfaultless
    obtain ⟨hrefused, hstands⟩ := (journalTransition_under h.toAtEntry).finishes htransition hfirst
    cases hupdated : updatedEntry host entry _ with
    | error e =>
      obtain ⟨rfl, hat⟩ := hrefused e hupdated
      obtain ⟨-, -, rfl⟩ := Proc.finishes_ret_iff.1 hrest
      exact .inl (hat.unstarted (by rw [h.lifecycle_eq]; rfl))
    | ok updated =>
      obtain ⟨rfl, hat⟩ := hstands updated hupdated
      obtain ⟨_, _, _, _, -, hret, -⟩ := Proc.finishes_bind_iff.1 hrest
      obtain ⟨-, rfl, -⟩ := Proc.finishes_ret_iff.1 hret
      exact absurd hfails (not_fails_receipt _)

theorem claimed_captured {updated : MutationJournalEntry}
    (hupdated : updatedEntry host (claimEntry host call.intent call.context bundle)
    ⟨.prestateCaptured, none, pre, none⟩ = .ok updated) (hat : AtEntry call w updated) :
    Claimed call bundle w updated .prestateCaptured none := by
  obtain ⟨hmoved, hlife, hreceipt, hcreated⟩ := updatedEntry_ok hupdated
  obtain ⟨-, -, -, hcaptured, -, -, -, -, -⟩ := MutationJournalEntry.check_iff.1 hmoved.valid
  exact { hat with
    evidence := hmoved.evidence, lifecycle_eq := hlife, created_eq := hcreated, captured :=
      hcaptured (by rw [hlife]; rfl)
    unreceipted := hreceipt }

theorem submitRead_comes {r : Except Error (GitHubReadResult × Option (Digest × Digest))}
    (h : AtEntry call w (claimEntry host call.intent call.context bundle))
    (halloc : call.intent.operation.allocates = true → call.broker.executor.isSome = true)
    (hends : (call.submitRead bundle now (some (claimEntry host call.intent call.context bundle)) r).Finishes w events
    outcome w') (hfaultless : ∀ e ∈ events, Faultless e.answer) : Comes call events outcome w' := by
  cases r with
  | error e =>
    obtain ⟨-, rfl, -⟩ := Proc.finishes_ret_iff.1 hends
    exact fun hfails => absurd hfails (not_fails_error _)
  | ok read =>
    obtain ⟨before, pre⟩ := read
    simp only [BrokerCall.submitRead] at hends
    split at hends
    · obtain ⟨r, w₁, first, rest, hcheckpoint, hrest, rfl⟩ := Proc.finishes_bind_iff.1 hends
      obtain ⟨hfirst, hfaultless⟩ := faultless_append hfaultless
      obtain ⟨hrefused, hstands⟩ := (checkpoint_under h).finishes hcheckpoint hfirst
      refine Comes.append ?_ ((silent_checkpoint _ _).label_of_mem hcheckpoint)
      cases hupdated : updatedEntry host (claimEntry host call.intent call.context bundle)
        ⟨.prestateCaptured, none, pre, none⟩ with
      | error e =>
        obtain ⟨rfl, hat⟩ := hrefused e hupdated
        exact comes_ret hrest (hat.unstarted rfl)
      | ok updated =>
        obtain ⟨rfl, hat⟩ := hstands updated hupdated
        have hclaimed := claimed_captured hupdated hat
        dsimp only at hrest
        split at hrest
        · exact alreadySatisfied_comes hclaimed hrest hfaultless
        · exact startExecution_comes hclaimed halloc hrest hfaultless
    · obtain ⟨r, w₁, first, rest, htransition, hrest, rfl⟩ := Proc.finishes_bind_iff.1 hends
      obtain ⟨hfirst, -⟩ := faultless_append hfaultless
      obtain ⟨hrefused, hstands⟩ := (journalTransition_under h).finishes htransition hfirst
      refine Comes.append (comes_ret hrest ?_) ((silent_journalTransition _ _).label_of_mem htransition)
      cases hupdated : updatedEntry host (claimEntry host call.intent call.context bundle)
        (BrokerCall.moveTo .failed) with
      | error e => exact (hrefused e hupdated).2.unstarted rfl
      | ok updated => exact (hstands updated hupdated).2.unstarted (by rw [(updatedEntry_ok hupdated).2.1]; rfl)

theorem submitFresh_comes (h : AtEntry call w (claimEntry host call.intent call.context bundle))
    (hends : (call.submitFresh bundle now (some (claimEntry host call.intent call.context bundle))).Finishes w events
    outcome w') (hfaultless : ∀ e ∈ events, Faultless e.answer) : Comes call events outcome w' := by
  unfold BrokerCall.submitFresh at hends
  split at hends
  · exact comes_ret hends (h.unstarted rfl)
  · rename_i hexecutor
    obtain ⟨r, w₁, first, rest, hreads, hrest, rfl⟩ := Proc.finishes_bind_iff.1 hends
    obtain ⟨-, hfaultless⟩ := faultless_append hfaultless
    have hframe : w₁ = { w with reads := w₁.reads } := by
      have hholds : Proc.Holds (CallStep call w) _
          (completePreDispatchState (call.binding host bundle (some (claimEntry host call.intent call.context bundle))))
            w :=
        preDispatchReads_holds (fun _ _ (hno : False) => hno.elim) (by simp)
      exact (hholds.finishes hreads).1
    refine Comes.append (submitRead_comes (h.of_file (by rw [hframe])) (fun halloc => ?_) hrest hfaultless)
      ((silent_preDispatchReads _ _ _ _).label_of_mem hreads)
    cases hsome : call.broker.executor with
    | none => exact absurd ⟨halloc, by rw [hsome]; rfl⟩ hexecutor
    | some executor => rfl

theorem preflight_ends {now : Except Error Int} (hends : call.preflight.Finishes w events now w') : w' = w := by
  have hholds : (call.preflight >>= fun _ => (pure (.error .attribute) : BrokerProc host Outcome)).Holds
      (fun _ _ _ => True) (fun _ w' => w' = w) w := preflight_holds (fun _ => trivial) fun _ => rfl
  exact hholds.finishes (Proc.finishes_bind_iff.2 ⟨now, w', events, [], hends, .ret _ _, (List.append_nil _).symm⟩)

/-- The reconciliation of an entry that has not started changes nothing. -/
theorem reconcileJournal_ends (hlife : entry.lifecycle.started = false)
    (hends : (call.reconcileJournal bundle entry).Finishes w events outcome w') : w' = w := by
  obtain ⟨r, w₁, first, rest, hpreflight, hrest, rfl⟩ := Proc.finishes_bind_iff.1 hends
  obtain rfl := preflight_ends hpreflight
  unfold BrokerCall.reconcileAt at hrest
  have hret : ∀ outcome', (pure outcome' : BrokerProc host Outcome).Finishes w₁ rest outcome w' → w' = w₁ :=
    fun _ hret => (Proc.finishes_ret_iff.1 hret).2.2
  split at hrest
  · exact hret _ hrest
  · split at hrest
    · exact hret _ hrest
    · split at hrest
      · exact hret _ hrest
      · split at hrest
        · exact hret _ hrest
        · unfold BrokerCall.reconcileEntry at hrest
          split at hrest
          · exact hret _ hrest
          · split at hrest
            · exact hret _ hrest
            · cases hstate : entry.lifecycle with
              | claimed => exact absurd (Or.inl hstate) ‹_›
              | prestateCaptured => exact absurd (Or.inr hstate) ‹_›
              | denied =>
                simp only [hstate] at hrest
                exact hret _ hrest
              | failed =>
                simp only [hstate] at hrest
                exact hret _ hrest
              | _ =>
                rw [hstate] at hlife
                cases hlife

/-! ## The whole call -/

theorem submit_comes (hjournal : call.broker.journal = true) (hw : Unstarted call w)
    (hends : call.submit.Finishes w events outcome w') (hfaultless : ∀ e ∈ events, Faultless e.answer) :
    Comes call events outcome w' := by
  unfold BrokerCall.submit at hends
  split at hends
  · exact comes_ret hends hw
  obtain ⟨r, w₁, first, rest, hpreflight, hrest, rfl⟩ := Proc.finishes_bind_iff.1 hends
  obtain ⟨-, hafter⟩ := faultless_append hfaultless
  obtain rfl := preflight_ends hpreflight
  refine Comes.append ?_ (silent_preflight.label_of_mem hpreflight)
  -- a preflight that refuses ends the submission
  cases r with
  | error e => exact comes_ret hrest hw
  | ok now =>
    simp only [BrokerCall.submitAt] at hrest
    split at hrest
    · exact comes_ret hrest hw
    · exact comes_ret hrest hw
    · rename_i bundle hauthorized
      unfold BrokerCall.submitAuthorized at hrest
      split at hrest
      · exact comes_ret hrest hw
      · obtain ⟨prior, w₂, recalled, rest, hrecalled, hrest, rfl⟩ := Proc.finishes_bind_iff.1 hrest
        obtain ⟨-, hrecalledAfter⟩ := faultless_append hafter
        obtain ⟨i, rfl, -, rfl⟩ := Proc.finishes_action_iff.1 hrecalled
        refine Comes.append ?_ (by simp)
        cases prior with
        | some receipt => exact comes_ret hrest hw
        | none =>
          dsimp only at hrest
          obtain ⟨claimed, w₃, claiming, rest, hclaiming, hrest, rfl⟩ := Proc.finishes_bind_iff.1 hrest
          obtain ⟨hclaim, hclaimAfter⟩ := faultless_append hrecalledAfter
          have hvalid : (claimEntry host call.intent call.context bundle).check host = .ok () :=
            claimEntry_check (authorize_ok hauthorized)
          obtain ⟨herror, hfound, hmade⟩ := (journaled_under (claim_under hvalid _)).finishes hclaiming hclaim
          refine Comes.append ?_ ((silent_journaled _).label_of_mem hclaiming)
          cases claimed with
          | error e => exact comes_ret hrest (hw.of_file (herror e rfl))
          | ok found =>
            obtain ⟨entry, created⟩ := found
            cases created with
            | false =>
              obtain ⟨hfile, hget⟩ := hfound entry rfl
              obtain rfl := reconcileJournal_ends (hw entry hget) hrest
              exact fun _ => .inl (hw.of_file hfile)
            | true =>
              obtain ⟨rfl, hsettled, hstored⟩ := hmade entry rfl
              exact submitFresh_comes ⟨hsettled, hstored⟩ hrest hclaimAfter

end Start

/-! ## The outcome -/

/-- Among the states of the run are two neighbours between which this entry was written. -/
def Wrote (call : BrokerCall) (answers : List Answer) (w : World host) (entry : MutationJournalEntry) : Prop :=
  ∃ before after, [before, after] <:+: call.submit.states answers w ∧ before.file.get (call.key host) ≠ some entry ∧
    after.file.get (call.key host) = some entry

/-- The request of the call was dispatched, and the broker takes the answer of the owner transport as an acceptance. -/
def TransportAccepts (call : BrokerCall) (answers : List Answer) (w : World host) : Prop :=
  ∃ e ∈ call.submit.trace answers w, ∃ created, Dispatched host call (.ok .accepted, created) e

theorem EntryKept.started {prior entry : MutationJournalEntry} (h : EntryKept prior entry)
    (hprior : prior.lifecycle.started = true) :
    entry.lifecycle.started = true := by
  have hmoves := h.lifecycle
  generalize entry.lifecycle = last at hmoves
  induction hmoves with
  | refl => exact hprior
  | tail _ hallows ih => exact JournalLifecycle.started_of_allows hallows ih

section Outcome

variable {call : BrokerCall} {answers : List Answer} {w : World host} {started : MutationJournalEntry}

theorem Wrote.unstarted (hwrote : Wrote call answers w started) (hstarted : started.lifecycle = .executionStarted)
    (hserves : Undispatched call w) :
    Unstarted call w := by
  obtain ⟨before, after, hneighbours, hnew, hafter⟩ := hwrote
  obtain ⟨hto, ⟨i, -, hstep⟩, -⟩ := (submit_serves hserves).neighbours hneighbours
  intro entry hentry
  by_contra hno
  -- a started entry stays started, and none moves back to the start of its execution
  obtain ⟨prior, hprior, hkept⟩ := kept_steps hto hentry
  have hpriorStarted : prior.lifecycle.started = true := hkept.started (by simpa using hno)
  have hmove := hstep.dispatchStep.entry
  rw [hprior, hafter] at hmove
  cases hmove with
  | same => exact hnew hprior
  | moved hallowed _ _ _ =>
    revert hallowed hpriorStarted
    rw [hstarted]
    cases prior.lifecycle <;> decide

theorem Wrote.kept (hwrote : Wrote call answers w started) (hserves : Undispatched call w) :
    ∃ entry, (call.submit.run answers w).2.file.get (call.key host) = some entry ∧ EntryKept started entry := by
  obtain ⟨before, after, hneighbours, -, hafter⟩ := hwrote
  obtain ⟨-, -, hfrom⟩ := (submit_serves hserves).neighbours hneighbours
  exact kept_steps hfrom hafter

end Outcome

/-- After any run on any journal file: a call that has written that its execution starts, on a disk without faults, and
returns a failure leaves the entry ambiguous with the pre-state that it captured, if and only if its operation allocates
nothing or the owner transport accepted its request. -/
theorem unknown_outcome_exact (file : JournalFile host) (events : List BrokerEvent) (call : BrokerCall)
    (answers : List Answer) (hjournal : call.broker.journal = true) (hdisk : ∀ i ∈ answers, Faultless i)
    {started : MutationJournalEntry} (hwrote : Wrote call answers ((World.initial file).run events) started)
    (hstarted : started.lifecycle = .executionStarted) {outcome : Outcome}
    (hreturns : (call.submit.run answers ((World.initial file).run events)).1 = some outcome) (hfails : Fails outcome) :
    (∃ entry, (call.submit.run answers ((World.initial file).run events)).2.file.get (call.key host) = some entry ∧
      entry.lifecycle = .ambiguous ∧ entry.preState = started.preState) ↔
    call.intent.operation.allocates = false ∨ TransportAccepts call answers ((World.initial file).run events) := by
  have hserves := ((Once.initial file).run events).undispatched call
  generalize (World.initial file).run events = w at *
  have hends := Proc.finishes_of_run hreturns
  have hfaultless : ∀ e ∈ call.submit.trace answers w, Faultless e.answer :=
    fun e he => hdisk _ (Proc.answer_of_mem_trace he)
  obtain ⟨kept, hkept, hstays⟩ := hwrote.kept hserves
  have hfinal : ¬ Unstarted call (call.submit.run answers w).2 := by
    intro hno
    have hlife := hstays.started (by rw [hstarted]; rfl)
    rw [hno kept hkept] at hlife
    cases hlife
  have hpreState : kept.preState = started.preState := by
    obtain ⟨before, after, -, -, hafter⟩ := hwrote
    obtain ⟨-, -, -, hcaptured, -⟩ := MutationJournalEntry.check_iff.1 (JournalFile.get_valid hafter).1
    cases hpre : started.preState with
    | none => exact absurd hpre (hcaptured (by rw [hstarted]; rfl))
    | some preState => exact hstays.preState preState hpre
  obtain ⟨bundle, now, pre, entry, result, w₁, w₂, before, during, after, hclaimed, halloc, hsilent, hduring, hafter,
    htrace⟩ :=
    (submit_comes hjournal (hwrote.unstarted hstarted hserves) hends hfaultless hfails).resolve_left hfinal |>.executed
  obtain ⟨hfile, hexecuted⟩ := execute_ends hduring
  have hclaimed : Claimed call bundle w₂ entry .executionStarted none := hclaimed.of_file hfile
  have hafterFaultless : ∀ e ∈ after, Faultless e.answer := fun e he => hfaultless e (by rw [htrace]; simp [he])
  have hfinish := hafter
  constructor
  · rintro ⟨ambiguous, hget, hlife, -⟩
    cases hop : call.intent.operation.allocates with
    | false => exact .inl rfl
    | true =>
      right
      by_cases hrefused : Refused result
      · -- the entry is the one that was started
        obtain ⟨refusal, heq⟩ := finishExecution_refused hclaimed hrefused pre
        rw [heq] at hfinish
        have hat := (noteAmbiguous_refused hclaimed hop refusal).finishes hfinish hafterFaultless
        rw [hat.stored] at hget
        cases hget
        rw [hclaimed.lifecycle_eq] at hlife
        cases hlife
      · unfold Refused at hrefused
        push Not at hrefused
        obtain ⟨disposition, created, rfl, -⟩ := hrefused
        obtain ⟨e, he, hdispatched⟩ := hexecuted.accepted disposition created rfl (halloc hop)
        obtain ⟨hlabel, request, hrequest, hanswer⟩ := hdispatched
        obtain rfl := ownerExecution_ok hanswer
        refine ⟨e, ?_, created, hlabel, request, hrequest, hanswer⟩
        rw [htrace]
        exact List.mem_append_right _ (List.mem_append_left _ he)
  · intro hcondition
    have hleaves : LeavesAmbiguous call outcome (call.submit.run answers w).2 := by
      by_cases hrefused : Refused result
      · obtain ⟨refusal, heq⟩ := finishExecution_refused hclaimed hrefused pre
        rw [heq] at hfinish
        have hplain : call.intent.operation.allocates = false := by
          refine hcondition.resolve_right ?_
          rintro ⟨e, he, created, hlabel, request, hrequest, hanswer⟩
          -- the trace has no dispatch but that of the execution, which was refused
          rw [htrace] at he
          rcases List.mem_append.1 he with he | he
          · exact hsilent e he hlabel
          rcases List.mem_append.1 he with he | he
          · obtain ⟨-, request', hrequest', hresult⟩ := hexecuted.dispatched e he hlabel
            cases hrequest.symm.trans hrequest'
            rw [hanswer] at hresult
            cases hrefused _ _ hresult.symm
          · exact (silent_finishExecution _ _).label_of_mem hafter e he hlabel
        exact (noteAmbiguous_under hclaimed rfl (by simp [hplain]) (by simp) refusal).finishes hfinish hafterFaultless
      · unfold Refused at hrefused
        push Not at hrefused
        obtain ⟨disposition, created, rfl, hdisposition⟩ := hrefused
        have hallocated := hexecuted.allocated disposition created rfl halloc
        have hunder : (call.finishExecution bundle pre (some entry) (.ok disposition, created)).Under Faultless
          (LeavesAmbiguous call) w₂ := by
          cases disposition with
          | rejected => exact absurd rfl hdisposition
          | _ => exact finishAccepted_under hclaimed hallocated
        exact hunder.finishes hfinish hafterFaultless
    obtain ⟨ambiguous, hat, hlife⟩ := hleaves hfails
    have hsame : ambiguous = kept := Option.some.inj (hat.stored.symm.trans hkept)
    exact ⟨kept, hkept, hsame ▸ hlife, hpreState⟩

/-- A write is found by its place in the run. -/
theorem wrote_at {call : BrokerCall} {answers : List Answer} {w : World host} {n : Nat}
    (hbefore : ((call.submit.states answers w)[n]?).bind (·.file.get (call.key host)) ≠ some entry)
    (hafter : ((call.submit.states answers w)[n + 1]?).bind (·.file.get (call.key host)) = some entry) :
    Wrote call answers w entry := by
  generalize hstates : call.submit.states answers w = states at hbefore hafter
  obtain ⟨after, hget, hafter⟩ := Option.bind_eq_some_iff.1 hafter
  obtain ⟨hlt, rfl⟩ := List.getElem?_eq_some_iff.1 hget
  have hn : n < states.length := Nat.lt_of_succ_lt hlt
  rw [List.getElem?_eq_getElem hn, Option.bind_some] at hbefore
  refine ⟨states[n], states[n + 1], ⟨states.take n, states.drop (n + 2), ?_⟩, hbefore, hafter⟩
  rw [hstates, List.append_assoc]
  refine (List.take_append_drop n states).symm.trans (congrArg _ ?_) |>.symm
  rw [List.drop_eq_getElem_cons hn, List.drop_eq_getElem_cons hlt]
  rfl

namespace BrokerSample

def noComments : CommentsSnapshot := ⟨repository, 7, "issue", []⟩

/-- A comment on an issue. -/
def comment : BrokerCall where
  broker := ⟨true, some ⟨health, false⟩, true, false⟩
  authority := authority
  intent := ⟨repository, "comment", .comment 7 (Host.digestValue .sample (.arr [.str "comment-body", .str "done"]))⟩
  context := context .comment "head" "base"
  payload := some ⟨.comment, [("body", "done")], rfl, fun _ h => by cases h⟩
  suppliesSemantics := false

/-- There are no comments, and the owner transport does not answer. -/
def unanswered : List Answer :=
  List.replicate 40 ⟨false, none,
    ⟨(brokerSemanticPlan Host.sample comment.intent).readback.request, .ok (.comments noComments)⟩,
      some ⟨(brokerSemanticPlan Host.sample comment.intent).readback.request, none, none, 0, .comments noComments, rfl⟩,
        .ok .accepted, .other⟩

def isFailure : Option Outcome → Bool
  | some (.ok (.failure _ _)) => true
  | _ => false

/-- What the journal holds for a call after some of its steps. -/
def held (call : BrokerCall) (answers : List Answer) (n : Nat) : Option MutationJournalEntry :=
  ((call.submit.states answers (World.initial file))[n]?).bind (·.file.get (call.key .sample))

end BrokerSample

theorem fails_of_isFailure {outcome : Option Outcome} (h : BrokerSample.isFailure outcome = true) : ∃ o,
    outcome = some o ∧ Fails o := by
  unfold BrokerSample.isFailure at h
  split at h
  · rename_i failure reconciliation
    exact ⟨_, rfl, failure, reconciliation, rfl⟩
  · cases h

open BrokerSample in
/-- The transport fails after the dispatch of a pull request's readiness: the entry is ambiguous. -/
theorem unknown_outcome_exact_markReady : ∃ entry,
    (markReady.submit.run (answers 40 (pullRequest true)) ((World.initial file).run [])).2.file.get
    (markReady.key .sample) = some entry ∧
      entry.lifecycle = .ambiguous := by
  have hlife : (held markReady (answers 40 (pullRequest true)) 16).map
    (·.lifecycle) = some .executionStarted := by decide +kernel
  obtain ⟨started, hheld, hstarted⟩ := Option.map_eq_some_iff.1 hlife
  have hbefore : (held markReady (answers 40 (pullRequest true)) 15).map
    (·.lifecycle) = some .prestateCaptured := by decide +kernel
  have hwrote : Wrote markReady (answers 40 (pullRequest true)) ((World.initial file).run []) started := by
    refine wrote_at (fun hsame => ?_) hheld
    have hsame : held markReady (answers 40 (pullRequest true)) 15 = some started := hsame
    rw [hsame, Option.map_some, hstarted] at hbefore
    cases hbefore
  have hfails : isFailure (markReady.submit.run (answers 40 (pullRequest true)) ((World.initial file).run [])).1 =
    true := by
    decide +kernel
  obtain ⟨outcome, hreturns, hfails⟩ := fails_of_isFailure hfails
  have hdisk : ∀ i ∈ answers 40 (pullRequest true), Faultless i := fun i hi => by rw [List.eq_of_mem_replicate hi]; rfl
  obtain ⟨entry, hget, hambiguous, -⟩ :=
    (unknown_outcome_exact file [] markReady _ rfl hdisk hwrote hstarted hreturns hfails).2 (.inl rfl)
  exact ⟨entry, hget, hambiguous⟩

open BrokerSample in
/-- The transport fails after the dispatch of a comment: the entry stays as its execution started. -/
theorem unknown_comment_not_recorded : ¬ ∀ (call : BrokerCall) (answers : List Answer) (started : MutationJournalEntry)
    (outcome : Outcome),
    call.broker.journal = true → (∀ i ∈ answers, Faultless i) → Wrote call answers (World.initial file) started →
      started.lifecycle = .executionStarted → (call.submit.run answers (World.initial file)).1 = some outcome →
        Fails outcome →
      ∃ entry, (call.submit.run answers (World.initial file)).2.file.get (call.key .sample) = some entry ∧
        entry.lifecycle = .ambiguous ∧
        entry.preState = started.preState := by
  intro hclaim
  have hlife : (held comment unanswered 16).map (·.lifecycle) = some .executionStarted := by decide +kernel
  obtain ⟨started, hheld, hstarted⟩ := Option.map_eq_some_iff.1 hlife
  have hbefore : (held comment unanswered 15).map (·.lifecycle) = some .prestateCaptured := by decide +kernel
  have hwrote : Wrote comment unanswered (World.initial file) started := by
    refine wrote_at (fun hsame => ?_) hheld
    have hsame : held comment unanswered 15 = some started := hsame
    rw [hsame, Option.map_some, hstarted] at hbefore
    cases hbefore
  have hfails : isFailure (comment.submit.run unanswered (World.initial file)).1 = true := by decide +kernel
  obtain ⟨outcome, hreturns, hfails⟩ := fails_of_isFailure hfails
  have hdisk : ∀ i ∈ unanswered, Faultless i := fun i hi => by rw [List.eq_of_mem_replicate hi]; rfl
  obtain ⟨entry, hget, hambiguous, -⟩ := hclaim comment unanswered started outcome rfl hdisk hwrote hstarted hreturns
    hfails
  have hfinal : ((comment.submit.run unanswered (World.initial file)).2.file.get (comment.key .sample)).map
      (·.lifecycle) = some .executionStarted := by
    decide +kernel
  rw [hget, Option.map_some, hambiguous] at hfinal
  cases hfinal

end Roundwright.GitHub
