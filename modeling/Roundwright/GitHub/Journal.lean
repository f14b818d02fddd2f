/-
The durable mutation journal: a JSON file of one entry per key, read whole and replaced whole. Every
operation is a program of file steps, so that a process can die between any two of them and several
processes can take theirs in any order.
-/
import Roundwright.GitHub.Plan
import Roundwright.Lib.Process
import Roundwright.Lib.Table

namespace Roundwright.GitHub

open Lib

/-! ## Receipts -/

/-- A verified mutation. Instants are kept as what their ISO texts write. -/
structure SemanticMutationReceipt where
  repository : RepositoryRef
  operation : GitHubMutationOperation
  idempotencyKey : String
  authorizationBundleIdentity : Digest
  intentIdentity : Digest
  semanticPlanIdentity : Digest
  semanticReadbackIdentity : Digest
  preStateCompletenessIdentity : Digest
  postStateCompletenessIdentity : Digest
  publicPayloadDigest : Digest
  policyBindingDigest : String
  configurationDigest : Digest
  deploymentFingerprint : String
  taskFingerprint : String
  baseSha : String
  candidateSha : String
  gateIdentity : Digest
  preStateDigest : Digest
  postStateDigest : Digest
  affectedIdentity : Digest
  createdResourceIdentity : Option Digest
  evaluatedAt : Int
  freshUntil : Int
  timeIdentity : Digest
  disposition : MutationDisposition
deriving DecidableEq

/-- `_sha256((evaluated_at, fresh_until))` -/
def timeIdentityOf (host : Host) (evaluatedAt freshUntil : Int) : Digest :=
  host.digestValue (.arr [.num evaluatedAt, .num freshUntil])

/-- The checks of the receipt's constructor that its types leave over. -/
def SemanticMutationReceipt.check (host : Host) (r : SemanticMutationReceipt) : Except Error Unit := do
  refuse (r.timeIdentity ≠ timeIdentityOf host r.evaluatedAt r.freshUntil) (.gitHubRuntime "receipt time identity drifted")
  refuse (r.operation.allocates ≠ r.createdResourceIdentity.isSome)
    (.gitHubRuntime "semantic receipt created resource identity is invalid")

/-! ## Entries -/

inductive JournalLifecycle where
  | claimed
  | prestateCaptured
  | executionStarted
  | transportAccepted
  | appliedAwaitingVerification
  | verified
  | denied
  | failed
  | ambiguous
deriving DecidableEq

namespace JournalLifecycle

/-- The transition relation. -/
def allows : JournalLifecycle → JournalLifecycle → Bool
  | .claimed, .prestateCaptured | .claimed, .denied | .claimed, .failed => true
  | .prestateCaptured, .executionStarted | .prestateCaptured, .verified | .prestateCaptured, .denied
  | .prestateCaptured, .failed => true
  | .executionStarted, .transportAccepted | .executionStarted, .ambiguous => true
  | .transportAccepted, .appliedAwaitingVerification | .transportAccepted, .ambiguous => true
  | .appliedAwaitingVerification, .verified | .appliedAwaitingVerification, .ambiguous => true
  | .ambiguous, .verified => true
  | _, _ => false

/-- The states that need a captured pre-state. -/
def executionCapable : JournalLifecycle → Bool
  | .prestateCaptured | .executionStarted | .transportAccepted | .appliedAwaitingVerification | .ambiguous | .verified => true
  | .claimed | .denied | .failed => false

/-- The states in which an allocating mutation has its locator. -/
def located : JournalLifecycle → Bool
  | .transportAccepted | .appliedAwaitingVerification | .ambiguous | .verified => true
  | _ => false

/-- The states before the transport was called. -/
def unlocated : JournalLifecycle → Bool
  | .claimed | .prestateCaptured | .executionStarted => true
  | _ => false

end JournalLifecycle

/-- The fields that `evidence_matches` compares. -/
structure JournalEvidence where
  repository : RepositoryRef
  operation : GitHubMutationOperation
  idempotencyKey : String
  targetIdentity : Digest
  idempotencyIdentity : Digest
  intentIdentity : Digest
  authorizationBundleIdentity : Digest
  candidateSha : String
  configurationDigest : Digest
  gateIdentity : Digest
  semanticPlanIdentity : Digest
  command : BrokerMutationCommand
  preStateReadIdentity : Digest
  semanticReadbackIdentity : Digest
  evaluatedAt : Int
  freshUntil : Int
  timeIdentity : Digest
deriving DecidableEq

/-- The captured pre-state: `pre_state_complete` says that there is one. -/
structure PreStateEvidence where
  digest : Digest
  identity : Digest
  completenessIdentity : Digest
deriving DecidableEq

structure MutationJournalEntry where
  evidence : JournalEvidence
  lifecycle : JournalLifecycle
  receipt : Option SemanticMutationReceipt
  preState : Option PreStateEvidence
  createdResource : Option CreatedResourceLocator
deriving DecidableEq

/-- `_sha256((repository, operation, idempotency_key))` -/
def journalKey (host : Host) (repository : RepositoryRef) (operation : GitHubMutationOperation) (idempotencyKey : String) :
    Digest :=
  host.digestValue (.arr [.str repository.slug, .str operation.value, .str idempotencyKey])

def JournalEvidence.key (host : Host) (e : JournalEvidence) : Digest :=
  journalKey host e.repository e.operation e.idempotencyKey

/-- The identity of a captured pre-state. -/
def JournalEvidence.preStateIdentity (host : Host) (e : JournalEvidence) (completeness digest : Digest) : Digest :=
  host.digestValue (.arr [.digest (e.key host), .str e.repository.slug, .digest e.intentIdentity, .str e.candidateSha,
    .digest e.authorizationBundleIdentity, .digest e.configurationDigest, .digest e.gateIdentity,
    .digest e.semanticPlanIdentity, .digest e.preStateReadIdentity, .digest completeness, .digest digest])

namespace MutationJournalEntry

variable (host : Host) (entry : MutationJournalEntry)

def key : Digest := entry.evidence.key host

/-- The receipt is about this entry's evidence. -/
def receiptMatches (r : SemanticMutationReceipt) : Prop :=
  let e := entry.evidence
  r.repository = e.repository ∧ r.operation = e.operation ∧ r.idempotencyKey = e.idempotencyKey ∧
    r.authorizationBundleIdentity = e.authorizationBundleIdentity ∧ r.intentIdentity = e.intentIdentity ∧
    r.semanticPlanIdentity = e.semanticPlanIdentity ∧ r.semanticReadbackIdentity = e.semanticReadbackIdentity ∧
    r.candidateSha = e.candidateSha ∧ r.configurationDigest = e.configurationDigest ∧ r.gateIdentity = e.gateIdentity ∧
    r.evaluatedAt = e.evaluatedAt ∧ r.freshUntil = e.freshUntil ∧ r.timeIdentity = e.timeIdentity ∧
    r.createdResourceIdentity = entry.createdResource.map (CreatedResourceLocator.identity host)

instance (r : SemanticMutationReceipt) : Decidable (entry.receiptMatches host r) := by unfold receiptMatches; infer_instance

/-- The checks of the entry's constructor that its types leave over. -/
def check : Except Error Unit := do
  refuse (entry.evidence.timeIdentity ≠ timeIdentityOf host entry.evidence.evaluatedAt entry.evidence.freshUntil)
    (.gitHubRuntime "journal time identity drifted")
  refuse (decide (entry.lifecycle = .verified) ≠ entry.receipt.isSome)
    (.gitHubRuntime "mutation journal receipt lifecycle is invalid")
  refuse (∃ p ∈ entry.preState, p.identity ≠ entry.evidence.preStateIdentity host p.completenessIdentity p.digest)
    (.gitHubRuntime "journal pre-state identity drifted")
  refuse (entry.lifecycle.executionCapable ∧ entry.preState = none)
    (.gitHubRuntime "execution-capable journal state lacks complete pre-state")
  refuse (entry.lifecycle = .claimed ∧ entry.preState ≠ none)
    (.gitHubRuntime "claimed journal state has fabricated pre-state")
  refuse (entry.evidence.operation.allocates ∧ entry.lifecycle.located ∧ entry.createdResource = none)
    (.gitHubRuntime "mutation journal created resource evidence is invalid")
  refuse (∃ l ∈ entry.createdResource, l.operation ≠ entry.evidence.operation ∨
    l.repository ≠ entry.evidence.repository) (.gitHubRuntime "mutation journal created resource drifted")
  refuse (entry.createdResource ≠ none ∧ entry.lifecycle.unlocated)
    (.gitHubRuntime "mutation journal locator predates transport acceptance")
  refuse (∃ r ∈ entry.receipt, ¬ entry.receiptMatches host r)
    (.gitHubRuntime "mutation journal receipt does not match durable evidence")

/-- Two entries of one key. -/
def clash (a b : MutationJournalEntry) : Bool := a.key host = b.key host

theorem isKey_key : Table.IsKey (clash host) (key host) := fun a b h => by simpa [clash] using h

end MutationJournalEntry

/-! ## The file -/

abbrev Records (host : Host) := Table (MutationJournalEntry.clash host)

def Records.get {host : Host} (records : Records host) (key : Digest) : Option MutationJournalEntry :=
  records.rows.find? fun e => e.key host = key

/-- What a file holds: records, or a text that is no journal, such as one written halfway. -/
inductive JournalText (host : Host) where
  | records (records : Records host)
  | malformed

/-- The journal file and its temporary file. -/
structure JournalFile (host : Host) where
  path : Option (JournalText host)
  temporary : Option (JournalText host)

/-- The steps of an operation; a replacement carries the entries that were loaded, those that are to take
their place and the key it is about. -/
inductive JournalAction where
  | checkTemporary
  | checkPath
  | readPath
  | writeTemporary
  | replace (loaded written : List MutationJournalEntry) (key : Digest)

/-- Programs on the journal file. An answer says that the step fails as an `OSError`. -/
abbrev JournalProc (host : Host) := Proc JournalAction Bool (JournalFile host)

/-! ## The operations -/

section Operations

variable {host : Host}

/-- The decoding of a journal text. -/
def decode : JournalText host → Except Error (Records host)
  | .malformed => .error (.gitHubRuntime "mutation journal is malformed")
  | .records records => do
    rewrap (checkAll (MutationJournalEntry.check host) records.rows) fun _ =>
    .gitHubRuntime "mutation journal is malformed" return records

/-- What a load finds in the journal file. -/
def JournalFile.contents (file : JournalFile host) : Except Error (Records host) :=
  match file.path with
  | none => .ok .empty
  | some text => decode text

/-- A read of the journal file. -/
def readResult (s : JournalFile host) (fault : Bool) : Except Error (Records host) :=
  match fault, s.path with
  | false, some text => decode text
  | _, _ => .error (.gitHubRuntime "mutation journal is malformed")

/-- The part of `_load` after the check for a temporary file. -/
def loadPath : JournalProc host (Except Error (Records host)) := do
  let found ← Proc.action .checkPath (fun s _ => s) fun s _ => s.path.isSome
  if found then Proc.action .readPath (fun s _ => s) readResult else return .ok .empty

/-- `_load` -/
def load : JournalProc host (Except Error (Records host)) := do
  let pending ← Proc.action .checkTemporary (fun s _ => s) fun s _ => s.temporary.isSome
  if pending then return .error (.gitHubRuntime "mutation journal has an incomplete atomic replacement") else loadPath

/-- The file after a write of the temporary file. -/
def written (records : Records host) (s : JournalFile host) (fault : Bool) : JournalFile host :=
  { s with temporary := some (if fault then .malformed else .records records) }

/-- `os.replace` -/
def replaced (s : JournalFile host) (fault : Bool) : JournalFile host :=
  match fault, s.temporary with
  | false, some text => { path := some text, temporary := none }
  | _, _ => s

def replaceResult (s : JournalFile host) (fault : Bool) : Except Error Unit :=
  refuse (fault = true ∨ s.temporary = none) (.gitHubRuntime "mutation journal cannot be persisted")

/-- `_store`, over the records that were loaded and for the entry of a key. -/
def store (records loaded : Records host) (key : Digest) : JournalProc host (Except Error Unit) := do
  let failed ← Proc.action .writeTemporary (written records) fun _ fault => fault
  if failed then return .error (.gitHubRuntime "mutation journal cannot be persisted")
  else Proc.action (.replace loaded.rows records.rows key) replaced replaceResult

/-! The operations followed by the rest of a program. -/

theorem loadPath_bind {α : Type} (f : Except Error (Records host) → JournalProc host α) :
    (loadPath >>= f) = .act .checkPath (fun s _ => s) fun s _ =>
      if s.path.isSome then .act .readPath (fun s _ => s) fun s fault => f (readResult s fault)
      else f (.ok .empty) := by
  unfold loadPath
  rw [Proc.action_bind, Proc.act_bind]
  congr 1
  funext s i
  cases h : s.path.isSome <;> rfl

theorem load_bind {α : Type} (f : Except Error (Records host) → JournalProc host α) :
    (load >>= f) = .act .checkTemporary (fun s _ => s) fun s _ =>
      if s.temporary.isSome then f (.error (.gitHubRuntime "mutation journal has an incomplete atomic replacement"))
      else loadPath >>= f := by
  unfold load
  rw [Proc.action_bind, Proc.act_bind]
  congr 1
  funext s i
  cases h : s.temporary.isSome <;> rfl

theorem store_bind {α : Type} (records loaded : Records host) (key : Digest)
    (f : Except Error Unit → JournalProc host α) :
    (store records loaded key >>= f) = .act .writeTemporary (written records) fun _ fault =>
      if fault then f (.error (.gitHubRuntime "mutation journal cannot be persisted"))
      else .act (.replace loaded.rows records.rows key) replaced fun s fault => f (replaceResult s fault) := by
  unfold store
  rw [Proc.action_bind, Proc.act_bind]
  congr 1
  funext s i
  cases i <;> rfl

/-- The part of `claim` after the load. -/
def claimLoaded (evidence : MutationJournalEntry) :
    Except Error (Records host) → JournalProc host (Except Error (MutationJournalEntry × Bool))
  | .error e => return .error e
  | .ok records =>
    match records.get (evidence.key host) with
    | some prior =>
      if prior.evidence = evidence.evidence then return .ok (prior, false)
      else return .error (.gitHubRuntime "mutation journal idempotency identity conflicts")
    | none => do
      let stored ← store (records.upsert evidence) records (evidence.key host)
      return stored.map fun _ => (evidence, true)

def claim (evidence : MutationJournalEntry) : JournalProc host (Except Error (MutationJournalEntry × Bool)) :=
  load >>= claimLoaded evidence

/-- What a transition is asked to write: the new lifecycle, a receipt, a captured pre-state as its digest
and completeness identity, and a created resource when it is not kept. -/
structure TransitionRequest where
  lifecycle : JournalLifecycle
  receipt : Option SemanticMutationReceipt
  preState : Option (Digest × Digest)
  createdResource : Option (Option CreatedResourceLocator)

/-- The entry a transition writes over the stored one. -/
def updatedEntry (host : Host) (prior : MutationJournalEntry) (request : TransitionRequest) :
    Except Error MutationJournalEntry := do
  refuse (prior.lifecycle.allows request.lifecycle = false) (.gitHubRuntime "mutation journal transition is impossible")
  refuse (request.lifecycle = .prestateCaptured ∧
    (prior.preState ≠ none ∨ request.receipt ≠ none ∨ request.preState = none))
    (.gitHubRuntime "journal pre-state transition is invalid")
  refuse (request.lifecycle ≠ .prestateCaptured ∧ request.preState ≠ none)
    (.gitHubRuntime "journal pre-state evidence may only be captured once")
  refuse (request.lifecycle = .verified ∧ request.receipt = none)
    (.gitHubRuntime "verified journal transition lacks receipt")
  refuse (request.lifecycle ≠ .verified ∧ request.receipt ≠ none)
    (.gitHubRuntime "non-verified journal transition has a receipt")
  let captured : Option PreStateEvidence := request.preState.map fun (digest, completeness) =>
    ⟨digest, prior.evidence.preStateIdentity host completeness digest, completeness⟩
  let updated : MutationJournalEntry := { prior with
    lifecycle := request.lifecycle
    receipt := request.receipt
    preState := captured.or prior.preState
    createdResource := request.createdResource.getD prior.createdResource }
  updated.check host
  return updated

/-- The part of `transition` after the load. -/
def transitionLoaded (evidence : MutationJournalEntry) (request : TransitionRequest) :
    Except Error (Records host) → JournalProc host (Except Error MutationJournalEntry)
  | .error e => return .error e
  | .ok records =>
    if records.get (evidence.key host) = some evidence then
      match updatedEntry host evidence request with
      | .error e => return .error e
      | .ok updated => do
        let stored ← store (records.upsert updated) records (evidence.key host)
        return stored.map fun _ => updated
    else return .error (.gitHubRuntime "mutation journal evidence is missing or conflicting")

def transition (evidence : MutationJournalEntry) (request : TransitionRequest) : JournalProc host
    (Except Error MutationJournalEntry) :=
  load >>= transitionLoaded evidence request

/-- The part of `find` and `find_recovery` that reads: the entry of a key. -/
def findEntry (key : Digest) : JournalProc host (Except Error (Option MutationJournalEntry)) := do
  let loaded ← load
  return loaded.map fun records => records.get key

/-! ## What is read and what is written -/

variable {records : Records host} {entry : MutationJournalEntry}

theorem Records.get_eq_some {key : Digest} :
    records.get key = some entry ↔ entry ∈ records.rows ∧ entry.key host = key :=
  Table.find?_key (MutationJournalEntry.isKey_key host)

theorem Records.get_upsert_self (records : Records host) (entry : MutationJournalEntry) :
    Records.get (records.upsert entry) (entry.key host) = some entry :=
  Records.get_eq_some.2 ⟨Table.mem_upsert.2 (.inr rfl), rfl⟩

theorem Records.get_upsert_other {key : Digest} (h : entry.key host ≠ key) : Records.get (records.upsert entry) key =
    records.get key := by
  refine Option.ext fun other => ?_
  rw [Records.get_eq_some, Records.get_eq_some, Table.mem_upsert]
  constructor
  · rintro ⟨⟨hmem, -⟩ | rfl, hkey⟩
    · exact ⟨hmem, hkey⟩
    · exact absurd hkey h
  · rintro ⟨hmem, hkey⟩
    have hclash : MutationJournalEntry.clash host other entry = false := by
      simp only [MutationJournalEntry.clash, decide_eq_false_iff_not]
      exact fun he => h (he.symm.trans hkey)
    exact ⟨.inl ⟨hmem, hclash⟩, hkey⟩

theorem decode_eq_ok {text : JournalText host} :
    decode text = .ok records ↔ text = .records records ∧ ∀ e ∈ records.rows, e.check host = .ok () := by
  cases text with
  | malformed => simp [decode]
  | records found =>
    simp only [decode, bind_eq_ok, exists_unit, rewrap_eq_ok, checkAll_eq_ok, pure_eq_ok, JournalText.records.injEq]
    constructor
    · rintro ⟨hvalid, rfl⟩
      exact ⟨rfl, hvalid⟩
    · rintro ⟨rfl, hvalid⟩
      exact ⟨hvalid, rfl⟩

theorem JournalFile.contents_valid {file : JournalFile host} (h : file.contents = .ok records) :
    ∀ e ∈ records.rows, e.check host = .ok () := by
  unfold JournalFile.contents at h
  split at h
  · cases h
    simp
  · exact (decode_eq_ok.1 h).2

/-- The entry of a key that a load finds. -/
def JournalFile.get (file : JournalFile host) (key : Digest) : Option MutationJournalEntry :=
  match file.contents with
  | .ok records => records.get key
  | .error _ => none

theorem readResult_ok {s : JournalFile host} {fault : Bool} (h : readResult s fault = .ok records) : s.contents = .ok records := by
  unfold readResult at h
  split at h
  · rename_i text hpath
    simp [JournalFile.contents, hpath, h]
  · cases h

/-- Records with one more valid entry decode. -/
theorem decode_upsert (hvalid : ∀ e ∈ records.rows, e.check host = .ok ()) (hentry : entry.check host = .ok ()) :
    decode (.records (records.upsert entry)) = .ok (records.upsert entry) := by
  refine decode_eq_ok.2 ⟨rfl, fun e he => ?_⟩
  rcases Table.mem_upsert.1 he with ⟨hmem, -⟩ | rfl
  · exact hvalid e hmem
  · exact hentry

theorem MutationJournalEntry.check_ok (h : entry.check host = .ok ()) : (entry.lifecycle = .verified ↔ entry.receipt.isSome) ∧
    (entry.lifecycle.executionCapable = true → entry.preState ≠ none) ∧
    (entry.createdResource ≠ none → entry.lifecycle.unlocated = false) ∧
    (∀ r ∈ entry.receipt, entry.receiptMatches host r) := by
  simp only [MutationJournalEntry.check, bind_eq_ok, exists_unit, refuse_eq_ok] at h
  obtain ⟨-, hreceipt, -, hpre, -, -, -, hlocator, hmatches⟩ := h
  refine ⟨?_, fun hcap hnone => hpre ⟨hcap, hnone⟩, fun hsome => ?_, fun r hr => ?_⟩
  · rw [not_not] at hreceipt
    rw [← hreceipt, decide_eq_true_iff]
  · by_contra hun
    exact hlocator ⟨hsome, by simpa using hun⟩
  · by_contra hne
    exact hmatches ⟨r, hr, hne⟩

/-- What a transition does to an entry. -/
structure Moved (host : Host) (prior updated : MutationJournalEntry) : Prop where
  allowed : prior.lifecycle.allows updated.lifecycle = true
  evidence : updated.evidence = prior.evidence
  preState : updated.preState = prior.preState ∨ (prior.preState = none ∧ updated.lifecycle = .prestateCaptured)
  valid : updated.check host = .ok ()

theorem Moved.key {prior updated : MutationJournalEntry} (h : Moved host prior updated) :
    updated.key host = prior.key host := by
  unfold MutationJournalEntry.key
  rw [h.evidence]

theorem updatedEntry_ok {prior updated : MutationJournalEntry} {request : TransitionRequest}
    (h : updatedEntry host prior request = .ok updated) :
    Moved host prior updated ∧ updated.lifecycle = request.lifecycle ∧ updated.receipt = request.receipt ∧
      updated.createdResource = request.createdResource.getD prior.createdResource := by
  simp only [updatedEntry, bind_eq_ok, exists_unit, refuse_eq_ok, pure_eq_ok] at h
  obtain ⟨hallow, hcapture, honce, -, -, hvalid, rfl⟩ := h
  refine ⟨⟨by simpa using hallow, rfl, ?_, hvalid⟩, rfl, rfl, rfl⟩
  rcases hpre : request.preState with _ | ⟨digest, completeness⟩
  · exact .inl rfl
  · rw [hpre] at hcapture honce
    have hlife : request.lifecycle = .prestateCaptured := by
      by_contra hne
      exact honce ⟨hne, by simp⟩
    have hnone : prior.preState = none := by
      by_contra hsome
      exact hcapture ⟨hlife, .inl hsome⟩
    exact .inr ⟨hnone, hlife⟩

end Operations

end Roundwright.GitHub
