/-
Review items and the commands of their owners. An item is recorded once for its content, with one provenance for every
review that has it, and stays pending until one command resolves or waives it. The item and its command change in one
transaction, so a command that is consumed and an item that is terminal are two sides of one fact, whatever else is
queued, replayed or sealed in between.
-/
import Roundwright.Review.Store

namespace Roundwright.Review

open Lib State Recovery Provider Final Relation

/-! ## Tables -/

/-- `review_item_records` -/
structure ItemRecord extends ReviewItemRow where
  sourceOwnerIdentity : String
  createdAt : Int
  resolvedCommandId : Option String

/-- PRIMARY KEY, UNIQUE (task_id, candidate_sha, review_identity, item_kind, content_digest) and UNIQUE
resolved_command_id. -/
def ItemRecord.clash (a b : ItemRecord) : Bool :=
  a.toReviewItemRow.clash b.toReviewItemRow || (a.resolvedCommandId.isSome && a.resolvedCommandId == b.resolvedCommandId)

/-- `review_item_provenance` with its owner. -/
structure ItemProvenanceRow extends ProvenanceRow where
  sourceOwnerIdentity : String

def ItemProvenanceRow.clash (a b : ItemProvenanceRow) : Bool := a.toProvenanceRow.clash b.toProvenanceRow

inductive OwnerCommandKind where
  | resolveReviewItem | waiveReviewItem
deriving DecidableEq

def OwnerCommandKind.value : OwnerCommandKind → String
  | .resolveReviewItem => "resolve-review-item"
  | .waiveReviewItem => "waive-review-item"

/-- What a consumed command makes of its item. -/
def OwnerCommandKind.disposition : OwnerCommandKind → ReviewItemDisposition
  | .resolveReviewItem => .resolved
  | .waiveReviewItem => .waived

def OwnerCommandKind.verification : OwnerCommandKind → VerificationState
  | .resolveReviewItem => .verified
  | .waiveReviewItem => .waived

/-- `owner_authority_grants`; every grant is active. -/
structure OwnerGrantRow where
  grantId : String
  ownerIdentity : String
  commandScope : OwnerCommandKind
  taskId : String
  candidateSha : String
  authorityDigest : String

def OwnerGrantRow.clash (a b : OwnerGrantRow) : Bool :=
  a.grantId == b.grantId || (a.ownerIdentity == b.ownerIdentity && a.commandScope == b.commandScope &&
    a.taskId == b.taskId && a.candidateSha == b.candidateSha)

/-- The columns of a command that a replay must repeat. -/
structure OwnerCommandColumns where
  taskId : String
  kind : OwnerCommandKind
  ownerIdentity : String
  authorityGrantId : String
  targetItemId : String
  candidateSha : String
  commandDigest : String
  scopeDigest : String
  idempotencyKey : String
deriving DecidableEq

/-- The state of a command with the result digest that the table's CHECK ties to it. -/
inductive OwnerCommandState where
  | pending
  | consumed (resultDigest : String)
deriving DecidableEq

/-- `owner_command_records` -/
structure OwnerCommandRow where
  commandId : String
  columns : OwnerCommandColumns
  state : OwnerCommandState

def OwnerCommandRow.clash (a b : OwnerCommandRow) : Bool :=
  a.commandId == b.commandId || a.columns.idempotencyKey == b.columns.idempotencyKey

/-- The database with the items and commands. What `reviews` holds of the items is not read. -/
structure OwnerStore where
  reviews : Store
  items : Table ItemRecord.clash
  provenance : Table ItemProvenanceRow.clash
  grants : Table OwnerGrantRow.clash
  commands : Table OwnerCommandRow.clash

namespace OwnerStore

variable (s : OwnerStore)

def ledger : Ledger := s.reviews.ledger

def item? (itemId : String) : Option ItemRecord := s.items.rows.find? fun r => r.itemId = itemId

def command? (commandId : String) : Option OwnerCommandRow := s.commands.rows.find? fun r => r.commandId = commandId

/-- What the final gate sees of the items. -/
def finalItems : Table ReviewItemRow.clash := s.items.view (·.toReviewItemRow) fun a b h => by simp [ItemRecord.clash, h]

end OwnerStore

/-! ## Requests -/

/-- `ReviewItem`; its `__post_init__` is the last field. -/
structure ReviewItem where
  itemId : String
  taskId : String
  reviewIdentity : String
  candidateSha : String
  sourceAttemptId : String
  kind : ReviewItemKind
  source : ReviewItemSource
  contentDigest : String
  destination : String
  blocking : Bool
  createdAt : Int
  valid : isToken itemId = true ∧ isToken taskId = true ∧ isToken reviewIdentity = true ∧ isToken sourceAttemptId = true ∧
    isToken destination = true ∧ isHex 40 candidateSha = true ∧ isHex 64 contentDigest = true ∧ 0 < createdAt ∧
    ((kind = .passFollowUp ∧ source = .acceptedReview) ∨ (kind = .finding ∧ source = .supervisorFinding))

/-- `OwnerCommand`; its `__post_init__` is the last field. -/
structure OwnerCommand where
  commandId : String
  taskId : String
  kind : OwnerCommandKind
  targetItemId : String
  candidateSha : String
  commandDigest : String
  idempotencyKey : String
  ownerIdentity : String
  authorityGrantId : String
  valid : isToken commandId = true ∧ isToken taskId = true ∧ isToken targetItemId = true ∧ isToken idempotencyKey = true ∧
    isToken ownerIdentity = true ∧ isToken authorityGrantId = true ∧ isHex 40 candidateSha = true ∧ isHex 64 commandDigest = true

/-- `ReviewItemProjection` -/
structure ReviewItemProjection where
  itemId : String
  kind : ReviewItemKind
  disposition : ReviewItemDisposition
  verification : VerificationState
  blocking : Bool
  destination : String

/-- `_projection` -/
def ItemRecord.projection (r : ItemRecord) : ReviewItemProjection :=
  ⟨r.itemId, r.kind, r.disposition, r.verification, r.blocking, r.destination⟩

section Operations

variable (host : Host) (identity : TaskIdentity)

/-! ## Authority -/

def lifecycle (message : String) : Error := .reviewLifecycle message

/-- `_require_lifecycle_authority` -/
def requireLifecycleAuthority (lease : Option TransitionLease) (now : Int) (l : Ledger) : Except Error Unit :=
  rewrap (do
      requireCurrentTransitionLease l lease identity.repositoryId now
      let _ ← requireMatchingTask host l identity none
      return ())
    fun _ => lifecycle "review lifecycle mutation lacks a current exact transition lease"

/-- `_require_current_candidate` -/
def requireCurrentCandidate (candidateSha : String) (lease : Option TransitionLease) (l : Ledger) : Except Error Unit :=
  refuse ((l.seal? identity.taskId).map (fun r => (r.candidateSha, some r.stateIdentity)) ≠
      some (candidateSha, lease.map (·.stateIdentity)))
    (lifecycle "review lifecycle candidate is stale or not bound to the current lease state")

/-- `_OWNER_ALLOWLIST` -/
def ownerAllowlist : List String := ["ythdelmar68"]

/-- `_owner_scope_digest` -/
def OwnerCommand.scopeDigest (c : OwnerCommand) : String :=
  (host.hexdigest ("\x1f".intercalate [c.kind.value, c.taskId, c.candidateSha, c.targetItemId, c.ownerIdentity, c.authorityGrantId])).text

/-- `_owner_authority_digest` -/
def ownerAuthorityDigest (ownerIdentity : String) (scope : OwnerCommandKind) (taskId candidateSha : String) : String :=
  (host.hexdigest ("\x1f".intercalate
    (["review-owner-authority/v1", ownerIdentity, scope.value, taskId, candidateSha] ++ ownerAllowlist))).text

/-- `_valid_owner_grant` -/
def OwnerGrantRow.allows (grant : OwnerGrantRow) (ownerIdentity : String) (scope : OwnerCommandKind)
    (taskId candidateSha : String) : Bool :=
  grant.ownerIdentity = ownerIdentity ∧ grant.commandScope = scope ∧ grant.taskId = taskId ∧ grant.candidateSha = candidateSha ∧
    ownerIdentity ∈ ownerAllowlist ∧ grant.authorityDigest = ownerAuthorityDigest host ownerIdentity scope taskId candidateSha

/-! ## Items -/

/-- `_durable_identity` -/
def isDurableIdentity (text : String) : Bool := isToken text || (text.startsWith "sha256:" && isHex 64 (text.drop 7).toString)

/-- The profile of an attempt, or that of its accepted review: `COALESCE(NULLIF(…, ''), …)`. -/
def sourceOwner? (s : OwnerStore) (row : AttemptRow) : Option String :=
  if row.selectedProfileIdentity ≠ "" then some row.selectedProfileIdentity
  else (s.reviews.provider.acceptedReviews.rows.find? fun r => r.review.attemptId = row.attemptId).map
    (·.review.selectedProfileIdentity)

/-- The accepted review of an item is a diff review of its candidate, or a plan review at the base commit. -/
def acceptedReviewBinds (s : OwnerStore) (item : ReviewItem) : Bool :=
  ((s.reviews.diffReviews.rows.find? fun r => r.dispatch.diffReviewAttemptId = item.reviewIdentity).any fun r =>
      r.taskId = identity.taskId ∧ r.dispatch.candidateSha = item.candidateSha ∧
        r.dispatch.providerAttemptId = item.sourceAttemptId ∧
        r.state = .accepted ∧ r.acceptedReviewIdentity = some item.reviewIdentity) ||
    ((s.reviews.planReviews.rows.find? fun r => r.dispatch.reviewAttemptId = item.reviewIdentity).any fun r =>
      r.taskId = identity.taskId ∧ r.dispatch.providerAttemptId = item.sourceAttemptId ∧ r.state = .recorded ∧
        item.candidateSha = identity.baseSha)

/-- The recorded review of a finding, with the output of its attempt. -/
def findingBinds (s : OwnerStore) (item : ReviewItem) : Bool :=
  ((s.reviews.diffReviews.rows.find? fun r => r.dispatch.diffReviewAttemptId = item.reviewIdentity).any fun r =>
      r.taskId = identity.taskId ∧ r.dispatch.candidateSha = item.candidateSha ∧
        r.dispatch.providerAttemptId = item.sourceAttemptId ∧
        r.state = .recorded) &&
    s.reviews.provider.completionOutputs.rows.any fun r => r.attemptId = item.sourceAttemptId

/-- `_require_accepted_review` -/
def requireAcceptedReview (item : ReviewItem) (s : OwnerStore) : Except Error String := do
  let missing := lifecycle "review item provenance is missing, stale, or not an accepted supervisor review"
  let row ← demand (s.reviews.provider.providerAttempt? item.sourceAttemptId) missing
  refuse (row.taskId ≠ identity.taskId ∨ row.role ≠ .supervisor) missing
  let owner ← demand (sourceOwner? s row) missing
  refuse (isDurableIdentity owner = false) missing
  match item.source with
  | .acceptedReview =>
    refuse (row.state ≠ .accepted ∨ row.acceptedReviewIdentity ≠ some item.reviewIdentity ∨
      acceptedReviewBinds identity s item = false) (lifecycle "review item accepted review is not bound to the current candidate")
  | .supervisorFinding =>
    refuse ((row.state ≠ .completed ∧ row.state ≠ .accepted) ∨ findingBinds identity s item = false)
      (lifecycle "review finding provenance is not bound to a recorded supervisor output")
  return owner

/-- The row of a new item. -/
def ReviewItem.record (item : ReviewItem) (sourceOwner : String) : ItemRecord where
  itemId := item.itemId
  taskId := item.taskId
  reviewIdentity := item.reviewIdentity
  candidateSha := item.candidateSha
  kind := item.kind
  source := item.source
  sourceAttemptId := item.sourceAttemptId
  contentDigest := item.contentDigest
  destination := item.destination
  blocking := item.blocking
  verification := .pending
  disposition := .pending
  sourceOwnerIdentity := sourceOwner
  createdAt := item.createdAt
  resolvedCommandId := none

/-- The provenance of an item under the identity of its record. -/
def ReviewItem.provenance (item : ReviewItem) (itemId sourceOwner : String) : ItemProvenanceRow :=
  ⟨⟨itemId, item.taskId, item.candidateSha, item.reviewIdentity, item.source, item.sourceAttemptId⟩, sourceOwner⟩

/-- The semantic identity of an item. -/
def ItemRecord.semanticKey (r : ItemRecord) : String × String × ReviewItemKind × String :=
    (r.taskId, r.candidateSha, r.kind, r.contentDigest)

/-- `_record_review_item_connection` -/
def recordReviewItemConnection (item : ReviewItem) : Tx Error OwnerStore ReviewItemProjection := do
  let sourceOwner ← Tx.query (requireAcceptedReview identity item)
  let row ← Tx.query fun s => .ok (s.item? item.itemId)
  match row with
  | some row => do
    Tx.check (refuse ((row.taskId, row.candidateSha, row.kind, row.source, row.contentDigest, row.destination, row.blocking) ≠
        (item.taskId, item.candidateSha, item.kind, item.source, item.contentDigest, item.destination, item.blocking))
      (lifecycle "review item identity conflicts with committed state"))
    Tx.write fun s => .ok { s with provenance := s.provenance.insertOrIgnore (item.provenance item.itemId sourceOwner) }
    return row.projection
  | none => do
    let semantic ← Tx.query fun s => .ok (s.items.rows.find? fun r =>
      r.semanticKey = (item.taskId, item.candidateSha, item.kind, item.contentDigest))
    match semantic with
    | some row => do
      Tx.check (refuse ((row.destination, row.blocking) ≠ (item.destination, item.blocking))
        (lifecycle "review item semantic identity has materially conflicting state"))
      Tx.write fun s => .ok { s with provenance := s.provenance.insertOrIgnore (item.provenance row.itemId sourceOwner) }
      return row.projection
    | none => do
      Tx.write fun s => do
        let items ← demand (s.items.insert? (item.record sourceOwner)) .integrity
        let provenance ← demand (s.provenance.insert? (item.provenance item.itemId sourceOwner)) .integrity
        return { s with items, provenance }
      return (item.record sourceOwner).projection

/-- `record_review_item` -/
def recordReviewItem (item : ReviewItem) (lease : Option TransitionLease) (now : Int) :
    Tx Error OwnerStore ReviewItemProjection := do
  Tx.check (refuse (item.taskId ≠ identity.taskId) (lifecycle "review item task does not match its exact identity"))
  Tx.mapError (transaction (do
    Tx.query fun s => requireLifecycleAuthority host identity lease now s.ledger
    Tx.query fun s => requireCurrentCandidate identity item.candidateSha lease s.ledger
    recordReviewItemConnection identity item)) fun
    | .integrity => lifecycle "review item conflicts with committed state"
    | e => e

/-! ## Commands -/

/-- `_owner_command_target` -/
def ownerCommandTarget (s : OwnerStore) (itemId currentCandidateSha : String) : Bool :=
  (s.items.rows.find? fun r => r.itemId = itemId ∧ r.taskId = identity.taskId).any fun r =>
    r.candidateSha = currentCandidateSha ∨ (r.kind = .passFollowUp ∧ r.source = .acceptedReview)

/-- The columns of a command. -/
def OwnerCommand.columns (c : OwnerCommand) : OwnerCommandColumns :=
  ⟨c.taskId, c.kind, c.ownerIdentity, c.authorityGrantId, c.targetItemId, c.candidateSha, c.commandDigest,
    c.scopeDigest host, c.idempotencyKey⟩

/-- `queue_owner_command`, which answers with its command. -/
def queueOwnerCommand (c : OwnerCommand) (lease : Option TransitionLease) (now : Int) : Tx Error OwnerStore Unit := do
  Tx.check (refuse (c.taskId ≠ identity.taskId) (lifecycle "owner command task does not match its exact identity"))
  transaction (do
    Tx.query fun s => requireLifecycleAuthority host identity lease now s.ledger
    Tx.query fun s => requireCurrentCandidate identity c.candidateSha lease s.ledger
    Tx.query fun s => refuse (ownerCommandTarget identity s c.targetItemId c.candidateSha = false)
      (lifecycle "owner command target is stale or outside its scope")
    Tx.query fun s => refuse ((s.grants.rows.find? fun g => g.grantId = c.authorityGrantId).any (fun g =>
        g.allows host c.ownerIdentity c.kind identity.taskId c.candidateSha) = false)
      (lifecycle "owner command lacks a current allowlisted authority grant")
    let row ← Tx.query fun s => .ok (s.command? c.commandId)
    match row with
    | some row => Tx.check (refuse (row.columns ≠ c.columns host)
        (lifecycle "owner command identity conflicts with committed state"))
    | none => do
      Tx.query fun s => refuse (s.commands.rows.any fun r => r.columns.idempotencyKey = c.idempotencyKey)
        (lifecycle "owner command idempotency key conflicts with committed state")
      Tx.write fun s => do
        let commands ← demand (s.commands.insert? ⟨c.commandId, c.columns host, .pending⟩) .integrity
        return { s with commands })

/-- The item after the UPDATE of a command that is consumed. -/
def ItemRecord.settle (itemId commandId : String) (kind : OwnerCommandKind) (r : ItemRecord) : ItemRecord :=
  if r.itemId = itemId ∧ r.disposition = .pending then
    { r with disposition := kind.disposition, verification := kind.verification, resolvedCommandId := some commandId }
  else r

/-- The command after its UPDATE. -/
def OwnerCommandRow.consume (commandId resultDigest : String) (r : OwnerCommandRow) : OwnerCommandRow :=
  if r.commandId = commandId ∧ r.state = .pending then { r with state := .consumed resultDigest } else r

/-- `consume_owner_command` -/
def consumeOwnerCommand (commandId resultDigest : String) (lease : Option TransitionLease) (now : Int) :
    Tx Error OwnerStore ReviewItemProjection := do
  Tx.check (refuse (isToken commandId = false ∨ isHex 64 resultDigest = false) (lifecycle "owner command consumption is invalid"))
  transaction (do
    Tx.query fun s => requireLifecycleAuthority host identity lease now s.ledger
    let missing := lifecycle "owner command is missing or outside its exact task"
    let row ← Tx.query fun s => demand
      (s.commands.rows.find? fun r => r.commandId = commandId ∧ r.columns.taskId = identity.taskId) missing
    let grant ← Tx.query fun s => demand (s.grants.rows.find? fun g => g.grantId = row.columns.authorityGrantId) missing
    -- the owner that is checked is that of the command
    Tx.check (refuse (OwnerGrantRow.allows host { grant with ownerIdentity := row.columns.ownerIdentity } row.columns.ownerIdentity
        row.columns.kind identity.taskId row.columns.candidateSha = false)
      (lifecycle "owner command authority is stale or no longer allowlisted"))
    Tx.query fun s => requireCurrentCandidate identity row.columns.candidateSha lease s.ledger
    let item ← Tx.query fun s => demand
      (s.items.rows.find? fun r => r.itemId = row.columns.targetItemId ∧ r.taskId = identity.taskId)
      (lifecycle "owner command target is stale or outside its scope")
    match row.state with
    | .consumed digest => do
      Tx.check (refuse (digest ≠ resultDigest ∨ item.resolvedCommandId ≠ some commandId)
        (lifecycle "owner command terminal replay conflicts with committed state"))
      return item.projection
    | .pending => do
      Tx.check (refuse (item.disposition ≠ .pending) (lifecycle "owner command conflicts with an already terminal item"))
      Tx.write fun s => do
        let items ← demand (s.items.update? (·.settle item.itemId commandId row.columns.kind)) .integrity
        let commands ← demand (s.commands.update? (·.consume commandId resultDigest)) .integrity
        return { s with items, commands }
      return (item.settle item.itemId commandId row.columns.kind).projection)

end Operations

end Roundwright.Review
