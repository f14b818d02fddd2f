/-
The reads of the broker: a single answer of the adapter, or all pages of a collection folded into one
result, and the pre-dispatch state made of them.

A broker call is a program over a world that holds the journal file, the receipts the broker object
remembers, what was asked of the owner transport and of the adapter, and the results of the reads. The
adapter, the transport, the clock and the disk are the answers the program is run on; a call whose answers
run out has raised or died there.
-/
import Roundwright.GitHub.Authorization

namespace Roundwright.GitHub

open Lib

/-! ## Collections -/

inductive CollectionSnapshot where
  | comments (snapshot : CommentsSnapshot)
  | reviews (snapshot : ReviewsSnapshot)
  | requestedReviewers (snapshot : RequestedReviewersSnapshot)

namespace CollectionSnapshot

def repository : CollectionSnapshot → RepositoryRef
  | .comments s => s.repository
  | .reviews s => s.repository
  | .requestedReviewers s => s.repository

def toSnapshot : CollectionSnapshot → GitHubSnapshot
  | .comments s => .comments s
  | .reviews s => .reviews s
  | .requestedReviewers s => .requestedReviewers s

/-- `_collection_snapshot_payload` -/
def payload : CollectionSnapshot → Json
  | .comments s => .arr [.str "comments", .str s.repository.slug, .num s.issueNumber, .str s.targetKind,
      .arr (s.comments.map fun c => .arr [.str c.commentId, .str c.authorId, .digest c.bodyDigest, .str c.createdAt])]
  | .reviews s => .arr [.str "reviews", .str s.repository.slug, .num s.pullRequestNumber, .str s.headSha,
      .arr (s.reviews.map fun r => .arr [.str r.reviewId, .str r.reviewerId, .str r.state.value, .str r.commitSha])]
  | .requestedReviewers s => .arr [.str "requested-reviewers", .str s.repository.slug, .num s.pullRequestNumber,
      .str s.candidateSha, .arr (s.reviewers.map .str), .digest s.reviewerSetDigest, .bool s.complete,
      .ofOption s.nextCursor, .digest s.rawEvidenceIdentity]

end CollectionSnapshot

/-- One page; no next cursor ends the collection. -/
structure CollectionPage where
  request : GitHubReadRequest
  cursor : Option String
  nextCursor : Option String
  totalCount : Nat
  snapshot : CollectionSnapshot
  sameRepository : snapshot.repository = request.repository

def CollectionPage.identity (host : Host) (p : CollectionPage) : Digest :=
  host.digestValue (.arr [.digest (p.request.identity host), .ofOption p.cursor, .ofOption p.nextCursor, .num p.totalCount,
    p.snapshot.payload])

inductive CollectionItem where
  | comment (comment : CommentSnapshot)
  | review (review : ReviewSnapshot)
  | reviewer (login : String)

/-- The items of a page under their identifiers, or the reason for which the page does not belong to the
first one. The requested reviewers of another kind of first page are compared by attributes it lacks. -/
def pageItems (first : CollectionSnapshot) : CollectionSnapshot → Except Error (Except String (List (String × CollectionItem)))
  | .requestedReviewers s =>
    let drifted := "requested reviewer page identity drifted"
    match first with
    | .requestedReviewers f =>
      if s.repository ≠ f.repository ∨ s.pullRequestNumber ≠ f.pullRequestNumber ∨ s.candidateSha ≠ f.candidateSha then
        .ok (.error drifted)
      else .ok (.ok (s.reviewers.map fun login => (login, .reviewer login)))
    | .comments f => if s.repository ≠ f.repository then .ok (.error drifted) else .error .attribute
    | .reviews f =>
      if s.repository ≠ f.repository ∨ s.pullRequestNumber ≠ f.pullRequestNumber then .ok (.error drifted)
      else .error .attribute
  | .comments s =>
    match first with
    | .comments f =>
      if s.repository ≠ f.repository ∨ s.issueNumber ≠ f.issueNumber ∨ s.targetKind ≠ f.targetKind then
        .ok (.error "comment page identity drifted")
      else .ok (.ok (s.comments.map fun c => (c.commentId, .comment c)))
    | _ => .ok (.error "comment page identity drifted")
  | .reviews s =>
    match first with
    | .reviews f =>
      if s.repository ≠ f.repository ∨ s.pullRequestNumber ≠ f.pullRequestNumber ∨ s.headSha ≠ f.headSha then
        .ok (.error "review page identity drifted")
      else .ok (.ok (s.reviews.map fun r => (r.reviewId, .review r)))
    | _ => .ok (.error "review page identity drifted")

/-- The loop over the pages: no identifier may come twice. -/
def gatherItems (first : CollectionSnapshot) :
    List CollectionPage → List (String × CollectionItem) → Except Error (Except String (List (String × CollectionItem)))
  | [], gathered => .ok (.ok gathered)
  | page :: pages, gathered =>
    match pageItems first page.snapshot with
    | .error e => .error e
    | .ok (.error reason) => .ok (.error reason)
    | .ok (.ok items) =>
      if (items.map Prod.fst).Nodup ∧ ∀ i ∈ items.map Prod.fst, i ∉ gathered.map Prod.fst then
        gatherItems first pages (gathered ++ items)
      else .ok (.error "collection identifier is duplicated")

/-- `("reviewers", reviewers)` -/
def reviewersJson (reviewers : List String) : Json := .arr [.str "reviewers", .arr (reviewers.map .str)]

/-- The collection of all items, of the kind of the first page. -/
def normalizedCollection (host : Host) (first : CollectionSnapshot) (pages : List CollectionPage)
    (items : List CollectionItem) : CollectionSnapshot :=
  match first with
  | .comments f => .comments { f with comments := items.filterMap fun | .comment c => some c | _ => none }
  | .reviews f => .reviews { f with reviews := items.filterMap fun | .review r => some r | _ => none }
  | .requestedReviewers f =>
    let reviewers := items.filterMap fun | .reviewer login => some login | _ => none
    .requestedReviewers { f with
      reviewers
      reviewerSetDigest := host.digestValue (reviewersJson reviewers)
      complete := true
      nextCursor := none
      rawEvidenceIdentity := host.digestValue (.arr (pages.map fun p => .digest (p.identity host))) }

/-- What the constructors of a normalized collection and of its read result refuse. -/
def validateCollection (request : GitHubReadRequest) (snapshot : CollectionSnapshot) : Except Error Unit :=
  match snapshot with
  | .comments s => do
    refuse (request.operation ≠ .comments) (.gitHubContract "snapshot does not match read operation")
    refuse (s.repository ≠ request.repository) (.gitHubContract "snapshot repository does not match request")
    refuse (∃ n ∈ request.number, s.issueNumber ≠ n) (.gitHubContract "snapshot number does not match request")
    refuse (request.expectedSha ≠ none) (.gitHubContract "snapshot sha does not match request")
  | .reviews s => do
    refuse (request.operation ≠ .reviews) (.gitHubContract "snapshot does not match read operation")
    refuse (s.repository ≠ request.repository) (.gitHubContract "snapshot repository does not match request")
    refuse (∃ n ∈ request.number, s.pullRequestNumber ≠ n) (.gitHubContract "snapshot number does not match request")
    refuse (∃ sha ∈ request.expectedSha, s.headSha ≠ sha) (.gitHubContract "snapshot sha does not match request")
  | .requestedReviewers s => do
    refuse (¬ s.reviewers.Pairwise (· < ·)) (.gitHubContract "requested reviewer logins are not canonical")
    refuse (request.operation ≠ .requestedReviewers) (.gitHubContract "snapshot does not match read operation")
    refuse (s.repository ≠ request.repository) (.gitHubContract "snapshot repository does not match request")
    refuse (∃ n ∈ request.number, s.pullRequestNumber ≠ n) (.gitHubContract "snapshot number does not match request")
    refuse (∃ sha ∈ request.expectedSha, s.candidateSha ≠ sha) (.gitHubContract "snapshot sha does not match request")

/-- `_normalize_complete_collection_pages`, with the collection when there is one. -/
def normalizeCompleteCollectionPages (host : Host) (request : GitHubReadRequest) (pages : List CollectionPage) :
    Except Error (Except GitHubReadResult CollectionSnapshot) :=
  let malformed (reason : String) := GitHubReadResult.failed request .malformedResponse reason
  match pages with
  | [] => .ok (.error (malformed "collection has no pages"))
  | first :: _ =>
    match gatherItems first.snapshot pages [] with
    | .error e => .error e
    | .ok (.error reason) => .ok (.error (malformed reason))
    | .ok (.ok items) =>
      if items.length ≠ first.totalCount then .ok (.error (malformed "collection is incomplete"))
      else
        let collection := normalizedCollection host first.snapshot pages (items.map Prod.snd)
        match validateCollection request collection with
        | .error e => .error e
        | .ok () => .ok (.ok collection)

/-! ## Requests to the owner -/

/-- The sealed request to the owner transport. The fields that only a pull request has are the payload of
one. -/
structure OwnerMutationRequest where
  intentIdentity : Digest
  operation : GitHubMutationOperation
  authorizationBundleIdentity : Digest
  semanticPlanIdentity : Digest
  journalIdentity : Digest
  repository : RepositoryRef
  targetNumber : Option Nat
  markerDigest : Option Digest
  candidateSha : String
  pullRequest : Option PullRequestPayload
  idempotencyIdentity : Digest
  command : BrokerMutationCommand
  deploymentIdentity : String
  preStateIdentity : Digest
  evaluatedAt : Int
  freshUntil : Int
  timeIdentity : Digest
  capabilityHealthIdentity : Digest

def OwnerMutationRequest.identity (host : Host) (r : OwnerMutationRequest) : Digest :=
  let payload (f : PullRequestPayload → String) : Json := .ofOption (r.pullRequest.map f)
  host.digestValue (.arr [.digest r.intentIdentity, .str r.operation.value, .digest r.authorizationBundleIdentity,
    .digest r.semanticPlanIdentity, .digest r.journalIdentity, .str r.repository.slug, jsonOfNat r.targetNumber,
    payload PullRequestPayload.baseSha, payload PullRequestPayload.headSha, .ofDigest r.markerDigest, .str r.candidateSha,
    payload PullRequestPayload.baseSha, payload PullRequestPayload.baseRef, payload PullRequestPayload.headRef,
    .ofOption (r.pullRequest.map fun _ => r.repository.slug), .ofOption (r.pullRequest.map fun _ => r.repository.slug),
    .digest r.idempotencyIdentity, .str r.command.value, .str r.deploymentIdentity, .digest r.preStateIdentity,
    .num r.evaluatedAt, .num r.freshUntil, .digest r.timeIdentity, .digest r.capabilityHealthIdentity])

/-- An accepted result, with a locator exactly when the operation allocates. -/
structure OwnerMutationAcceptedFact where
  requestIdentity : Digest
  operation : GitHubMutationOperation
  createdResource : Option CreatedResourceLocator
  allocated : createdResource.map CreatedResourceLocator.operation = if operation.allocates then some operation else none

/-- What the owner transport answers: a denial, an acceptance, or anything else, such as a raised
`GitHubRuntimeError`. -/
inductive OwnerAnswer where
  | denied (requestIdentity : Digest)
  | accepted (fact : OwnerMutationAcceptedFact)
  | other

/-! ## The world of a call -/

structure World (host : Host) where
  file : JournalFile host
  /-- `_completed`, the receipts of the broker object by intent identity. -/
  completed : Digest → Option SemanticMutationReceipt
  /-- What was dispatched to the owner transport, in order. -/
  requests : List OwnerMutationRequest
  /-- What was submitted to the adapter, in order. -/
  submissions : List GitHubMutationIntent
  /-- The results of the complete reads, in order; no operation acts on them. -/
  reads : List GitHubReadResult

/-- What the environment answers to an action, each action taking its own part. -/
structure Answer where
  fault : Bool
  now : Option Int
  read : GitHubReadResult
  page : Option CollectionPage
  submitted : Except GitHubFailure MutationDisposition
  fact : OwnerAnswer

inductive BrokerAction where
  | journal (action : JournalAction)
  | clock
  | recallReceipt
  | read (request : GitHubReadRequest)
  | readPage (request : GitHubReadRequest) (cursor : Option String)
  | submit
  | dispatch
  | checkpoint
  | remember

abbrev BrokerProc (host : Host) := Proc BrokerAction Answer (World host)

section Reads

variable {host : Host}

/-- An operation of the journal. -/
def journaled {α : Type} (p : JournalProc host α) : BrokerProc host α :=
  p.embed .journal Answer.fault World.file fun w file => { w with file }

def World.observe (w : World host) (result : GitHubReadResult) : World host := { w with reads := w.reads ++ [result] }

/-- What a read is bound to: the context, the bundle, the plan and the journal key or, without a journal,
the intent. -/
structure ReadBinding where
  context : MutationBrokerContext
  bundleIdentity : Digest
  plan : BrokerSemanticPlan
  entry : Option MutationJournalEntry

/-- The identity of the completeness receipt of a collection. -/
def completenessIdentity (host : Host) (binding : ReadBinding) (request : GitHubReadRequest)
    (pages : List CollectionPage) (collection : CollectionSnapshot) : Digest :=
  let journalIdentity := match binding.entry with
    | some entry => entry.key host
    | none => host.digestValue (.arr [.str "no-journal", .digest binding.plan.intentIdentity])
  host.digestValue (.arr [.digest (request.identity host), .arr (pages.map fun p => .digest (p.identity host)),
    .digest (host.digestValue collection.payload), .str binding.context.candidateSha,
    .digest binding.context.configurationDigest, .digest binding.context.gateIdentity, .digest binding.bundleIdentity,
    .digest (binding.plan.identity host), .digest journalIdentity])

/-- A complete read: its result and its completeness identity, which a failed collection lacks. -/
abbrev CompleteRead := GitHubReadResult × Option Digest

/-- The end of the pages. -/
def endOfPages (host : Host) (binding : ReadBinding) (request : GitHubReadRequest) (pages : List CollectionPage) :
    Except Error CompleteRead :=
  match normalizeCompleteCollectionPages host request pages with
  | .error e => .error e
  | .ok (.error failure) => .ok (failure, none)
  | .ok (.ok collection) =>
    .ok (⟨request, .ok collection.toSnapshot⟩, some (completenessIdentity host binding request pages collection))

/-- What is wrong with a page after the pages before it. -/
def pageDefect (request : GitHubReadRequest) (cursor : Option String) (pages : List CollectionPage) (page : CollectionPage) :
    Option String :=
  if page.request ≠ request ∨ page.cursor ≠ cursor then some "collection page request drifted"
  else if ∃ first ∈ pages.head?, page.totalCount ≠ first.totalCount then some "collection total is inconsistent"
  else if 3200 < page.totalCount then some "collection item limit is exceeded"
  else if page.nextCursor ≠ none ∧ ((∃ prior ∈ pages, prior.cursor = page.nextCursor) ∨ page.nextCursor = cursor) then
    some "collection cursor is repeated or cyclic"
  else none

/-- A page either ends the read or asks for the next one. -/
def takePage (host : Host) (binding : ReadBinding) (request : GitHubReadRequest) (cursor : Option String)
    (pages : List CollectionPage) : Option CollectionPage → Except (Except Error CompleteRead) (List CollectionPage × Option String)
  | none => .error (.ok (.failed request .malformedResponse "collection pagination metadata is unavailable", none))
  | some page =>
    match pageDefect request cursor pages page with
    | some reason => .error (.ok (.failed request .malformedResponse reason, none))
    | none =>
      match page.nextCursor with
      | none => .error (endOfPages host binding request (pages ++ [page]))
      | some next => .ok (pages ++ [page], some next)

/-- The world after a step that may have ended a read. -/
def World.observeEnd (w : World host) : Except (Except Error CompleteRead) (List CollectionPage × Option String) → World host
  | .error (.ok (result, _)) => w.observe result
  | _ => w

/-- The loop over the pages, of which there may be `left` more. -/
def readPages (binding : ReadBinding) (request : GitHubReadRequest) :
    (left : Nat) → (pages : List CollectionPage) → (cursor : Option String) → BrokerProc host (Except Error CompleteRead)
  | 0, _, _ => return .ok (.failed request .malformedResponse "collection page limit is exceeded", none)
  | left + 1, pages, cursor =>
    .act (.readPage request cursor) (fun w i => w.observeEnd (takePage host binding request cursor pages i.page)) fun _ i =>
      match takePage host binding request cursor pages i.page with
      | .error finished => return finished
      | .ok (pages, cursor) => readPages binding request left pages cursor

def GitHubReadOperation.isCollection : GitHubReadOperation → Bool
  | .comments | .reviews | .requestedReviewers => true
  | _ => false

/-- `_complete_broker_read` -/
def completeBrokerRead (binding : ReadBinding) (request : GitHubReadRequest) : BrokerProc host (Except Error CompleteRead) :=
  if request.operation.isCollection then readPages binding request 32 [] none
  else Proc.action (.read request) (fun w i => w.observe i.read) fun _ i =>
    .ok (i.read, some (host.digestValue (.arr [.str "not-a-collection", .digest (request.identity host),
      .digest (binding.plan.identity host)])))

/-- The branch is where the request expects it. -/
def branchProved (request : GitHubReadRequest) : GitHubSnapshot → Bool
  | .branch s => s.repository = request.repository ∧ some s.name = request.ref ∧ some s.sha = request.expectedSha
  | _ => false

/-- What is kept of one pre-dispatch read. -/
def readEvidence (host : Host) (request : GitHubReadRequest) (snapshot : GitHubSnapshot) (completeness : Option Digest) : Json :=
  .arr [.digest (request.identity host), .digest (host.digestValue snapshot.payload),
    match completeness with
    | some digest => .digest digest
    | none => .str ""]

/-- The loop of `_complete_pre_dispatch_state`: the result that decides, and the digest and completeness
identity of the state when every read proved its part. -/
def preDispatchReads (binding : ReadBinding) : (requests : List GitHubReadRequest) → (first : Option GitHubReadResult) →
    (evidence : List Json) → BrokerProc host (Except Error (GitHubReadResult × Option (Digest × Digest)))
  | [], none, _ => return .error (.gitHubRuntime "broker pre-dispatch plan is incomplete")
  | [], some first, evidence =>
    return .ok (first, some (host.digestValue (.arr [.str "broker-pre-dispatch-state", .arr evidence]),
      host.digestValue (.arr [.str "broker-pre-dispatch-completeness", .arr evidence])))
  | request :: requests, first, evidence =>
    completeBrokerRead binding request >>= fun
      | .error e => return .error e
      | .ok (result, completeness) =>
        match result.snapshot with
        | none => return .ok (result, none)
        | some snapshot =>
          if request.operation = .branch ∧ branchProved request snapshot = false then return .ok (result, none)
          else preDispatchReads binding requests (first.or (some result))
            (evidence ++ [readEvidence host request snapshot completeness])

def completePreDispatchState (binding : ReadBinding) :
    BrokerProc host (Except Error (GitHubReadResult × Option (Digest × Digest))) :=
  preDispatchReads binding binding.plan.preDispatchReads none []

end Reads

end Roundwright.GitHub
