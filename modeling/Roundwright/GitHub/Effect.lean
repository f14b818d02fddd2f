/-
Receipts are sound where absence is. A receipt that is returned was verified by a read that shows the
effect of its operation, for every operation and every replay, provided that a stale response to the
read-back of a deleted branch is the answer of the provider that there is none. The read host gives the
same kind of failure for a clock that cannot be read and for stale health, and the broker does not tell
them apart.
-/
import Roundwright.GitHub.Receipt

namespace Roundwright.GitHub

open Lib

variable {host : Host}

/-! ## The read host -/

/-- What the owner clock gives. -/
inductive ClockReading where
  | raises
  | invalid
  | utc (now : Int)

/-- How the `gh` process ended: a failure, with whether its message is "Not Found", or an output, from
which a snapshot can be made or not. -/
inductive GhOutcome where
  | failed (exitCode : Nat) (notFound : Bool)
  | output (snapshot : Option GitHubSnapshot)

/-- The owner's read endpoint: its health profile and its dependency control. -/
structure OwnerGitHubReadHostEndpoint where
  health : GitHubCapabilityHealth
  control : GitHubReadRequest → Int → Bool

namespace OwnerGitHubReadHostEndpoint

variable (endpoint : OwnerGitHubReadHostEndpoint)

/-- `_fresh_failure` -/
def freshFailure (clock : ClockReading) (request : GitHubReadRequest) : Option GitHubFailure :=
  match clock with
  | .raises => some ⟨.staleResponse, .read request.operation, "owner read clock is unavailable"⟩
  | .invalid => some ⟨.staleResponse, .read request.operation, "owner read clock is invalid"⟩
  | .utc now =>
    match healthFailure (.read request.operation) endpoint.health (some now) with
    | some failure => some failure
    | none =>
      if endpoint.control request now then none
      else some ⟨.policyDenied, .read request.operation, "owner read dependency preflight blocked execution"⟩

/-- `read` of an operation that is answered by one process. -/
def read (clock : ClockReading) (request : GitHubReadRequest) (outcome : GhOutcome) : GitHubReadResult :=
  match endpoint.freshFailure clock request with
  | some blocked => ⟨request, .error blocked⟩
  | none =>
    match outcome with
    | .failed exitCode notFound =>
      if (request.operation = .branch ∨ request.operation = .remoteHead) ∧ notFound then
        .failed request .staleResponse "requested branch is absent"
      else .failed request (if exitCode = 4 then .authenticationFailed else .transportFailed)
        "gh read did not return a usable response"
    | .output none => .failed request .malformedResponse "gh read response is malformed"
    | .output (some snapshot) => ⟨request, .ok snapshot⟩

end OwnerGitHubReadHostEndpoint

/-- The answer of the provider that the branch does not exist. -/
def SaysAbsent (result : GitHubReadResult) : Prop :=
  ∃ f, result.outcome = .error f ∧ f.kind = .staleResponse ∧ f.publicReason = "requested branch is absent"

variable {endpoint : OwnerGitHubReadHostEndpoint} {request : GitHubReadRequest}

variable {clock : ClockReading}

/-- No refusal of the read host carries the text of an absent branch. -/
theorem freshFailure_reason {f : GitHubFailure}
    (h : endpoint.freshFailure clock request = some f) : f.publicReason ≠ "requested branch is absent" := by
  unfold OwnerGitHubReadHostEndpoint.freshFailure at h
  split at h
  · cases h
    simp
  · cases h
    simp
  · split at h
    · rename_i failure hhealth
      cases h
      unfold healthFailure at hhealth
      split at hhealth
      · cases hhealth
      · split at hhealth
        · split at hhealth
          · cases hhealth
          · cases hhealth
            simp
        all_goals
          cases hhealth
          simp
    · split at h
      · cases h
      · cases h
        simp

/-- A stale response of the read host is the provider's answer that the branch is absent exactly when the
read was not refused. -/
theorem read_stale {outcome : GhOutcome} {f : GitHubFailure}
    (h : (endpoint.read clock request outcome).outcome = .error f) (hstale : f.kind = .staleResponse) :
    SaysAbsent (endpoint.read clock request outcome) ↔ endpoint.freshFailure clock request = none := by
  constructor
  · rintro ⟨g, hg, -, hreason⟩
    by_contra hblocked
    obtain ⟨blocked, hfresh⟩ := Option.ne_none_iff_exists'.1 hblocked
    have hread : endpoint.read clock request outcome = ⟨request, .error blocked⟩ := by
      unfold OwnerGitHubReadHostEndpoint.read
      rw [hfresh]
    rw [hread] at hg
    obtain rfl : blocked = g := Except.error.inj hg
    exact freshFailure_reason hfresh hreason
  · intro hfresh
    have hread := h
    unfold OwnerGitHubReadHostEndpoint.read at hread
    simp only [hfresh] at hread
    cases outcome with
    | failed exitCode notFound =>
      dsimp only at hread
      split at hread
      · refine ⟨f, h, hstale, ?_⟩
        cases hread
        rfl
      · cases hread
        dsimp only at hstale
        split at hstale <;> cases hstale
    | output snapshot =>
      cases snapshot with
      | none =>
        cases hread
        cases hstale
      | some s => cases hread

/-! ## Effects -/

/-- The result shows the effect of the mutation, of what `locator` names where it allocates. -/
def ShowsEffect (host : Host) (intent : GitHubMutationIntent) (locator : Option CreatedResourceLocator)
    (result : GitHubReadResult) : Prop :=
  match intent.mutation with
  | .createBranch ref sha | .updateBranch ref sha _ => ∃ s, result.outcome = .ok (.branch s) ∧
      s.repository = intent.repository ∧ s.name = ref ∧ s.sha = sha
  | .createPullRequest _ p => ∃ s number id,
      locator = some (.pullRequest intent.repository number id p.baseSha p.headSha p.bodyDigest) ∧
      result.outcome = .ok (.pullRequest s) ∧ s.repository = intent.repository ∧ s.baseRepository = intent.repository ∧
      s.headRepository = intent.repository ∧ s.number = number ∧ s.pullRequestId = id ∧ s.state = .open ∧ s.draft = true ∧
      s.baseRef = p.baseRef ∧ s.baseSha = p.baseSha ∧ s.headRef = p.headRef ∧ s.headSha = p.headSha
  | .comment number body => ∃ s c id, locator = some (.comment intent.repository number id body) ∧
      result.outcome = .ok (.comments s) ∧ s.repository = intent.repository ∧ s.issueNumber = number ∧ c ∈ s.comments ∧
      c.commentId = id ∧ c.bodyDigest = body
  | .requestReview number sha digest => ∃ s, result.outcome = .ok (.requestedReviewers s) ∧ s.repository = intent.repository ∧
      s.pullRequestNumber = number ∧ s.candidateSha = sha ∧ s.complete = true ∧
      host.digestValue (reviewersJson s.reviewers) = digest
  | .markReady number sha => ∃ s, result.outcome = .ok (.pullRequest s) ∧ s.repository = intent.repository ∧ s.number = number ∧
      s.state = .open ∧ s.draft = false ∧ s.headSha = sha
  | .mergePullRequest number sha _ => ∃ s, result.outcome = .ok (.pullRequest s) ∧ s.repository = intent.repository ∧
      s.number = number ∧ s.state = .merged ∧ s.headSha = sha
  | .closeIssue number _ => ∃ s, result.outcome = .ok (.issue s) ∧ s.repository = intent.repository ∧ s.number = number ∧
      s.state = .closed
  | .deleteBranch ref sha => SaysAbsent result ∧ result.request = ⟨.remoteHead, intent.repository, none, some ref, some sha⟩

/-- A stale response to a read of a remote head says that the branch is absent. -/
def AbsenceHonest (result : GitHubReadResult) : Prop :=
  result.request.operation = .remoteHead → ∀ f, result.outcome = .error f → f.kind = .staleResponse → SaysAbsent result

theorem read_honest (outcome : GhOutcome) (hfresh : endpoint.freshFailure clock request = none) :
    AbsenceHonest (endpoint.read clock request outcome) :=
  fun _ _ hf hstale => (read_stale hf hstale).2 hfresh

variable {locator : Option CreatedResourceLocator}

variable {result : GitHubReadResult}

/-- What shows a mutation that allocates nothing is a snapshot that matches. -/
theorem readbackMatches_plain {readback : SemanticReadback} {intent : GitHubMutationIntent}
    (h : readbackMatches readback intent result locator = true) (hcondition : readback.condition ≠ .branchAbsent)
    (halloc : intent.operation.allocates = false) :
    ∃ snapshot, result.outcome = .ok snapshot ∧ matchesSnapshot readback intent snapshot = true := by
  unfold readbackMatches at h
  rw [if_neg hcondition] at h
  cases hout : result.outcome with
  | error f =>
    rw [hout] at h
    cases h
  | ok snapshot =>
    rw [hout] at h
    refine ⟨snapshot, rfl, ?_⟩
    cases hop : intent.operation <;> simp [hop, GitHubMutationOperation.allocates] at halloc h <;> exact h

/-- A mutation that allocates nothing is read back as planned. -/
theorem postReadback_plain {intent : GitHubMutationIntent} (halloc : intent.operation.allocates = false) :
    postReadbackForLocator host intent locator = some (brokerSemanticPlan host intent).readback := by
  unfold postReadbackForLocator
  cases hop : intent.operation <;> simp [hop, GitHubMutationOperation.allocates] at halloc <;> rfl

section Matching

variable {intent : GitHubMutationIntent} {result : GitHubReadResult} {locator : Option CreatedResourceLocator}
  {readback : SemanticReadback} (hasked : postReadbackForLocator host intent locator = some readback)
  (hshows : readbackMatches readback intent result locator = true)

include hasked hshows

/-- The snapshot that shows a mutation with a plain postcondition. -/
theorem matches_of_plain (halloc : intent.operation.allocates = false) (hdelete : intent.operation ≠ .deleteBranch) :
    ∃ snapshot, result.outcome = .ok snapshot ∧
      matchesSnapshot (brokerSemanticPlan host intent).readback intent snapshot = true := by
  rw [postReadback_plain halloc] at hasked
  obtain rfl := Option.some.inj hasked
  refine readbackMatches_plain hshows ?_ halloc
  cases hm : intent.mutation <;> simp [brokerSemanticPlan, planReads, hm, GitHubMutationIntent.operation] at hdelete ⊢

/-- What shows a mutation with a plain postcondition other than a review request is its effect. -/
theorem shows_plain (halloc : intent.operation.allocates = false) (hdelete : intent.operation ≠ .deleteBranch)
    (hreview : intent.operation ≠ .requestReview) : ShowsEffect host intent locator result := by
  obtain ⟨snapshot, hout, hmatch⟩ := matches_of_plain hasked hshows halloc hdelete
  unfold ShowsEffect
  simp only [GitHubMutationIntent.operation] at halloc hdelete hreview
  cases hm : intent.mutation with
  | createBranch | updateBranch =>
    simp only [brokerSemanticPlan, planReads, hm] at hmatch
    cases snapshot with
    | branch s =>
      simp only [matchesSnapshot, GitHubMutationIntent.targetRef, GitHubMutationIntent.expectedSha, hm,
        Option.some.injEq, decide_eq_true_eq] at hmatch
      exact ⟨s, hout, hmatch⟩
    | _ => cases hmatch
  | markReady =>
    simp only [brokerSemanticPlan, planReads, hm] at hmatch
    cases snapshot with
    | pullRequest s =>
      simp only [matchesSnapshot, isTargetPullRequest, GitHubMutationIntent.targetNumber,
        GitHubMutationIntent.expectedSha, hm, Option.some.injEq, decide_eq_true_eq] at hmatch
      obtain ⟨⟨hrepository, -, -, hnumber⟩, hstate, hdraft, hsha⟩ := hmatch
      exact ⟨s, hout, hrepository, hnumber, hstate, by simpa using hdraft, hsha⟩
    | _ => cases hmatch
  | mergePullRequest =>
    simp only [brokerSemanticPlan, planReads, hm] at hmatch
    cases snapshot with
    | pullRequest s =>
      simp only [matchesSnapshot, isTargetPullRequest, GitHubMutationIntent.targetNumber,
        GitHubMutationIntent.expectedSha, hm, Option.some.injEq, decide_eq_true_eq] at hmatch
      obtain ⟨⟨hrepository, -, -, hnumber⟩, hstate, hsha, -⟩ := hmatch
      exact ⟨s, hout, hrepository, hnumber, hstate, hsha⟩
    | _ => cases hmatch
  | closeIssue =>
    simp only [brokerSemanticPlan, planReads, hm] at hmatch
    cases snapshot with
    | issue s =>
      simp only [matchesSnapshot, GitHubMutationIntent.targetNumber, hm, Option.some.injEq, decide_eq_true_eq] at hmatch
      exact ⟨s, hout, hmatch⟩
    | _ => cases hmatch
  | createPullRequest | comment => cases hm ▸ halloc
  | deleteBranch => exact absurd rfl (hm ▸ hdelete)
  | requestReview => exact absurd rfl (hm ▸ hreview)

theorem shows_createPullRequest {number : Nat} {p : PullRequestPayload} (hm : intent.mutation = .createPullRequest number p) :
    ShowsEffect host intent locator result := by
  have hop : intent.operation = .createPullRequest := by simp [GitHubMutationIntent.operation, hm]
  have hpayload : intent.pullRequestPayload = some p := by simp [GitHubMutationIntent.pullRequestPayload, hm]
  unfold postReadbackForLocator at hasked
  rw [hop] at hasked
  rcases locator with _ | ⟨repository, created, id, baseSha, headSha, marker⟩ | _
  · cases hasked
  · dsimp only at hasked
    split at hasked
    · rename_i hlocator
      obtain rfl := Option.some.inj hasked
      simp only [locatorMatchesIntent, hpayload, decide_eq_true_eq] at hlocator
      obtain ⟨rfl, rfl, rfl, rfl⟩ := hlocator
      simp only [readbackMatches, hop] at hshows
      rw [if_neg (by decide)] at hshows
      unfold ShowsEffect
      rw [hm]
      cases hout : result.outcome with
      | error f =>
        rw [hout] at hshows
        cases hshows
      | ok snapshot =>
        rw [hout] at hshows
        cases snapshot with
        | pullRequest s =>
          simp only [matchesCreatedPullRequest, hpayload, decide_eq_true_eq] at hshows
          obtain ⟨h₁, h₂, h₃, h₄, h₅, h₆, h₇, h₈, -, h₉, -, -, h₁₀, h₁₁⟩ := hshows
          exact ⟨s, created, id, rfl, rfl, h₁, h₂, h₃, h₄, h₅, h₆, h₇, h₁₀, h₈, h₁₁, h₉⟩
        | _ => cases hshows
    · cases hasked
  · cases hasked

theorem shows_comment {number : Nat} {body : Digest} (hm : intent.mutation = .comment number body) :
    ShowsEffect host intent locator result := by
  have hop : intent.operation = .comment := by simp [GitHubMutationIntent.operation, hm]
  have hbody : intent.bodyDigest = some body := by simp [GitHubMutationIntent.bodyDigest, hm]
  have htarget : intent.targetNumber = some number := by simp [GitHubMutationIntent.targetNumber, hm]
  unfold postReadbackForLocator at hasked
  rw [hop] at hasked
  rcases locator with _ | _ | ⟨repository, issueNumber, id, marker⟩
  · cases hasked
  · cases hasked
  · dsimp only at hasked
    split at hasked
    · rename_i hlocator
      obtain rfl := Option.some.inj hasked
      simp only [locatorMatchesIntent, hop, hbody, htarget, Option.some.injEq, decide_eq_true_eq] at hlocator
      obtain ⟨-, rfl, rfl, rfl⟩ := hlocator
      simp only [readbackMatches, brokerSemanticPlan, planReads, hm, hop] at hshows
      rw [if_neg (by decide)] at hshows
      unfold ShowsEffect
      rw [hm]
      cases hout : result.outcome with
      | error f =>
        rw [hout] at hshows
        cases hshows
      | ok snapshot =>
        rw [hout] at hshows
        cases snapshot with
        | comments s =>
          simp only [matchesCreatedComment, decide_eq_true_eq, List.any_eq_true] at hshows
          obtain ⟨hrepository, hissue, -, c, hc, hid, hdigest⟩ := hshows
          exact ⟨s, c, id, rfl, rfl, hrepository, hissue, hc, hid, hdigest⟩
        | _ => cases hshows
    · cases hasked

end Matching

variable {reads : List GitHubReadResult}

variable {call : BrokerCall} {receipt : SemanticMutationReceipt}

/-- A read-back that matches shows the effect. -/
theorem Verification.effect {readback : SemanticReadback} {observed : CompleteRead}
    (h : Verification host call reads receipt readback observed locator) (hhonest : AbsenceHonest observed.1) :
    ShowsEffect host call.intent locator observed.1 := by
  obtain ⟨-, -, hasked, hshows, hreviewers⟩ := h
  have hplain := fun halloc hdelete => matches_of_plain hasked hshows halloc hdelete
  -- each mutation has its own postcondition in the read-back
  cases hm : call.intent.mutation with
  | createPullRequest number p => exact shows_createPullRequest hasked hshows hm
  | comment number body => exact shows_comment hasked hshows hm
  | deleteBranch ref sha =>
    have hop : call.intent.operation = .deleteBranch := by simp [GitHubMutationIntent.operation, hm]
    rw [postReadback_plain (by rw [hop]; rfl)] at hasked
    obtain rfl := Option.some.inj hasked
    simp only [readbackMatches, brokerSemanticPlan, planReads, hm, if_true] at hshows
    unfold ShowsEffect
    rw [hm]
    cases hout : observed.1.outcome with
    | ok snapshot =>
      rw [hout] at hshows
      cases hshows
    | error f =>
      rw [hout] at hshows
      simp only [decide_eq_true_eq] at hshows
      exact ⟨hhonest (by rw [hshows.2]) f hout hshows.1, hshows.2⟩
  | requestReview number sha digest =>
    obtain ⟨snapshot, hout, hmatch⟩ := hplain (by simp [GitHubMutationIntent.operation, hm]; rfl)
      (by simp [GitHubMutationIntent.operation, hm])
    unfold ShowsEffect
    rw [hm]
    simp only [brokerSemanticPlan, planReads, hm] at hmatch
    cases snapshot with
    | requestedReviewers s =>
      simp only [matchesSnapshot, GitHubMutationIntent.targetNumber, GitHubMutationIntent.expectedSha,
        GitHubMutationIntent.reviewersDigest, hm, Option.some.injEq, decide_eq_true_eq] at hmatch
      obtain ⟨hrepository, hnumber, hsha, hcomplete, hdigest⟩ := hmatch
      refine ⟨s, hout, hrepository, hnumber, hsha, hcomplete, ?_⟩
      rw [← hdigest]
      refine (hreviewers ?_ s ?_).symm
      · rw [postReadback_plain (by simp [GitHubMutationIntent.operation, hm]; rfl)] at hasked
        obtain rfl := Option.some.inj hasked
        simp [brokerSemanticPlan, planReads, hm, GitHubReadOperation.isCollection]
      · simp [GitHubReadResult.snapshot, hout, Except.toOption]
    | _ => cases hmatch
  | createBranch | updateBranch | markReady | mergePullRequest | closeIssue =>
    refine shows_plain hasked hshows ?_ ?_ ?_ <;> simp [GitHubMutationIntent.operation, hm]
    rfl

/-! ## Runs -/

theorem Made.mono {reads more : List GitHubReadResult}
    (h : Made host call reads receipt) (hsub : reads ⊆ more) : Made host call more receipt := by
  obtain ⟨readback, observed, locator, hv⟩ := h
  exact ⟨readback, observed, locator, { hv with wasRead := hsub hv.wasRead }⟩

theorem Made.intent (h : Made host call reads receipt) :
    receipt.intentIdentity = call.intent.identity host := by
  obtain ⟨readback, observed, locator, hv⟩ := h
  obtain ⟨bundle, preDigest, preCompleteness, disposition, entry, hreceipt, -⟩ := hv.made
  simp only [BrokerCall.semanticReceipt, bind_eq_ok, exists_unit, refuse_eq_ok, demand_eq_ok, pure_eq_ok] at hreceipt
  obtain ⟨postDigest, -, affected, -, binding, -, -, preComplete, -, postComplete, -, digest, -, -, rfl⟩ := hreceipt
  rfl

/-- One of the calls made the receipt, for the intent of this identity. -/
def Proven (host : Host) (calls : List BrokerCall) (reads : List GitHubReadResult) (intent : Digest)
    (receipt : SemanticMutationReceipt) : Prop :=
  ∃ call ∈ calls, call.intent.identity host = intent ∧ Made host call reads receipt

theorem Proven.mono {calls : List BrokerCall} {reads more : List GitHubReadResult} {intent : Digest}
    (h : Proven host calls reads intent receipt) (hsub : reads ⊆ more) :
    Proven host calls more intent receipt := by
  obtain ⟨call, hcall, hintent, hmade⟩ := h
  exact ⟨call, hcall, hintent, hmade.mono hsub⟩

/-- Every read so far is honest, and every receipt that is remembered or stored was made by one of the calls
for its intent. -/
structure Recorded (calls : List BrokerCall) (w : World host) : Prop where
  honest : ∀ result ∈ w.reads, AbsenceHonest result
  remembered : ∀ intent r, w.completed intent = some r → Proven host calls w.reads intent r
  stored : ∀ key entry r, w.file.get key = some entry → entry.receipt = some r →
    Proven host calls w.reads entry.evidence.intentIdentity r

theorem NotStale.honest (h : NotStale result) : AbsenceHonest result :=
  fun _ f hf hstale => absurd hstale (h f hf)

variable {start w w' : World host}

theorem Recorded.step {calls : List BrokerCall} (hcall : call ∈ calls) {i : Answer}
    (hhonest : AbsenceHonest i.read) (h : Recorded calls w) (hs : CallStep call start i w w') : Recorded calls w' := by
  -- what is remembered was made, or was stored, by a call of the list
  cases hs with
  | idle => exact h
  | submit => exact ⟨h.honest, h.remembered, h.stored⟩
  | dispatch => exact ⟨h.honest, h.remembered, h.stored⟩
  | observe result source =>
    have hsub : w.reads ⊆ (w.observe result).reads := List.subset_append_left _ _
    refine ⟨fun r hr => ?_, fun intent r hr => (h.remembered intent r hr).mono hsub,
      fun key entry r hget hr => (h.stored key entry r hget hr).mono hsub⟩
    rcases List.mem_append.1 hr with hold | hnew
    · exact h.honest r hold
    · obtain rfl := List.mem_singleton.1 hnew
      exact source.elim (fun heq => heq ▸ hhonest) NotStale.honest
  | forget =>
    refine ⟨h.honest, fun intent r hr => ?_, h.stored⟩
    by_cases hintent : intent = call.intent.identity host
    · subst hintent
      simp at hr
    · exact h.remembered intent r (by simpa [hintent] using hr)
  | remember receipt known =>
    refine ⟨h.honest, fun intent r hr => ?_, h.stored⟩
    by_cases hintent : intent = call.intent.identity host
    · subst hintent
      obtain rfl : receipt = r := by simpa using hr
      rcases known with hmade | ⟨entry, hget, hreceipt, hfits⟩
      · exact ⟨call, hcall, rfl, hmade⟩
      · exact hfits.intent ▸ h.stored _ entry receipt hget hreceipt
    · exact h.remembered intent r (by simpa [hintent] using hr)
  | file file step =>
    refine ⟨h.honest, h.remembered, fun key entry r hget hr => ?_⟩
    change file.get key = some entry at hget
    rcases step.get_eq with hsame | ⟨⟨updated, hupdated, hchange⟩, hother⟩
    · exact h.stored key entry r (hsame key ▸ hget) hr
    · by_cases hkey : key = call.key host
      · subst hkey
        obtain rfl : updated = entry := Option.some.inj (hupdated.symm.trans hget)
        have hmatches := (MutationJournalEntry.check_ok (JournalFile.get_valid hget).1).2.2.2 r hr
        generalize w.file.get (call.key host) = prior at hchange
        cases hchange with
        | claim bundle => cases hr
        | move moved located receipt =>
          have hmade := receipt r hr
          exact ⟨call, hcall, hmade.intent.symm.trans hmatches.2.2.2.2.1, hmade⟩
      · exact h.stored key entry r (hother key hkey ▸ hget) hr

theorem CallStep.reads_subset {i : Answer} (h : CallStep call start i w w') :
    w.reads ⊆ w'.reads := by
  cases h with
  | observe result source => exact List.subset_append_left _ _
  | _ => exact List.Subset.refl _

/-- The calls of a run. -/
def calls (events : List BrokerEvent) : List BrokerCall := events.filterMap BrokerEvent.call?

variable {events : List BrokerEvent}

theorem mem_calls {event : BrokerEvent} (hevent : event ∈ events) (hcall : event.call? = some call) :
    call ∈ calls events := List.mem_filterMap.2 ⟨event, hevent, hcall⟩

variable {made : List BrokerCall}

theorem Recorded.steps (hcall : call ∈ made) {answers : List Answer}
    (hhonest : ∀ i ∈ answers, AbsenceHonest i.read)
    (hs : Relation.ReflTransGen (Proc.OneOf (CallStep call start) answers) w w') (h : Recorded made w) :
    Recorded made w' ∧ w.reads ⊆ w'.reads := by
  induction hs with
  | refl => exact ⟨h, List.Subset.refl _⟩
  | tail _ hs ih =>
    obtain ⟨i, hi, hs⟩ := hs
    exact ⟨ih.1.step hcall (hhonest i hi) hs, List.Subset.trans ih.2 hs.reads_subset⟩

theorem Recorded.event {w : World host} (h : Recorded made w) (honce : Once w) (event : BrokerEvent)
    (hmade : ∀ call, event.call? = some call → call ∈ made) (hhonest : ∀ i ∈ event.answers, AbsenceHonest i.read) :
    Recorded made (w.after event) ∧ w.reads ⊆ (w.after event).reads := by
  rcases honce.after event with ⟨call, hcall, hsteps⟩ | hrestart
  · exact Recorded.steps (hmade call hcall) hhonest hsteps h
  · rw [hrestart]
    exact ⟨⟨h.honest, (fun _ _ hr => by cases hr), h.stored⟩, List.Subset.refl _⟩

theorem Recorded.run {w : World host} (h : Recorded made w) (honce : Once w)
    (hmade : ∀ event ∈ events, ∀ call, event.call? = some call → call ∈ made)
    (hhonest : ∀ event ∈ events, ∀ i ∈ event.answers, AbsenceHonest i.read) : Recorded made (w.run events) := by
  induction events generalizing w with
  | nil => exact h
  | cons event events ih =>
    exact ih (h.event honce event (hmade event (by simp)) (hhonest event (by simp))).1 (honce.event event)
      (fun e he => hmade e (by simp [he])) (fun e he => hhonest e (by simp [he]))

theorem Recorded.initial (made : List BrokerCall) : Recorded made (World.initial (⟨none, none⟩ : JournalFile host)) where
  honest _ h := by cases h
  remembered _ _ h := by cases h
  stored _ _ _ h := by cases h

/-- No two intents of the run share a digest. -/
def CollisionFree (host : Host) (events : List BrokerEvent) : Prop :=
  ∀ a ∈ calls events, ∀ b ∈ calls events, host.digestJson a.intent.identityJson = host.digestJson b.intent.identityJson →
    a.intent.identityJson = b.intent.identityJson

theorem CollisionFree.intent_eq (h : CollisionFree host events) {a b : BrokerCall} (ha : a ∈ calls events)
    (hb : b ∈ calls events) (heq : a.intent.identity host = b.intent.identity host) :
    a.intent = b.intent :=
  GitHubMutationIntent.identityJson_injective (h a ha b hb (Digest.sha256.inj heq))

/-- The result shows the effect of the intent, and the receipt takes its identities from it. -/
structure VerifiedBy (host : Host) (intent : GitHubMutationIntent) (receipt : SemanticMutationReceipt)
    (result : GitHubReadResult) (locator : Option CreatedResourceLocator) : Prop where
  shown : ShowsEffect host intent locator result
  postState : postStateDigest host intent result = .ok receipt.postStateDigest
  affected : affectedIdentity host intent result locator = .ok receipt.affectedIdentity
  created : receipt.createdResourceIdentity = locator.map (CreatedResourceLocator.identity host)

theorem Made.verifiedBy (h : Made host call reads receipt)
    (hhonest : ∀ result ∈ reads, AbsenceHonest result) :
    ∃ result ∈ reads, ∃ locator, VerifiedBy host call.intent receipt result locator := by
  obtain ⟨readback, observed, locator, hv⟩ := h
  obtain ⟨bundle, preDigest, preCompleteness, disposition, entry, hreceipt, hlocator⟩ := hv.made
  obtain ⟨-, -, -, -, -, hpost, haffected, hcreated⟩ := semanticReceipt_ok hreceipt
  exact ⟨observed.1, hv.wasRead, locator, hv.effect (hhonest _ hv.wasRead), hpost, haffected, hlocator ▸ hcreated⟩

/-- In every run of broker calls and restarts from a journal that does not exist yet, in which every stale
response to a read of a remote head is the provider's answer that the branch does not exist: a receipt that
is returned, made, remembered or stored, was verified by a read of the run that shows the effect of the
intent. -/
theorem receipt_shows_effect (events : List BrokerEvent) (event : BrokerEvent) (call : BrokerCall)
    (hcall : event.call? = some call) (hsha : CollisionFree host (events ++ [event]))
    (hhonest : ∀ e ∈ events ++ [event], ∀ i ∈ e.answers, AbsenceHonest i.read) (receipt : SemanticMutationReceipt)
    (hreturns : ((World.initial (⟨none, none⟩ : JournalFile host)).run events).returns event = some (.ok (.receipt receipt))) :
    ∃ result ∈ (((World.initial (⟨none, none⟩ : JournalFile host)).run events).after event).reads,
      ∃ locator, VerifiedBy host call.intent receipt result locator := by
  have honce := (Once.initial (⟨none, none⟩ : JournalFile host)).run events
  have hinitial : Recorded _ (World.initial (⟨none, none⟩ : JournalFile host)) := .initial (calls (events ++ [event]))
  have hrecorded := hinitial.run (.initial _)
    (fun e he c hc => mem_calls (List.mem_append_left _ he) hc) (fun e he => hhonest e (List.mem_append_left _ he))
  have hmem : call ∈ calls (events ++ [event]) := mem_calls (by simp) hcall
  obtain ⟨hafter, hsub⟩ := hrecorded.event honce event (fun c hc => mem_calls (by simp) hc) (hhonest event (by simp))
  -- what was remembered or stored was made by a call of the same intent
  have hproven : ∀ {intent}, intent = call.intent.identity host →
      Proven host (calls (events ++ [event])) ((World.initial (⟨none, none⟩ : JournalFile host)).run events).reads intent receipt →
      ∃ result ∈ (((World.initial (⟨none, none⟩ : JournalFile host)).run events).after event).reads,
        ∃ locator, VerifiedBy host call.intent receipt result locator := by
    rintro _ rfl ⟨maker, hmaker, hintent, hmade⟩
    rw [← hsha.intent_eq hmaker hmem hintent]
    exact (hmade.mono hsub).verifiedBy hafter.honest
  obtain ⟨-, hmade | hremembered | ⟨entry, hget, hreceipt, hfits⟩⟩ := honce.returns hcall hreturns
  · exact hmade.verifiedBy hafter.honest
  · exact hproven rfl (hrecorded.remembered _ _ hremembered)
  · exact hproven hfits.intent (hrecorded.stored _ entry receipt hget hreceipt)

namespace BrokerSample

def deleteBranch : BrokerCall where
  broker := ⟨false, none, true, false⟩
  authority := authority
  intent := ⟨repository, "delete", .deleteBranch "task" "head"⟩
  context := context .deleteBranch "head" "base"
  payload := none
  suppliesSemantics := false

def present : GitHubReadResult :=
  ⟨⟨.branch, repository, none, some "task", some "head"⟩, .ok (.branch ⟨repository, "task", "head"⟩)⟩

/-- The answer of the read host, on its clock, where the provider says "Not Found". -/
def remoteHead (clock : ClockReading) : GitHubReadResult :=
  (OwnerGitHubReadHostEndpoint.mk health fun _ _ => true).read clock
    ⟨.remoteHead, repository, none, some "task", some "head"⟩ (.failed 1 true)

/-- The branch is there before the adapter is asked to delete it. -/
def deleting (clock : ClockReading) : BrokerEvent :=
  .submit deleteBranch (answers 3 present ++ answers 2 (remoteHead clock))

/-- The result is no answer that the branch is absent. -/
def silent (result : GitHubReadResult) : Bool :=
  match result.outcome with
  | .error f => f.publicReason ≠ "requested branch is absent"
  | .ok _ => true

theorem not_saysAbsent (h : silent result = true) : ¬ SaysAbsent result := by
  rintro ⟨f, hf, -, hreason⟩
  simp [silent, hf, hreason] at h

end BrokerSample

open BrokerSample in
/-- A deletion is verified by a read that the read host refused because its clock could not be read. -/
theorem receipt_without_effect :
    ¬ ∀ (event : BrokerEvent) (call : BrokerCall) (receipt : SemanticMutationReceipt), event.call? = some call →
      (World.initial file).returns event = some (.ok (.receipt receipt)) →
        ∃ result ∈ ((World.initial file).after event).reads, ∃ locator, VerifiedBy Host.sample call.intent receipt
          result locator := by
  intro hall
  have hsome : (receiptOf ((World.initial file).returns (deleting .raises))).isSome = true := by decide +kernel
  obtain ⟨receipt, hreceipt⟩ := Option.isSome_iff_exists.1 hsome
  obtain ⟨result, hread, locator, hverified⟩ := hall (deleting .raises) deleteBranch receipt rfl (returns_of_receiptOf hreceipt)
  have hsilent : ((World.initial file).after (deleting .raises)).reads.all silent = true := by decide +kernel
  exact not_saysAbsent (List.all_eq_true.1 hsilent result hread) hverified.shown.1

open BrokerSample in
/-- A deletion whose read-back is the provider's answer. -/
theorem receipt_shows_effect_deleted :
    ∃ receipt, (World.initial file).returns (deleting (.utc 10)) = some (.ok (.receipt receipt)) ∧
      ∃ result ∈ ((World.initial file).after (deleting (.utc 10))).reads,
        ∃ locator, VerifiedBy Host.sample deleteBranch.intent receipt result locator := by
  have hsome : (receiptOf ((World.initial file).returns (deleting (.utc 10)))).isSome = true := by decide +kernel
  obtain ⟨receipt, hreceipt⟩ := Option.isSome_iff_exists.1 hsome
  have hreturned := returns_of_receiptOf hreceipt
  refine ⟨receipt, hreturned, receipt_shows_effect [] (deleting (.utc 10)) deleteBranch rfl ?_ ?_ receipt hreturned⟩
  · intro a ha b hb _
    obtain rfl : a = deleteBranch := List.mem_singleton.1 ha
    obtain rfl : b = deleteBranch := List.mem_singleton.1 hb
    rfl
  · intro e he i hi
    obtain rfl : e = deleting (.utc 10) := List.mem_singleton.1 he
    rcases List.mem_append.1 hi with hi | hi
    · rw [List.eq_of_mem_replicate hi]
      exact fun hop => by cases hop
    · rw [List.eq_of_mem_replicate hi]
      exact read_honest _ (by decide)

end Roundwright.GitHub
