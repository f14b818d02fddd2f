/-
The event graph of a Shadow v2 case: seven families of records that name each other, checked by loops that each look one
way. A graph that passes is coherent as a whole: the parents of lifecycle attempts lead nowhere but to an end, accepted
results, review rounds and events pair off one to one, every provider attempt has its one event, and every commit has
its attempt.
-/
import Roundwright.Identity
import Roundwright.Lib.Table
import Roundwright.Lib.Transaction
import Roundwright.Provenance.Control

namespace Roundwright.Shadow

open Lib

/-! ## Records -/

abbrev V2Token := { text : String // Provenance.isV2Token text = true }

inductive LifecycleAttemptKind where
  | worker | supervisor | retry | failover | repair

inductive EvidenceRole where
  | worker | supervisor
deriving DecidableEq

structure LifecycleAttempt where
  attemptId : V2Token
  ordinal : Nat
  kind : LifecycleAttemptKind
  role : EvidenceRole
  parentAttemptId : Option V2Token
  reviewRoundId : Option V2Token
  positive : 1 ≤ ordinal

structure ProviderAttemptManifest where
  providerAttemptId : V2Token
  lifecycleAttemptId : V2Token
  ordinal : Nat
  providerIdentity : V2Token
  outcome : V2Token
  positive : 1 ≤ ordinal

structure FormalReviewRoundReference where
  reviewRoundId : V2Token
  ordinal : Nat
  candidateSha : Sha
  acceptedResultId : Option V2Token
  positive : 1 ≤ ordinal

structure CandidateCommitReference where
  commitSha : Sha
  commitIdentity : V2Token

structure AttemptCommitReference where
  lifecycleAttemptId : V2Token
  commitSha : Sha
deriving DecidableEq

structure AcceptedResultReference where
  resultId : V2Token
  reviewRoundId : V2Token
  eventId : V2Token
  candidateSha : Sha

structure ShadowV2Event where
  eventId : V2Token
  ordinal : Nat
  lifecycleAttemptId : V2Token
  eventKind : V2Token
  providerAttemptId : Option V2Token
  providerCallMade : Bool
  reviewRoundId : Option V2Token
  commitSha : Option Sha
  acceptedResultId : Option V2Token
  positive : 1 ≤ ordinal
  called : providerCallMade = providerAttemptId.isSome

/-- What the graph reads of a `ShadowEvidenceProfile`. -/
structure ShadowEvidenceProfile where
  eventKinds : List V2Token
  minimumCommits : Nat
  maximumCommits : Nat
  requiresAcceptedResult : Bool
  kinds : eventKinds ≠ [] ∧ eventKinds.Nodup
  cardinality : minimumCommits ≤ maximumCommits

structure ShadowV2EventGraph where
  attempts : List LifecycleAttempt
  providerAttempts : List ProviderAttemptManifest
  reviewRounds : List FormalReviewRoundReference
  commits : List CandidateCommitReference
  acceptedResults : List AcceptedResultReference
  events : List ShadowV2Event
  attemptCommitReferences : List AttemptCommitReference

structure ShadowV2Error where
  message : String
deriving DecidableEq

/-! ## Validation -/

/-- `_require_ordered_unique` -/
def requireOrderedUnique {α : Type} (records : List α) (identity : α → V2Token) (ordinal : α → Nat) (label : String) :
    Except ShadowV2Error Unit :=
  refuse (records.map ordinal ≠ List.range' 1 records.length ∨ ¬ (records.map identity).Nodup)
    ⟨label ++ " are missing, duplicate, or out of order"⟩

namespace ShadowV2EventGraph

variable (g : ShadowV2EventGraph)

/-! The dictionaries of `validate`. Their keys have been found distinct by the time they are looked into. -/

def attempt? (id : V2Token) : Option LifecycleAttempt := g.attempts.find? fun a => a.attemptId = id
def provider? (id : V2Token) : Option ProviderAttemptManifest := g.providerAttempts.find? fun p => p.providerAttemptId = id
def round? (id : V2Token) : Option FormalReviewRoundReference := g.reviewRounds.find? fun r => r.reviewRoundId = id
def result? (id : V2Token) : Option AcceptedResultReference := g.acceptedResults.find? fun r => r.resultId = id
def event? (id : V2Token) : Option ShadowV2Event := g.events.find? fun e => e.eventId = id

/-! The loops of `validate`, one definition for the body of each. -/

def checkReference (r : AttemptCommitReference) : Except ShadowV2Error Unit :=
  refuse (g.attempt? r.lifecycleAttemptId = none ∨ r.commitSha ∉ g.commits.map (·.commitSha))
    ⟨"lifecycle attempt commit reference is unavailable"⟩

/-- A parent edge is strictly historical. -/
def checkParent (a : LifecycleAttempt) : Except ShadowV2Error Unit :=
  match a.parentAttemptId with
  | none => .ok ()
  | some id => do
    let parent ← demand (g.attempt? id) ⟨"lifecycle attempt parent is unavailable"⟩
    refuse (a.ordinal ≤ parent.ordinal) ⟨"lifecycle attempt parent must precede child"⟩

def checkAttempt (a : LifecycleAttempt) : Except ShadowV2Error Unit := do
  g.checkParent a
  refuse (a.reviewRoundId.any fun id => g.round? id = none) ⟨"lifecycle attempt review round is unavailable"⟩

def checkProvider (p : ProviderAttemptManifest) : Except ShadowV2Error Unit :=
  refuse (g.attempt? p.lifecycleAttemptId = none) ⟨"provider attempt lifecycle reference is unavailable"⟩

def checkRound (candidateSha : Sha) (r : FormalReviewRoundReference) : Except ShadowV2Error Unit := do
  refuse (r.candidateSha ≠ candidateSha) ⟨"review round candidate is stale"⟩
  refuse (r.acceptedResultId.any fun id => g.result? id = none) ⟨"accepted review result is unavailable"⟩

def checkResult (candidateSha : Sha) (r : AcceptedResultReference) : Except ShadowV2Error Unit := do
  refuse (g.round? r.reviewRoundId = none ∨ g.event? r.eventId = none ∨ r.candidateSha ≠ candidateSha)
    ⟨"accepted result reference is invalid"⟩
  refuse ((g.round? r.reviewRoundId).bind (·.acceptedResultId) ≠ some r.resultId)
    ⟨"accepted result is not bound to its review round"⟩
  refuse ((g.event? r.eventId).bind (·.acceptedResultId) ≠ some r.resultId) ⟨"accepted result is not bound to its event"⟩

def checkAcceptedRound (r : FormalReviewRoundReference) : Except ShadowV2Error Unit :=
  refuse (r.acceptedResultId.any fun id => (g.result? id).any fun result => result.reviewRoundId ≠ r.reviewRoundId)
    ⟨"accepted review result does not match round"⟩

/-- What an event with an accepted result must agree with. -/
def acceptedEventInvalid (e : ShadowV2Event) (id : V2Token) : Bool :=
  match g.result? id, e.reviewRoundId with
  | some result, some round =>
    result.eventId ≠ e.eventId || result.reviewRoundId ≠ round ||
      (g.attempt? e.lifecycleAttemptId).bind (·.reviewRoundId) ≠ some round ||
      (g.round? round).bind (·.acceptedResultId) ≠ some result.resultId
  | _, _ => true

def checkEvent (profile : ShadowEvidenceProfile) (e : ShadowV2Event) : Except ShadowV2Error Unit := do
  refuse (g.attempt? e.lifecycleAttemptId = none ∨ e.eventKind ∉ profile.eventKinds) ⟨"profile event reference is invalid"⟩
  refuse (e.providerAttemptId.any fun id => (g.provider? id).map (·.lifecycleAttemptId) ≠ some e.lifecycleAttemptId)
    ⟨"provider event reference is invalid"⟩
  refuse (e.reviewRoundId.any fun id => g.round? id = none) ⟨"event review round is unavailable"⟩
  refuse (e.commitSha.any fun sha => sha ∉ g.commits.map (·.commitSha) ∨
    ⟨e.lifecycleAttemptId, sha⟩ ∉ g.attemptCommitReferences) ⟨"event commit is unavailable"⟩
  refuse (e.acceptedResultId.any fun id => g.acceptedEventInvalid e id) ⟨"event accepted result is invalid"⟩

/-- The provider attempts that events name, in order. -/
def eventProviderIds : List V2Token := g.events.filterMap (·.providerAttemptId)

/-- `set(event_provider_ids) == set(providers)` and as many. -/
def ProvidersMatch : Prop :=
  (∀ id ∈ g.eventProviderIds, id ∈ g.providerAttempts.map (·.providerAttemptId)) ∧
    (∀ id ∈ g.providerAttempts.map (·.providerAttemptId), id ∈ g.eventProviderIds) ∧
    g.eventProviderIds.length = g.providerAttempts.length

instance : Decidable g.ProvidersMatch := inferInstanceAs (Decidable (_ ∧ _))

/-- `validate` -/
def validate (profile : ShadowEvidenceProfile) (candidateSha : Sha) : Except ShadowV2Error Unit := do
  refuse (g.attempts = [] ∨ g.events = []) ⟨"Shadow v2 event graph is invalid"⟩
  requireOrderedUnique g.attempts (·.attemptId) (·.ordinal) "lifecycle attempts"
  requireOrderedUnique g.providerAttempts (·.providerAttemptId) (·.ordinal) "provider attempts"
  requireOrderedUnique g.reviewRounds (·.reviewRoundId) (·.ordinal) "review rounds"
  requireOrderedUnique g.events (·.eventId) (·.ordinal) "profile events"
  refuse (¬ (g.commits.map (·.commitSha)).Nodup) ⟨"candidate commits are duplicate"⟩
  refuse (¬ (profile.minimumCommits ≤ g.commits.length ∧ g.commits.length ≤ profile.maximumCommits))
    ⟨"candidate commit cardinality is invalid"⟩
  refuse (¬ (g.acceptedResults.map (·.resultId)).Nodup) ⟨"accepted results are duplicate"⟩
  refuse (¬ g.attemptCommitReferences.Nodup) ⟨"lifecycle attempt commit references are duplicate"⟩
  checkAll g.checkReference g.attemptCommitReferences
  refuse (∃ c ∈ g.commits, c.commitSha ∉ g.attemptCommitReferences.map (·.commitSha))
    ⟨"candidate commit is orphaned from lifecycle attempts"⟩
  checkAll g.checkAttempt g.attempts
  checkAll g.checkProvider g.providerAttempts
  checkAll (g.checkRound candidateSha) g.reviewRounds
  checkAll (g.checkResult candidateSha) g.acceptedResults
  checkAll g.checkAcceptedRound g.reviewRounds
  checkAll (g.checkEvent profile) g.events
  refuse (¬ g.ProvidersMatch) ⟨"provider attempt references are missing or duplicate"⟩
  refuse (profile.requiresAcceptedResult = true ∧ ¬ (g.acceptedResults.length = 1 ∧
    (g.reviewRounds.getLast?.bind (·.acceptedResultId)).isSome = true)) ⟨"profile requires one final accepted result"⟩

/-! ## Coherence -/

/-- The attempt `child` names `parent` as its parent. -/
def ParentOf (parent child : V2Token) : Prop := ∃ a ∈ g.attempts, a.attemptId = child ∧ a.parentAttemptId = some parent

/-- A result, a round and an event that name each other, at one candidate, with an attempt of that round. -/
structure Triple (candidateSha : Sha) (result : AcceptedResultReference) (round : FormalReviewRoundReference)
    (event : ShadowV2Event) : Prop where
  inRound : result.reviewRoundId = round.reviewRoundId ∧ round.acceptedResultId = some result.resultId
  byEvent : result.eventId = event.eventId ∧ event.acceptedResultId = some result.resultId ∧
    event.reviewRoundId = some round.reviewRoundId
  atCandidate : result.candidateSha = candidateSha ∧ round.candidateSha = candidateSha
  ofAttempt : ∃ a ∈ g.attempts, a.attemptId = event.lifecycleAttemptId ∧ a.reviewRoundId = some round.reviewRoundId

structure Coherent (profile : ShadowEvidenceProfile) (candidateSha : Sha) : Prop where
  /-- Every parent chain ends. -/
  parents : WellFounded g.ParentOf
  /-- Results, rounds with a result and events with a result are in one-to-one correspondence, by the id of the result.
  -/
  results : (g.acceptedResults.map (·.resultId)).Nodup
  rounds : (g.reviewRounds.filterMap (·.acceptedResultId)).Perm (g.acceptedResults.map (·.resultId))
  events : (g.events.filterMap (·.acceptedResultId)).Perm (g.acceptedResults.map (·.resultId))
  triples : ∀ result ∈ g.acceptedResults, ∃ round ∈ g.reviewRounds, ∃ event ∈ g.events, g.Triple candidateSha result round event
  /-- Every provider attempt is named by exactly one event. -/
  providers : (g.providerAttempts.map (·.providerAttemptId)).Nodup
  calls : g.eventProviderIds.Perm (g.providerAttempts.map (·.providerAttemptId))
  callers : ∀ event ∈ g.events, ∀ provider ∈ g.providerAttempts,
    event.providerAttemptId = some provider.providerAttemptId → provider.lifecycleAttemptId = event.lifecycleAttemptId
  commits : ∀ commit ∈ g.commits, ∃ a ∈ g.attempts, ⟨a.attemptId, commit.commitSha⟩ ∈ g.attemptCommitReferences
  eventCommits : ∀ event ∈ g.events, ∀ sha, event.commitSha = some sha → ⟨event.lifecycleAttemptId, sha⟩ ∈ g.attemptCommitReferences
  final : profile.requiresAcceptedResult = true → ∃ result round, g.acceptedResults = [result] ∧
    g.reviewRounds.getLast? = some round ∧
    round.acceptedResultId = some result.resultId ∧ result.reviewRoundId = round.reviewRoundId

/-! ## What the checks say -/

theorem requireOrderedUnique_ok {α : Type} {records : List α} {identity : α → V2Token} {ordinal : α → Nat}
    {label : String} {u : Unit} (h : requireOrderedUnique records identity ordinal label = .ok u) :
    records.map ordinal = List.range' 1 records.length ∧ (records.map identity).Nodup := by
  unfold requireOrderedUnique at h
  simpa only [refuse_eq_ok, not_or, not_not] using h

/-- The local facts that the loops establish one record at a time. -/
structure Checked (profile : ShadowEvidenceProfile) (candidateSha : Sha) : Prop where
  attemptIds : (g.attempts.map (·.attemptId)).Nodup
  providerIds : (g.providerAttempts.map (·.providerAttemptId)).Nodup
  roundIds : (g.reviewRounds.map (·.reviewRoundId)).Nodup
  eventIds : (g.events.map (·.eventId)).Nodup
  resultIds : (g.acceptedResults.map (·.resultId)).Nodup
  references : ∀ r ∈ g.attemptCommitReferences, g.checkReference r = .ok ()
  commits : ∀ c ∈ g.commits, c.commitSha ∈ g.attemptCommitReferences.map (·.commitSha)
  attempts : ∀ a ∈ g.attempts, g.checkAttempt a = .ok ()
  rounds : ∀ r ∈ g.reviewRounds, g.checkRound candidateSha r = .ok ()
  results : ∀ r ∈ g.acceptedResults, g.checkResult candidateSha r = .ok ()
  accepted : ∀ r ∈ g.reviewRounds, g.checkAcceptedRound r = .ok ()
  events : ∀ e ∈ g.events, g.checkEvent profile e = .ok ()
  providers : g.ProvidersMatch
  final : profile.requiresAcceptedResult = true →
    g.acceptedResults.length = 1 ∧ (g.reviewRounds.getLast?.bind (·.acceptedResultId)).isSome = true

variable {g} {profile : ShadowEvidenceProfile} {candidateSha : Sha}

theorem checked_of_validate (h : g.validate profile candidateSha = .ok ()) : g.Checked profile candidateSha := by
  simp only [validate, bind_eq_ok, exists_unit, checkAll_eq_ok, refuse_eq_ok, not_not, not_exists, not_and] at h
  obtain ⟨-, hattempts, hproviders, hrounds, hevents, -, -, hresults, -, hreferences, hcommits, hattempt, -, hround,
    hresult, haccepted, hevent, hmatch, hfinal⟩ := h
  exact ⟨(requireOrderedUnique_ok hattempts).2, (requireOrderedUnique_ok hproviders).2,
    (requireOrderedUnique_ok hrounds).2, (requireOrderedUnique_ok hevents).2, hresults, hreferences, hcommits, hattempt,
      hround, hresult, haccepted, hevent, hmatch,
    fun hrequires => by simpa only [Classical.not_imp, not_not] using hfinal hrequires⟩

namespace Checked

variable (h : g.Checked profile candidateSha)
include h

/-! The dictionaries find a record exactly when it is there. -/

variable {id : V2Token}

theorem attempt?_eq {a : LifecycleAttempt} : g.attempt? id = some a ↔ a ∈ g.attempts ∧ a.attemptId = id :=
  find?_of_nodup h.attemptIds

theorem provider?_eq {p : ProviderAttemptManifest} :
    g.provider? id = some p ↔ p ∈ g.providerAttempts ∧ p.providerAttemptId = id :=
  find?_of_nodup h.providerIds

theorem round?_eq {r : FormalReviewRoundReference} : g.round? id = some r ↔ r ∈ g.reviewRounds ∧ r.reviewRoundId = id :=
  find?_of_nodup h.roundIds

theorem event?_eq {e : ShadowV2Event} : g.event? id = some e ↔ e ∈ g.events ∧ e.eventId = id :=
  find?_of_nodup h.eventIds

theorem result?_eq {r : AcceptedResultReference} : g.result? id = some r ↔ r ∈ g.acceptedResults ∧ r.resultId = id :=
  find?_of_nodup h.resultIds

/-! ### Parents -/

theorem parent_ordinal {parent child : V2Token} (hparent : g.ParentOf parent child) :
    ((g.attempt? parent).map (·.ordinal)).getD 0 < ((g.attempt? child).map (·.ordinal)).getD 0 := by
  obtain ⟨a, ha, rfl, hnames⟩ := hparent
  have hcheck := h.attempts a ha
  simp only [checkAttempt, bind_eq_ok, exists_unit, checkParent, hnames, demand_eq_ok, refuse_eq_ok] at hcheck
  obtain ⟨⟨p, hp, hlt⟩, -⟩ := hcheck
  rw [hp, h.attempt?_eq.2 ⟨ha, rfl⟩]
  simpa using hlt

/-- Every parent edge goes down in the ordinals, so there is no infinite chain of parents. -/
theorem parents : WellFounded g.ParentOf := by
  have hless : Subrelation g.ParentOf (measure fun id : V2Token => ((g.attempt? id).map (·.ordinal)).getD 0).rel :=
    fun hparent => h.parent_ordinal hparent
  exact hless.wf (measure _).wf

/-! ### Results, rounds and events -/

theorem round_result {r : FormalReviewRoundReference} (hr : r ∈ g.reviewRounds) (hid : r.acceptedResultId = some id) :
    ∃ result ∈ g.acceptedResults, result.resultId = id ∧ result.reviewRoundId = r.reviewRoundId := by
  have hcheck := h.rounds r hr
  have haccepted := h.accepted r hr
  simp only [checkRound, bind_eq_ok, exists_unit, refuse_eq_ok, hid, Option.any_some, decide_eq_true_eq] at hcheck
  obtain ⟨result, hresult⟩ := Option.ne_none_iff_exists'.1 hcheck.2
  obtain ⟨hmem, hkey⟩ := h.result?_eq.1 hresult
  refine ⟨result, hmem, hkey, ?_⟩
  simpa [checkAcceptedRound, hid, hresult] using haccepted

theorem event_result {e : ShadowV2Event} (he : e ∈ g.events) (hid : e.acceptedResultId = some id) :
    ∃ result ∈ g.acceptedResults, result.resultId = id ∧ result.eventId = e.eventId ∧ e.reviewRoundId = some result.reviewRoundId ∧
      ∃ a ∈ g.attempts, a.attemptId = e.lifecycleAttemptId ∧ a.reviewRoundId = some result.reviewRoundId := by
  have hcheck := h.events e he
  simp only [checkEvent, bind_eq_ok, exists_unit, refuse_eq_ok, hid, Option.any_some, acceptedEventInvalid] at hcheck
  obtain ⟨-, -, -, -, hcheck⟩ := hcheck
  cases hresult : g.result? id with
  | none => simp [hresult] at hcheck
  | some result =>
    cases hround : e.reviewRoundId with
    | none => simp [hresult, hround] at hcheck
    | some round =>
      simp only [hresult, hround, Bool.or_eq_true, decide_eq_true_eq, not_or, not_not] at hcheck
      obtain ⟨⟨⟨hevent, hsame⟩, hattempt⟩, -⟩ := hcheck
      obtain ⟨hmem, hkey⟩ := h.result?_eq.1 hresult
      obtain ⟨a, ha, haround⟩ := Option.bind_eq_some_iff.1 hattempt
      obtain ⟨hamem, hakey⟩ := h.attempt?_eq.1 ha
      subst hsame
      exact ⟨result, hmem, hkey, hevent, rfl, a, hamem, hakey, haround⟩

theorem result_round {r : AcceptedResultReference} (hr : r ∈ g.acceptedResults) :
    r.candidateSha = candidateSha ∧
      (∃ round ∈ g.reviewRounds, round.reviewRoundId = r.reviewRoundId ∧ round.acceptedResultId = some r.resultId) ∧
      ∃ event ∈ g.events, event.eventId = r.eventId ∧ event.acceptedResultId = some r.resultId := by
  have hcheck := h.results r hr
  simp only [checkResult, bind_eq_ok, exists_unit, refuse_eq_ok, not_or, not_not] at hcheck
  obtain ⟨⟨-, -, hcandidate⟩, hround, hevent⟩ := hcheck
  obtain ⟨round, hfound, hid⟩ := Option.bind_eq_some_iff.1 hround
  obtain ⟨event, hfound', hid'⟩ := Option.bind_eq_some_iff.1 hevent
  obtain ⟨hmem, hkey⟩ := h.round?_eq.1 hfound
  obtain ⟨hmem', hkey'⟩ := h.event?_eq.1 hfound'
  exact ⟨hcandidate, ⟨round, hmem, hkey, hid⟩, event, hmem', hkey', hid'⟩

theorem result_ext {r r' : AcceptedResultReference} (hr : r ∈ g.acceptedResults) (hr' : r' ∈ g.acceptedResults)
    (hid : r.resultId = r'.resultId) : r = r' :=
  List.inj_on_of_nodup_map h.resultIds hr hr' hid

/-- Ids that a family of records names, each at most once, and only ids of accepted results, every one of them. -/
theorem perm_results {α : Type} {records : List α} {key : α → V2Token} {names : α → Option V2Token}
    (hkeys : (records.map key).Nodup)
    (hnamed : ∀ r ∈ records, ∀ id, names r = some id → ∃ result ∈ g.acceptedResults, result.resultId = id)
    (hsame : ∀ r ∈ records, ∀ r' ∈ records, ∀ id, names r = some id → names r' = some id → key r = key r')
    (hall : ∀ result ∈ g.acceptedResults, ∃ r ∈ records, names r = some result.resultId) :
    (records.filterMap names).Perm (g.acceptedResults.map (·.resultId)) := by
  have hnodup : (records.filterMap names).Nodup := by
    refine List.pairwise_filterMap.2 ((List.pairwise_map.1 hkeys).imp_of_mem fun {r r'} hr hr' hne id hid id' hid' heq => ?_)
    subst heq
    exact hne (hsame r hr r' hr' _ hid hid')
  refine (List.perm_ext_iff_of_nodup hnodup h.resultIds).2 fun id => ?_
  rw [List.mem_filterMap, List.mem_map]
  constructor
  · rintro ⟨r, hr, hid⟩
    exact hnamed r hr id hid
  · rintro ⟨result, hresult, rfl⟩
    exact hall result hresult

theorem rounds_perm : (g.reviewRounds.filterMap (·.acceptedResultId)).Perm (g.acceptedResults.map (·.resultId)) := by
  refine h.perm_results h.roundIds (fun r hr id hid => ?_) (fun r hr r' hr' id hid hid' => ?_) fun result hresult => ?_
  · obtain ⟨result, hmem, hkey, -⟩ := h.round_result hr hid
    exact ⟨result, hmem, hkey⟩
  · obtain ⟨result, hmem, hkey, hround⟩ := h.round_result hr hid
    obtain ⟨result', hmem', hkey', hround'⟩ := h.round_result hr' hid'
    obtain rfl := h.result_ext hmem hmem' (hkey.trans hkey'.symm)
    exact hround.symm.trans hround'
  · obtain ⟨-, ⟨round, hmem, -, hid⟩, -⟩ := h.result_round hresult
    exact ⟨round, hmem, hid⟩

theorem events_perm : (g.events.filterMap (·.acceptedResultId)).Perm (g.acceptedResults.map (·.resultId)) := by
  refine h.perm_results h.eventIds (fun e he id hid => ?_) (fun e he e' he' id hid hid' => ?_) fun result hresult => ?_
  · obtain ⟨result, hmem, hkey, -⟩ := h.event_result he hid
    exact ⟨result, hmem, hkey⟩
  · obtain ⟨result, hmem, hkey, hevent, -⟩ := h.event_result he hid
    obtain ⟨result', hmem', hkey', hevent', -⟩ := h.event_result he' hid'
    obtain rfl := h.result_ext hmem hmem' (hkey.trans hkey'.symm)
    exact hevent.symm.trans hevent'
  · obtain ⟨-, -, event, hmem, -, hid⟩ := h.result_round hresult
    exact ⟨event, hmem, hid⟩

theorem triple {result : AcceptedResultReference} (hresult : result ∈ g.acceptedResults) :
    ∃ round ∈ g.reviewRounds, ∃ event ∈ g.events, g.Triple candidateSha result round event := by
  obtain ⟨hcandidate, ⟨round, hround, hroundId, hid⟩, event, hevent, heventId, hid'⟩ := h.result_round hresult
  obtain ⟨result', hresult', hkey, -, hreview, a, ha, hattempt, haround⟩ := h.event_result hevent hid'
  obtain rfl := h.result_ext hresult' hresult hkey
  refine ⟨round, hround, event, hevent, ⟨hroundId.symm, hid⟩, ⟨heventId.symm, hid', ?_⟩, ⟨hcandidate, ?_⟩, a, ha, hattempt, ?_⟩
  · rw [hroundId]
    exact hreview
  · have hcheck := h.rounds round hround
    simp only [checkRound, bind_eq_ok, exists_unit, refuse_eq_ok, not_not] at hcheck
    exact hcheck.1
  · rw [hroundId]
    exact haround

/-! ### Provider attempts and commits -/

/-- As many names as provider attempts, and the same ones: every provider attempt has its one event. -/
theorem calls : g.eventProviderIds.Perm (g.providerAttempts.map (·.providerAttemptId)) := by
  obtain ⟨-, hall, hlength⟩ := h.providers
  have hsub : (g.providerAttempts.map (·.providerAttemptId)).Subperm g.eventProviderIds := h.providerIds.subperm hall
  refine (hsub.perm_of_length_le ?_).symm
  rw [hlength, List.length_map]

theorem caller {event : ShadowV2Event} (hevent : event ∈ g.events) {provider : ProviderAttemptManifest}
    (hprovider : provider ∈ g.providerAttempts) (hnames : event.providerAttemptId = some provider.providerAttemptId) :
    provider.lifecycleAttemptId = event.lifecycleAttemptId := by
  have hcheck := h.events event hevent
  simp only [checkEvent, bind_eq_ok, exists_unit, refuse_eq_ok, hnames, Option.any_some,
    h.provider?_eq.2 ⟨hprovider, rfl⟩, Option.map_some, ne_eq, Option.some.injEq, decide_not, Bool.not_eq_true',
      decide_eq_false_iff_not, not_not] at hcheck
  exact hcheck.2.1

theorem commit_attempt {commit : CandidateCommitReference} (hcommit : commit ∈ g.commits) :
    ∃ a ∈ g.attempts, ⟨a.attemptId, commit.commitSha⟩ ∈ g.attemptCommitReferences := by
  obtain ⟨reference, hreference, hsha⟩ := List.mem_map.1 (h.commits commit hcommit)
  have hcheck := h.references reference hreference
  simp only [checkReference, refuse_eq_ok, not_or] at hcheck
  obtain ⟨a, ha⟩ := Option.ne_none_iff_exists'.1 hcheck.1
  obtain ⟨hmem, hkey⟩ := h.attempt?_eq.1 ha
  refine ⟨a, hmem, ?_⟩
  rw [hkey, ← hsha]
  exact hreference

theorem event_commit {event : ShadowV2Event} (hevent : event ∈ g.events) {sha : Sha} (hsha : event.commitSha = some sha) :
    ⟨event.lifecycleAttemptId, sha⟩ ∈ g.attemptCommitReferences := by
  have hcheck := h.events event hevent
  simp only [checkEvent, bind_eq_ok, exists_unit, refuse_eq_ok, hsha, Option.any_some, decide_eq_true_eq, not_or, not_not] at hcheck
  exact hcheck.2.2.2.1.2

/-- The one result of a profile that asks for one belongs to the last round. -/
theorem final_round (hrequires : profile.requiresAcceptedResult = true) :
    ∃ result round, g.acceptedResults = [result] ∧ g.reviewRounds.getLast? = some round ∧
      round.acceptedResultId = some result.resultId ∧ result.reviewRoundId = round.reviewRoundId := by
  obtain ⟨hone, hlast⟩ := h.final hrequires
  obtain ⟨result, hresult⟩ := List.length_eq_one_iff.1 hone
  obtain ⟨id, hid⟩ := Option.isSome_iff_exists.1 hlast
  obtain ⟨round, hround, hid⟩ := Option.bind_eq_some_iff.1 hid
  obtain ⟨result', hmem, rfl, hnames⟩ := h.round_result (List.mem_of_getLast? hround) hid
  rw [hresult, List.mem_singleton] at hmem
  subst hmem
  exact ⟨result', round, hresult, hround, hid, hnames⟩

end Checked

/-- A graph that validates is coherent, whatever its size, profile and candidate. -/
theorem validated_graph_is_coherent (g : ShadowV2EventGraph) (profile : ShadowEvidenceProfile) (candidateSha : Sha)
    (hvalid : g.validate profile candidateSha = .ok ()) : g.Coherent profile candidateSha := by
  have h := checked_of_validate hvalid
  exact ⟨h.parents, h.resultIds, h.rounds_perm, h.events_perm, fun _ => h.triple, h.providerIds, h.calls,
    fun _ he _ hp hnames => h.caller he hp hnames, fun _ => h.commit_attempt, fun _ he _ hsha => h.event_commit he hsha,
      h.final_round⟩

end ShadowV2EventGraph

namespace Sample

def sha (n : Nat) : Sha := .ofNat 40 n

def w1 : V2Token := ⟨"w1", by decide +kernel⟩
def s1 : V2Token := ⟨"s1", by decide +kernel⟩
def call : V2Token := ⟨"call", by decide +kernel⟩
def round1 : V2Token := ⟨"round1", by decide +kernel⟩
def result1 : V2Token := ⟨"result1", by decide +kernel⟩
def e1 : V2Token := ⟨"e1", by decide +kernel⟩
def e2 : V2Token := ⟨"e2", by decide +kernel⟩
def done : V2Token := ⟨"done", by decide +kernel⟩

def profile : ShadowEvidenceProfile := ⟨[done], 1, 1, true, by decide, Nat.one_pos⟩

/-- A Worker attempt that commits, and the Supervisor attempt after it whose call accepts the result of the one
round. -/
def graph : ShadowV2EventGraph where
  attempts := [⟨w1, 1, .worker, .worker, none, none, Nat.one_pos⟩,
    ⟨s1, 2, .supervisor, .supervisor, some w1, some round1, by decide⟩]
  providerAttempts := [⟨call, s1, 1, done, done, Nat.one_pos⟩]
  reviewRounds := [⟨round1, 1, sha 1, some result1, Nat.one_pos⟩]
  commits := [⟨sha 1, done⟩]
  acceptedResults := [⟨result1, round1, e2, sha 1⟩]
  events := [⟨e1, 1, w1, done, none, false, none, some (sha 1), none, Nat.one_pos, rfl⟩,
    ⟨e2, 2, s1, done, some call, true, some round1, none, some result1, by decide, rfl⟩]
  attemptCommitReferences := [⟨w1, sha 1⟩]

end Sample

open Sample in
theorem validated_graph_is_coherent_two_attempts : graph.Coherent profile (sha 1) :=
  ShadowV2EventGraph.validated_graph_is_coherent graph profile (sha 1) (by decide +kernel)

end Roundwright.Shadow
