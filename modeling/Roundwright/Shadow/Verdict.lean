/-
What a Shadow v1 replay reports, read off the observations of its case. The loop drops later repeats of an event and
keeps the rest in order; the comparisons then decide. The one encoding that is not faithful is the text `none` for an
absent blocker.
-/
import Roundwright.Shadow.Replay

namespace Roundwright.Shadow

open Lib

variable {host : ShadowHost}

/-! ## The payloads determine what they write -/

theorem EvidenceRole.value_injective : Function.Injective EvidenceRole.value := by
  intro a b h
  revert h
  cases a <;> cases b <;> decide

theorem Applicability.value_injective : Function.Injective Applicability.value := by
  intro a b h
  revert h
  cases a <;> cases b <;> decide

theorem AttemptDisposition.value_injective : Function.Injective AttemptDisposition.value := by
  intro a b h
  revert h
  cases a <;> cases b <;> decide

theorem MutationKind.value_injective : Function.Injective MutationKind.value := by
  intro a b h
  revert h
  cases a <;> cases b <;> decide

theorem ofOption_injective : Function.Injective Json.ofOption := by
  intro a b h
  cases a <;> cases b <;> simp_all [Json.ofOption]

theorem jsonToken_injective : Function.Injective jsonToken :=
  ofOption_injective.comp (Option.map_injective Subtype.val_injective)

theorem jsonHex_injective {digits : Nat} : Function.Injective (jsonHex : Option (Hex digits) → Json) := by
  intro a b h
  cases a <;> cases b <;> simp_all [jsonHex]

theorem hexPair_injective : ∀ a < 256, ∀ b < 256, hexDigit (a / 16) = hexDigit (b / 16) → hexDigit (a % 16) = hexDigit (b % 16) →
    a = b := by
  have hdigit : ∀ a < 16, ∀ b < 16, hexDigit a = hexDigit b → a = b := by decide
  intro a ha b hb hhigh hlow
  have hdiv := hdigit (a / 16) (by omega) (b / 16) (by omega) hhigh
  have hmod := hdigit (a % 16) (by omega) (b % 16) (by omega) hlow
  omega

theorem bytesHex_injective : Function.Injective bytesHex := by
  intro a b h
  have hchars := String.ofList_injective h
  induction a generalizing b with
  | nil =>
    cases b with
    | nil => rfl
    | cons y ys => simp at hchars
  | cons x xs ih =>
    cases b with
    | nil => simp at hchars
    | cons y ys =>
      simp only [List.flatMap_cons, List.cons_append, List.nil_append, List.cons.injEq] at hchars
      obtain ⟨hhigh, hlow, hrest⟩ := hchars
      have hbyte : x = y := UInt8.toNat_inj.1 (hexPair_injective _ x.toNat_lt _ y.toNat_lt hhigh hlow)
      rw [hbyte, ih (congrArg String.ofList hrest) hrest]

theorem strToken_injective : Function.Injective fun t : ShadowToken => Json.str t.val := fun _ _ h => Subtype.ext (Json.str.inj h)

theorem strBytes_injective : Function.Injective fun p : Bytes => Json.str (bytesHex p) :=
    fun _ _ h => bytesHex_injective (Json.str.inj h)

theorem hex_injective {digits : Nat} : Function.Injective (Json.hex : Hex digits → Json) := by
  intro a b h
  simpa using h

theorem digest_injective : Function.Injective Json.digest := fun _ _ h => Json.digest.inj h

theorem ReplayInputs.ext_fields {a b : ReplayInputs host} (hi : a.identities = b.identities)
    (hd : a.digests = b.digests) (hp : a.payloads = b.payloads) : a = b := by
  cases a
  cases b
  simp only at hi hd hp
  subst hi hd hp
  rfl

theorem ResolvedConfiguration.ext_fields {a b : ResolvedConfiguration}
    (hc : a.configurationDigest = b.configurationDigest) (hw : a.workerProfileIdentity = b.workerProfileIdentity)
    (hs : a.supervisorProfileIdentities = b.supervisorProfileIdentities)
    (hl : a.selectedSupervisorProfileIdentity = b.selectedSupervisorProfileIdentity) : a = b := by
  cases a
  cases b
  simp only at hc hw hs hl
  subst hc hw hs hl
  rfl

/-- The text that is digested determines the observation. -/
theorem observationPayload_injective : Function.Injective (observationPayload : ShadowObservation host → Json) := by
  intro a b h
  simp only [observationPayload, Json.obj.injEq, List.cons.injEq, Prod.mk.injEq, true_and, and_true, Json.str.injEq,
    Json.num.injEq, Json.bool.injEq, Json.digest.injEq, Json.arr.injEq, EvidenceRole.value_injective.eq_iff,
      AttemptDisposition.value_injective.eq_iff,
    Applicability.value_injective.eq_iff, hex_injective.eq_iff, jsonToken_injective.eq_iff, jsonHex_injective.eq_iff,
    (List.map_injective_iff.2 strToken_injective).eq_iff, (List.map_injective_iff.2 hex_injective).eq_iff,
    (List.map_injective_iff.2 strBytes_injective).eq_iff, (List.map_injective_iff.2 digest_injective).eq_iff,
      ofOption_injective.eq_iff,
    (Option.map_injective MutationKind.value_injective).eq_iff, (Option.map_injective bytesHex_injective).eq_iff, Nat.cast_inj] at h
  obtain ⟨hevent, hrole, hattempt, hdisposition, hstate, hcandidate, hsource, htask, hbase, hpolicy, hgate,
    happlicability, hblocker, hnext, hcount, hreason, hmutation, hreview, hworktree, hclean, hnames, hdigests,
      hreference, hpayloads, hresult, hconfiguration, hworker,
    hsupervisors, hselected⟩ := h
  have hinputs := ReplayInputs.ext_fields hnames hdigests hpayloads
  have hresolved := ResolvedConfiguration.ext_fields hconfiguration hworker hsupervisors hselected
  cases a
  cases b
  simp only [Subtype.val_inj] at *
  subst hevent hrole hattempt hdisposition hstate hcandidate hsource htask hbase hpolicy hgate happlicability hblocker
    hnext hcount hreason hmutation hreview hworktree hclean hreference hresult hinputs hresolved
  rfl

/-- The text that is digested determines the identities, row by row. -/
theorem identitiesPayload_injective : Function.Injective identitiesPayload := by
  intro a b h
  simp only [identitiesPayload, Json.obj.injEq, List.cons.injEq, Prod.mk.injEq, true_and, and_true, Json.arr.injEq] at h
  induction a generalizing b with
  | nil =>
    obtain ⟨hsource, -⟩ := h
    exact (List.map_eq_nil_iff.1 hsource.symm).symm
  | cons x xs ih =>
    cases b with
    | nil =>
      obtain ⟨hsource, -⟩ := h
      cases hsource
    | cons y ys =>
      simp only [List.map_cons, List.cons.injEq, jsonToken_injective.eq_iff, jsonHex_injective.eq_iff,
        hex_injective.eq_iff, strToken_injective.eq_iff] at h
      obtain ⟨⟨hs, hss⟩, ⟨ht, hts⟩, ⟨hb, hbs⟩, ⟨hc, hcs⟩, ⟨hp, hps⟩, ⟨ha, has⟩, ⟨hr, hrs⟩, ⟨hg, hgs⟩, hw, hws⟩ := h
      have hrow : x = y := by
        cases x
        cases y
        simp only at *
        subst hs ht hb hc hp ha hr hg hw
        rfl
      rw [hrow, ih ⟨hss, hts, hbs, hcs, hps, has, hrs, hgs, hws⟩]

/-! ## Dropping repeats -/

/-- Keep an observation unless its event has been kept. -/
def keepNew (kept : List (ShadowObservation host)) (o : ShadowObservation host) : List (ShadowObservation host) :=
  if o.eventId ∈ kept.map (·.eventId) then kept else kept ++ [o]

/-- The first observation of every event, in order. -/
def dropRepeats (l : List (ShadowObservation host)) : List (ShadowObservation host) := l.foldl keepNew []

theorem dropRepeats_snoc (l : List (ShadowObservation host)) (o : ShadowObservation host) :
    dropRepeats (l ++ [o]) = keepNew (dropRepeats l) o := by
  rw [dropRepeats, List.foldl_append]
  rfl

theorem dropRepeats_nodup (l : List (ShadowObservation host)) : ((dropRepeats l).map (·.eventId)).Nodup := by
  induction l using List.reverseRecOn with
  | nil => exact List.nodup_nil
  | append_singleton l o ih =>
    rw [dropRepeats_snoc, keepNew]
    split
    · exact ih
    · rename_i hnew
      rw [List.map_append, List.map_singleton]
      exact List.nodup_append.2 ⟨ih, List.nodup_singleton _, fun a ha b hb => by
        rw [List.mem_singleton.1 hb]
        rintro rfl
        exact hnew ha⟩

variable {o : ShadowObservation host} {l : List (ShadowObservation host)}

theorem mem_of_mem_dropRepeats (h : o ∈ dropRepeats l) : o ∈ l := by
  induction l using List.reverseRecOn with
  | nil => exact h
  | append_singleton l a ih =>
    rw [dropRepeats_snoc, keepNew] at h
    split at h
    · exact List.mem_append_left _ (ih h)
    · rcases List.mem_append.1 h with hold | hnew
      · exact List.mem_append_left _ (ih hold)
      · exact List.mem_append_right _ hnew

theorem event_kept (h : o ∈ l) : ∃ k ∈ dropRepeats l, k.eventId = o.eventId := by
  induction l using List.reverseRecOn with
  | nil => cases h
  | append_singleton l a ih =>
    rw [dropRepeats_snoc, keepNew]
    rcases List.mem_append.1 h with hold | hnew
    · obtain ⟨k, hk, hid⟩ := ih hold
      split
      · exact ⟨k, hk, hid⟩
      · exact ⟨k, List.mem_append_left _ hk, hid⟩
    · rw [List.mem_singleton.1 hnew]
      split
      · rename_i hseen
        exact List.mem_map.1 hseen
      · exact ⟨a, List.mem_append_right _ (List.mem_singleton_self a), rfl⟩

/-! ## The loop -/

/-- The accumulators of the loop when these observations are kept. -/
def Examined.of (kept : List (ShadowObservation host)) : Examined host := ⟨kept, kept.map fun o => (o.eventId, o.evidenceDigest)⟩

theorem lookup_seen (kept : List (ShadowObservation host)) (id : ShadowToken) :
    (kept.map fun o => (o.eventId, o.evidenceDigest)).lookup id = (kept.find? fun o => o.eventId = id).map (·.evidenceDigest) := by
  induction kept with
  | nil => rfl
  | cons o rest ih =>
    rw [List.map_cons, List.lookup_cons, List.find?_cons, ih]
    by_cases hid : o.eventId = id
    · simp [hid]
    · have hne : (id == o.eventId) = false := beq_eq_false_iff_ne.2 fun h => hid h.symm
      simp [hid, hne]

variable {case : ShadowCase host}

variable {x : Examined host} {kept : List (ShadowObservation host)}

theorem pass_of_seen (hkept : (kept.map (·.eventId)).Nodup) (hseen : o.eventId ∈ kept.map (·.eventId)) :
    pass case (.of kept) o = .ok x ↔ (∀ k ∈ kept, k.eventId = o.eventId → k.evidenceDigest = o.evidenceDigest) ∧ x = .of kept := by
  obtain ⟨k, hk, hid⟩ := List.mem_map.1 hseen
  have hfind : kept.find? (fun a => a.eventId = o.eventId) = some k := (find?_of_nodup hkept).2 ⟨hk, hid⟩
  simp only [pass, Examined.of, lookup_seen, hfind, Option.map_some, bind_eq_ok, exists_unit, refuse_eq_ok, not_not, pure_eq_ok]
  constructor
  · rintro ⟨hsame, rfl⟩
    refine ⟨fun a ha haid => ?_, rfl⟩
    rw [List.inj_on_of_nodup_map hkept ha hk (haid.trans hid.symm)]
    exact hsame
  · rintro ⟨hsame, rfl⟩
    exact ⟨hsame k hk hid, rfl⟩

theorem pass_of_new (hnew : o.eventId ∉ kept.map (·.eventId))
    : pass case (.of kept) o = .ok x ↔ examine case o = .ok () ∧ x = .of (kept ++ [o]) := by
  have hfind : kept.find? (fun a => a.eventId = o.eventId) = none := by
    rw [List.find?_eq_none]
    intro a ha hid
    exact hnew (List.mem_map.2 ⟨a, ha, by simpa using hid⟩)
  simp only [pass, Examined.of, lookup_seen, hfind, Option.map_none, bind_eq_ok, exists_unit, pure_eq_ok,
    List.map_append, List.map_cons, List.map_nil, eq_comm (a := x)]

/-- The loop returns exactly when every kept observation passes its checks and every repeat has the digest of the kept
one. -/
theorem loop_ok :
    l.foldlM (pass case) ⟨[], []⟩ = .ok x ↔ x = .of (dropRepeats l) ∧ (∀ o ∈ dropRepeats l, examine case o = .ok ()) ∧
      ∀ o ∈ l, ∀ k ∈ dropRepeats l, k.eventId = o.eventId → k.evidenceDigest = o.evidenceDigest := by
  induction l using List.reverseRecOn generalizing x with
  | nil =>
    simp only [List.foldlM_nil, pure_eq_ok, List.not_mem_nil, false_implies, implies_true, and_true, dropRepeats, List.foldl_nil]
    exact eq_comm
  | append_singleton l o ih =>
    simp only [List.foldlM_append, List.foldlM_cons, List.foldlM_nil, bind_eq_ok, ih, pure_eq_ok, dropRepeats_snoc]
    by_cases hseen : o.eventId ∈ (dropRepeats l).map (·.eventId)
    · simp only [keepNew, if_pos hseen]
      constructor
      · rintro ⟨y, ⟨rfl, hexamined, hsame⟩, z, hpass, rfl⟩
        obtain ⟨hrepeat, rfl⟩ := (pass_of_seen (dropRepeats_nodup l) hseen).1 hpass
        refine ⟨rfl, hexamined, fun a ha k hk hid => ?_⟩
        rcases List.mem_append.1 ha with hold | hnew
        · exact hsame a hold k hk hid
        · rw [List.mem_singleton.1 hnew] at hid ⊢
          exact hrepeat k hk hid
      · rintro ⟨rfl, hexamined, hsame⟩
        refine ⟨_, ⟨rfl, hexamined, fun a ha => hsame a (List.mem_append_left _ ha)⟩, _, ?_, rfl⟩
        exact (pass_of_seen (dropRepeats_nodup l) hseen).2 ⟨hsame o (List.mem_append_right _ (List.mem_singleton_self o)), rfl⟩
    · simp only [keepNew, if_neg hseen]
      -- the new event is no event kept so far
      have hfresh : ∀ k ∈ dropRepeats l, k.eventId ≠ o.eventId := fun k hk hid => hseen (List.mem_map.2 ⟨k, hk, hid⟩)
      constructor
      · rintro ⟨y, ⟨rfl, hexamined, hsame⟩, z, hpass, rfl⟩
        obtain ⟨hnew, rfl⟩ := (pass_of_new hseen).1 hpass
        refine ⟨rfl, fun a ha => ?_, fun a ha k hk hid => ?_⟩
        · rcases List.mem_append.1 ha with hold | hlast
          · exact hexamined a hold
          · rw [List.mem_singleton.1 hlast]
            exact hnew
        · rcases List.mem_append.1 hk with hold | hlast
          · rcases List.mem_append.1 ha with ha | ha
            · exact hsame a ha k hold hid
            · rw [List.mem_singleton.1 ha] at hid
              exact absurd hid (hfresh k hold)
          · rw [List.mem_singleton.1 hlast] at hid ⊢
            rcases List.mem_append.1 ha with ha | ha
            · obtain ⟨k', hk', hid'⟩ := event_kept ha
              exact absurd (hid'.trans hid.symm) (hfresh k' hk')
            · rw [List.mem_singleton.1 ha]
      · rintro ⟨rfl, hexamined, hsame⟩
        refine ⟨_, ⟨rfl, fun a ha => hexamined a (List.mem_append_left _ ha), fun a ha k hk =>
          hsame a (List.mem_append_left _ ha) k (List.mem_append_left _ hk)⟩, _, ?_, rfl⟩
        exact (pass_of_new hseen).2 ⟨hexamined o (List.mem_append_right _ (List.mem_singleton_self o)), rfl⟩

/-- An exact repeat of an observation somewhere after an occurrence of it. -/
def InsertRepeat (l l' : List (ShadowObservation host)) : Prop := ∃ a b o, o ∈ a ∧ l = a ++ b ∧ l' = a ++ o :: b

/-- The loop runs over an exact repeat as if it was not there, whether it returns or refuses. -/
theorem loop_insertRepeat {l l' : List (ShadowObservation host)} (h : InsertRepeat l l') :
    l'.foldlM (pass case) ⟨[], []⟩ = l.foldlM (pass case) ⟨[], []⟩ := by
  obtain ⟨a, b, o, ho, rfl, rfl⟩ := h
  rw [List.foldlM_append, List.foldlM_append]
  cases hloop : a.foldlM (pass case) ⟨[], []⟩ with
  | error r => rfl
  | ok x =>
    obtain ⟨rfl, -, hsame⟩ := loop_ok.1 hloop
    obtain ⟨k, hk, hid⟩ := event_kept ho
    have hpass : pass case (.of (dropRepeats a)) o = .ok (.of (dropRepeats a)) :=
      (pass_of_seen (dropRepeats_nodup a) (List.mem_map.2 ⟨k, hk, hid⟩)).2 ⟨hsame o ho, rfl⟩
    rw [ok_bind, ok_bind, List.foldlM_cons, hpass, ok_bind]

theorem loop_insertRepeats {l l' : List (ShadowObservation host)} (h : Relation.ReflTransGen InsertRepeat l l') :
    l'.foldlM (pass case) ⟨[], []⟩ = l.foldlM (pass case) ⟨[], []⟩ := by
  induction h with
  | refl => rfl
  | tail _ hlast ih => rw [loop_insertRepeat hlast, ih]

/-! ## What a replay is about -/

/-- The observation requests no mutation, is accepted, clean and complete, and carries exactly the identities of the
case. -/
structure Acceptable (case : ShadowCase host) (o : ShadowObservation host) : Prop where
  mutation : o.requestedMutation = none
  candidate : o.candidateSha = case.identity.candidateSha
  configuration : o.configuration = case.identity.configuration
  inputs : o.inputs = case.identity.inputs
  reference : o.referenceResultDigest = some case.identity.referenceResultDigest ∧
    o.referenceResultPayload = some case.identity.referenceResultPayload
  clean : o.worktreeClean = true
  accepted : o.attemptDisposition = .accepted
  bound : o.bound = case.identity.bound
  justified : o.applicability = .notApplicable →
    o.sourceCount = 1 ∧ o.notApplicableReason.map (·.val) = some "isolated-single-source"

/-- The observations of the case are a complete and acceptable trace, and the last one has the expected applicability:
all that a match asks for but the blocker and the next action. -/
structure Complete (case : ShadowCase host) (final : ShadowObservation host) : Prop where
  unambiguous : ∀ a ∈ case.observations, ∀ b ∈ case.observations, a.eventId = b.eventId → a = b
  states : (dropRepeats case.observations).map (·.state.val) = phaseTwoStates
  roles : .worker ∈ (dropRepeats case.observations).map (·.role) ∧ .supervisor ∈ (dropRepeats case.observations).map (·.role)
  acceptable : ∀ o ∈ dropRepeats case.observations, Acceptable case o
  last : (dropRepeats case.observations).getLast? = some final
  applicability : final.applicability = case.expectedApplicability

/-- The observations are what the case expects. -/
def Exact (case : ShadowCase host) : Prop :=
  ∃ final, Complete case final ∧ final.blocker = case.expectedBlocker ∧ final.nextAction = case.identity.expectedNextAction

/-- The next action is the only difference, and it is declared. -/
def OnlyNextAction (case : ShadowCase host) : Prop :=
  ∃ final, Complete case final ∧ final.blocker = case.expectedBlocker ∧ final.nextAction ≠ case.identity.expectedNextAction ∧
    .nextAction ∈ case.expectedNondeterminism

/-- The verdict of a replay is exact: it matches exactly the expected observations, declares nondeterminism only where
the next action alone differs, and does not depend on exact repeats. -/
structure VerdictExact (case : ShadowCase host) : Prop where
  matched : (replay case).outcome = .matched ↔ Exact case
  nondeterminism : (replay case).classification = .expectedNondeterminism → OnlyNextAction case
  repeats : ∀ l, (h : l ≠ []) → Relation.ReflTransGen InsertRepeat case.observations l →
    (replay { case with observations := l, nonempty := h }).outcome = (replay case).outcome ∧
      (replay { case with observations := l, nonempty := h }).classification = (replay case).classification

/-- No two observations of the case, and not the expected and the observed identities, share a digest without sharing a
text. -/
structure CollisionFree (case : ShadowCase host) : Prop where
  observations : ∀ a ∈ case.observations, ∀ b ∈ case.observations,
    a.evidenceDigest = b.evidenceDigest → observationPayload a = observationPayload b
  identities : expectedIdentityDigest case.identity (dropRepeats case.observations).length =
      observedIdentityDigest (dropRepeats case.observations) →
    identitiesPayload (List.replicate (dropRepeats case.observations).length case.identity.bound) =
      identitiesPayload ((dropRepeats case.observations).map (·.bound))

/-- One of the two blockers is absent and the other is the token `none`. -/
def BlockersCollide (a b : Option ShadowToken) : Prop :=
  (a = none ∧ b.map (·.val) = some "none") ∨ (a.map (·.val) = some "none" ∧ b = none)

/-! ## The checks of one observation -/

/-- A check of the loop passes together with the bound identities exactly when the observation is acceptable. -/
theorem examine_bound : examine case o = .ok () ∧ o.bound = case.identity.bound ↔ Acceptable case o := by
  constructor
  · rintro ⟨hexamined, hbound⟩
    simp only [examine, bind_eq_ok, exists_unit, refuse_eq_ok, not_or, not_not, not_and] at hexamined
    obtain ⟨hmutation, hcandidate, hdigest, ⟨hworker, hsupervisors, hselected⟩, -, ⟨hnames, hdigests⟩, hpayloads, -,
      hreference, hresult, -, hclean, -, haccepted, -, -, hjustified⟩ := hexamined
    refine ⟨?_, hcandidate, ResolvedConfiguration.ext_fields hdigest hworker hsupervisors hselected,
      ReplayInputs.ext_fields hnames hdigests hpayloads, ⟨hreference, hresult⟩, by simpa using hclean, haccepted, hbound, hjustified⟩
    cases hkind : o.requestedMutation with
    | none => rfl
    | some kind =>
      rw [hkind] at hmutation
      cases hmutation
  · intro h
    refine ⟨?_, h.bound⟩
    have hbound := h.bound
    simp only [ShadowObservation.bound, ShadowIdentity.bound, BoundIdentity.mk.injEq] at hbound
    obtain ⟨hsource, htask, hbase, -, hpolicy, -, hreview, hgate, hworktree⟩ := hbound
    simp only [examine, bind_eq_ok, exists_unit, refuse_eq_ok, h.mutation, forbidMutation, h.candidate, h.configuration,
      h.inputs, h.reference.1, h.reference.2, h.clean, h.accepted, hsource, htask, hbase, hpolicy, hreview, hgate, hworktree]
    simp only [ne_eq, not_true_eq_false, or_self, not_false_eq_true, reduceCtorEq, true_and, not_and, not_or, not_not]
    exact h.justified

/-! ## The trace -/

theorem traceError_none {states : List String} : traceError states = none ↔ states = phaseTwoStates := by
  constructor
  · intro h
    unfold traceError at h
    split at h
    · cases h
    · split at h
      · cases h
      · split at h
        · cases h
        · rename_i hsame
          exact not_not.1 hsame
  · rintro rfl
    decide +kernel

/-- The loop returns, and what it keeps is a complete trace of both roles that ends in `final`. -/
structure Traced (case : ShadowCase host) (final : ShadowObservation host) : Prop where
  examined : ∀ o ∈ dropRepeats case.observations, examine case o = .ok ()
  repeated : ∀ o ∈ case.observations, ∀ k ∈ dropRepeats case.observations, k.eventId = o.eventId →
    k.evidenceDigest = o.evidenceDigest
  states : (dropRepeats case.observations).map (·.state.val) = phaseTwoStates
  roles : .worker ∈ (dropRepeats case.observations).map (·.role) ∧ .supervisor ∈ (dropRepeats case.observations).map (·.role)
  last : (dropRepeats case.observations).getLast? = some final

variable {final : ShadowObservation host}

theorem Traced.replay (h : Traced case final) : replay case = verdict case (dropRepeats case.observations) final := by
  have hloop : case.observations.foldlM (pass case) ⟨[], []⟩ = .ok (.of (dropRepeats case.observations)) :=
    loop_ok.2 ⟨rfl, h.examined, h.repeated⟩
  simp only [Shadow.replay, hloop, Examined.of, h.last, traceError_none.2 h.states]
  rw [if_neg (not_not.2 h.roles)]

/-! No refusal is classified as a match or as expected nondeterminism. -/

variable {r : Refusal}

theorem forbidMutation_error {m : Option MutationKind} (h : forbidMutation m = .error r) :
    r.classification = .forbiddenMutation := by
  cases m with
  | none => cases h
  | some kind =>
    cases h
    rfl

theorem examine_error (h : examine case o = .error r) : r.classification ≠ .expectedNondeterminism := by
  simp only [examine, bind_eq_error, exists_unit, refuse_eq_error] at h
  rcases h with hmutation | ⟨-, h⟩
  · rw [forbidMutation_error hmutation]
    decide
  · rintro hclass
    rcases r with ⟨classification, detail⟩
    obtain rfl : classification = .expectedNondeterminism := hclass
    simp only [Refusal.mk.injEq, reduceCtorEq, false_and, and_false, or_self] at h

theorem pass_error (h : pass case x o = .error r) : r.classification ≠ .expectedNondeterminism := by
  unfold pass at h
  split at h
  · simp only [bind_eq_error, exists_unit, refuse_eq_error] at h
    rcases h with ⟨-, rfl⟩ | ⟨-, h⟩
    · decide
    · cases h
  · simp only [bind_eq_error, exists_unit] at h
    rcases h with h | ⟨-, h⟩
    · exact examine_error h
    · cases h

theorem loop_error (h : l.foldlM (pass case) x = .error r) : r.classification ≠ .expectedNondeterminism := by
  induction l generalizing x with
  | nil => cases h
  | cons o rest ih =>
    rw [List.foldlM_cons, bind_eq_error] at h
    rcases h with h | ⟨y, -, h⟩
    · exact pass_error h
    · exact ih h

theorem traceError_some {states : List String} (h : traceError states = some r) :
    r.classification ≠ .expectedNondeterminism := by
  unfold traceError at h
  split at h
  · cases h
    decide
  · split at h
    · cases h
      decide
    · split at h
      · cases h
        decide
      · cases h

/-- Without a complete trace the report is a refusal. -/
theorem replay_refused (h : ∀ final, ¬ Traced case final) :
    ∃ r, replay case = invalidReport r ∧ r.classification ≠ .expectedNondeterminism := by
  unfold replay
  cases hloop : case.observations.foldlM (pass case) ⟨[], []⟩ with
  | error r => exact ⟨r, rfl, loop_error hloop⟩
  | ok x =>
    obtain ⟨hx, hexamined, hrepeated⟩ := loop_ok.1 hloop
    have hkept : x.observations = dropRepeats case.observations := by
      rw [hx]
      rfl
    dsimp only
    rw [hkept]
    cases hlast : (dropRepeats case.observations).getLast? with
    | none => exact ⟨_, rfl, by decide⟩
    | some final =>
      dsimp only
      split
      · exact ⟨⟨.incompleteEvidence, "worker and supervisor observations are both required"⟩, rfl, by decide⟩
      · rename_i hroles
        cases htrace : traceError ((dropRepeats case.observations).map (·.state.val)) with
        | some r => exact ⟨r, rfl, traceError_some htrace⟩
        | none => exact absurd ⟨hexamined, hrepeated, traceError_none.1 htrace, not_not.1 hroles, hlast⟩ (h final)

/-! ## The comparisons -/

theorem verdict_matched : (verdict case kept final).outcome = .matched ↔ ∀ c ∈ comparisons case kept final, c.agrees = true := by
  have hnil : (comparisons case kept final).filter (fun c => c.agrees = false) = [] ↔
      ∀ c ∈ comparisons case kept final, c.agrees = true := by
    simp only [List.filter_eq_nil_iff, decide_eq_true_eq, Bool.not_eq_false]
  unfold verdict
  dsimp only
  split
  · rename_i hnone
    exact ⟨fun _ => hnil.1 hnone, fun _ => rfl⟩
  · rename_i hsome
    refine ⟨fun h => ?_, fun h => absurd (hnil.2 h) hsome⟩
    split at h
    · cases h
    · split at h <;> cases h

theorem verdict_nondeterminism : (verdict case kept final).classification = .expectedNondeterminism ↔
      (∃ c ∈ comparisons case kept final, c.agrees = false) ∧
      ∀ c ∈ comparisons case kept final, c.agrees = false → c.field = .nextAction ∧ .nextAction ∈ case.expectedNondeterminism := by
  have hmem : ∀ c, c ∈ (comparisons case kept final).filter (fun c => c.agrees = false) ↔
      c ∈ comparisons case kept final ∧ c.agrees = false := fun c => by rw [List.mem_filter, decide_eq_true_eq]
  -- the branches in the order of the code; only one of them names nondeterminism
  unfold verdict
  dsimp only
  split
  · rename_i hnone
    refine ⟨nofun, fun ⟨⟨c, hc, hdiffers⟩, _⟩ => ?_⟩
    have hin := (hmem c).2 ⟨hc, hdiffers⟩
    rw [hnone] at hin
    cases hin
  · rename_i hsome
    split
    · rename_i hbound
      refine ⟨nofun, fun ⟨_, hall⟩ => ?_⟩
      obtain ⟨c, hc, hfield⟩ := List.any_eq_true.1 hbound
      obtain ⟨hin, hdiffers⟩ := (hmem c).1 hc
      have hnext := (hall c hin hdiffers).1
      simp [hnext] at hfield
    · split
      · rename_i hdeclared
        refine ⟨fun _ => ⟨?_, fun c hc hdiffers => ?_⟩, fun _ => rfl⟩
        · obtain ⟨c, hc⟩ := List.exists_mem_of_ne_nil _ hsome
          exact ⟨c, (hmem c).1 hc⟩
        · have hfield : c.field ∈ case.expectedNondeterminism := by
            simpa using List.all_eq_true.1 hdeclared c ((hmem c).2 ⟨hc, hdiffers⟩)
          have hnext := case.declared _ hfield
          exact ⟨hnext, by rw [← hnext]; exact hfield⟩
      · rename_i hundeclared
        refine ⟨nofun, fun ⟨_, hall⟩ => absurd (List.all_eq_true.2 fun c hc => ?_) hundeclared⟩
        obtain ⟨hin, hdiffers⟩ := (hmem c).1 hc
        obtain ⟨hnext, hdeclared⟩ := hall c hin hdiffers
        simpa [hnext] using hdeclared

theorem orNoneText_eq {a b : Option ShadowToken} : orNoneText a = orNoneText b ↔ a = b ∨ BlockersCollide a b := by
  unfold orNoneText BlockersCollide
  cases a with
  | none =>
    cases b with
    | none => simp
    | some b => simp [eq_comm]
  | some a =>
    cases b with
    | none => simp
    | some b => simp [Subtype.ext_iff]

theorem BlockersCollide.ne {a b : Option ShadowToken} (h : BlockersCollide a b) : a ≠ b := by
  rintro rfl
  rcases h with ⟨rfl, h⟩ | ⟨h, rfl⟩ <;> cases h

/-- The bound identities of the kept observations agree with those of the case exactly when their digests do. -/
theorem identities_agree (hfree : CollisionFree case) :
    expectedIdentityDigest case.identity (dropRepeats case.observations).length =
        observedIdentityDigest (dropRepeats case.observations) ↔
      ∀ o ∈ dropRepeats case.observations, o.bound = case.identity.bound := by
  have hrows : List.replicate (dropRepeats case.observations).length case.identity.bound =
    (dropRepeats case.observations).map (·.bound) ↔
      ∀ o ∈ dropRepeats case.observations, o.bound = case.identity.bound := by
    rw [eq_comm, List.eq_replicate_iff, List.length_map]
    simp only [true_and, List.forall_mem_map]
  constructor
  · intro h
    exact hrows.1 (identitiesPayload_injective (hfree.identities h))
  · intro h
    unfold expectedIdentityDigest observedIdentityDigest
    rw [hrows.2 h]

/-- Two observations of one event with one digest are one observation. -/
theorem unambiguous_iff (hfree : CollisionFree case) :
    (∀ o ∈ case.observations, ∀ k ∈ dropRepeats case.observations, k.eventId = o.eventId → k.evidenceDigest = o.evidenceDigest) ↔
      ∀ a ∈ case.observations, ∀ b ∈ case.observations, a.eventId = b.eventId → a = b := by
  constructor
  · intro h a ha b hb hid
    obtain ⟨k, hk, hka⟩ := event_kept ha
    have hdigest : a.evidenceDigest = b.evidenceDigest := (h a ha k hk hka).symm.trans (h b hb k hk (hka.trans hid))
    exact observationPayload_injective (hfree.observations a ha b hb hdigest)
  · intro h o ho k hk hid
    rw [h k (mem_of_mem_dropRepeats hk) o ho hid]

/-- A case is complete exactly when its trace is, and the comparisons of identity and applicability agree. -/
theorem complete_iff (hfree : CollisionFree case) :
    Complete case final ↔ Traced case final ∧
      expectedIdentityDigest case.identity (dropRepeats case.observations).length =
        observedIdentityDigest (dropRepeats case.observations) ∧ case.expectedApplicability = final.applicability := by
  constructor
  · intro h
    refine ⟨⟨fun o ho => (examine_bound.2 (h.acceptable o ho)).1, (unambiguous_iff hfree).2 h.unambiguous, h.states, h.roles, h.last⟩,
      (identities_agree hfree).2 fun o ho => (h.acceptable o ho).bound, h.applicability.symm⟩
  · rintro ⟨htraced, hidentities, happlicability⟩
    have hbound := (identities_agree hfree).1 hidentities
    exact ⟨(unambiguous_iff hfree).1 htraced.repeated, htraced.states, htraced.roles,
      fun o ho => examine_bound.1 ⟨htraced.examined o ho, hbound o ho⟩, htraced.last, happlicability.symm⟩

/-- Over a complete trace the comparisons say: the identities agree, the applicability, the texts of the blockers, and
the next action; the states do, and the gate does with the identities. -/
theorem comparisons_of_traced (h : Traced case final) (P : FieldComparison → Prop) :
    (∀ c ∈ comparisons case (dropRepeats case.observations) final, c.agrees = false → P c) ↔
      (case.identity.gateIdentity.val ≠ (final.gateIdentity.map (·.val)).getD "" →
        P ⟨.gate, case.identity.gateIdentity, (final.gateIdentity.map (·.val)).getD ""⟩) ∧
      (expectedIdentityDigest case.identity (dropRepeats case.observations).length ≠
          observedIdentityDigest (dropRepeats case.observations) →
        P ⟨.identity, (expectedIdentityDigest case.identity (dropRepeats case.observations).length).text,
          (observedIdentityDigest (dropRepeats case.observations)).text⟩) ∧ (case.expectedApplicability ≠ final.applicability →
        P ⟨.applicability, case.expectedApplicability.value, final.applicability.value⟩) ∧
      (orNoneText case.expectedBlocker ≠ orNoneText final.blocker →
        P ⟨.blocker, orNoneText case.expectedBlocker, orNoneText final.blocker⟩) ∧
          (case.identity.expectedNextAction ≠ final.nextAction →
        P ⟨.nextAction, case.identity.expectedNextAction, final.nextAction⟩) := by
  simp only [comparisons, FieldComparison.agrees, List.forall_mem_cons, List.not_mem_nil, false_implies, implies_true,
    and_true, decide_eq_false_iff_not, h.states, not_true_eq_false, true_and, Hex.text_strictMono.injective.eq_iff,
    Applicability.value_injective.eq_iff, Subtype.val_inj, ne_eq]

/-- A complete trace ends with the gate of the case. -/
theorem gate_agrees (h : Complete case final) :
    case.identity.gateIdentity.val = (final.gateIdentity.map (·.val)).getD "" := by
  have hbound := (h.acceptable final (List.mem_of_getLast? h.last)).bound
  simp only [ShadowObservation.bound, ShadowIdentity.bound, BoundIdentity.mk.injEq] at hbound
  have hgate : final.gateIdentity = some case.identity.gateIdentity := hbound.2.2.2.2.2.2.2.1
  rw [hgate]
  rfl

/-! ## The verdict -/

/-- A match asks for a complete trace, equal texts of the blockers and the expected next action. -/
theorem matched_iff (hfree : CollisionFree case) :
    (replay case).outcome = .matched ↔ ∃ final, Complete case final ∧
      orNoneText case.expectedBlocker = orNoneText final.blocker ∧ final.nextAction = case.identity.expectedNextAction := by
  constructor
  · intro h
    by_cases htraced : ∃ final, Traced case final
    · obtain ⟨final, htraced⟩ := htraced
      rw [htraced.replay, verdict_matched] at h
      have hnone : ∀ c ∈ comparisons case (dropRepeats case.observations) final, c.agrees = false → False := by
        intro c hc hdiffers
        rw [h c hc] at hdiffers
        cases hdiffers
      obtain ⟨-, hidentities, happlicability, hblocker, hnext⟩ := (comparisons_of_traced htraced fun _ => False).1 hnone
      exact ⟨final, (complete_iff hfree).2 ⟨htraced, not_not.1 hidentities, not_not.1 happlicability⟩,
        not_not.1 hblocker, (not_not.1 hnext).symm⟩
    · obtain ⟨r, hreport, -⟩ := replay_refused (not_exists.1 htraced)
      rw [hreport] at h
      cases h
  · rintro ⟨final, hcomplete, hblocker, hnext⟩
    obtain ⟨htraced, hidentities, happlicability⟩ := (complete_iff hfree).1 hcomplete
    rw [htraced.replay, verdict_matched]
    intro c hc
    have hnone := (comparisons_of_traced htraced fun _ => False).2
      ⟨fun h => h (gate_agrees hcomplete), fun h => h hidentities, fun h => h happlicability, fun h => h hblocker,
        fun h => h hnext.symm⟩
    exact Bool.eq_true_of_not_eq_false (hnone c hc)

/-- Expected nondeterminism asks for a complete trace, equal texts of the blockers and another, declared, next
action. -/
theorem nondeterminism_iff (hfree : CollisionFree case) :
    (replay case).classification = .expectedNondeterminism ↔ ∃ final, Complete case final ∧
      orNoneText case.expectedBlocker = orNoneText final.blocker ∧ final.nextAction ≠ case.identity.expectedNextAction ∧
      .nextAction ∈ case.expectedNondeterminism := by
  constructor
  · intro h
    by_cases htraced : ∃ final, Traced case final
    · obtain ⟨final, htraced⟩ := htraced
      rw [htraced.replay, verdict_nondeterminism] at h
      obtain ⟨⟨c, hc, hdiffers⟩, hall⟩ := h
      have hdeclared := (hall c hc hdiffers).2
      obtain ⟨-, hidentities, happlicability, hblocker, -⟩ := (comparisons_of_traced htraced _).1 hall
      have hsame : expectedIdentityDigest case.identity (dropRepeats case.observations).length =
          observedIdentityDigest (dropRepeats case.observations) := by_contra fun hne => nomatch (hidentities hne).1
      have happlicable : case.expectedApplicability = final.applicability := by_contra fun hne => nomatch (happlicability hne).1
      have hcomplete : Complete case final := (complete_iff hfree).2 ⟨htraced, hsame, happlicable⟩
      have htexts : orNoneText case.expectedBlocker = orNoneText final.blocker := by_contra fun hne => nomatch (hblocker hne).1
      refine ⟨final, hcomplete, htexts, fun hnext => ?_, hdeclared⟩
      -- were the next action the expected one, nothing would differ
      have hmatched := (matched_iff hfree).2 ⟨final, hcomplete, htexts, hnext⟩
      rw [htraced.replay, verdict_matched] at hmatched
      rw [hmatched c hc] at hdiffers
      cases hdiffers
    · obtain ⟨r, hreport, hclass⟩ := replay_refused (not_exists.1 htraced)
      rw [hreport] at h
      exact absurd h hclass
  · rintro ⟨final, hcomplete, hblocker, hnext, hdeclared⟩
    obtain ⟨htraced, hidentities, happlicability⟩ := (complete_iff hfree).1 hcomplete
    rw [htraced.replay, verdict_nondeterminism]
    refine ⟨⟨⟨.nextAction, case.identity.expectedNextAction, final.nextAction⟩, by simp [comparisons], ?_⟩, ?_⟩
    · exact decide_eq_false fun h => hnext (Subtype.ext h).symm
    · refine (comparisons_of_traced htraced _).2
        ⟨fun h => absurd (gate_agrees hcomplete) h, fun h => absurd hidentities h, fun h => absurd happlicability h,
          fun h => absurd hblocker h, fun _ => ⟨rfl, hdeclared⟩⟩

/-- Exact repeats leave the whole report as it is. -/
theorem replay_repeats (hne : l ≠ []) (h : Relation.ReflTransGen InsertRepeat case.observations l) :
    replay { case with observations := l, nonempty := hne } = replay case := by
  have hloop : l.foldlM (pass { case with observations := l, nonempty := hne }) ⟨[], []⟩ =
      case.observations.foldlM (pass case) ⟨[], []⟩ := loop_insertRepeats h
  unfold replay
  rw [hloop]
  rfl

/-- The verdict of a replay is exact, unless an otherwise complete case compares an absent blocker with the token
`none`: the two are written alike. -/
theorem replay_verdict_exact (case : ShadowCase host) (hfree : CollisionFree case) :
    VerdictExact case ↔ ¬ ∃ final, Complete case final ∧ BlockersCollide case.expectedBlocker final.blocker ∧
      (final.nextAction = case.identity.expectedNextAction ∨ .nextAction ∈ case.expectedNondeterminism) := by
  -- an exact replay has no collision; without one each verdict is read off its condition
  constructor
  · rintro hexact ⟨final, hcomplete, hcollide, hnext⟩
    have htexts := orNoneText_eq.2 (.inr hcollide)
    have hdistinct : ∀ other, Complete case other → other.blocker ≠ case.expectedBlocker := by
      intro other hother hsame
      obtain rfl := Option.some.inj (hother.last.symm.trans hcomplete.last)
      exact hcollide.ne hsame.symm
    by_cases hexpected : final.nextAction = case.identity.expectedNextAction
    · obtain ⟨other, hother, hblocker, -⟩ := hexact.matched.1 ((matched_iff hfree).2 ⟨final, hcomplete, htexts, hexpected⟩)
      exact hdistinct other hother hblocker
    · have hdeclared := hnext.resolve_left hexpected
      obtain ⟨other, hother, hblocker, -⟩ :=
        hexact.nondeterminism ((nondeterminism_iff hfree).2 ⟨final, hcomplete, htexts, hexpected, hdeclared⟩)
      exact hdistinct other hother hblocker
  · intro hclear
    refine ⟨(matched_iff hfree).trans ⟨?_, ?_⟩, fun h => ?_, fun l hne h => ?_⟩
    · rintro ⟨final, hcomplete, htexts, hnext⟩
      rcases orNoneText_eq.1 htexts with hsame | hcollide
      · exact ⟨final, hcomplete, hsame.symm, hnext⟩
      · exact absurd ⟨final, hcomplete, hcollide, .inl hnext⟩ hclear
    · rintro ⟨final, hcomplete, hsame, hnext⟩
      exact ⟨final, hcomplete, by rw [hsame], hnext⟩
    · obtain ⟨final, hcomplete, htexts, hnext, hdeclared⟩ := (nondeterminism_iff hfree).1 h
      rcases orNoneText_eq.1 htexts with hsame | hcollide
      · exact ⟨final, hcomplete, hsame.symm, hnext, hdeclared⟩
      · exact absurd ⟨final, hcomplete, hcollide, .inr hdeclared⟩ hclear
    · rw [replay_repeats hne h]
      exact ⟨rfl, rfl⟩

namespace Sample

/-- Texts of bytes are told apart by their numbers. -/
def shadowHost : ShadowHost :=
    { Host.sample with hexdigestBytes := fun bytes => .ofNat 64 (bytes.foldl (fun n b => 257 * n + b.toNat) 1) }

def token (text : String) (h : isShadowToken text = true := by decide +kernel) : ShadowToken := ⟨text, h⟩

def inputs : ReplayInputs shadowHost where
  identities := [token "brief"]
  digests := [shadowHost.hexdigestBytes [1, 2]]
  payloads := [[1, 2]]
  named := rfl
  contents := rfl

def configuration : ResolvedConfiguration where
  configurationDigest := .sha256 (.ofNat 64 1)
  workerProfileIdentity := .sha256 (.ofNat 64 2)
  supervisorProfileIdentities := [.sha256 (.ofNat 64 3)]
  selectedSupervisorProfileIdentity := .sha256 (.ofNat 64 3)
  selected := by decide

def identity : ShadowIdentity shadowHost where
  sourceId := token "source"
  taskId := token "task"
  baseSha := sha 1
  candidateSha := sha 2
  policyIdentity := token "policy"
  providerAttemptIdentity := token "attempt"
  acceptedReviewIdentity := token "review"
  gateIdentity := token "gate"
  expectedNextAction := token "merge"
  worktreeIdentity := token "worktree"
  inputs := inputs
  referenceResultDigest := shadowHost.hexdigestBytes [3]
  referenceResultPayload := [3]
  configuration := configuration
  inputNames := by decide
  reference := rfl

/-- An observation of one state of the task, as the identity binds it. -/
def observation (event : ShadowToken) (role : EvidenceRole) (state : ShadowToken) (blocker : Option ShadowToken) :
    ShadowObservation shadowHost where
  eventId := event
  role := role
  attemptId := identity.providerAttemptIdentity
  attemptDisposition := .accepted
  state := state
  candidateSha := identity.candidateSha
  gateIdentity := some identity.gateIdentity
  applicability := .applicable
  blocker := blocker
  nextAction := identity.expectedNextAction
  sourceId := some identity.sourceId
  taskId := some identity.taskId
  baseSha := some identity.baseSha
  policyIdentity := some identity.policyIdentity
  sourceCount := 1
  notApplicableReason := none
  requestedMutation := none
  acceptedReviewIdentity := some identity.acceptedReviewIdentity
  worktreeIdentity := some identity.worktreeIdentity
  worktreeClean := true
  inputs := inputs
  referenceResultDigest := some identity.referenceResultDigest
  referenceResultPayload := some identity.referenceResultPayload
  configuration := configuration
  counted := Nat.one_pos
  reference := by
    rintro payload ⟨⟩
    rfl

/-- The six states of the task, the last one with the given blocker, where the case expects none. -/
def bundle (blocker : Option ShadowToken) : ShadowCase shadowHost where
  caseId := token "case"
  identity := identity
  observations := [observation (token "a") .worker (token "queued") none, observation (token "b") .worker
    (token "planning") none, observation (token "c") .supervisor (token "plan-review") none,
      observation (token "d") .worker (token "implementing") none,
    observation (token "e") .supervisor (token "diff-review") none,
    observation (token "f") .supervisor (token "ready-for-owner") blocker]
  expectedApplicability := .applicable
  expectedBlocker := none
  expectedNondeterminism := []
  nonempty := by simp
  declared := by simp

theorem bundle_collisionFree {blocker : Option ShadowToken}
    (h : ((bundle blocker).observations.map (·.evidenceDigest)).Nodup)
    (hrows : List.replicate (dropRepeats (bundle blocker).observations).length (bundle blocker).identity.bound =
      (dropRepeats (bundle blocker).observations).map (·.bound)) : CollisionFree (bundle blocker) :=
  ⟨fun _ ha _ hb hdigest => by rw [List.inj_on_of_nodup_map h ha hb hdigest], fun _ => by rw [hrows]⟩

end Sample

open Sample in
theorem replay_verdict_exact_matching : VerdictExact (bundle none) := by
  refine (replay_verdict_exact (bundle none) (bundle_collisionFree (by decide +kernel) (by decide +kernel))).2 ?_
  rintro ⟨final, hcomplete, hcollide, -⟩
  have hlast : (dropRepeats (bundle none).observations).getLast?.map (·.blocker) = some none := by decide +kernel
  rw [hcomplete.last] at hlast
  have hblocker : final.blocker = none := Option.some.inj hlast
  rw [hblocker] at hcollide
  exact hcollide.ne rfl

open Sample in
/-- The last observation is blocked by something called `none`, no blocker is expected, and the replay matches. -/
theorem blocker_named_none_matches :
    CollisionFree (bundle (some (token "none"))) ∧ ¬ VerdictExact (bundle (some (token "none"))) := by
  refine ⟨bundle_collisionFree (by decide +kernel) (by decide +kernel), fun hexact => ?_⟩
  obtain ⟨final, hcomplete, hblocker, -⟩ := hexact.matched.1 (by decide +kernel)
  have hlast : (dropRepeats (bundle (some (token "none"))).observations).getLast?.map (·.blocker) =
      some (some (token "none")) := by decide +kernel
  rw [hcomplete.last] at hlast
  have hnamed : final.blocker = some (token "none") := Option.some.inj hlast
  rw [hnamed] at hblocker
  cases hblocker

end Roundwright.Shadow
