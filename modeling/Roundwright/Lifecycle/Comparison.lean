/-
The comparison of two lifecycle projections. The differences of two values are the paths at which they part; they are
collected over both values at once, and an object, whose fields are kept in the order of their keys, is compared key by
key over the keys of both.
-/
import Roundwright.Lifecycle.Projection
import Roundwright.Recovery.Codec

namespace Roundwright.Lifecycle

open Lib Lib.JsonText

/-- A value without floats. -/
abbrev Plain := Value Empty

/-! ## Differences -/

/-- `sorted(set(expected_map) | set(observed_map))` -/
def unionKeys (expected observed : List (String × Plain)) : List String :=
  sortBy id (expected.map (·.1) ++ observed.map (·.1)).dedup

mutual

/-- `_difference_paths` -/
def differencePaths : Plain → Plain → String → List String
  | .obj expected, .obj observed, path =>
    (unionKeys expected observed).flatMap fun key => differenceAt expected observed key (path ++ "." ++ key)
  | .arr expected, .arr observed, path =>
    (if expected.length ≠ observed.length then [path ++ ".length"] else []) ++ differenceItems expected observed path 0
  | .null, .null, _ => []
  | .bool expected, .bool observed, path => if expected = observed then [] else [path]
  | .int expected, .int observed, path => if expected = observed then [] else [path]
  | .str expected, .str observed, path => if expected = observed then [] else [path]
  | _, _, path => [path]

/-- `enumerate(zip(expected, observed))` -/
def differenceItems : List Plain → List Plain → String → Nat → List String
  | left :: expected, right :: observed, path, index =>
    differencePaths left right (path ++ "." ++ toString index) ++ differenceItems expected observed path (index + 1)
  | _, _, _, _ => []

/-- The differences at one key. -/
def differenceAt : List (String × Plain) → List (String × Plain) → String → String → List String
  | [], _, _, child => [child]
  | (name, left) :: expected, observed, key, child =>
    if name = key then
      match (Value.obj observed).get? key with
      | some right => differencePaths left right child
      | none => [child]
    else differenceAt expected observed key child

end

/-! ## Projections and their comparison -/

def projectionSchema : String := "roundwright-lifecycle-shadow-projection/v1"
def liveLifecycleShadowProfile : String := "roundwright-shadow-profile/live-lifecycle-shadow/v1"

def ProjectedLifecycleEvent.payload (e : ProjectedLifecycleEvent) : Json := .obj
  [("sequence", .num e.sequence), ("occurred_at", .num e.occurredAt), ("role", .str e.role.value),
    ("task_identity", .digest e.taskIdentity), ("attempt_identity", .digest e.attemptIdentity),
    ("review_attempt", .num e.reviewAttempt), ("transition", .str e.transition.value), ("disposition", .str e.disposition.value),
    ("accepted_result", .bool e.acceptedResult), ("successor_candidate_sha", jsonOption .hex e.successorCandidateSha),
    ("predecessor_event_digest", jsonOption .digest e.predecessorEventDigest),
    ("artifact_references", .arr (e.artifactReferences.map .digest)), ("event_digest", .digest e.eventDigest)]

def LifecycleShadowProjection.semanticPayload (p : LifecycleShadowProjection) : Json := .obj
  [("schema", .str projectionSchema), ("profile", .str liveLifecycleShadowProfile),
    ("candidate_sha", .hex p.candidateSha), ("ready_at", .num p.readyAt), ("window_identity", .digest p.windowIdentity),
      ("repository_identity", .digest p.repositoryIdentity),
    ("producer_identity", .digest p.producerIdentity), ("store_identity", .digest p.storeIdentity),
    ("capture_plan_digest", .digest p.capturePlanDigest), ("plan_digest", .digest p.planDigest),
      ("review_epoch", .num p.reviewEpoch),
    ("review_round", .num p.reviewRound), ("review_mode", .str p.reviewMode.value), ("events", .arr (p.events.map (·.payload))),
    ("accepted_attempt_identity", .digest p.acceptedAttemptIdentity), ("ledger_digest", .digest p.ledgerDigest),
    ("manifest_digest", .digest p.manifestDigest), ("retention_identity", .digest p.retentionIdentity),
    ("head_event_digest", .digest p.headEventDigest), ("head_entry_digest", .digest p.headEntryDigest),
    ("classified_differences", .arr (p.classifiedDifferences.map fun d => .str d.val))]

inductive ComparisonStatus where
  | pass | fail
deriving DecidableEq

structure LifecycleProjectionComparison where
  status : ComparisonStatus
  classifiedDifferences : List String
  expectedIdentity : Digest
  observedIdentity : Digest
  safe : ∀ d ∈ classifiedDifferences, safeToken d = true
  distinct : classifiedDifferences.Nodup
  settled : status = if classifiedDifferences = [] then .pass else .fail
deriving DecidableEq

/-- `LifecycleProjectionComparison(...)` -/
def lifecycleProjectionComparison (status : ComparisonStatus) (classified : List String) (expected observed : Digest) :
    Except String LifecycleProjectionComparison :=
  if h : (∀ d ∈ classified, safeToken d = true) ∧ classified.Nodup ∧ status = if classified = [] then .pass else .fail then
    .ok ⟨status, classified, expected, observed, h.1, h.2.1, h.2.2⟩
  else .error "lifecycle comparison is invalid"

/-- `tuple(sorted(set(differences)))` -/
def classify (expected observed : LifecycleShadowProjection) : List String :=
  sortBy id (differencePaths expected.semanticPayload.value observed.semanticPayload.value "root" ++
    expected.classifiedDifferences.map ("expected." ++ ·.val) ++ observed.classifiedDifferences.map ("observed." ++ ·.val)).dedup

/-- `compare_lifecycle_projections` -/
def compareLifecycleProjections (host : Host) (expected observed : LifecycleShadowProjection) :
    Except String LifecycleProjectionComparison :=
  let classified := classify expected observed
  lifecycleProjectionComparison (if classified = [] then .pass else .fail) classified
    (host.digestValue expected.semanticPayload) (host.digestValue observed.semanticPayload)

/-! ## Where two values differ -/

theorem differenceAt_eq (expected observed : List (String × Plain)) (key child : String) :
    differenceAt expected observed key child =
      match (Value.obj expected).get? key, (Value.obj observed).get? key with
      | some left, some right => differencePaths left right child
      | _, _ => [child] := by
  induction expected with
  | nil => rfl
  | cons field expected ih =>
    obtain ⟨name, left⟩ := field
    rw [differenceAt]
    by_cases hname : name = key
    · simp only [Value.get?, hname, if_true, List.find?_cons, decide_true, Option.map_some]
      cases observed.find? fun f => decide (f.1 = key) <;> rfl
    · rw [if_neg hname, ih]
      simp only [Value.get?, List.find?_cons, hname, decide_false]

variable {expected observed : List (String × Plain)}

theorem mem_unionKeys {key : String} :
    key ∈ unionKeys expected observed ↔ key ∈ expected.map (·.1) ∨ key ∈ observed.map (·.1) := by
  rw [unionKeys, mem_sortBy, List.mem_dedup, List.mem_append]

theorem unionKeys_comm (expected observed : List (String × Plain)) : unionKeys expected observed = unionKeys observed expected := by
  refine sortBy_congr ((List.perm_ext_iff_of_nodup (List.nodup_dedup _) (List.nodup_dedup _)).2 fun key => ?_) ?_
  · simp only [List.mem_dedup, List.mem_append]
    exact or_comm
  · rw [List.map_id]
    exact List.nodup_dedup _

/-- A key is in an object with a value exactly when the object has the field. -/
theorem get?_eq_some {fields : List (String × Plain)} (h : fields.Pairwise fun a b => a.1 < b.1) {key : String} {v : Plain} :
    (Value.obj fields).get? key = some v ↔ (key, v) ∈ fields := by
  rw [Value.get?, Option.map_eq_some_iff]
  constructor
  · rintro ⟨⟨name, w⟩, hfind, rfl⟩
    obtain ⟨hmem, rfl⟩ := (find?_of_nodup (keys_nodup h)).1 hfind
    exact hmem
  · intro hmem
    exact ⟨(key, v), (find?_of_nodup (keys_nodup h)).2 ⟨hmem, rfl⟩, rfl⟩

theorem get?_ne_none {fields : List (String × Plain)} {key : String} (h : key ∈ fields.map (·.1)) :
    ∃ v, (Value.obj fields).get? key = some v := by
  obtain ⟨field, hmem, rfl⟩ := List.mem_map.1 h
  cases hfind : fields.find? fun f => f.1 = field.1 with
  | none => simpa using List.find?_eq_none.1 hfind field hmem
  | some found => exact ⟨found.2, by rw [Value.get?, hfind]; rfl⟩

/-- Two objects are the same when they have the same keys and the same value at each of them. -/
theorem fields_ext (he : expected.Pairwise fun a b => a.1 < b.1)
    (ho : observed.Pairwise fun a b => a.1 < b.1) (h : ∀ key v, (key, v) ∈ expected ↔ (key, v) ∈ observed) :
    expected = observed := by
  have hperm : expected.Perm observed :=
    (List.perm_ext_iff_of_nodup (keys_nodup he).of_map (keys_nodup ho).of_map).2 fun field => h field.1 field.2
  exact eq_of_perm_of_keys hperm (he.imp le_of_lt) (ho.imp le_of_lt) (keys_nodup he)

/-- Two objects have no differences exactly when they are the same, once that holds of the values of the first. -/
theorem obj_eq_nil {path : String} (he : expected.Pairwise fun a b => a.1 < b.1)
    (ho : (Value.obj observed).Canonical)
    (ih : ∀ field ∈ expected, ∀ w : Plain, w.Canonical → ∀ path, differencePaths field.2 w path = [] ↔ field.2 = w) :
    differencePaths (.obj expected) (.obj observed) path = [] ↔ expected = observed := by
  obtain ⟨hosorted, hovalues⟩ := ho
  rw [differencePaths, List.flatMap_eq_nil_iff]
  constructor
  · intro hnil
    have hsame : ∀ key v w, (key, v) ∈ expected → (key, w) ∈ observed → v = w := by
      intro key v w hv hw
      have hkey := hnil key (mem_unionKeys.2 (.inl (List.mem_map_of_mem hv)))
      rw [differenceAt_eq, (get?_eq_some he).2 hv, (get?_eq_some hosorted).2 hw] at hkey
      exact (ih _ hv w (Value.canonicalFields_iff.1 hovalues _ hw) _).1 hkey
    -- a key of one of them is a key of the other
    have hboth : ∀ key, key ∈ unionKeys expected observed →
        (∃ v, (Value.obj expected).get? key = some v) ∧ ∃ w, (Value.obj observed).get? key = some w := by
      intro key hkey
      have hat := hnil key hkey
      rw [differenceAt_eq] at hat
      cases hleft : (Value.obj expected).get? key with
      | none => rw [hleft] at hat; cases hat
      | some v =>
        cases hright : (Value.obj observed).get? key with
        | none => rw [hleft, hright] at hat; cases hat
        | some w => exact ⟨⟨v, rfl⟩, ⟨w, rfl⟩⟩
    refine fields_ext he hosorted fun key v => ⟨fun hv => ?_, fun hw => ?_⟩
    · obtain ⟨-, w, hw⟩ := hboth key (mem_unionKeys.2 (.inl (List.mem_map_of_mem hv)))
      rw [get?_eq_some hosorted] at hw
      rwa [hsame key v w hv hw]
    · obtain ⟨⟨u, hu⟩, -⟩ := hboth key (mem_unionKeys.2 (.inr (List.mem_map_of_mem hw)))
      rw [get?_eq_some he] at hu
      rwa [← hsame key u v hu hw]
  · rintro rfl key hkey
    obtain ⟨v, hv⟩ := get?_ne_none ((or_self_iff).1 (mem_unionKeys.1 hkey))
    rw [differenceAt_eq, hv]
    have hmem := (get?_eq_some he).1 hv
    exact (ih _ hmem v (Value.canonicalFields_iff.1 hovalues _ hmem) _).2 rfl

mutual

/-- Two values have no differences exactly when they are the same. -/
theorem differencePaths_eq_nil (v w : Plain) (hv : v.Canonical) (hw : w.Canonical) (path : String) :
    differencePaths v w path = [] ↔ v = w := by
  match v, w, hv, hw with
  | .obj expected, .obj observed, hv, hw =>
    rw [obj_eq_nil hv.1 hw (fields_eq_nil expected hv.2), Value.obj.injEq]
  | .arr expected, .arr observed, hv, hw =>
    rw [Value.arr.injEq, differencePaths, List.append_eq_nil_iff, ← items_eq_nil expected observed hv hw path 0]
    refine and_congr_left fun _ => ?_
    split <;> simp_all
  | .null, w, _, _ => cases w <;> simp [differencePaths]
  | .bool _, w, _, _ => cases w <;> simp [differencePaths]
  | .int _, w, _, _ => cases w <;> simp [differencePaths]
  | .str _, w, _, _ => cases w <;> simp [differencePaths]
  | .infinity _, _, hv, _ => exact hv.elim
  | .obj _, .null, _, _ | .obj _, .bool _, _, _ | .obj _, .int _, _, _ | .obj _, .str _, _, _ | .obj _, .arr _, _,
      _ => simp [differencePaths]
  | .arr _, .null, _, _ | .arr _, .bool _, _, _ | .arr _, .int _, _, _ | .arr _, .str _, _, _ | .arr _, .obj _, _,
      _ => simp [differencePaths]
  | .obj _, .infinity _, _, hw | .arr _, .infinity _, _, hw => exact hw.elim

theorem items_eq_nil (expected observed : List Plain) (hv : CanonicalItems expected) (hw : CanonicalItems observed)
    (path : String) (index : Nat) : expected.length = observed.length ∧ differenceItems expected observed path index =
    [] ↔ expected = observed := by
  match expected, observed, hv, hw with
  | [], [], _, _ => simp [differenceItems]
  | [], _ :: _, _, _ => simp
  | _ :: _, [], _, _ => simp
  | left :: expected, right :: observed, hv, hw =>
    rw [differenceItems, List.append_eq_nil_iff, differencePaths_eq_nil left right hv.1 hw.1, List.cons.injEq,
      ← items_eq_nil expected observed hv.2 hw.2 path (index + 1), List.length_cons, List.length_cons, Nat.succ_inj]
    exact and_left_comm

theorem fields_eq_nil (fields : List (String × Plain)) (hv : CanonicalFields fields) :
    ∀ field ∈ fields, ∀ w : Plain, w.Canonical → ∀ path, differencePaths field.2 w path = [] ↔ field.2 = w := by
  match fields, hv with
  | [], _ => intro field hfield; cases hfield
  | (_, v) :: fields, hv =>
    intro field hfield w hw path
    rcases List.mem_cons.1 hfield with rfl | hfield
    · exact differencePaths_eq_nil v w hv.1 hw path
    · exact fields_eq_nil fields hv.2 field hfield w hw path

end

/-! ## The other way round -/

theorem obj_comm {path : String}
    (ih : ∀ field ∈ expected, ∀ (w : Plain) path, differencePaths field.2 w path = differencePaths w field.2 path) :
    differencePaths (.obj expected) (.obj observed) path = differencePaths (.obj observed) (.obj expected) path := by
  rw [differencePaths, differencePaths, unionKeys_comm]
  refine List.flatMap_congr fun key _ => ?_
  rw [differenceAt_eq, differenceAt_eq]
  cases hleft : (Value.obj expected).get? key with
  | none => cases (Value.obj observed).get? key <;> rfl
  | some v =>
    cases (Value.obj observed).get? key with
    | none => rfl
    | some w =>
      obtain ⟨field, hfind, rfl⟩ := Option.map_eq_some_iff.1 hleft
      exact ih field (List.mem_of_find?_eq_some hfind) w _

mutual

/-- The differences do not depend on which value was expected. -/
theorem differencePaths_comm (v w : Plain) (path : String) : differencePaths v w path = differencePaths w v path := by
  match v, w with
  | .obj expected, .obj observed => exact obj_comm (fields_comm expected)
  | .arr expected, .arr observed =>
    rw [differencePaths, differencePaths, items_comm expected observed path 0]
    simp only [ne_comm]
  | .null, w => cases w <;> simp [differencePaths]
  | .bool _, w => cases w <;> simp [differencePaths, eq_comm]
  | .int _, w => cases w <;> simp [differencePaths, eq_comm]
  | .str _, w => cases w <;> simp [differencePaths, eq_comm]
  | .infinity _, w => cases w <;> simp [differencePaths]
  | .obj _, .null | .obj _, .bool _ | .obj _, .int _ | .obj _, .str _ | .obj _, .arr _ | .obj _,
      .infinity _ => simp [differencePaths]
  | .arr _, .null | .arr _, .bool _ | .arr _, .int _ | .arr _, .str _ | .arr _, .obj _ | .arr _,
      .infinity _ => simp [differencePaths]

theorem items_comm (expected observed : List Plain) (path : String) (index : Nat) :
    differenceItems expected observed path index = differenceItems observed expected path index := by
  match expected, observed with
  | [], [] => rfl
  | [], _ :: _ => rfl
  | _ :: _, [] => rfl
  | left :: expected, right :: observed =>
    rw [differenceItems, differenceItems, differencePaths_comm left right, items_comm expected observed]

theorem fields_comm (fields : List (String × Plain)) :
    ∀ field ∈ fields, ∀ (w : Plain) path, differencePaths field.2 w path = differencePaths w field.2 path := by
  match fields with
  | [] => intro field hfield; cases hfield
  | (_, v) :: fields =>
    intro field hfield w path
    rcases List.mem_cons.1 hfield with rfl | hfield
    · exact differencePaths_comm v w path
    · exact fields_comm fields field hfield w path

end

/-! ## What a comparison says -/

theorem jsonOption_distinct {α : Type} (write : α → Json) (h : ∀ a, (write a).Distinct) (a : Option α) :
    (jsonOption write a).Distinct := by
  cases a with
  | none => trivial
  | some a => exact h a

theorem ProjectedLifecycleEvent.payload_distinct (e : ProjectedLifecycleEvent) : e.payload.Distinct := by
  have hreferences : Json.DistinctItems (e.artifactReferences.map .digest) :=
    Json.distinctItems_iff.2 (List.forall_mem_map.2 fun _ _ => trivial)
  have hsuccessor := jsonOption_distinct .hex (fun _ => trivial) e.successorCandidateSha
  have hpredecessor := jsonOption_distinct .digest (fun _ => trivial) e.predecessorEventDigest
  refine ⟨by simp, ?_⟩
  simp only [Json.DistinctFields, Json.Distinct, hreferences, hsuccessor, hpredecessor, and_self]

theorem LifecycleShadowProjection.semanticPayload_distinct (p : LifecycleShadowProjection) : p.semanticPayload.Distinct := by
  have hevents : Json.DistinctItems (p.events.map (·.payload)) :=
    Json.distinctItems_iff.2 (List.forall_mem_map.2 fun e _ => e.payload_distinct)
  have hdeclared : Json.DistinctItems (p.classifiedDifferences.map fun d => .str d.val) :=
    Json.distinctItems_iff.2 (List.forall_mem_map.2 fun _ _ => trivial)
  refine ⟨by simp, ?_⟩
  simp only [Json.DistinctFields, Json.Distinct, hevents, hdeclared, and_self]

theorem classify_eq_nil {expected observed : LifecycleShadowProjection} :
    classify expected observed = [] ↔ (expected.semanticPayload.value : Plain) = observed.semanticPayload.value ∧
      expected.classifiedDifferences = [] ∧ observed.classifiedDifferences = [] := by
  have hempty : ∀ l : List String, sortBy id l.dedup = [] ↔ l = [] := by
    intro l
    rw [List.eq_nil_iff_forall_not_mem, List.eq_nil_iff_forall_not_mem]
    simp only [mem_sortBy, List.mem_dedup]
  rw [classify, hempty, List.append_eq_nil_iff, List.append_eq_nil_iff, List.map_eq_nil_iff, List.map_eq_nil_iff,
    and_assoc, differencePaths_eq_nil _ _ (Json.value_canonical _ expected.semanticPayload_distinct)
      (Json.value_canonical _ observed.semanticPayload_distinct)]

theorem lifecycleProjectionComparison_ok {status : ComparisonStatus} {classified : List String}
    {expected observed : Digest} {c : LifecycleProjectionComparison}
    (h : lifecycleProjectionComparison status classified expected observed = .ok c) :
    c.status = status := by
  unfold lifecycleProjectionComparison at h
  by_cases hvalid : (∀ d ∈ classified, safeToken d = true) ∧ classified.Nodup ∧ status = if classified = [] then .pass else .fail
  · rw [dif_pos hvalid] at h
    cases h
    rfl
  · rw [dif_neg hvalid] at h
    cases h

/-- Structural comparison is exact: two values have no difference exactly when they are the same, type for type,
whichever of them was expected; and a comparison passes exactly when the payloads are the same and neither projection
declares a difference. -/
theorem comparison_exact :
    (∀ v w : Plain, v.Canonical → w.Canonical → ∀ path,
      (differencePaths v w path = [] ↔ v = w) ∧ ∀ d, d ∈ differencePaths v w path ↔ d ∈ differencePaths w v path) ∧
    ∀ host expected observed c, compareLifecycleProjections host expected observed = .ok c →
      (c.status = .pass ↔ (expected.semanticPayload.value : Plain) = observed.semanticPayload.value ∧
        expected.classifiedDifferences = [] ∧ observed.classifiedDifferences = []) := by
  constructor
  · intro v w hv hw path
    refine ⟨differencePaths_eq_nil v w hv hw path, fun d => ?_⟩
    rw [differencePaths_comm]
  · intro host expected observed c h
    rw [lifecycleProjectionComparison_ok h, ← classify_eq_nil]
    split <;> simp_all

namespace Sample

def identity (n : Nat) : Digest := .sha256 (.ofNat 64 n)

def projected : ProjectedLifecycleEvent where
  sequence := 0
  occurredAt := 11
  role := .supervisor
  taskIdentity := identity 13
  attemptIdentity := identity 14
  reviewAttempt := 1
  transition := .attemptStarted
  disposition := .pending
  acceptedResult := false
  successorCandidateSha := none
  predecessorEventDigest := none
  artifactReferences := [identity 15]
  eventDigest := identity 16

def projection : LifecycleShadowProjection where
  candidateSha := .ofNat 40 1
  readyAt := 10
  windowIdentity := identity 1
  repositoryIdentity := identity 2
  producerIdentity := identity 3
  storeIdentity := identity 4
  capturePlanDigest := identity 5
  planDigest := identity 6
  reviewEpoch := 1
  reviewRound := 1
  reviewMode := .complete
  events := [projected]
  acceptedAttemptIdentity := identity 7
  ledgerDigest := identity 8
  manifestDigest := identity 9
  retentionIdentity := identity 10
  headEventDigest := identity 11
  headEntryDigest := identity 12

end Sample

open Sample in
/-- `true` is not `1`, and a projection without declared differences passes against itself. -/
theorem comparison_exact_itself :
    differencePaths (.bool true) (.int 1) "root" ≠ [] ∧
    ∃ c, compareLifecycleProjections .sample projection projection = .ok c ∧ c.status = .pass := by
  constructor
  · intro hnil
    cases (comparison_exact.1 (.bool true) (.int 1) trivial trivial "root").1.1 hnil
  · have hnil : classify projection projection = [] := classify_eq_nil.2 ⟨rfl, rfl, rfl⟩
    have hcompare : compareLifecycleProjections .sample projection projection =
        .ok ⟨.pass, [], Host.sample.digestValue projection.semanticPayload,
          Host.sample.digestValue projection.semanticPayload, fun _ h => absurd h List.not_mem_nil, .nil, rfl⟩ := by
      unfold compareLifecycleProjections lifecycleProjectionComparison
      simp only [hnil]
      rfl
    exact ⟨_, hcompare, (comparison_exact.2 _ _ _ _ hcompare).2 ⟨rfl, rfl, rfl⟩⟩

end Roundwright.Lifecycle
