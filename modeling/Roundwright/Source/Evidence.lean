/-
The public evidence of the configured-source lane: what a selection is exported as, and the comparator that sees it
again, possibly after others had it in their hands. The comparator ties the digest of the decisions to the decisions and
the identity of the binding to the binding; nothing ties the runnable ids to the decisions, or the decisions to each
other.
-/
import Roundwright.Recovery.Codec
import Roundwright.Source.Scan

namespace Roundwright.Source

open Lib Lib.JsonText Dependency

variable {F : Type} [DecidableEq F] (host : Host) (floats : Floats F)

/-! ## The lane -/

/-- `SOURCE_INGESTION_PROFILE` -/
def sourceIngestionProfile : String := "roundwright-shadow-profile/configured-source-ingestion/v1"

/-- `CONFIGURED_SOURCE_EVIDENCE_SCHEMA` -/
def evidenceSchema : String := "roundwright-configured-source-evidence/v1"

/-- `_digest_value`, of a value as JSON texts have them. -/
def digestValue (v : Value F) : Digest := .sha256 (host.hexdigest (dumps floats v))

def component (name : String) : Digest :=
  digestValue host floats (.dict [("schema", .str evidenceSchema), ("component", .str name)])

/-- `CONFIGURED_SOURCE_PRODUCER_IDENTITY` -/
def producerIdentity : Digest := component host floats "typed-read-only-configured-source-reader"

/-- `CONFIGURED_SOURCE_EXPORTER_IDENTITY` -/
def exporterIdentity : Digest := component host floats "public-safe-normalized-inventory-exporter"

/-- `CONFIGURED_SOURCE_COMPARATOR_IDENTITY` -/
def comparatorIdentity : Digest := component host floats "capture-time-configured-source-comparator"

/-- What the lane uses of a binding of the executor; its texts may be any. -/
structure ExecutorBinding where
  profile : String
  caseId : String
  candidateSha : String
  planDigest : String
  readyAt : Int

namespace ExecutorBinding

def payload (b : ExecutorBinding) : Value F :=
  .dict [("schema", .str evidenceSchema), ("profile", .str b.profile), ("case_id", .str b.caseId),
    ("candidate_sha", .str b.candidateSha), ("ready_at", .int b.readyAt), ("capture_plan_digest", .str b.planDigest)]

def valid (b : ExecutorBinding) : Bool :=
  b.profile = sourceIngestionProfile && isToken b.caseId && isHex 40 b.candidateSha && 0 ≤ b.readyAt &&
    (Digest.ofText? b.planDigest).isSome

/-- `_configured_source_binding_identity` -/
def identity (b : ExecutorBinding) : Except String Digest := do
  refuse (b.valid = false) "configured source executor binding is invalid"
  return digestValue host floats b.payload

end ExecutorBinding

def SelectionState.value : SelectionState → String
  | .runnable => "runnable"
  | .blocked => "blocked"

def SelectionDecision.payload (d : SelectionDecision) : Value F :=
  .dict [("opaque_id", .str d.opaqueId.text), ("state", .str d.state.value),
    ("blockers", .arr (d.blockers.map fun b => .str b.value))]

/-! ## Producing -/

def digestOrNull : Option Digest → Value F
  | some digest => .str digest.text
  | none => .null

def mutationCounts : List String :=
  ["source_mutation_count", "git_mutation_count", "github_mutation_count", "provider_dispatch_count"]

/-- What `configured_source_evidence` has under the name of the lane. -/
def laneOf (identity : Digest) (inventory : SourceInventory) (selection : RunnableSelection) : Value F :=
  let decisions : Value F := .arr (selection.decisions.map (·.payload))
  .dict [("schema", .str evidenceSchema), ("binding_identity", .str identity.text),
    ("producer_identity", .str (producerIdentity host floats).text), ("exporter_identity", .str (exporterIdentity host floats).text),
    ("comparator_identity", .str (comparatorIdentity host floats).text),
    ("source_set_digest", .str (inventory.binding.sourceSetDigest host).text),
    ("source_content_digests", .arr (inventory.sourceContentDigests.map fun o =>
      .dict [("public_identity", .str o.1.val), ("content_digest", .str o.2.text)])),
    ("normalized_inventory_digest", .str (inventory.inventoryDigest host).text),
    ("graph_digest", digestOrNull selection.graphDigest), ("selection_decisions", decisions),
    ("selection_digest", .str (digestValue host floats decisions).text),
    ("runnable_ids", .arr (selection.runnableIds.map fun id => .str id.text)),
    ("zero_mutation_proof", .dict (mutationCounts.map fun name => (name, .int 0)))]

/-- `configured_source_evidence` -/
def configuredSourceEvidence (b : ExecutorBinding) (inventory : SourceInventory) (selection : RunnableSelection) :
    Except String (Value F) := do
  let identity ← b.identity host floats
  return .dict [("schema", .str "roundwright-shadow-case/v2"), ("profile", .str sourceIngestionProfile),
    ("ready_at", .int b.readyAt), ("case_id", .str b.caseId), ("candidate_sha", .str b.candidateSha),
      ("capture_plan_digest", .str b.planDigest),
    ("configured_source_ingestion", laneOf host floats identity inventory selection)]

/-! ## Comparing -/

def evidenceKeys : List String :=
  ["schema", "profile", "ready_at", "case_id", "candidate_sha", "capture_plan_digest", "configured_source_ingestion"]

/-- The value under the lane's name, in evidence about this binding. -/
def lane? (b : ExecutorBinding) (evidence : Value F) : Option (Value F) := do
  guard (evidence.hasKeys evidenceKeys = true)
  let readyAt ← evidence.get? "ready_at"
  guard (evidence.text? "schema" = some "roundwright-shadow-case/v2" ∧ evidence.text? "profile" = some sourceIngestionProfile ∧
    readyAt.same floats (.int b.readyAt) = true ∧ evidence.text? "case_id" = some b.caseId ∧
    evidence.text? "candidate_sha" = some b.candidateSha ∧ evidence.text? "capture_plan_digest" = some b.planDigest)
  evidence.get? "configured_source_ingestion"

/-- What is looked up in the lane before the identity of the binding is asked for: the decisions and the proof, with the
identity that the lane shows. -/
def lookups? (lane : Value F) : Option (Value F × Value F × Value F) := do
  let zero ← lane.get? "zero_mutation_proof"
  let decisions ← lane.get? "selection_decisions"
  guard (lane.text? "schema" = some evidenceSchema)
  let identity ← lane.get? "binding_identity"
  return (decisions, zero, identity)

def isArr : Value F → Bool
  | .arr _ => true
  | _ => false

/-- The conjuncts after the identity of the binding. A key that is missing ends the comparison as a value that differs
does. -/
def sealed (lane decisions zero : Value F) : Bool :=
  lane.text? "producer_identity" = some (producerIdentity host floats).text &&
  lane.text? "exporter_identity" = some (exporterIdentity host floats).text &&
  lane.text? "comparator_identity" = some (comparatorIdentity host floats).text &&
  (lane.get? "source_content_digests").any isArr && isArr decisions &&
  lane.text? "selection_digest" = some (digestValue host floats decisions).text &&
  (lane.text? "normalized_inventory_digest").any (fun text => (Digest.ofText? text).isSome) &&
  mutationCounts.all fun name => (zero.get? name).any fun count => count.same floats (.int 0)

/-- `_valid_configured_source_evidence`. The error of a binding that is not valid is none of those that it catches. -/
def validConfiguredSourceEvidence (b : ExecutorBinding) (evidence : Value F) : Except String Bool :=
  match lane? floats b evidence with
  | none => return false
  | some lane =>
    match lookups? lane with
    | none => return false
    | some (decisions, zero, shown) => do
      let identity ← b.identity host floats
      match shown with
      | .str text => return text = identity.text && sealed host floats lane decisions zero
      | _ => return false

/-! ## Coherence -/

omit [DecidableEq F] in
/-- The items of a list. -/
def items? : Value F → Option (List (Value F))
  | .arr items => some items
  | _ => none

/-- A decision as evidence shows it. -/
structure ShownDecision (F : Type) where
  opaqueId : String
  state : String
  blockers : List (Value F)

def shownDecision? (v : Value F) : Option (ShownDecision F) := do
  let opaqueId ← v.text? "opaque_id"
  let state ← v.text? "state"
  let blockers ← (v.get? "blockers").bind items?
  return ⟨opaqueId, state, blockers⟩

def decisions? (evidence : Value F) : Option (List (ShownDecision F)) := do
  let lane ← evidence.get? "configured_source_ingestion"
  let items ← (lane.get? "selection_decisions").bind items?
  items.mapM shownDecision?

def runnableIds? (evidence : Value F) : Option (List (Value F)) := do
  let lane ← evidence.get? "configured_source_ingestion"
  (lane.get? "runnable_ids").bind items?

/-- The runnable ids are those of the runnable decisions. -/
def ListsRunnable (evidence : Value F) : Prop :=
  ∃ decisions, decisions? evidence = some decisions ∧
    runnableIds? evidence = some ((decisions.filter (·.state = "runnable")).map fun d => .str d.opaqueId)

/-- A decision is runnable exactly when nothing blocks it. -/
def BlocksOthers (evidence : Value F) : Prop :=
  ∃ decisions, decisions? evidence = some decisions ∧ ∀ d ∈ decisions, d.state = "runnable" ↔ d.blockers = []

def DecidesOnce (evidence : Value F) : Prop :=
  ∃ decisions, decisions? evidence = some decisions ∧ (decisions.map (·.opaqueId)).Nodup

structure Coherent (evidence : Value F) : Prop where
  listsRunnable : ListsRunnable evidence
  blocksOthers : BlocksOthers evidence
  decidesOnce : DecidesOnce evidence

/-- The comparator passes the evidence. -/
def Accepts (b : ExecutorBinding) (evidence : Value F) : Prop := validConfiguredSourceEvidence host floats b evidence = .ok true

/-! ## What is produced -/

section Produced

omit [DecidableEq F]

variable {host floats} {b : ExecutorBinding} {inventory : SourceInventory} {selection : RunnableSelection} {evidence : Value F}

def SelectionDecision.shown (d : SelectionDecision) : ShownDecision F :=
  ⟨d.opaqueId.text, d.state.value, d.blockers.map fun b => .str b.value⟩

theorem state_value (s : SelectionState) : s.value = "runnable" ↔ s = .runnable := by
  cases s <;> decide

theorem shownDecision?_payload (d : SelectionDecision) : shownDecision? (d.payload : Value F) = some d.shown := by
  simp [shownDecision?, SelectionDecision.payload, SelectionDecision.shown, Value.text?, items?]

theorem mapM_shownDecision? (decisions : List SelectionDecision) :
    (decisions.map fun d => (d.payload : Value F)).mapM shownDecision? = some (decisions.map (·.shown)) := by
  induction decisions with
  | nil => rfl
  | cons d decisions ih =>
    rw [List.map_cons, List.mapM_cons, shownDecision?_payload, ih]
    rfl

theorem identity_ok (hvalid : b.valid = true) : b.identity host floats = .ok (digestValue host floats b.payload) := by
  rw [ExecutorBinding.identity, refuse_of_not (by simp [hvalid])]
  rfl

/-- Evidence is produced for a valid binding only, and for every one. -/
theorem configuredSourceEvidence_ok (h : configuredSourceEvidence host floats b inventory selection = .ok evidence) :
    b.valid = true ∧ evidence = .dict [("schema", .str "roundwright-shadow-case/v2"), ("profile", .str sourceIngestionProfile),
      ("ready_at", .int b.readyAt), ("case_id", .str b.caseId), ("candidate_sha", .str b.candidateSha),
      ("capture_plan_digest", .str b.planDigest),
      ("configured_source_ingestion", laneOf host floats (digestValue host floats b.payload) inventory selection)] := by
  rw [configuredSourceEvidence, bind_eq_ok] at h
  obtain ⟨identity, hidentity, h⟩ := h
  have hvalid : b.valid = true := by
    rw [ExecutorBinding.identity, bind_eq_ok] at hidentity
    obtain ⟨_, hrefuse, -⟩ := hidentity
    simpa using refuse_eq_ok.1 hrefuse
  rw [identity_ok hvalid] at hidentity
  cases hidentity
  cases h
  exact ⟨hvalid, rfl⟩

theorem exists_evidence (hvalid : b.valid = true) (inventory : SourceInventory) (selection : RunnableSelection) :
    ∃ evidence, configuredSourceEvidence host floats b inventory selection = .ok evidence := by
  rw [configuredSourceEvidence, identity_ok hvalid]
  exact ⟨_, rfl⟩

theorem decisions?_evidence (h : configuredSourceEvidence host floats b inventory selection = .ok evidence) :
    decisions? evidence = some (selection.decisions.map (·.shown)) := by
  obtain ⟨-, rfl⟩ := configuredSourceEvidence_ok h
  simpa [decisions?, laneOf, items?] using mapM_shownDecision? selection.decisions

theorem runnableIds?_evidence (h : configuredSourceEvidence host floats b inventory selection = .ok evidence) :
    runnableIds? evidence = some (selection.runnableIds.map fun id => .str id.text) := by
  obtain ⟨-, rfl⟩ := configuredSourceEvidence_ok h
  simp [runnableIds?, laneOf, items?]

end Produced

section Accepted

variable {host floats} {b : ExecutorBinding} {inventory : SourceInventory} {selection : RunnableSelection} {evidence : Value F}

theorem valid_of_accepts (h : Accepts host floats b evidence) : b.valid = true := by
  unfold Accepts validConfiguredSourceEvidence at h
  cases hlane : lane? floats b evidence with
  | none => simp [hlane, pure, Except.pure] at h
  | some lane =>
    cases hlookups : lookups? lane with
    | none => simp [hlane, hlookups, pure, Except.pure] at h
    | some lookups =>
      simp only [hlane, hlookups, bind_eq_ok] at h
      obtain ⟨identity, hidentity, -⟩ := h
      rw [ExecutorBinding.identity, bind_eq_ok] at hidentity
      obtain ⟨_, hrefuse, -⟩ := hidentity
      simpa using refuse_eq_ok.1 hrefuse

omit [DecidableEq F] in
/-- The rest of the comparison, on the lane of any selection. -/
theorem lookups?_laneOf (identity : Digest) : lookups? (laneOf host floats identity inventory selection) =
    some (.arr (selection.decisions.map (·.payload)), .dict (mutationCounts.map fun name => (name, .int 0)),
    .str identity.text) := by
  simp [lookups?, laneOf, Value.text?]

theorem sealed_laneOf (identity : Digest) : sealed host floats (laneOf host floats identity inventory selection)
    (.arr (selection.decisions.map (·.payload))) (.dict (mutationCounts.map fun name => (name, .int 0))) = true := by
  simp [sealed, laneOf, Value.text?, isArr, mutationCounts, Value.same_refl]

/-- The evidence of any selection is accepted, whatever its runnable ids are and whatever it decides. -/
theorem accepts_evidence (h : configuredSourceEvidence host floats b inventory selection = .ok evidence) :
    Accepts host floats b evidence := by
  obtain ⟨hvalid, rfl⟩ := configuredSourceEvidence_ok h
  have hlane : lane? floats b (.dict
      [("schema", .str "roundwright-shadow-case/v2"), ("profile", .str sourceIngestionProfile),
        ("ready_at", .int b.readyAt), ("case_id", .str b.caseId), ("candidate_sha", .str b.candidateSha),
      ("capture_plan_digest", .str b.planDigest),
      ("configured_source_ingestion", laneOf host floats (digestValue host floats b.payload) inventory selection)]) =
      some (laneOf host floats (digestValue host floats b.payload) inventory selection) := by
    simp [lane?, evidenceKeys, Value.text?, Value.same_refl]
  unfold Accepts validConfiguredSourceEvidence
  simp only [hlane, lookups?_laneOf, identity_ok hvalid, sealed_laneOf]
  simp [bind, Except.bind, pure, Except.pure]

end Accepted

section Coherence

omit [DecidableEq F]

variable {host floats} {b : ExecutorBinding} {inventory : SourceInventory} {selection : RunnableSelection} {evidence : Value F}

section

variable (h : configuredSourceEvidence host floats b inventory selection = .ok evidence)

include h

theorem listsRunnable_iff :
    ListsRunnable evidence ↔ selection.runnableIds = (selection.decisions.filter (·.state = .runnable)).map (·.opaqueId) := by
  have hinjective : Function.Injective fun id : Digest => (.str id.text : Value F) := fun a b h => Digest.text_injective
    (by simpa using h)
  have hfilter : ((selection.decisions.map (·.shown)).filter fun d : ShownDecision F => d.state = "runnable").map
      (fun d => Value.str d.opaqueId) =
      ((selection.decisions.filter (·.state = .runnable)).map (·.opaqueId)).map fun id => (.str id.text : Value F) := by
    rw [List.filter_map, List.map_map, List.map_map]
    simp [Function.comp_def, SelectionDecision.shown, state_value]
  unfold ListsRunnable
  rw [decisions?_evidence h, runnableIds?_evidence h]
  simp only [Option.some.injEq, exists_eq_left', hfilter]
  exact hinjective.list_map.eq_iff

theorem blocksOthers_iff : BlocksOthers evidence ↔ ∀ d ∈ selection.decisions, d.state = .runnable ↔ d.blockers = [] := by
  unfold BlocksOthers
  rw [decisions?_evidence h]
  simp [SelectionDecision.shown, state_value]

theorem decidesOnce_iff : DecidesOnce evidence ↔ (selection.decisions.map (·.opaqueId)).Nodup := by
  have hmap : (selection.decisions.map (·.shown)).map (fun d : ShownDecision F => d.opaqueId) =
      (selection.decisions.map (·.opaqueId)).map Digest.text := by
    rw [List.map_map, List.map_map]
    rfl
  unfold DecidesOnce
  rw [decisions?_evidence h]
  simp only [Option.some.injEq, exists_eq_left', hmap]
  exact List.nodup_map_iff Digest.text_injective

end

theorem coherent_evidence {graph : Option GraphSnapshot} {pending : Bool}
    (h : configuredSourceEvidence host floats b inventory (selectRunnableWork inventory host graph pending) = .ok evidence) :
    Coherent evidence := by
  refine ⟨(listsRunnable_iff h).2 runnableIds_eq, (blocksOthers_iff h).2 ?_, (decidesOnce_iff h).2 ?_⟩
  · rw [selectRunnableWork_decisions]
    intro d hd
    obtain ⟨opaqueId, -, rfl⟩ := List.mem_map.1 hd
    rw [decisionOf_state]
    show _ ↔ sortBy Blocker.value _ = []
    rw [← List.length_eq_zero_iff, ← List.length_eq_zero_iff, (sortBy_perm _ _).length_eq]
  · exact decisions_perm.nodup_iff.2 inventory.opaqueIds

end Coherence

namespace Sample

theorem teamOne_isPublicId : isPublicId "team/one" = true := by decide

/-- One feed, and no item. -/
def quiet : SourceInventory where
  binding := ⟨.ofNat 40 1, .sha256 (.ofNat 64 1), .sha256 (.ofNat 64 2), [feed "team/one" teamOne_isPublicId], by decide, by decide⟩
  sourceContentDigests := [(⟨"team/one", teamOne_isPublicId⟩, .sha256 (.ofNat 64 3))]
  items := []
  sources := by decide +kernel
  opaqueIds := by decide

def workId : Digest := .sha256 (.ofNat 64 4)

/-- A selection of `quiet` that was not made by `select_runnable_work`. -/
def forged (host : Host) (decisions : List SelectionDecision) (runnableIds : List Digest) : RunnableSelection :=
  ⟨quiet.inventoryDigest host, none, decisions, runnableIds⟩

end Sample

open Sample in
/-- For a valid binding, evidence is accepted that has each of the three defects, and so the comparator warrants
coherence for the bindings that are not valid alone. What the lane itself produces is accepted and coherent. -/
theorem evidence_accepted_exact (b : ExecutorBinding) :
    ((∀ evidence, Accepts host floats b evidence → Coherent evidence) ↔ b.valid = false) ∧
    ((∀ evidence, Accepts host floats b evidence → ListsRunnable evidence) ↔ b.valid = false) ∧
    ((∀ evidence, Accepts host floats b evidence → BlocksOthers evidence) ↔ b.valid = false) ∧
    ((∀ evidence, Accepts host floats b evidence → DecidesOnce evidence) ↔ b.valid = false) ∧
    ∀ inventory graph pending evidence,
      configuredSourceEvidence host floats b inventory (selectRunnableWork inventory host graph pending) = .ok evidence →
      Accepts host floats b evidence ∧ Coherent evidence := by
  have hnone : b.valid = false → ∀ {P : Value F → Prop} evidence, Accepts host floats b evidence → P evidence := by
    intro hvalid P evidence h
    rw [valid_of_accepts h] at hvalid
    cases hvalid
  -- a property that the evidence of some selection lacks
  have hexact : ∀ {P : Value F → Prop} (decisions : List SelectionDecision) (runnableIds : List Digest),
      (∀ evidence, configuredSourceEvidence host floats b quiet (forged host decisions runnableIds) = .ok evidence →
        ¬ P evidence) →
      ((∀ evidence, Accepts host floats b evidence → P evidence) ↔ b.valid = false) := by
    intro P decisions runnableIds hlacks
    refine ⟨fun hall => ?_, fun hvalid => hnone hvalid⟩
    by_contra hvalid
    rw [Bool.not_eq_false] at hvalid
    obtain ⟨evidence, hevidence⟩ := @exists_evidence _ host floats _ hvalid quiet
      (forged host decisions runnableIds)
    exact hlacks evidence hevidence (hall evidence (accepts_evidence hevidence))
  refine ⟨?_, ?_, ?_, ?_, fun inventory graph pending evidence h => ⟨accepts_evidence h, coherent_evidence h⟩⟩
  · refine hexact [] [workId] fun evidence h hcoherent => ?_
    exact absurd ((listsRunnable_iff h).1 hcoherent.listsRunnable) (by simp [forged])
  · refine hexact [] [workId] fun evidence h hlists => ?_
    exact absurd ((listsRunnable_iff h).1 hlists) (by simp [forged])
  · refine hexact [⟨workId, .runnable, [.ownerItemUnresolved]⟩] [workId] fun evidence h hblocks => ?_
    exact absurd ((blocksOthers_iff h).1 hblocks) (by simp [forged])
  · refine hexact [⟨workId, .runnable, []⟩, ⟨workId, .runnable, []⟩] [workId] fun evidence h honce => ?_
    exact absurd ((decidesOnce_iff h).1 honce) (by simp [forged])

namespace Sample

def integral : Floats Empty := .empty

def execution : ExecutorBinding := ⟨sourceIngestionProfile, "case-one", Hex.text (.ofNat 40 1), workId.text, 7⟩

theorem execution_valid : execution.valid = true := by
  have hhex : isHex 40 (Hex.text (.ofNat 40 1)) = true := Hex.isHex_text _
  have hcase : isToken "case-one" = true := by decide
  simp [ExecutorBinding.valid, execution, hhex, hcase]

end Sample

open Sample in
/-- The two feeds are scanned and selected from; the evidence of it is accepted and coherent. -/
theorem evidence_accepted_two_feeds : ∃ inventory evidence,
    (scanConfiguredSources .sample feeds pages ()).1 = .ok inventory ∧
    configuredSourceEvidence .sample integral execution inventory (selectRunnableWork inventory .sample none false) =
      .ok evidence ∧
    Accepts .sample integral execution evidence ∧ Coherent evidence := by
  obtain ⟨inventory, hscan⟩ := pages_scanned
  obtain ⟨evidence, hevidence⟩ := @exists_evidence _ .sample integral _ execution_valid inventory
    (selectRunnableWork inventory .sample none false)
  exact ⟨inventory, evidence, hscan, hevidence,
    (evidence_accepted_exact .sample integral execution).2.2.2.2 inventory none false evidence hevidence⟩

open Sample in
/-- Evidence of an inventory without items, whose runnable ids name an item: no decision is about it, and the comparator
passes it. -/
theorem forged_runnable_accepted : ∃ evidence,
    configuredSourceEvidence .sample integral execution quiet (forged .sample [] [workId]) =
      .ok evidence ∧
    Accepts .sample integral execution evidence ∧
    decisions? evidence = some [] ∧ runnableIds? evidence = some [.str workId.text] ∧ ¬ Coherent evidence := by
  obtain ⟨evidence, h⟩ := @exists_evidence _ .sample integral _ execution_valid quiet
    (forged .sample [] [workId])
  refine ⟨evidence, h, accepts_evidence h, decisions?_evidence h, runnableIds?_evidence h, ?_⟩
  rintro ⟨hlists, -, -⟩
  exact absurd ((listsRunnable_iff h).1 hlists) (by simp [forged])

end Roundwright.Source
