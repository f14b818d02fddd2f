/-
What is reconciled and what is sealed. Reconciliation and the verifier of records check the same evidence with grammars
of their own; a selection can be sealed in a record exactly when its texts satisfy both and the dependencies are still
fresh, and a record that was sealed is read back as it was written.
-/
import Roundwright.Provenance.Record

namespace Roundwright.Provenance

open Lib Lib.JsonText

section Readers

variable {F : Type} (m : Machine F)

theorem isDigest_sha256 (text : String) : isDigest (m.sha256 text) = true := by
  have htext : (m.sha256 text).toList = "sha256:".toList ++ (m.host.hexdigest text).text.toList := String.toList_append
  have hseven : ("sha256:".toList).length = 7 := rfl
  rw [isDigest, htext, List.take_left' hseven, List.drop_left' hseven, String.ofList_toList, Hex.isHex_text]
  rfl

theorem isDigest_fingerprint (v : Value F) : isDigest (m.fingerprint v) = true := isDigest_sha256 m _

variable {v : Value F}

theorem reads_iff {key text : String} : reads v key text = true ↔ v.get? key = some (.str text) := by
  unfold reads Value.text?
  rw [decide_eq_true_eq]
  split <;> simp_all

@[simp] theorem item_dict (fields : List (String × Value F)) (key : String) :
    item (.dict fields) key = ((fields.find? fun f => f.1 = key).map (·.2)).getD .null := by
  rw [item, Value.get?_dict]

theorem item_of_reads {key text : String} (h : reads v key text = true) : item v key = .str text := by
  rw [item, reads_iff.1 h]
  rfl

theorem isNull_iff {key : String} : isNull v key = true ↔ v.get? key = some .null := by
  unfold isNull
  split <;> simp_all

theorem asInt?_iff {n : Int} : asInt? v = some n ↔ v = .int n := by
  cases v <;> simp [asInt?]

theorem strictJsonObject_ok {text label : String} (h : strictJsonObject m text label = .ok v) :
    loads m.floats text = some v := by
  simp only [strictJsonObject, bind_eq_ok, exists_unit, demand_eq_ok, pure_eq_ok] at h
  obtain ⟨w, hw, -, rfl⟩ := h
  exact hw

end Readers

variable {expected : ExternalSelectionControlExpectation F}

/-! ## The loaded control -/

section Control

variable {F : Type} [DecidableEq F] {m : Machine F}

/-- What is known of a control that was loaded, with the payload it was loaded from. -/
structure Loaded (m : Machine F) (c : ExternalSelectionControl F) (payload : Value F) : Prop where
  parsed : strictJsonObject m c.payload "external selection control" = .ok payload
  payloadDigest : isDigest c.payloadDigest = true
  receiptDigest : isDigest c.receiptDigest = true
  storeIdentity : isDigest c.expected.recorderStoreIdentity = true
  storeContract : c.expected.recorderStoreContract = "append-only-content-addressed-readback"
  storeBinding : isDigest c.expected.recorderBindingDigest = true
  selection : selectionExpected m (item payload "selection") c.expected = true
  retention : parseRoundletRetentionIdentity c.retentionIdentity = some (c.expected.runId, c.mode.lower, c.expected.candidateSha)
  fingerprint : isDigest c.loadFingerprint = true

variable {c : ExternalSelectionControl F}

theorem load_spec {payloadBytes receiptBytes : String} {expected : ExternalSelectionControlExpectation F}
    (h : ExternalSelectionControl.load m payloadBytes receiptBytes expected = .ok c) :
    c.payload = payloadBytes ∧ c.receipt = receiptBytes ∧ c.expected = expected ∧ ∃ payload, Loaded m c payload := by
  simp only [ExternalSelectionControl.load, bind_eq_ok, exists_unit, refuse_eq_ok, demand_eq_ok, pure_eq_ok, not_or,
    Bool.not_eq_false, not_not] at h
  obtain ⟨⟨hstore, hcontract, hbinding⟩, payload, hpayload, receipt, -, -, -, identity, -, retention, hretention, -, -,
    -, ⟨hselection, -⟩, mode, -, ready, -, ⟨-, -, -, hparts⟩, rfl⟩ := h
  refine ⟨rfl, rfl, rfl, payload, hpayload, isDigest_sha256 m _, isDigest_sha256 m _, hstore, hcontract, hbinding,
    hselection, ?_, isDigest_fingerprint m _⟩
  rw [hretention, hparts]

theorem verifyLoaded_of_load {payloadBytes receiptBytes : String} {expected : ExternalSelectionControlExpectation F}
    (h : ExternalSelectionControl.load m payloadBytes receiptBytes expected = .ok c) :
    c.verifyLoaded m = .ok () := by
  obtain ⟨hpayload, hreceipt, hexpected, -⟩ := load_spec h
  rw [ExternalSelectionControl.verifyLoaded, hpayload, hreceipt, hexpected, h]
  simp [rewrap, bind, Except.bind, refuse]

/-! ## The reconciled selection -/

/-- A selection that was made from its columns. -/
structure SealedBy (m : Machine F) (c : ExternalSelectionControl F) (s : VerifiedProvenanceSelection F)
    (columns : SelectionColumns) : Prop where
  made : s.toSelectionColumns = columns
  valid : columns.validate = .ok ()
  selection : s.selectionFingerprint = m.fingerprint columns.value
  load : s.externalLoadFingerprint = c.loadFingerprint
  control : s.loadedControl = c
  reconciliation : s.reconciliationFingerprint = sealFingerprint m s.selectionFingerprint c.loadFingerprint

/-- What reconciliation has found out, whatever the time. -/
structure Reconciled (m : Machine F) (c : ExternalSelectionControl F) (i : Evidence m) (payload : Value F)
    (s : VerifiedProvenanceSelection F) (dependency : String) (observations : List String) : Prop where
  mode : c.mode = .final
  repository : isRepository c.expected.repository = true
  task : isV2Token c.expected.taskId = true
  baseSha : isHex 40 c.expected.baseSha = true
  candidateSha : isHex 40 c.expected.candidateSha = true
  candidateTree : isHex 40 c.expected.candidateTree = true
  ready : selectionReady (item payload "selection") = true
  bound : i.bound c.expected.repository c.expected.taskId c.expected.candidateSha c.expected.candidateTree s.selectionAt = true
  controls : controlFingerprint m i.dependencyControl s.selectionAt = .ok (dependency, observations)
  git : i.gitObservation.controlFingerprint = gitControlFingerprint m i.gitControl.binding dependency i.gitControl.now
  observed : i.observed = true
  recorder : item payload "recorder_store" = expectedRecorderStore c.expected c.expected.candidateSha
  columns : s.toSelectionColumns =
    { payloadDigest := c.payloadDigest
      receiptDigest := c.receiptDigest
      contractDigest := c.contractDigest
      retentionIdentity := c.retentionIdentity
      selectionAt := s.selectionAt
      candidateFingerprint := candidateFingerprint m c.expected.repository c.expected.taskId c.expected.baseSha
        c.expected.candidateSha c.expected.candidateTree (i.artifacts.projectionFingerprint m)
      validationFingerprint := i.validation.projectionFingerprint m
      gitFingerprint := i.gitObservation.observationFingerprint m
      controlFingerprint := controlsFingerprint m dependency
        (gitControlFingerprint m i.gitControl.binding dependency i.gitControl.now) observations
      recorderStoreFingerprint := m.fingerprint (expectedRecorderStore c.expected c.expected.candidateSha) }
  sealed : SealedBy m c s s.toSelectionColumns

omit [DecidableEq F] in
theorem expectedRecorderStore_plain (e : ExternalSelectionControlExpectation F) (sha : String) :
    (expectedRecorderStore e sha).plain = true := by
  refine Value.dict_plain ?_
  simp [Value.plain]

variable {s : VerifiedProvenanceSelection F}

omit [DecidableEq F] in
theorem fromReconciliation_spec {columns : SelectionColumns}
    (h : VerifiedProvenanceSelection.fromReconciliation m columns c = .ok s) : SealedBy m c s columns := by
  simp only [VerifiedProvenanceSelection.fromReconciliation, bind_eq_ok, pure_eq_ok, exists_unit] at h
  obtain ⟨hvalid, rfl⟩ := h
  exact ⟨rfl, hvalid, rfl, rfl, rfl, rfl⟩

theorem reconcile_spec {i : Evidence m} {now : Int} {payload : Value F}
    (hpayload : strictJsonObject m c.payload "external selection control" = .ok payload)
    (h : reconcileFinalProvenanceSelection m c i now = .ok s) :
    ∃ dependency observations, Reconciled m c i payload s dependency observations := by
  simp only [reconcileFinalProvenanceSelection, bind_eq_ok, exists_unit, refuse_eq_ok, demand_eq_ok, not_or,
    Bool.not_eq_false, not_not] at h
  obtain ⟨⟨-, hmode, -⟩, -, payload', hpayload', -, -, -, selectionAt, -, validUntil, -,
    ⟨hrepository, htask, hshas, -, hready, -⟩, hbound, -, ⟨dependency, observations⟩, hcontrols, hgit, hobserved, -, -, -,
    hrecorder, -, -, hsealed⟩ := h
  obtain rfl : payload' = payload := Except.ok.inj (hpayload'.symm.trans hpayload)
  rw [Value.same_iff_eq _ _ _ (expectedRecorderStore_plain _ _)] at hrecorder
  have hby := fromReconciliation_spec hsealed
  have hcolumns := hby.made
  obtain rfl : selectionAt = s.selectionAt := by rw [hcolumns]
  simp only [List.any_cons, List.any_nil, Bool.or_false, Bool.or_eq_true, decide_eq_true_eq, not_or, Bool.not_eq_false] at hshas
  rw [hrecorder] at hcolumns
  refine ⟨dependency, observations, hmode, hrepository, htask, hshas.1, hshas.2.1, hshas.2.2, hready, hbound, hcontrols,
    hgit, hobserved, hrecorder, hcolumns, ?_⟩
  rw [hcolumns, ← hrecorder]
  exact hby

/-- The window of a control. -/
def window? (m : Machine F) (c : ExternalSelectionControl F) : Option (Int × Int) := do
  let payload ← loads m.floats c.payload
  let selectionAt ← int? (item payload "freshness") "selection_at"
  let validUntil ← int? (item payload "freshness") "valid_until"
  return (selectionAt, validUntil)

/-- Within the window the time of the reconciliation makes no difference. -/
theorem reconcile_at {i : Evidence m} {now now' a b : Int} (h : reconcileFinalProvenanceSelection m c i now = .ok s)
    (hwindow : window? m c = some (a, b)) (ha : a ≤ now') (hb : now' ≤ b) :
    reconcileFinalProvenanceSelection m c i now' = .ok s := by
  simp only [reconcileFinalProvenanceSelection, bind_eq_ok, exists_unit, refuse_eq_ok, demand_eq_ok, not_or,
    Bool.not_eq_false, not_not] at h ⊢
  obtain ⟨⟨-, hmode⟩, hloaded, payload, hpayload, hdicts, hkeys, hall, selectionAt, hat, validUntil, huntil,
    ⟨hrepository, htask, hshas, hexpected, hready, hpositive, horder, hmovement, -⟩, hrest⟩ := h
  have hsame : (selectionAt, validUntil) = (a, b) := by
    rw [window?, strictJsonObject_ok m hpayload] at hwindow
    simpa [hat, huntil] using hwindow
  obtain ⟨rfl, rfl⟩ := Prod.mk.inj hsame
  exact ⟨⟨by omega, hmode⟩, hloaded, payload, hpayload, hdicts, hkeys, hall, selectionAt, hat, validUntil, huntil,
    ⟨hrepository, htask, hshas, hexpected, hready, hpositive, horder, hmovement, ha, hb⟩, hrest⟩

end Control

variable {e : ExternalSelectionControlExpectation F} {names : List String}

/-! ## Projections are read back -/

section Projections

variable {F : Type} (m : Machine F)

theorem readGitObservation_payload (g : ReviewedGitObservation) : readGitObservation (F := F) g.payload = some g := by
  simp [readGitObservation, ReviewedGitObservation.payload, Value.text?, g.valid]

/-- The selection of a record, in the texts that are expected of the control. -/
def sealedSelection (binding : CandidateBinding) (e : ExternalSelectionControlExpectation F) (leaf : Value F)
    (selectionAt : Int) : Value F :=
  .dict
    [("repository", .str binding.repository), ("task_id", .str binding.taskId), ("base_sha", .str e.baseSha),
      ("candidate_sha", .str binding.candidateSha), ("candidate_tree", .str e.candidateTree), ("leaf", leaf),
        ("route", .str e.route),
      ("case_schema", .str e.schema), ("profile", .str e.profile), ("selection_at", .int selectionAt),
      ("gate", .str "recorder-capture-readiness"), ("blocker", .null), ("next_action", .str "record-terminal-snapshot")]

theorem selectionSection_eq [DecidableEq F] {value : Value F} {e : ExternalSelectionControlExpectation F}
    (hexpected : selectionExpected m value e = true) (hready : selectionReady value = true) (binding : CandidateBinding)
    (selectionAt : Int) :
    selectionSection binding value selectionAt = sealedSelection binding e (item value "active_leaf") selectionAt := by
  simp only [selectionExpected, Bool.and_eq_true] at hexpected
  simp only [selectionReady, Bool.and_eq_true] at hready
  obtain ⟨⟨⟨⟨⟨⟨⟨⟨-, -⟩, hbase⟩, -⟩, htree⟩, -⟩, hroute⟩, hschema⟩, hprofile⟩ := hexpected
  obtain ⟨⟨⟨-, hgate⟩, hblocker⟩, hnext⟩ := hready
  have hnull : item value "blocker" = .null := by
    rw [item, isNull_iff.1 hblocker]
    rfl
  rw [selectionSection, item_of_reads hbase, item_of_reads htree, item_of_reads hroute, item_of_reads hschema,
    item_of_reads hprofile, item_of_reads hgate, hnull, item_of_reads hnext]
  rfl

section Section

variable (binding : CandidateBinding) (e : ExternalSelectionControlExpectation F) (leaf : Value F) (selectionAt : Int)

theorem readArtifacts_section (a : CandidateArtifactProjection) (g : ReviewedGitObservation)
    (hbinding : (a.repository, a.taskId, a.candidateSha, a.candidateTree) =
      (binding.repository, binding.taskId, binding.candidateSha, e.candidateTree)) :
    readArtifacts (sealedSelection binding e leaf selectionAt) (artifactsSection a g) = some a := by
  simp only [Prod.mk.injEq] at hbinding
  obtain ⟨hrepository, htask, hsha, htree⟩ := hbinding
  simp [readArtifacts, sealedSelection, artifactsSection, Value.text?, ← hrepository, ← htask, ← hsha, ← htree, a.valid]

theorem readBinding_section : readBinding (sealedSelection binding e leaf selectionAt) = some binding := by
  simp [readBinding, sealedSelection, Value.text?, binding.valid]

/-- What the verifier wants of the selection that reconciliation does not see to. -/
structure SelectionSealable : Prop where
  leaf : ∃ n : Int, 0 < n ∧ leaf = .int n
  route : isV2Token e.route = true
  schema : e.schema = "roundwright-shadow-case/v2"
  profile : isProfileId e.profile = true

theorem checkSelection_iff (htask : isV2Token binding.taskId = true) (hbase : isHex 40 e.baseSha = true)
    (htree : isHex 40 e.candidateTree = true) (hat : 0 ≤ selectionAt) :
    checkSelection (sealedSelection binding e leaf selectionAt) = true ↔ SelectionSealable e leaf := by
  have hgate : isV2Token "recorder-capture-readiness" = true := by decide +kernel
  have hnext : isV2Token "record-terminal-snapshot" = true := by decide +kernel
  have hcheck : checkSelection (sealedSelection binding e leaf selectionAt) = true ↔
      ((((asInt? leaf).any (0 < ·) = true ∧ isV2Token e.route = true) ∧
        e.schema = "roundwright-shadow-case/v2") ∧ isProfileId e.profile = true) := by
    simp [checkSelection, sealedSelection, Value.text?, int?, asInt?, isNull, reads, htask, hbase, htree, hat, hgate,
      hnext, binding.valid.1, binding.valid.2.2]
  rw [hcheck]
  constructor
  · rintro ⟨⟨⟨hleaf, hroute⟩, hschema⟩, hprofile⟩
    refine ⟨?_, hroute, hschema, hprofile⟩
    obtain ⟨n, hn, hpositive⟩ := (Option.any_eq_true _ _).1 hleaf
    exact ⟨n, by simpa using hpositive, asInt?_iff.1 hn⟩
  · rintro ⟨⟨n, hn, rfl⟩, hroute, hschema, hprofile⟩
    exact ⟨⟨⟨by simpa [asInt?] using hn, hroute⟩, hschema⟩, hprofile⟩

/-- What the verifier wants of the control that reconciliation does not see to. -/
structure ExternalSealable : Prop where
  contract : isV2Token e.contractId = true
  orchestrator : isV2Token e.orchestratorTask = true

theorem checkRecorderStore_section (hsha : e.candidateSha = binding.candidateSha)
    (hbinding : isDigest e.recorderBindingDigest = true) (hidentity : isDigest e.recorderStoreIdentity = true)
    (hcontract : e.recorderStoreContract = "append-only-content-addressed-readback") :
    checkRecorderStore (expectedRecorderStore e e.candidateSha) (sealedSelection binding e leaf selectionAt) = true := by
  simp [checkRecorderStore, expectedRecorderStore, sealedSelection, Value.text?, reads, hsha, hbinding, hidentity, hcontract]

end Section

theorem checkObservation_iff (o : ObservedDependency) :
    checkObservation (o.value m) = true ↔
      isV2Token o.identifier = true ∧ isV2Token o.sourceIdentity = true ∧ isV2Token o.version = true := by
  obtain ⟨-, -, -, -, hartifact, hexecutable, hpolicy, hobserved⟩ := o.valid
  have hcomponent : isV2Token o.component.value = true := by
    cases o.component <;> decide +kernel
  simp [checkObservation, observationKeys, ObservedDependency.value, Value.text?, int?, asInt?, hcomponent, hartifact,
    hexecutable, hpolicy, hobserved, ObservedDependency.fingerprint, isDigest_fingerprint]

theorem checkDependency_section [DecidableEq F] (c : DependencyExecutionControl m) : checkDependency
    (dependencySection m c) = true := by
  obtain ⟨hpolicy, hreceipt, hreviewer, hauthority, -⟩ := c.admission.valid
  simp [checkDependency, dependencySection, TrustedDependencyAdmission.value, Value.text?, CandidateBinding.fingerprint,
    DependencyPolicy.coreFingerprint, isDigest_fingerprint, c.policy.valid.1, hpolicy, hreceipt, hreviewer, hauthority]

theorem ofText?_value (c : DependencyComponent) : DependencyComponent.ofText? c.value = some c := by
  cases c <;> decide

theorem readObservation_value (o : ObservedDependency) : readObservation o.binding (o.value m) = some o := by
  simp [readObservation, ObservedDependency.value, Value.text?, int?, asInt?, ofText?_value, o.valid]

/-! ## The validation is read back -/

theorem mk?_self (n : NamedContentIdentity) : NamedContentIdentity.mk? n.name n.digest n.version = some n := dif_pos n.valid

variable {items : List NamedContentIdentity}

theorem mapM_named {read : String → Option NamedContentIdentity} (h : ∀ n ∈ items, read n.name = some n) :
    (items.map (·.name)).mapM read = some items := by
  induction items with
  | nil => rfl
  | cons n items ih =>
    have hrest := ih fun a ha => h a (List.mem_cons_of_mem n ha)
    simp [h n List.mem_cons_self, hrest]

theorem canonical_spec {tools : Bool} (h : canonicalNamedIdentities items names tools = true) :
    items.map (·.name) = names ∧ ∀ n ∈ items, n.version.isSome = tools := by
  simpa [canonicalNamedIdentities] using h

/-- Digests by name, read back in the order of the names. -/
theorem mapM_digests (hnames : names.Nodup) (h : canonicalNamedIdentities items names false = true) :
    (names.mapM fun name => do
      NamedContentIdentity.mk? name (← (Value.dict (F := F) (items.map fun n => (n.name, .str n.digest))).text? name)
        none) = some items := by
  obtain ⟨rfl, hversions⟩ := canonical_spec h
  refine mapM_named fun n hn => ?_
  have hnone : n.version = none := by simpa using hversions n hn
  have hself := mk?_self n
  rw [hnone] at hself
  simp [Value.text?, Value.get?_dict_map hnames hn, hself, -Value.get?_dict]

theorem mapM_tools (hnames : names.Nodup) (h : canonicalNamedIdentities items names true = true) :
    (names.mapM fun name => do
      let tool ← (Value.dict (F := F) (items.map fun n =>
        (n.name, .dict [("version", (n.version.map .str).getD .null), ("digest", .str n.digest)]))).get? name
      NamedContentIdentity.mk? name (← tool.text? "digest") (tool.text? "version")) = some items := by
  obtain ⟨rfl, hversions⟩ := canonical_spec h
  refine mapM_named fun n hn => ?_
  obtain ⟨version, hversion⟩ := Option.isSome_iff_exists.1 (hversions n hn)
  have hself := mk?_self n
  rw [hversion] at hself
  rw [Value.get?_dict_map hnames hn]
  simp [Value.text?, hversion, hself]

theorem sections_payload (v : VerifiedValidationToolchainProjection) :
    item (F := F) v.publicPayload "requirements" = .dict (v.requirements.map fun n => (n.name, .str n.digest)) ∧
    item (F := F) v.publicPayload "environments" = .dict (v.environments.map fun n => (n.name, .str n.digest)) ∧
    item (F := F) v.publicPayload "tools" = .dict (v.tools.map fun n =>
      (n.name, .dict [("version", (n.version.map .str).getD .null), ("digest", .str n.digest)])) := by
  simp [VerifiedValidationToolchainProjection.publicPayload]

theorem readValidation_payload (v : VerifiedValidationToolchainProjection) : readValidation (F := F) v.publicPayload =
    some v := by
  obtain ⟨-, -, -, hrequirements, henvironments, htools⟩ := v.valid
  have hlock : (v.publicPayload (F := F)).text? "lock_digest" = some v.lockDigest := by
    simp [VerifiedValidationToolchainProjection.publicPayload, Value.text?]
  have hcache : (v.publicPayload (F := F)).text? "cache_key" = some v.cacheKey := by
    simp [VerifiedValidationToolchainProjection.publicPayload, Value.text?]
  have hreceipt : (v.publicPayload (F := F)).text? "receipt_digest" = some v.receiptDigest := by
    simp [VerifiedValidationToolchainProjection.publicPayload, Value.text?]
  obtain ⟨hreq, henv, htool⟩ := sections_payload (F := F) v
  unfold readValidation
  rw [hlock, hcache, hreceipt, hreq, henv, htool, mapM_digests (by decide) hrequirements, mapM_digests
    (by decide) henvironments, mapM_tools (by decide) htools]
  exact dif_pos v.valid

/-! ## Sections of a record -/

section Sections

variable [DecidableEq F] {m} {c : ExternalSelectionControl F} {i : Evidence m} {payload : Value F}
  {s : VerifiedProvenanceSelection F} {dependency : String} {observations : List String}

/-- What the fingerprint of a control is, and what was checked for it. -/
structure Controlled (d : DependencyExecutionControl m) (dependency : String) (observations : List String) : Prop where
  nonempty : d.observations ≠ []
  bindings : ∀ o ∈ d.observations, o.binding = d.policy.binding ∧ o.policyDigest = d.policy.policyDigest
  nodup : (d.observations.map (·.component)).Nodup
  admission : d.admission.policyFingerprint = d.policy.coreFingerprint
  listed : observations = (sortBy (·.component.value) d.observations).map (·.fingerprint m)
  named : dependency = m.fingerprint (.dict
    [("binding", .str (d.policy.binding.fingerprint m)), ("policy", .str d.policy.coreFingerprint),
      ("observations", texts observations),
        ("admission", texts [d.admission.policyFingerprint, d.admission.receiptDigest, d.admission.reviewerIdentity, d.admission.authorityDigest])])

variable {d : DependencyExecutionControl m}

theorem require_admission {binding : CandidateBinding} {stage : DependencyStage} {now : Int}
    (h : d.require binding stage now = .ok ()) : d.admission.policyFingerprint = d.policy.coreFingerprint := by
  simp only [DependencyExecutionControl.require, evaluateDependencyPreflight, bind_eq_ok, exists_unit, refuse_eq_ok,
    Bool.not_eq_false] at h
  obtain ⟨-, -, -, hadmission, -⟩ := h
  simp only [verifyPolicyAdmission, Bool.and_eq_true, decide_eq_true_eq] at hadmission
  exact hadmission.1.2

theorem controlFingerprint_spec {now : Int} (h : controlFingerprint m d now = .ok (dependency, observations)) :
    Controlled d dependency observations := by
  simp only [controlFingerprint, bind_eq_ok, exists_unit, refuse_eq_ok, pure_eq_ok, not_or, not_not, Prod.mk.injEq,
    rewrap_eq_ok] at h
  obtain ⟨hnonempty, ⟨hbindings, hnodup, -⟩, hrequire, hdependency, hobservations⟩ := h
  refine ⟨hnonempty, fun o ho => ?_, hnodup, require_admission hrequire, hobservations.symm, ?_⟩
  · simpa [not_or] using fun hbad => hbindings (List.any_eq_true.2 ⟨o, ho, hbad⟩)
  · rw [← hdependency, hobservations]

theorem controlFingerprint_at {now now' : Int} {r : String × List String} (h : controlFingerprint m d now = .ok r) :
    controlFingerprint m d now' = .ok r ↔ d.require d.policy.binding .gitEntrypoint now' = .ok () := by
  simp only [controlFingerprint, bind_eq_ok, exists_unit, refuse_eq_ok, rewrap_eq_ok] at h ⊢
  obtain ⟨hnonempty, hcomplete, -, hr⟩ := h
  exact ⟨fun hall => hall.2.2.1, fun hrequire => ⟨hnonempty, hcomplete, hrequire, hr⟩⟩

/-- The keys of the validation and of the artifacts are those of the projections. -/
theorem checkShapes_section (v : VerifiedValidationToolchainProjection) (a : CandidateArtifactProjection)
    (g : ReviewedGitObservation) :
    checkShapes m v.publicPayload (artifactsSection a g) = true := by
  obtain ⟨-, -, -, hrequirements, henvironments, htools⟩ := v.valid
  obtain ⟨hreq, henv, htool⟩ := sections_payload (F := F) v
  have hkinds : (texts (F := F) exportArtifactKinds).same m.floats (texts exportArtifactKinds) = true :=
    (Value.same_iff_eq _ _ _ (by rfl)).2 rfl
  have hpayload : (v.publicPayload (F := F)).hasKeys
      ["lock_digest", "cache_key", "receipt_digest", "requirements", "environments", "tools"] = true := by
    simp [VerifiedValidationToolchainProjection.publicPayload]
  have hnames : ∀ {items : List NamedContentIdentity} {names : List String} {tools : Bool}
      {value : NamedContentIdentity → Value F}, canonicalNamedIdentities items names tools = true →
        (Value.dict (items.map fun n => (n.name, value n))).hasKeys names = true := by
    intro items names tools value h
    obtain ⟨rfl, -⟩ := canonical_spec h
    simp only [Value.hasKeys_dict, List.map_map, Function.comp_def, Bool.and_eq_true, List.all_eq_true, decide_eq_true_eq]
    exact ⟨fun _ h => h, fun _ h => h⟩
  unfold checkShapes
  rw [hpayload, hreq, henv, htool, hnames hrequirements, hnames henvironments, hnames htools]
  simp [artifactsSection, ReviewedGitObservation.payload, hkinds]

theorem Reconciled.digests (h : Reconciled m c i payload s dependency observations) :
    isDigest c.contractDigest = true ∧ isDigest s.candidateFingerprint = true ∧ isDigest s.controlFingerprint = true ∧
      isDigest s.selectionFingerprint = true ∧ isDigest dependency = true ∧ 0 ≤ s.selectionAt := by
  have hvalid := h.sealed.valid
  simp only [SelectionColumns.validate, refuse_eq_ok, not_or, List.any_cons, List.any_nil, Bool.or_false,
    Bool.or_eq_true, decide_eq_true_eq, Bool.not_eq_false, not_lt] at hvalid
  obtain ⟨⟨-, -, hcontract, hcandidate, -, -, hcontrol, -⟩, -, hat⟩ := hvalid
  have hdependency : isDigest dependency = true := by
    rw [(controlFingerprint_spec h.controls).named]
    exact isDigest_fingerprint m _
  rw [h.columns] at hcontract
  refine ⟨hcontract, hcandidate, hcontrol, ?_, hdependency, hat⟩
  rw [h.sealed.selection]
  exact isDigest_fingerprint m _

theorem checkExternal_iff (hloaded : Loaded m c payload) (h : Reconciled m c i payload s dependency observations)
    {binding : CandidateBinding} (hsha : c.expected.candidateSha = binding.candidateSha) (leaf : Value F) :
    checkExternal (externalSection c) (sealedSelection binding c.expected leaf s.selectionAt)
        (fingerprintsSection m s i dependency (item payload "recorder_store")) = true ↔ ExternalSealable c.expected := by
  obtain ⟨hcontract, hcandidate, hcontrol, hselection, hdependency, -⟩ := h.digests
  have hmode : c.mode.lower = "final" := by rw [h.mode]; rfl
  have hretention := hloaded.retention
  rw [hmode, hsha] at hretention
  have hcheck : checkExternal (externalSection c) (sealedSelection binding c.expected leaf s.selectionAt)
      (fingerprintsSection m s i dependency (item payload "recorder_store")) = true ↔
      isV2Token c.expected.contractId = true ∧ isV2Token c.expected.orchestratorTask = true := by
    simp [checkExternal, externalSection, sealedSelection, fingerprintsSection, Value.text?, reads, hretention, hmode,
      hloaded.payloadDigest, hloaded.receiptDigest, hcontract, hcandidate, hcontrol, hselection, hdependency,
        isDigest_fingerprint,
      VerifiedValidationToolchainProjection.projectionFingerprint, CandidateArtifactProjection.projectionFingerprint,
      ReviewedGitObservation.observationFingerprint]
  rw [hcheck]
  exact ⟨fun ⟨hc, ho⟩ => ⟨hc, ho⟩, fun ⟨hc, ho⟩ => ⟨hc, ho⟩⟩

/-! ## The document is canonical -/

omit [DecidableEq F] in
theorem texts_canonical (items : List String) : (texts (F := F) items).Canonical := by
  refine Value.canonicalItems_iff.2 ?_
  simp [Value.Canonical]

omit [DecidableEq F] in
theorem publicPayload_canonical (v : VerifiedValidationToolchainProjection) : (v.publicPayload (F := F)).Canonical := by
  obtain ⟨-, -, -, hrequirements, henvironments, htools⟩ := v.valid
  have hnodup : ∀ {items : List NamedContentIdentity} {names : List String} {tools : Bool}
      {value : NamedContentIdentity → Value F}, names.Nodup → canonicalNamedIdentities items names tools = true →
        (∀ n, (value n).Canonical) →
        (Value.dict (items.map fun n => (n.name, value n))).Canonical := by
    intro items names tools value hnames h hvalue
    obtain ⟨rfl, -⟩ := canonical_spec h
    refine Value.dict_canonical (by rw [List.map_map]; exact hnames) fun f hf => ?_
    obtain ⟨n, -, rfl⟩ := List.mem_map.1 hf
    exact hvalue n
  have htool : ∀ n : NamedContentIdentity,
      (Value.dict (F := F) [("version", (n.version.map .str).getD .null), ("digest", .str n.digest)]).Canonical := by
    intro n
    refine Value.dict_canonical (by simp) ?_
    cases n.version <;> simp [Value.Canonical]
  refine Value.dict_canonical (by simp) ?_
  simp only [List.forall_mem_cons, List.not_mem_nil, false_implies, implies_true, and_true]
  refine ⟨trivial, trivial, trivial, hnodup (by decide) hrequirements ?_, hnodup (by decide) henvironments ?_,
    hnodup (by decide) htools htool⟩
  · simp [Value.Canonical]
  · simp [Value.Canonical]

omit [DecidableEq F] in
theorem artifactsSection_canonical (a : CandidateArtifactProjection) (g : ReviewedGitObservation) :
    (artifactsSection (F := F) a g).Canonical := by
  refine Value.dict_canonical (by simp) ?_
  simp only [List.forall_mem_cons, List.not_mem_nil, false_implies, implies_true, and_true]
  refine ⟨Value.dict_canonical (by simp) (by simp [Value.Canonical]), trivial, trivial,
    Value.dict_canonical (by simp) (by simp [Value.Canonical]), texts_canonical _⟩

omit [DecidableEq F] in
theorem dependencySection_canonical (d : DependencyExecutionControl m) : (dependencySection m d).Canonical := by
  refine Value.dict_canonical (by simp) ?_
  simp only [List.forall_mem_cons, List.not_mem_nil, false_implies, implies_true, and_true]
  refine ⟨trivial, trivial, trivial, Value.canonicalItems_iff.2 fun v hv => ?_,
    Value.dict_canonical (by simp) (by simp [Value.Canonical])⟩
  obtain ⟨o, -, rfl⟩ := List.mem_map.1 hv
  exact Value.dict_canonical (by simp) (by simp [Value.Canonical])

omit [DecidableEq F] in
theorem sealedSelection_canonical (binding : CandidateBinding) (e : ExternalSelectionControlExpectation F)
    {leaf : Value F} (hleaf : leaf.Canonical) (selectionAt : Int) : (sealedSelection binding e leaf selectionAt).Canonical := by
  refine Value.dict_canonical (by simp) ?_
  simp [Value.Canonical, hleaf]

/-- What counts for a number is one, and no infinity. -/
theorem canonical_of_same {v : Value F} {n : Int} (h : v.same m.floats (.int n) = true) : v.Canonical := by
  cases v <;> simp_all [Value.same, Value.numeric, Value.Canonical]

/-! ## What is derived again -/

/-- The evidence is of one candidate, the one that is expected. -/
structure Bound (i : Evidence m) (e : ExternalSelectionControlExpectation F) (selectionAt : Int) : Prop where
  repository : i.dependencyControl.policy.binding.repository = e.repository
  task : i.dependencyControl.policy.binding.taskId = e.taskId
  candidate : i.dependencyControl.policy.binding.candidateSha = e.candidateSha
  artifacts : (i.artifacts.repository, i.artifacts.taskId, i.artifacts.candidateSha, i.artifacts.candidateTree) =
    (i.dependencyControl.policy.binding.repository, i.dependencyControl.policy.binding.taskId,
      i.dependencyControl.policy.binding.candidateSha, e.candidateTree)
  gitControl : i.gitControl.binding = i.dependencyControl.policy.binding
  gitNow : i.gitControl.now = selectionAt
  git : (i.gitObservation.repository, i.gitObservation.taskId, i.gitObservation.candidateSha) =
    (i.dependencyControl.policy.binding.repository, i.dependencyControl.policy.binding.taskId,
      i.dependencyControl.policy.binding.candidateSha)
  gitBinding : i.gitObservation.bindingFingerprint = i.dependencyControl.policy.binding.fingerprint m

theorem bound_spec {e : ExternalSelectionControlExpectation F} {selectionAt : Int}
    (h : i.bound e.repository e.taskId e.candidateSha e.candidateTree selectionAt = true) : Bound i e selectionAt := by
  simp only [Evidence.bound, Bool.and_eq_true, decide_eq_true_eq, Prod.mk.injEq] at h
  obtain ⟨⟨⟨⟨⟨⟨⟨hr, ht, hc⟩, har, hat, hac, hatree⟩, hgr, hgt, hgc⟩, -⟩, hnow⟩, hor, hot, hoc⟩, hbinding⟩ := h
  refine ⟨hr, ht, hc, ?_, ?_, hnow, ?_, hbinding⟩
  · rw [har, hat, hac, hatree, hr, ht, hc]
  · cases hg : i.gitControl.binding with
    | mk repository taskId candidateSha valid =>
      cases hd : i.dependencyControl.policy.binding with
      | mk repository' taskId' candidateSha' valid' => simp_all
  · rw [hor, hot, hoc, hr, ht, hc]

/-- What the verifier reads of the document. -/
def reading (c : ExternalSelectionControl F) (i : Evidence m) (leaf : Value F) (selectionAt : Int) : Reading (F := F) where
  external := externalSection c
  selection := sealedSelection i.dependencyControl.policy.binding c.expected leaf selectionAt
  recorderStore := expectedRecorderStore c.expected c.expected.candidateSha
  dependency := dependencySection m i.dependencyControl
  validation := i.validation
  artifacts := i.artifacts
  git := i.gitObservation
  binding := i.dependencyControl.policy.binding
  observations := sortBy (·.component.value) i.dependencyControl.observations

section Derived

variable (h : Reconciled m c i payload s dependency observations) (leaf : Value F)

include h

theorem observationFingerprints_reading : (reading c i leaf s.selectionAt).observationFingerprints m = observations := by
  rw [(controlFingerprint_spec h.controls).listed, Reading.observationFingerprints]
  show (sortBy _ (sortBy _ i.dependencyControl.observations)).map _ = _
  rw [sortBy_eq_self (sortBy_pairwise _ _)]

theorem dependencyFingerprint_reading : (reading c i leaf s.selectionAt).dependencyFingerprint m = dependency := by
  rw [(controlFingerprint_spec h.controls).named, Reading.dependencyFingerprint, observationFingerprints_reading h]
  simp [reading, dependencySection, TrustedDependencyAdmission.value, texts]

theorem gitControlFingerprint_reading :
    (reading c i leaf s.selectionAt).gitControlFingerprint m = gitControlFingerprint m i.gitControl.binding dependency
    i.gitControl.now := by
  have hbound := bound_spec h.bound
  rw [hbound.gitControl, hbound.gitNow, gitControlFingerprint, Reading.gitControlFingerprint, dependencyFingerprint_reading h]
  simp [reading, sealedSelection]

theorem candidateFingerprint_reading : (reading c i leaf s.selectionAt).candidateFingerprint m = s.candidateFingerprint := by
  have hbound := bound_spec h.bound
  rw [h.columns, Reading.candidateFingerprint]
  simp [reading, sealedSelection, candidateFingerprint, hbound.repository, hbound.task, hbound.candidate]

theorem controlFingerprint_reading : (reading c i leaf s.selectionAt).controlFingerprint m = s.controlFingerprint := by
  rw [Reading.controlFingerprint, dependencyFingerprint_reading h, gitControlFingerprint_reading h,
    observationFingerprints_reading h]
  exact (congrArg SelectionColumns.controlFingerprint h.columns).symm

theorem selectionFingerprint_reading : (reading c i leaf s.selectionAt).selectionFingerprint m = s.selectionFingerprint := by
  rw [h.sealed.selection, Reading.selectionFingerprint, candidateFingerprint_reading h, controlFingerprint_reading h]
  have hvalidation := congrArg SelectionColumns.validationFingerprint h.columns
  have hgit := congrArg SelectionColumns.gitFingerprint h.columns
  have hrecorder := congrArg SelectionColumns.recorderStoreFingerprint h.columns
  have hpayload := congrArg SelectionColumns.payloadDigest h.columns
  have hreceipt := congrArg SelectionColumns.receiptDigest h.columns
  have hcontract := congrArg SelectionColumns.contractDigest h.columns
  have hretention := congrArg SelectionColumns.retentionIdentity h.columns
  simp only at hvalidation hgit hrecorder hpayload hreceipt hcontract hretention
  simp [reading, SelectionColumns.value, externalSection, sealedSelection, hvalidation, hgit, hrecorder, hpayload,
    hreceipt, hcontract, hretention]

/-- Every fingerprint of the record is derived again. -/
theorem fingerprints_reading :
    (reading c i leaf s.selectionAt).fingerprints m = fingerprintsSection m s i dependency (item payload "recorder_store") := by
  rw [Reading.fingerprints, candidateFingerprint_reading h, dependencyFingerprint_reading h,
    controlFingerprint_reading h, selectionFingerprint_reading h, h.recorder]
  rfl

theorem dependencyConsistent_reading : (reading c i leaf s.selectionAt).dependencyConsistent m
    ((sortBy (·.component.value) i.dependencyControl.observations).map (·.value m)) = true := by
  have hcontrolled := controlFingerprint_spec h.controls
  have hfingerprints : observations.map some =
      ((sortBy (·.component.value) i.dependencyControl.observations).map (·.value m)).map (·.text? "fingerprint") := by
    rw [hcontrolled.listed, List.map_map, List.map_map]
    refine List.map_congr_left fun o _ => ?_
    simp [ObservedDependency.value, Value.text?]
  have hpolicy : ((reading c i leaf s.selectionAt).observations.all fun o =>
      reads (reading c i leaf s.selectionAt).dependency "policy_digest" o.policyDigest) = true := by
    refine List.all_eq_true.2 fun o ho => ?_
    rw [(hcontrolled.bindings o (mem_sortBy.1 ho)).2]
    simp [reading, dependencySection, reads, Value.text?]
  have hadmission : (item (reading c i leaf s.selectionAt).dependency "admission").text? "policy_fingerprint" =
      (reading c i leaf s.selectionAt).dependency.text? "policy_fingerprint" := by
    simp [reading, dependencySection, TrustedDependencyAdmission.value, Value.text?, hcontrolled.admission]
  have hbinding : reads (reading c i leaf s.selectionAt).dependency "binding_fingerprint"
      ((reading c i leaf s.selectionAt).binding.fingerprint m) = true := by
    simp [reading, dependencySection, reads, Value.text?]
  unfold Reading.dependencyConsistent
  rw [observationFingerprints_reading h, hpolicy, hadmission, hbinding]
  simp [hfingerprints]

theorem projectionsConsistent_reading : (reading c i leaf s.selectionAt).projectionsConsistent m = true := by
  have hbound := bound_spec h.bound
  have hgit := hbound.git
  simp only [Prod.mk.injEq] at hgit
  have hobserved := h.observed
  simp only [Evidence.observed, Bool.and_eq_true] at hobserved
  have hfind : ∀ name : String, (reading c i leaf s.selectionAt).observations.find?
      (fun o => o.component.value = name) = i.dependencyControl.observations.find? fun o => o.component.value = name :=
    fun name => find?_sortBy _ name _
  have hcontrol : i.gitObservation.controlFingerprint = (reading c i leaf s.selectionAt).gitControlFingerprint m := by
    rw [gitControlFingerprint_reading h]
    exact h.git
  have hselection : reads (reading c i leaf s.selectionAt).selection "repository" i.gitObservation.repository = true ∧
      reads (reading c i leaf s.selectionAt).selection "task_id" i.gitObservation.taskId = true ∧
      reads (reading c i leaf s.selectionAt).selection "candidate_sha" i.gitObservation.candidateSha = true := by
    simp [reading, sealedSelection, reads, Value.text?, hgit]
  unfold Reading.projectionsConsistent
  rw [hfind, hfind, Bool.and_eq_true]
  refine ⟨hobserved.1, ?_⟩
  obtain ⟨o, ho, hsame⟩ := (Option.any_eq_true _ _).1 hobserved.2
  refine (Option.any_eq_true _ _).2 ⟨o, ho, ?_⟩
  show (reads _ _ i.gitObservation.repository && reads _ _ i.gitObservation.taskId &&
    reads _ _ i.gitObservation.candidateSha && decide (i.gitObservation.bindingFingerprint = _) && _ && decide
      (i.gitObservation.controlFingerprint = _)) = true
  rw [hselection.1, hselection.2.1, hselection.2.2, hbound.gitBinding, hcontrol]
  simpa [reading] using hsame

end Derived

/-! ## The verifier accepts what is sealed -/

/-- What the verifier wants of the control and of the evidence that reconciliation does not see to. -/
structure Sealable (c : ExternalSelectionControl F) (i : Evidence m) (payload : Value F) : Prop where
  external : ExternalSealable c.expected
  selection : SelectionSealable c.expected (item (item payload "selection") "active_leaf")
  observations : ∀ o ∈ i.dependencyControl.observations,
    isV2Token o.identifier = true ∧ isV2Token o.sourceIdentity = true ∧ isV2Token o.version = true

theorem leaf_canonical (hloaded : Loaded m c payload) : (item (item payload "selection") "active_leaf").Canonical := by
  have hselection := hloaded.selection
  simp only [selectionExpected, Bool.and_eq_true] at hselection
  obtain ⟨leaf, hleaf, hsame⟩ := (Option.any_eq_true _ _).1 hselection.1.1.1.2
  rw [item, hleaf]
  exact canonical_of_same hsame

/-- The sections of the document. -/
theorem recordFields_eq (hloaded : Loaded m c payload) (hready : selectionReady (item payload "selection") = true)
    (hrecorder : item payload "recorder_store" = expectedRecorderStore c.expected c.expected.candidateSha) :
    recordFields m c payload s i dependency =
      [("schema", .str "roundwright-verified-provenance-record/v1"), ("external", externalSection c),
        ("selection", sealedSelection i.dependencyControl.policy.binding c.expected
          (item (item payload "selection") "active_leaf") s.selectionAt),
        ("fingerprints", fingerprintsSection m s i dependency (item payload "recorder_store")),
          ("validation", i.validation.publicPayload),
        ("artifacts", artifactsSection i.artifacts i.gitObservation), ("dependency", dependencySection m i.dependencyControl),
        ("recorder_store", expectedRecorderStore c.expected c.expected.candidateSha)] := by
  rw [recordFields, selectionSection_eq m hloaded.selection hready, ← hrecorder]

theorem recordFields_canonical (hloaded : Loaded m c payload)
    (hready : selectionReady (item payload "selection") = true)
    (hrecorder : item payload "recorder_store" = expectedRecorderStore c.expected c.expected.candidateSha) :
    ∀ f ∈ recordFields m c payload s i dependency, f.2.Canonical := by
  rw [recordFields_eq hloaded hready hrecorder]
  simp only [List.forall_mem_cons, List.not_mem_nil, false_implies, implies_true, and_true]
  exact ⟨trivial, Value.dict_canonical (by simp) (by simp [Value.Canonical]),
    sealedSelection_canonical _ _ (leaf_canonical hloaded) _, Value.dict_canonical (by simp)
      (by simp [Value.Canonical]), publicPayload_canonical _, artifactsSection_canonical _ _,
    dependencySection_canonical _, Value.dict_canonical (by simp) (by simp [Value.Canonical])⟩

variable {fields : List (String × Value F)}

omit [DecidableEq F] in
theorem digested_keys (hkeys : (fields.map (·.1)).Nodup) (hdigest : "record_digest" ∉ fields.map (·.1))
    {digest : Value F} : ((fields ++ [("record_digest", digest)]).map (·.1)).Nodup := by
  rw [List.map_append, List.map_singleton]
  refine List.nodup_append.2 ⟨hkeys, List.nodup_singleton _, fun a ha b hb hab => hdigest ?_⟩
  have hkey : b = "record_digest" := List.mem_singleton.1 hb
  rw [← hkey, ← hab]
  exact ha

omit [DecidableEq F] in
theorem digested_canonical (hkeys : (fields.map (·.1)).Nodup) (hdigest : "record_digest" ∉ fields.map (·.1))
    (hfields : ∀ f ∈ fields, f.2.Canonical) : (digested m fields).Canonical := by
  refine Value.dict_canonical (digested_keys hkeys hdigest) fun f hf => ?_
  rcases List.mem_append.1 hf with hf | hf
  · exact hfields f hf
  · rw [List.mem_singleton.1 hf]
    trivial

theorem recordFields_keys : ((recordFields m c payload s i dependency).map (·.1)).Nodup ∧
    "record_digest" ∉ (recordFields m c payload s i dependency).map (·.1) := by
  simp [recordFields]

theorem strictJsonObject_digested (hloaded : Loaded m c payload)
    (h : Reconciled m c i payload s dependency observations) (label : String) :
    strictJsonObject m (m.dumps (digested m (recordFields m c payload s i dependency))) label =
      .ok (digested m (recordFields m c payload s i dependency)) := by
  have hkeys := @recordFields_keys F m _ c i payload s dependency
  have hread := loads_dumps m.floats
    (digested_canonical (m := m) hkeys.1 hkeys.2 (recordFields_canonical hloaded h.ready h.recorder))
  simp only [strictJsonObject, bind_eq_ok, exists_unit, demand_eq_ok, refuse_eq_ok, pure_eq_ok]
  exact ⟨_, hread, by simp [digested], rfl⟩

omit [DecidableEq F] in
/-- The digest of the document is that of its other fields. -/
theorem without_digested (hkeys : (fields.map (·.1)).Nodup) (hdigest : "record_digest" ∉ fields.map (·.1)) :
    (digested m fields).without "record_digest" = .dict fields := by
  have hfilter : (fields.filter fun f => f.1 ≠ "record_digest") = fields := by
    refine List.filter_eq_self.2 fun f hf => ?_
    rw [decide_eq_true_eq]
    exact fun hkey => hdigest (hkey ▸ List.mem_map_of_mem hf)
  rw [digested, Value.without_dict (digested_keys hkeys hdigest), List.filter_append, hfilter]
  simp

omit [DecidableEq F] in
theorem mapM_readObservation (h : ∀ o ∈ d.observations, o.binding = d.policy.binding) :
    ((sortBy (·.component.value) d.observations).map (·.value m)).mapM (readObservation d.policy.binding) =
      some (sortBy (·.component.value) d.observations) := by
  have hall : ∀ o ∈ sortBy (·.component.value) d.observations, readObservation d.policy.binding (o.value m) = some o := by
    intro o ho
    rw [← h o (mem_sortBy.1 ho)]
    exact readObservation_value m o
  generalize sortBy (fun o : ObservedDependency => o.component.value) d.observations = l at hall
  induction l with
  | nil => rfl
  | cons o l ih =>
    have hrest := ih fun a ha => hall a (List.mem_cons_of_mem o ha)
    rw [List.map_cons, List.mapM_cons, hall o List.mem_cons_self, hrest]
    rfl

omit [DecidableEq F] in
/-- The observations of the document pass the verifier exactly when their texts are tokens of records too. -/
theorem checkObservations_iff :
    ¬ (((sortBy (·.component.value) d.observations).map (·.value m)).any fun o => checkObservation o = false) = true ↔
      ∀ o ∈ d.observations, isV2Token o.identifier = true ∧ isV2Token o.sourceIdentity = true ∧ isV2Token o.version = true := by
  rw [List.any_map, List.any_eq_true]
  simp only [Function.comp_apply, decide_eq_true_eq, not_exists, not_and, Bool.not_eq_false, mem_sortBy, checkObservation_iff]

omit [DecidableEq F] in
theorem components_nodup (h : (d.observations.map (·.component)).Nodup) :
    (((sortBy (·.component.value) d.observations).map (·.value m)).map (·.text? "component")).Nodup := by
  have hinjective : Function.Injective fun k : DependencyComponent => some k.value := by
    intro a b hab
    have := congrArg (·.bind DependencyComponent.ofText?) hab
    simpa [ofText?_value] using this
  have htexts : ((sortBy (·.component.value) d.observations).map (·.value m)).map (·.text? "component") =
      ((sortBy (·.component.value) d.observations).map (·.component)).map fun k => some k.value := by
    rw [List.map_map, List.map_map]
    refine List.map_congr_left fun o _ => ?_
    simp [ObservedDependency.value, Value.text?]
  rw [htexts]
  exact (((sortBy_perm _ d.observations).map _).nodup_iff.2 h).map hinjective

/-- The sections of the document as the verifier takes them. -/
theorem item_digested (hloaded : Loaded m c payload) (h : Reconciled m c i payload s dependency observations) :
    let doc := digested m (recordFields m c payload s i dependency)
    item doc "external" = externalSection c ∧
    item doc "selection" = sealedSelection i.dependencyControl.policy.binding c.expected
      (item (item payload "selection") "active_leaf") s.selectionAt ∧
    item doc "fingerprints" = fingerprintsSection m s i dependency (item payload "recorder_store") ∧
    item doc "validation" = i.validation.publicPayload ∧ item doc "artifacts" = artifactsSection i.artifacts i.gitObservation ∧
    item doc "dependency" = dependencySection m i.dependencyControl ∧
    item doc "recorder_store" = expectedRecorderStore c.expected c.expected.candidateSha := by
  intro doc
  have hdoc : doc = .dict (recordFields m c payload s i dependency ++
      [("record_digest", .str (m.fingerprint (.dict (recordFields m c payload s i dependency))))]) := rfl
  generalize Value.str (m.fingerprint (.dict (recordFields m c payload s i dependency))) = digest at hdoc
  rw [hdoc, recordFields_eq hloaded h.ready h.recorder]
  simp only [item_dict, List.cons_append, List.nil_append, List.find?_cons]
  simp

theorem keys_digested :
    (digested m (recordFields m c payload s i dependency)).hasKeys
    ["schema", "record_digest", "external", "selection", "fingerprints",
      "validation", "artifacts", "dependency", "recorder_store"] = true ∧
    reads (digested m (recordFields m c payload s i dependency)) "schema" "roundwright-verified-provenance-record/v1" = true ∧
    reads (digested m (recordFields m c payload s i dependency)) "record_digest"
      (m.fingerprint (.dict (recordFields m c payload s i dependency))) = true := by
  refine ⟨?_, ?_, ?_⟩
  · simp [digested, recordFields]
  · simp [digested, recordFields, reads, Value.text?]
  · rw [reads_iff, digested, Value.get?_dict, List.find?_append]
    simp [recordFields]

theorem keys_sections {l : Value F} :
    (externalSection c).hasKeys ["payload_digest", "receipt_digest", "contract_digest", "retention_identity", "run_id",
    "contract_id",
      "orchestrator_task", "mode"] = true ∧
    (sealedSelection i.dependencyControl.policy.binding c.expected l s.selectionAt).hasKeys ["repository", "task_id", "base_sha",
      "candidate_sha", "candidate_tree", "leaf", "route", "case_schema", "profile", "selection_at", "gate", "blocker",
        "next_action"] = true ∧
    (fingerprintsSection m s i dependency (item payload "recorder_store")).hasKeys
    ["candidate", "validation", "artifacts", "dependency", "git",
      "control", "selection", "recorder_store"] = true := by
  refine ⟨?_, ?_, ?_⟩
  · simp [externalSection]
  · simp [sealedSelection]
  · simp [fingerprintsSection]

omit [DecidableEq F] in
/-- The items of the observations, of which there is one at least. -/
theorem observations_cons (h : d.observations ≠ []) :
    ∃ o rest, (sortBy (·.component.value) d.observations).map (·.value m) = o :: rest := by
  refine List.exists_cons_of_ne_nil fun hnil => h ?_
  have hsorted : sortBy (·.component.value) d.observations = [] := List.map_eq_nil_iff.1 hnil
  exact (hsorted ▸ sortBy_perm _ d.observations).symm.eq_nil

/-- The verifier accepts the document of a reconciled selection exactly when the texts are such as records want them. -/
theorem verifiedRecordDocument_iff (hloaded : Loaded m c payload)
    (h : Reconciled m c i payload s dependency observations) {v : Value F} :
    verifiedRecordDocument m (m.dumps (digested m (recordFields m c payload s i dependency))) = .ok v ↔
      v = digested m (recordFields m c payload s i dependency) ∧ Sealable c i payload := by
  have hcontrolled := controlFingerprint_spec h.controls
  have hbound := bound_spec h.bound
  have hfields := @recordFields_keys F m _ c i payload s dependency
  have hwithout := without_digested (m := m) hfields.1 hfields.2
  have hstrict := strictJsonObject_digested hloaded h "verified provenance record"
  obtain ⟨hkeys, hschema, hdigest⟩ := @keys_digested F m _ c i payload s dependency
  obtain ⟨hexternal, hselection, hfingerprints, hvalidation, hartifacts, hdependency, hrecorder⟩ := item_digested hloaded h
  have hleaf := checkSelection_iff i.dependencyControl.policy.binding c.expected
    (item (item payload "selection") "active_leaf") s.selectionAt (hbound.task ▸ h.task) h.baseSha h.candidateTree
      h.digests.2.2.2.2.2
  have hcontrol := checkExternal_iff hloaded h hbound.candidate.symm (item (item payload "selection") "active_leaf")
  have hread := readArtifacts_section i.dependencyControl.policy.binding c.expected
    (item (item payload "selection") "active_leaf") s.selectionAt i.artifacts i.gitObservation hbound.artifacts
  have hstore := checkRecorderStore_section i.dependencyControl.policy.binding c.expected
    (item (item payload "selection") "active_leaf") s.selectionAt hbound.candidate.symm hloaded.storeBinding
      hloaded.storeIdentity hloaded.storeContract
  have hbinding := readBinding_section i.dependencyControl.policy.binding c.expected
    (item (item payload "selection") "active_leaf") s.selectionAt
  have hconsistent := dependencyConsistent_reading h (item (item payload "selection") "active_leaf")
  have hprojections := projectionsConsistent_reading h (item (item payload "selection") "active_leaf")
  have hderived := fingerprints_reading h (item (item payload "selection") "active_leaf")
  have hall := mapM_readObservation fun o ho => (hcontrolled.bindings o ho).1
  have hnodup := components_nodup hcontrolled.nodup
  have htokens := checkObservations_iff (d := i.dependencyControl)
  -- from here on the active leaf is any value
  generalize hl : item (item payload "selection") "active_leaf" = leaf at *
  have hgit : item (artifactsSection (F := F) i.artifacts i.gitObservation) "reviewed_git_entrypoint" =
    i.gitObservation.payload := by
    simp [artifactsSection]
  have hobservations : item (dependencySection m i.dependencyControl) "observations" =
      .arr ((sortBy (·.component.value) i.dependencyControl.observations).map (·.value m)) := by
    simp [dependencySection]
  have hplain : ((reading c i leaf s.selectionAt).fingerprints m).plain = true := by
    refine Value.dict_plain ?_
    simp [Value.plain]
  have hsame : (fingerprintsSection m s i dependency (item payload "recorder_store")).same m.floats
      ((reading c i leaf s.selectionAt).fingerprints m) = true :=
    (Value.same_iff_eq _ _ _ hplain).2 hderived.symm
  have hdicts : ¬ ([externalSection c, sealedSelection i.dependencyControl.policy.binding c.expected leaf s.selectionAt,
      fingerprintsSection m s i dependency (item payload "recorder_store"), i.validation.publicPayload,
      artifactsSection i.artifacts i.gitObservation, dependencySection m i.dependencyControl,
      expectedRecorderStore c.expected c.expected.candidateSha].any fun v => decide (v.isDict = false)) = true := by
    simp [externalSection, sealedSelection, fingerprintsSection, VerifiedValidationToolchainProjection.publicPayload,
      artifactsSection, dependencySection, expectedRecorderStore]
  have hsections := @keys_sections F m _ c i payload s dependency leaf
  obtain ⟨o, rest, hcons⟩ := observations_cons hcontrolled.nonempty
  rw [hcons] at hobservations hconsistent hall hnodup htokens
  unfold verifiedRecordDocument
  simp only [hstrict, hkeys, hschema, hdigest, hexternal, hselection, hfingerprints, hvalidation, hartifacts,
    hdependency, hrecorder, hwithout, hgit, readGitObservation_payload, readValidation_payload, hread, hstore, hbinding,
      hobservations, hall, checkShapes_section,
    checkDependency_section, hcontrol, hleaf, htokens, hnodup,
    bind_eq_ok, exists_unit, refuse_eq_ok, demand_eq_ok, Except.ok.injEq, exists_eq_left', not_or, Option.some.injEq,
    Bool.not_eq_false, not_not]
  constructor
  · rintro ⟨-, -, -, -, ⟨hc, hs⟩, -, -, -, ⟨ho, -⟩, -, -, hv⟩
    exact ⟨(pure_eq_ok.1 hv).symm, hc, hl ▸ hs, ho⟩
  · rintro ⟨rfl, hc, hs, ho⟩
    exact ⟨⟨trivial, trivial⟩, ⟨trivial, trivial⟩, hdicts, hsections, ⟨hc, hl ▸ hs⟩, trivial, trivial, trivial,
      ⟨ho, trivial⟩, hconsistent, ⟨hprojections, hsame⟩, rfl⟩

end Sections

end Projections

end Roundwright.Provenance
