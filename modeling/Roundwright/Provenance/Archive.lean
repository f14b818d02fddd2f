/-
Records are sealed, appended and read back. A selection that was reconciled can be sealed exactly when its texts satisfy
the grammar of records and the dependencies are fresh at the time; the record is then stored under its digest and read
back byte for byte, whatever records the store has got before.
-/
import Roundwright.Provenance.Sealing

namespace Roundwright.Provenance

open Lib Lib.JsonText

variable {record : VerifiedDurableProvenanceRecord} {name : String × String} {fields fields' : List (String × Value F)}
    {store : RecordStore}

section Archive

variable {F : Type} [DecidableEq F] {m : Machine F}

/-! ## Freshness -/

/-- The policy and the dependencies that Git needs are fresh at a time. -/
structure FreshAt (d : DependencyExecutionControl m) (now : Int) : Prop where
  policy : d.policy.fresh d.policy.issuedAt now = true
  observations : ∀ o ∈ d.observations, o.component ∈ DependencyStage.gitEntrypoint.requirements →
    d.policy.fresh o.observedAt now = true

omit [DecidableEq F] in
/-- Of an observation only its age depends on the time. -/
theorem validateObservation_at {policy : DependencyPolicy m} {expected : ComponentPolicy} {o : ObservedDependency}
    {now now' : Int} (h : validateObservation policy expected o now = .ok ()) :
    validateObservation policy expected o now' = .ok () ↔ policy.fresh o.observedAt now' = true := by
  simp only [validateObservation, bind_eq_ok, exists_unit, refuse_eq_ok, Bool.not_eq_false] at h ⊢
  obtain ⟨hpolicy, -, hrest⟩ := h
  exact ⟨fun ⟨_, hfresh, _⟩ => hfresh, fun hfresh => ⟨hpolicy, hfresh, hrest⟩⟩

/-- A control that has passed passes at another time exactly when it is fresh then. -/
theorem require_at {d : DependencyExecutionControl m} {binding : CandidateBinding} {now now' : Int}
    (h : d.require binding .gitEntrypoint now = .ok ()) (hnow : 0 ≤ now') :
    d.require binding .gitEntrypoint now' = .ok () ↔ FreshAt d now' := by
  simp only [DependencyExecutionControl.require, evaluateDependencyPreflight, bind_eq_ok, exists_unit, refuse_eq_ok,
    Bool.not_eq_false, not_not, checkAll_eq_ok, demand_eq_ok] at h ⊢
  obtain ⟨-, hbinding, -, hadmission, hbindings, hnodup, hall⟩ := h
  constructor
  · rintro ⟨-, -, hpolicy, -, -, -, hall'⟩
    refine ⟨hpolicy, fun o ho hstage => ?_⟩
    obtain ⟨expected, hexpected, observed, hobserved, hvalid⟩ := hall o.component hstage
    obtain ⟨expected', hexpected', observed', hobserved', hvalid'⟩ := hall' o.component hstage
    obtain rfl : expected' = expected := Option.some.inj (hexpected'.symm.trans hexpected)
    obtain rfl : observed' = observed := Option.some.inj (hobserved'.symm.trans hobserved)
    have hself : observed' = o := Option.some.inj (hobserved.symm.trans ((find?_of_nodup hnodup).2 ⟨ho, rfl⟩))
    exact hself ▸ (validateObservation_at hvalid).1 hvalid'
  · rintro ⟨hpolicy, hfresh⟩
    refine ⟨by omega, hbinding, hpolicy, hadmission, hbindings, hnodup, fun component hstage => ?_⟩
    obtain ⟨expected, hexpected, observed, hobserved, hvalid⟩ := hall component hstage
    have hmem := (find?_of_nodup hnodup).1 hobserved
    exact ⟨expected, hexpected, observed, hobserved,
      (validateObservation_at hvalid).2 (hfresh observed hmem.1 (hmem.2 ▸ hstage))⟩

/-! ## Materialization -/

variable {c : ExternalSelectionControl F} {i : Evidence m} {s : VerifiedProvenanceSelection F} {payload : Value F}
  {dependency : String} {observations : List String}

theorem loaded_of_verifyLoaded (h : c.verifyLoaded m = .ok ()) : ∃ payload, Loaded m c payload := by
  simp only [ExternalSelectionControl.verifyLoaded, bind_eq_ok, rewrap_eq_ok, refuse_eq_ok, not_or, not_not,
    Prod.mk.injEq] at h
  obtain ⟨reloaded, hload, ⟨hpayload, hreceipt, -, hretention, hmode, -⟩, hfingerprint⟩ := h
  obtain ⟨hbytes, -, hexpected, payload, hloaded⟩ := load_spec hload
  refine ⟨payload, ?_, ?_, ?_, ?_, ?_, ?_, ?_, ?_, ?_⟩
  · rw [← hbytes]; exact hloaded.parsed
  · rw [hpayload]; exact hloaded.payloadDigest
  · rw [hreceipt]; exact hloaded.receiptDigest
  · rw [← hexpected]; exact hloaded.storeIdentity
  · rw [← hexpected]; exact hloaded.storeContract
  · rw [← hexpected]; exact hloaded.storeBinding
  · rw [← hexpected]; exact hloaded.selection
  · rw [hretention, hmode, ← hexpected]; exact hloaded.retention
  · rw [hfingerprint]; exact hloaded.fingerprint

variable {now : Int}

theorem verifyLoaded_of_reconcile (h : reconcileFinalProvenanceSelection m c i now = .ok s) :
    c.verifyLoaded m = .ok () := by
  simp only [reconcileFinalProvenanceSelection, bind_eq_ok, exists_unit] at h
  exact h.2.1

theorem nonneg_of_reconcile (h : reconcileFinalProvenanceSelection m c i now = .ok s) : 0 ≤ now := by
  simp only [reconcileFinalProvenanceSelection, bind_eq_ok, exists_unit, refuse_eq_ok, not_or, not_lt] at h
  exact h.1.1

theorem controlFingerprint_fresh {r : String × List String} (h : Reconciled m c i payload s dependency observations)
    (hnow : 0 ≤ now) :
    controlFingerprint m i.dependencyControl now = .ok r ↔ r = (dependency, observations) ∧
    FreshAt i.dependencyControl now := by
  have hrequire := (controlFingerprint_at h.controls).1 h.controls
  constructor
  · intro hr
    have hcontrolled := controlFingerprint_spec h.controls
    have hcontrolled' := @controlFingerprint_spec F m _ r.1 r.2 _ _ hr
    have hlisted : r.2 = observations := hcontrolled'.listed.trans hcontrolled.listed.symm
    refine ⟨Prod.ext ?_ hlisted, (require_at hrequire hnow).1 ((controlFingerprint_at hr).1 hr)⟩
    rw [hcontrolled'.named, hlisted]
    exact hcontrolled.named.symm
  · rintro ⟨rfl, hfresh⟩
    exact (controlFingerprint_at h.controls).2 ((require_at hrequire hnow).2 hfresh)

theorem verifySelection_of_reconciled (hverify : c.verifyLoaded m = .ok ()) (hloaded : Loaded m c payload)
    (h : Reconciled m c i payload s dependency observations) : verifySelectionForDurableRecord m c s = .ok () := by
  have hsealed := h.sealed
  simp only [verifySelectionForDurableRecord, VerifiedProvenanceSelection.verifyReconciliation, bind_eq_ok, exists_unit,
    refuse_eq_ok, not_or, not_not, Bool.not_eq_false]
  refine ⟨hverify, ⟨hsealed.valid, hsealed.selection, hsealed.load ▸ hloaded.fingerprint, ?_⟩, ?_, hsealed.load, ?_⟩
  · rw [hsealed.reconciliation, hsealed.load]
  · rw [hsealed.control]
  · have hpayload := congrArg SelectionColumns.payloadDigest h.columns
    have hreceipt := congrArg SelectionColumns.receiptDigest h.columns
    have hcontract := congrArg SelectionColumns.contractDigest h.columns
    have hretention := congrArg SelectionColumns.retentionIdentity h.columns
    rw [hpayload, hreceipt, hcontract, hretention]

/-- The record of a reconciled selection. -/
def sealedRecord (c : ExternalSelectionControl F) (s : VerifiedProvenanceSelection F) (i : Evidence m)
    (payload : Value F) (dependency : String) : VerifiedDurableProvenanceRecord where
  payload := m.dumps (digested m (recordFields m c payload s i dependency))
  recordDigest := m.fingerprint (.dict (recordFields m c payload s i dependency))
  retentionIdentity := c.retentionIdentity
  candidateSha := i.dependencyControl.policy.binding.candidateSha
  authorityFingerprint := m.fingerprint (.dict
    [("control", .str c.loadFingerprint), ("selection", .str s.reconciliationFingerprint),
      ("record", .str (m.fingerprint (.dict (recordFields m c payload s i dependency))))])

theorem reads_digested (hloaded : Loaded m c payload) (h : Reconciled m c i payload s dependency observations) :
    let doc := digested m (recordFields m c payload s i dependency)
    let record := sealedRecord c s i payload dependency
    doc.text? "record_digest" = some record.recordDigest ∧
    (item doc "external").text? "retention_identity" = some record.retentionIdentity ∧
    (item doc "selection").text? "candidate_sha" = some record.candidateSha := by
  intro doc record
  obtain ⟨hexternal, hselection, -⟩ := item_digested hloaded h
  refine ⟨?_, ?_, ?_⟩
  · have hdigest := (@keys_digested F m _ c i payload s dependency).2.2
    rw [reads, decide_eq_true_eq] at hdigest
    exact hdigest
  · show (item (digested m _) "external").text? _ = _
    rw [hexternal]
    simp [externalSection, Value.text?, record, sealedRecord]
  · show (item (digested m _) "selection").text? _ = _
    rw [hselection]
    simp [sealedSelection, Value.text?, record, sealedRecord]

/-- A selection that was reconciled is sealed exactly when the texts are such as records want them and the dependencies
are fresh. -/
theorem materialize_iff {now now' a b : Int} (hloaded : Loaded m c payload)
    (hreconcile : reconcileFinalProvenanceSelection m c i now = .ok s)
    (h : Reconciled m c i payload s dependency observations) (hwindow : window? m c = some (a, b)) (ha : a ≤ now')
    (hb : now' ≤ b) :
    materializeVerifiedProvenanceRecord m c s i now' = .ok record ↔
      record = sealedRecord c s i payload dependency ∧ Sealable c i payload ∧ FreshAt i.dependencyControl now' := by
  have hverify := verifySelection_of_reconciled (verifyLoaded_of_reconcile hreconcile) hloaded h
  have hrebuilt := reconcile_at hreconcile hwindow ha hb
  obtain ⟨hdigest, hretention, hcandidate⟩ := reads_digested hloaded h
  simp only [materializeVerifiedProvenanceRecord, bind_eq_ok, exists_unit, hverify, hrebuilt, hloaded.parsed,
    refuse_eq_ok, controlFingerprint_fresh h (nonneg_of_reconcile hrebuilt), Except.ok.injEq, exists_eq_left', true_and,
      not_or, not_not, Prod.exists,
    Prod.mk.injEq]
  constructor
  · rintro ⟨_, _, ⟨⟨rfl, rfl⟩, hfresh⟩, doc, hdoc, hrecord⟩
    obtain ⟨rfl, hsealable⟩ := (verifiedRecordDocument_iff hloaded h).1 hdoc
    refine ⟨?_, hsealable, hfresh⟩
    rw [← pure_eq_ok.1 hrecord, hdigest, hretention, hcandidate]
    rfl
  · rintro ⟨rfl, hsealable, hfresh⟩
    refine ⟨dependency, observations, ⟨⟨rfl, rfl⟩, hfresh⟩, _,
      (verifiedRecordDocument_iff hloaded h).2 ⟨rfl, hsealable⟩, ?_⟩
    rw [hdigest, hretention, hcandidate]
    rfl

/-! ## What the store has -/

/-- The text that the digest of a record is of. -/
def recordBody (m : Machine F) (text : String) : Option String :=
    (loads m.floats text).map fun v => m.dumps (v.without "record_digest")

/-- The digests of two records are of one text where they are equal. -/
def NoCollision (m : Machine F) (text text' : String) : Prop :=
  ∀ a ∈ recordBody m text, ∀ b ∈ recordBody m text', m.host.hexdigest a = m.host.hexdigest b → a = b

/-- The disks of a root that appends lead to. Links may come and go between them. -/
inductive Appended (m : Machine F) (root : List String) : Disk → Prop where
  | empty (links : List (List String)) : Appended m root ⟨links, []⟩
  | relink {disk : Disk} (links : List (List String)) : Appended m root disk →
      Appended m root { disk with links := links }
  | append {disk disk' : Disk} {store : RecordStore} {record : VerifiedDurableProvenanceRecord}
      {control : ExternalSelectionControl F} {selection : VerifiedProvenanceSelection F} {i : Evidence m} {now : Int}
        {digest : String} :
      Appended m root disk → store.root = root → store.append m record control selection i now disk =
        (.ok digest, disk') →
        Appended m root disk'

/-- What is written for a record: the document of its fields, under their digest. -/
structure Written (m : Machine F) (name : String × String) (text : String) (fields : List (String × Value F)) :
    Prop where
  keys : (fields.map (·.1)).Nodup
  undigested : "record_digest" ∉ fields.map (·.1)
  canonical : ∀ f ∈ fields, f.2.Canonical
  text : text = m.dumps (digested m fields)
  name : name.2 = fileName (m.fingerprint (.dict fields))

omit [DecidableEq F] in
theorem fileName_fingerprint (v : Value F) : fileName (m.fingerprint v) = (m.host.hexdigest (m.dumps v)).text ++
    ".json" := by
  have htext : (m.fingerprint v).toList = "sha256:".toList ++ (m.host.hexdigest (m.dumps v)).text.toList :=
    String.toList_append
  have hseven : ("sha256:".toList).length = 7 := rfl
  rw [fileName, htext, List.drop_left' hseven, String.ofList_toList]

omit [DecidableEq F] in
theorem Written.body {name : String × String} {text : String} {fields : List (String × Value F)}
    (h : Written m name text fields) :
    recordBody m text = some (m.dumps (.dict fields)) := by
  have hread := loads_dumps m.floats (digested_canonical (m := m) h.keys h.undigested h.canonical)
  rw [recordBody, h.text, Machine.dumps, hread, Option.map_some, without_digested h.keys h.undigested]

omit [DecidableEq F] in
/-- Fields that are the same whatever their order are written as one document. -/
theorem digested_congr {fields fields' : List (String × Value F)} (h : Value.dict fields = .dict fields')
    (hkeys : (fields.map (·.1)).Nodup) (hdigest : "record_digest" ∉ fields.map (·.1)) :
    digested m fields = digested m fields' := by
  have hperm : fields.Perm fields' := by
    have hsorted : sortBy (·.1) fields = sortBy (·.1) fields' := Value.obj.inj h
    exact (sortBy_perm (·.1) fields).symm.trans (hsorted ▸ sortBy_perm (·.1) fields')
  rw [digested, digested, ← h, Value.dict, Value.dict]
  congr 1
  refine sortBy_congr (hperm.append_right _) ?_
  exact digested_keys hkeys hdigest

omit [DecidableEq F] in
/-- A name has one text, where digests do not collide. -/
theorem Written.unique {name : String × String} {text text' : String} {fields fields' : List (String × Value F)}
    (h : Written m name text fields) (h' : Written m name text' fields') (hfree : NoCollision m text text') :
    text = text' := by
  have hname := h.name.symm.trans h'.name
  rw [fileName_fingerprint, fileName_fingerprint] at hname
  have hhex : m.host.hexdigest (m.dumps (.dict fields)) = m.host.hexdigest (m.dumps (.dict fields')) :=
    Hex.text_strictMono.injective (String.append_left_inj _ |>.1 hname)
  have hdumps := hfree _ h.body _ h'.body hhex
  have hdict := dumps_injective m.floats (Value.dict_canonical h.keys h.canonical)
    (Value.dict_canonical h'.keys h'.canonical) hdumps
  rw [h.text, h'.text, digested_congr hdict h.keys h.undigested]

/-- The verifier returns the document that it reads. -/
theorem loads_of_verified {text : String} {v : Value F} (h : verifiedRecordDocument m text = .ok v) :
    loads m.floats text = some v := by
  simp only [verifiedRecordDocument, bind_eq_ok, exists_unit] at h
  obtain ⟨w, hw, -, -, -, -, -, -, -, _, -, _, -, _, -, -, hrest⟩ := h
  split at hrest
  · simp only [bind_eq_ok, exists_unit] at hrest
    obtain ⟨_, -, -, _, -, _, -, -, -, hv⟩ := hrest
    rw [← pure_eq_ok.1 hv]
    exact strictJsonObject_ok m hw
  · simp at hrest

/-- What is materialized is the document of fields, under their digest. -/
theorem written_of_materialize {record : VerifiedDurableProvenanceRecord}
    (h : materializeVerifiedProvenanceRecord m c s i now = .ok record) :
    ∃ fields, Written m (record.candidateSha, fileName (m.fingerprint (.dict fields))) record.payload fields := by
  simp only [materializeVerifiedProvenanceRecord, bind_eq_ok, exists_unit, Prod.exists] at h
  obtain ⟨-, rebuilt, hrebuilt, -, payload, hpayload, dependency, observations, -, checked, -, hrecord⟩ := h
  obtain ⟨payload', hloaded⟩ := loaded_of_verifyLoaded (verifyLoaded_of_reconcile hrebuilt)
  obtain rfl : payload' = payload := Except.ok.inj (hloaded.parsed.symm.trans hpayload)
  obtain ⟨_, _, hreconciled⟩ := reconcile_spec hpayload hrebuilt
  rw [← pure_eq_ok.1 hrecord]
  exact ⟨recordFields m c payload' s i dependency, recordFields_keys.1, recordFields_keys.2,
    recordFields_canonical hloaded hreconciled.ready hreconciled.recorder, rfl, rfl⟩

/-- A record that passes its check names the digest of its text. -/
theorem digest_of_verify {record : VerifiedDurableProvenanceRecord} {name : String × String}
    {fields : List (String × Value F)} (hwritten : Written m name record.payload fields)
    (h : record.verify m = .ok ()) :
    record.recordDigest = m.fingerprint (.dict fields) := by
  simp only [VerifiedDurableProvenanceRecord.verify, bind_eq_ok, exists_unit, refuse_eq_ok, not_or,
    Bool.not_eq_false] at h
  obtain ⟨document, hdocument, ⟨hdigest, -⟩, -⟩ := h
  have hread := loads_dumps m.floats (digested_canonical (m := m) hwritten.keys hwritten.undigested hwritten.canonical)
  have hsame : document = digested m fields := by
    have hloads := loads_of_verified hdocument
    rw [hwritten.text, Machine.dumps, hread] at hloads
    exact (Option.some.inj hloads).symm
  have hnone : fields.find? (fun f => f.1 = "record_digest") = none := by
    refine List.find?_eq_none.2 fun f hf => ?_
    rw [decide_eq_true_eq]
    exact fun hkey => hwritten.undigested (hkey ▸ List.mem_map_of_mem hf)
  rw [reads_iff, hsame, digested, Value.get?_dict, List.find?_append, hnone] at hdigest
  have hstr : Value.str (m.fingerprint (.dict fields)) = .str (F := F) record.recordDigest := by simpa using hdigest
  exact (Value.str.inj hstr).symm

/-- An append leaves the disk, or puts a record under its digest. -/
theorem append_spec {digest : String}
    {disk disk' : Disk} (h : store.append m record c s i now disk = (.ok digest, disk')) :
    disk' = disk ∨ ∃ fields, Written m (record.candidateSha, fileName record.recordDigest) record.payload fields ∧
      disk' = disk.put (record.candidateSha, fileName record.recordDigest) record.payload := by
  simp only [RecordStore.append, Tx.check_bind, Tx.query_bind, exists_unit, rewrap_eq_ok, refuse_eq_ok, not_not] at h
  obtain ⟨rebuilt, hrebuilt, hverify, hsame, -, -, -, -, stored, -, hrest⟩ := h
  cases stored with
  | some text =>
    simp only [Tx.check_bind, exists_unit, Tx.pure_ok] at hrest
    exact .inl hrest.2.2.symm
  | none =>
    simp only [Tx.write_bind, Except.ok.injEq, exists_eq_left', Tx.pure_ok] at hrest
    obtain ⟨fields, hwritten⟩ := written_of_materialize hrebuilt
    rw [← hsame] at hwritten
    have hname := digest_of_verify hwritten hverify
    refine .inr ⟨fields, ?_, hrest.2.symm⟩
    exact ⟨hwritten.keys, hwritten.undigested, hwritten.canonical, hwritten.text, by rw [hname]⟩

/-- Every file was written for a record. -/
theorem written_of_appended {root : List String} {disk : Disk} (h : Appended m root disk) :
    ∀ e ∈ disk.files, ∃ fields, Written m e.1 e.2 fields := by
  induction h with
  | empty links => exact fun e he => absurd he List.not_mem_nil
  | relink links _ ih => exact ih
  | append _ _ hstep ih =>
    rcases append_spec hstep with rfl | ⟨fields, hwritten, rfl⟩
    · exact ih
    · intro e he
      rcases List.mem_cons.1 he with rfl | he
      · exact ⟨fields, hwritten⟩
      · exact ih e he

/-! ## A record is appended and read back -/

/-- No link is on the path of a record. -/
def Unlinked (store : RecordStore) (record : VerifiedDurableProvenanceRecord) (disk : Disk) : Prop :=
  ∀ p ∈ disk.links, ¬ p <+: store.root ++ [record.candidateSha, fileName record.recordDigest]

theorem requireSafePath_of_unlinked {disk : Disk}
    (h : Unlinked store record disk) {path : List String}
    (hpath : path <+: store.root ++ [record.candidateSha, fileName record.recordDigest]) :
    requireSafePath path disk = .ok () := by
  rw [requireSafePath, refuse_eq_ok]
  intro hlink
  obtain ⟨p, hp, hmem⟩ := List.any_eq_true.1 hlink
  exact h p (of_decide_eq_true hmem) (((List.mem_inits p path).1 hp).trans hpath)

/-- The selection is sealed at one time, appended at another and checked at a third, and what is read back is what was
sealed. The store is one of the control, with whatever records it has got, of which none has the digest of this one
without its text. -/
def SealsAndReadsBack (m : Machine F) (c : ExternalSelectionControl F) (s : VerifiedProvenanceSelection F)
    (i : Evidence m) (now later last : Int) : Prop :=
  ∃ record, materializeVerifiedProvenanceRecord m c s i now = .ok record ∧
    ∀ (store : RecordStore) (disk : Disk), store.retentionIdentity = c.retentionIdentity → Appended m store.root disk →
      Unlinked store record disk → (∀ e ∈ disk.files, NoCollision m e.2 record.payload) →
      ∃ disk' back, store.append m record c s i later disk = (.ok record.recordDigest, disk') ∧
        store.readBack m record.candidateSha record.recordDigest disk' = .ok back ∧ back.payload = record.payload ∧
        back.verifyAgainst m c s i last = .ok record

/-- The record goes under its name, or is there already. -/
theorem append_ok {disk : Disk}
    (hmaterialize : materializeVerifiedProvenanceRecord m c s i now = .ok record) (hverify : record.verify m = .ok ())
    (hretention : record.retentionIdentity = store.retentionIdentity) (hdisk : Appended m store.root disk)
    (hlinks : Unlinked store record disk) (hfree : ∀ e ∈ disk.files, NoCollision m e.2 record.payload) :
    ∃ disk', store.append m record c s i now disk = (.ok record.recordDigest, disk') ∧ disk'.links = disk.links ∧
      disk'.files.lookup (record.candidateSha, fileName record.recordDigest) = some record.payload := by
  have hroot := requireSafePath_of_unlinked hlinks (List.prefix_append store.root _)
  have hcandidate : requireSafePath (store.root ++ [record.candidateSha]) disk = .ok () :=
    requireSafePath_of_unlinked hlinks ((List.prefix_append_right_inj _).2 ⟨[fileName record.recordDigest], rfl⟩)
  have hpath := requireSafePath_of_unlinked hlinks List.prefix_rfl
  simp only [RecordStore.append, Tx.check_bind, Tx.query_bind, exists_unit, rewrap_eq_ok, refuse_eq_ok, not_not,
    hmaterialize, hverify, hroot, hcandidate, hpath, hretention, Except.ok.injEq, exists_eq_left', true_and]
  cases hstored : disk.files.lookup (record.candidateSha, fileName record.recordDigest) with
  | none =>
    refine ⟨disk.put (record.candidateSha, fileName record.recordDigest) record.payload, ?_, rfl, ?_⟩
    · simp [Tx.write_bind]
    · simp [Disk.put]
  | some text =>
    -- the file under the name was written for fields of the same digest
    have hmem : ((record.candidateSha, fileName record.recordDigest), text) ∈ disk.files := by
      obtain ⟨l₁, l₂, hfiles, -⟩ := List.lookup_eq_some_iff.1 hstored
      rw [hfiles]
      exact List.mem_append_right _ List.mem_cons_self
    obtain ⟨fields, hold⟩ := written_of_appended hdisk _ hmem
    obtain ⟨fields', hnew⟩ := written_of_materialize hmaterialize
    have hcollision := hfree _ hmem
    simp only [digest_of_verify hnew hverify] at hold hcollision
    have hsame : text = record.payload := Written.unique hold hnew hcollision
    refine ⟨disk, ?_, rfl, by rw [hstored, hsame]⟩
    simp [Tx.check_bind, hsame]

section RoundTrip

variable (hloaded : Loaded m c payload) (h : Reconciled m c i payload s dependency observations)
    (hsealable : Sealable c i payload)

include hloaded h hsealable

theorem verify_sealedRecord : (sealedRecord c s i payload dependency).verify m = .ok () := by
  obtain ⟨hdigest, hretention, hcandidate⟩ := reads_digested hloaded h
  simp only [VerifiedDurableProvenanceRecord.verify, bind_eq_ok, exists_unit, refuse_eq_ok, not_or, Bool.not_eq_false]
  refine ⟨_, (verifiedRecordDocument_iff hloaded h).2 ⟨rfl, hsealable⟩, ⟨?_, ?_, ?_⟩, isDigest_fingerprint m _⟩
  · rw [reads, decide_eq_true_eq]
    exact hdigest
  · rw [reads, decide_eq_true_eq]
    exact hretention
  · rw [reads, decide_eq_true_eq]
    exact hcandidate

theorem readBack_sealedRecord : readBackVerifiedRecord m (sealedRecord c s i payload dependency).payload = .ok
    ⟨(sealedRecord c s i payload dependency).payload, (sealedRecord c s i payload dependency).recordDigest,
      (sealedRecord c s i payload dependency).retentionIdentity,
        (sealedRecord c s i payload dependency).candidateSha⟩ := by
  obtain ⟨hdigest, hretention, hcandidate⟩ := reads_digested hloaded h
  simp only [readBackVerifiedRecord, bind_eq_ok]
  refine ⟨_, (verifiedRecordDocument_iff hloaded h).2 ⟨rfl, hsealable⟩, ?_⟩
  rw [hdigest, hretention, hcandidate]
  rfl

end RoundTrip

/-- Reconciled provenance is sealed, appended and read back exactly when its texts satisfy the grammar of records too
and the dependencies are fresh at each of the times. -/
theorem reconciled_seals_and_reads_back_iff {now₀ now later last a b : Int}
    (hreconcile : reconcileFinalProvenanceSelection m c i now₀ = .ok s) (hwindow : window? m c = some (a, b))
    (hnow : a ≤ now ∧ now ≤ b) (hlater : a ≤ later ∧ later ≤ b) (hlast : a ≤ last ∧ last ≤ b) :
    SealsAndReadsBack m c s i now later last ↔
      (∃ payload, loads m.floats c.payload = some payload ∧ Sealable c i payload) ∧
        FreshAt i.dependencyControl now ∧ FreshAt i.dependencyControl later ∧ FreshAt i.dependencyControl last := by
  obtain ⟨payload, hloaded⟩ := loaded_of_verifyLoaded (verifyLoaded_of_reconcile hreconcile)
  obtain ⟨dependency, observations, h⟩ := reconcile_spec hloaded.parsed hreconcile
  have hat : ∀ {t : Int} {record : VerifiedDurableProvenanceRecord}, a ≤ t ∧ t ≤ b →
      (materializeVerifiedProvenanceRecord m c s i t = .ok record ↔
        record = sealedRecord c s i payload dependency ∧ Sealable c i payload ∧ FreshAt i.dependencyControl t) :=
    fun ht => materialize_iff hloaded hreconcile h hwindow ht.1 ht.2
  constructor
  · rintro ⟨record, hmaterialize, hall⟩
    obtain ⟨-, hsealable, hfresh⟩ := (hat hnow).1 hmaterialize
    -- an empty store of the control shows the other times
    obtain ⟨disk', back, happend, -, -, hagain⟩ := hall ⟨[], c.retentionIdentity, by rw [hloaded.retention]; rfl⟩
      ⟨[], []⟩ rfl (.empty []) (fun p hp => absurd hp List.not_mem_nil) (fun e he => absurd he List.not_mem_nil)
    simp only [RecordStore.append, Tx.check_bind] at happend
    obtain ⟨rebuilt, hrebuilt, -⟩ := happend
    simp only [ReadBackVerifiedProvenanceRecord.verifyAgainst, bind_eq_ok] at hagain
    obtain ⟨again, hagain, -⟩ := hagain
    exact ⟨⟨payload, strictJsonObject_ok m hloaded.parsed, hsealable⟩, hfresh, ((hat hlater).1 hrebuilt).2.2,
      ((hat hlast).1 hagain).2.2⟩
  · rintro ⟨⟨payload', hpayload', hsealable⟩, hfresh, hfreshLater, hfreshLast⟩
    obtain rfl : payload' = payload := Option.some.inj (hpayload'.symm.trans (strictJsonObject_ok m hloaded.parsed))
    refine ⟨sealedRecord c s i payload' dependency, (hat hnow).2 ⟨rfl, hsealable, hfresh⟩,
      fun store disk hstore hdisk hlinks hfree => ?_⟩
    obtain ⟨disk', happend, hlinks', hfile⟩ := append_ok ((hat hlater).2 ⟨rfl, hsealable, hfreshLater⟩)
      (verify_sealedRecord hloaded h hsealable) hstore.symm hdisk hlinks hfree
    have hback := readBack_sealedRecord hloaded h hsealable
    have hcandidate : isHex 40 (sealedRecord c s i payload' dependency).candidateSha = true :=
      i.dependencyControl.policy.binding.valid.2.2
    have hdigest : isDigest (sealedRecord c s i payload' dependency).recordDigest = true := isDigest_fingerprint m _
    have hretention : (sealedRecord c s i payload' dependency).retentionIdentity = store.retentionIdentity :=
      hstore.symm
    have hlast := (hat hlast).2 ⟨rfl, hsealable, hfreshLast⟩
    generalize sealedRecord c s i payload' dependency = record at *
    refine ⟨disk', ⟨record.payload, record.recordDigest, record.retentionIdentity, record.candidateSha⟩, happend, ?_,
      rfl, ?_⟩
    · have hunlinked : Unlinked store record disk' := fun p hp => hlinks p (hlinks' ▸ hp)
      simp only [RecordStore.readBack, bind_eq_ok, exists_unit, refuse_eq_ok, demand_eq_ok, not_or, Bool.not_eq_false,
        not_not]
      exact ⟨⟨hcandidate, hdigest⟩, requireSafePath_of_unlinked hunlinked List.prefix_rfl, _, hfile, _, hback,
        ⟨rfl, rfl, hretention⟩, rfl⟩
    · simp only [ReadBackVerifiedProvenanceRecord.verifyAgainst, bind_eq_ok, exists_unit, refuse_eq_ok, not_not]
      exact ⟨record, hlast, rfl, rfl⟩

end Archive

/-! ## A selection to run the model on

The package is observed under a name that dependency policies admit; the policy is fresh from 10 to 110, the control
from 20 to 200. -/

namespace Sample

def noFloats : Floats Empty := .empty

def m : Machine Empty := ⟨.sample, noFloats⟩

def sha (n : Nat) : String := (Hex.ofNat 40 n).text

def sha256 (n : Nat) : String := "sha256:" ++ (Hex.ofNat 64 n).text

theorem isHex_sha (n : Nat) : isHex 40 (sha n) = true := Hex.isHex_text _

theorem isDigest_hex (n : Nat) : isDigest (sha256 n) = true := by
  have htext : (sha256 n).toList = "sha256:".toList ++ (Hex.ofNat 64 n).text.toList := String.toList_append
  have hseven : ("sha256:".toList).length = 7 := rfl
  rw [isDigest, htext, List.take_left' hseven, List.drop_left' hseven, String.ofList_toList, Hex.isHex_text]
  rfl

/-- A name of a dependency. -/
abbrev Name := { text : String // isToken text = true ∧ occurs "copilot" text = false }

def gitName : Name := ⟨"git", by decide +kernel⟩

def binding : CandidateBinding := ⟨"owner/name", "task", sha 1, by decide +kernel, by decide +kernel, isHex_sha 1⟩

def range : VersionRange := ⟨"1.0.0", "2.0.0", by decide +kernel⟩

def component (c : DependencyComponent) (name : Name) : ComponentPolicy :=
  ⟨c, name.1, range, "source", sha256 2, sha256 3, name.2.1,
    name.2.2, by decide +kernel, isDigest_hex 2, isDigest_hex 3⟩

def observation (c : DependencyComponent) (name : Name) : ObservedDependency :=
  ⟨binding, c, name.1, "1.0.0", "source", sha256 2, sha256 3, 10, sha256 4,
    name.2.1, by decide +kernel, by decide +kernel, name.2.2, isDigest_hex 2, isDigest_hex 3, isDigest_hex 4, by decide⟩

section

variable (name : Name)

def core : DependencyPolicy m :=
  ⟨binding, sha256 4, 10, 100, [component .package name, component .gitExecutable gitName], .bootstrap none,
    isDigest_hex 4, by decide, by decide, by simp, by simp [component]⟩

def receipt : BootstrapPolicyReceipt m :=
  ⟨binding, sha256 5, sha256 6, (core name).coreFingerprint,
    m.fingerprint (bootstrapEvidence m binding (sha256 5) (sha256 6) (core name).coreFingerprint),
    ⟨isDigest_hex 5, isDigest_hex 6, isDigest_sha256 .., isDigest_sha256 ..⟩, rfl⟩

def policy : DependencyPolicy m := { core name with transition := .bootstrap (some (receipt name)) }

def admission : TrustedDependencyAdmission m :=
  ⟨binding, (core name).coreFingerprint, (receipt name).receiptDigest, sha256 5, sha256 6, none, isDigest_sha256 ..,
    isDigest_sha256 .., isDigest_hex 5, isDigest_hex 6, nofun⟩

def dependency : DependencyExecutionControl m :=
  ⟨policy name, [observation .package name, observation .gitExecutable gitName], admission name, rfl⟩

theorem fresh_policy {now : Int} : (policy name).fresh 10 now = true ↔ 10 ≤ now ∧ now ≤ 110 := by
  have hseconds : (policy name).freshnessSeconds = 100 := rfl
  simp only [DependencyPolicy.fresh, hseconds, Bool.and_eq_true, decide_eq_true_eq]
  omega

theorem require_dependency {now : Int} (h : 10 ≤ now ∧ now ≤ 110) :
    (dependency name).require binding .gitEntrypoint now = .ok () := by
  have hadmission : verifyPolicyAdmission (policy name) none (admission name) = true := by
    simp only [verifyPolicyAdmission, policy, Bool.and_eq_true]
    exact ⟨⟨decide_eq_true rfl, decide_eq_true rfl⟩, ⟨⟨decide_eq_true rfl, decide_eq_true rfl⟩, decide_eq_true rfl⟩,
      decide_eq_true rfl⟩
  have hobserved : ∀ (k : DependencyComponent) (n : Name),
      validateObservation (policy name) (component k n) (observation k n) now = .ok () := by
    intro k n
    have hrange : range.contains "1.0.0" = true := by decide +kernel
    simp only [validateObservation, bind_eq_ok, exists_unit, refuse_eq_ok, not_not, Bool.not_eq_false]
    exact ⟨rfl, (fresh_policy name).2 h, rfl, rfl, hrange⟩
  simp only [DependencyExecutionControl.require, evaluateDependencyPreflight, bind_eq_ok, exists_unit, refuse_eq_ok,
    Bool.not_eq_false, not_not, checkAll_eq_ok, demand_eq_ok]
  refine ⟨by omega, rfl, (fresh_policy name).2 h, hadmission, ?_, ?_, ?_⟩
  · simp [dependency, observation]
  · simp [dependency, observation]
  · intro k hk
    simp only [DependencyStage.requirements, List.mem_cons, List.not_mem_nil, or_false] at hk
    rcases hk with rfl | rfl
    · exact ⟨component .package name, rfl, observation .package name, rfl, hobserved _ _⟩
    · exact ⟨component .gitExecutable gitName, rfl, observation .gitExecutable gitName, rfl, hobserved _ _⟩

theorem freshAt_dependency {now : Int} : FreshAt (dependency name) now ↔ 10 ≤ now ∧ now ≤ 110 := by
  refine ⟨fun h => (fresh_policy name).1 h.policy, fun h => ⟨(fresh_policy name).2 h, fun o ho _ => ?_⟩⟩
  have hobserved : o.observedAt = 10 := by
    rcases List.mem_cons.1 ho with rfl | ho
    · rfl
    · rw [List.mem_singleton.1 ho]
      rfl
  rw [hobserved]
  exact (fresh_policy name).2 h

def observationFingerprints : List String :=
    [(observation .gitExecutable gitName).fingerprint m, (observation .package name).fingerprint m]

def dependencyFingerprint : String := m.fingerprint (.dict
  [("binding", .str (binding.fingerprint m)), ("policy", .str (policy name).coreFingerprint),
    ("observations", texts (observationFingerprints name)),
      ("admission", texts [(admission name).policyFingerprint, (admission name).receiptDigest, (admission name).reviewerIdentity, (admission name).authorityDigest])])

theorem sorted_dependency : sortBy (·.component.value) (dependency name).observations =
    [observation .gitExecutable gitName, observation .package name] := by
  have hle : "git-executable" ≤ "package" := by decide +kernel
  refine (sortBy_congr (m := [observation .gitExecutable gitName, observation .package name])
    (List.Perm.swap _ _ _) ?_).trans (sortBy_eq_self ?_)
  · simp [observation, DependencyComponent.value]
  · simp [observation, DependencyComponent.value, hle]

theorem controlFingerprint_dependency :
    controlFingerprint m (dependency name) 20 = .ok (dependencyFingerprint name, observationFingerprints name) := by
  have hrequire : (dependency name).require (dependency name).policy.binding .gitEntrypoint 20 = .ok () :=
    require_dependency name (by decide)
  simp only [controlFingerprint, bind_eq_ok, exists_unit, refuse_eq_ok, rewrap_eq_ok, not_or, not_not, pure_eq_ok,
    sorted_dependency]
  refine ⟨by simp [dependency], ⟨?_, ?_, ?_⟩, hrequire, rfl⟩
  · simp [dependency, observation, policy, core]
  · simp [dependency, observation]
  · simp [DependencyComponent.all, dependency, observation, policy, core, component]

def gitControl : GitEntrypointControl m :=
    ⟨binding, dependency name, 20, by decide, require_dependency name (by decide)⟩

def artifacts : CandidateArtifactProjection :=
  ⟨"owner/name", "task", sha 1, sha 2, "source", sha256 7, sha256 2,
    sha256 3, by decide +kernel, by decide +kernel, isHex_sha 1, isHex_sha 2, by decide +kernel, isDigest_hex 7, isDigest_hex 2, isDigest_hex 3⟩

def gitObservation : ReviewedGitObservation :=
  ⟨"owner/name", "task", sha 1, binding.fingerprint m, "git", "source", "class", "1.0.0", "v1", sha256 2, sha256 3,
    gitControlFingerprint m binding (dependencyFingerprint name) 20, by decide +kernel, by decide +kernel, isHex_sha 1,
    isDigest_sha256 .., isDigest_hex 3, isDigest_hex 2, isDigest_sha256 .., by decide +kernel⟩

def named (name : String) (version : Option String) (h : isV2Token name = true ∧ version.all isV2Token = true) :
    NamedContentIdentity :=
  ⟨name, sha256 8, version, h.1, isDigest_hex 8, h.2⟩

def validation : VerifiedValidationToolchainProjection :=
  ⟨sha256 9, "cache", sha256 10, [named "build" none (by decide +kernel), named "pipx" none (by decide +kernel)],
    [named "python" none (by decide +kernel), named "build" none (by decide +kernel), named "pipx" none
      (by decide +kernel)],
    [named "uv" (some "1") (by decide +kernel), named "managed_python" (some "1") (by decide +kernel),
      named "python" (some "1") (by decide +kernel), named "pipx" (some "1") (by decide +kernel)],
        isDigest_hex 9, by decide +kernel, isDigest_hex 10,
    by decide +kernel⟩

def evidence : Evidence m := ⟨validation, artifacts, gitControl name, gitObservation name, dependency name⟩

def run : String := (Hex.ofNat 32 3).text

def retention : String := "roundlet-local:" ++ run ++ "/final-" ++ sha 1

theorem parse_retention : parseRoundletRetentionIdentity retention = some (run, "final", sha 1) := by decide +kernel

def expectation (payload receipt : String) : ExternalSelectionControlExpectation Empty where
  runId := run
  contractId := "contract"
  orchestratorTask := "orchestrator"
  repository := "owner/name"
  taskId := "task"
  baseSha := sha 3
  candidateSha := sha 1
  candidateTree := sha 2
  leaf := 5
  route := "route"
  schema := "roundwright-shadow-case/v2"
  profile := "roundwright-shadow-profile/provenance-decision/v1"
  authorityAgentsBlob := "agents"
  skillBlob := "skill"
  qualificationBlob := "qualification"
  payloadDigest := payload
  receiptDigest := receipt
  contractDigest := sha256 11
  originTree := sha 4
  authorityBlockDigest := "block"
  liveLeaf := [.int 1, .str "node", .int 5, .str "updated", .str "body"]
  ownerInstructions := []
  recorderStoreIdentity := sha256 12
  recorderStoreContract := "append-only-content-addressed-readback"
  recorderBindingDigest := sha256 13

def selection : Value Empty := .dict
  [("repository", .str "owner/name"), ("worker_task", .str "task"), ("base_sha", .str (sha 3)),
    ("candidate_sha", .str (sha 1)), ("candidate_tree", .str (sha 2)), ("active_leaf", .int 5), ("route", .str "route"),
      ("case_schema", .str "roundwright-shadow-case/v2"),
    ("evidence_profile", .str "roundwright-shadow-profile/provenance-decision/v1"),
      ("capture_mode", .str "terminal-snapshot"),
    ("gate", .str "recorder-capture-readiness"), ("blocker", .null), ("next_action", .str "record-terminal-snapshot")]

def recorder : Value Empty := expectedRecorderStore (expectation "" "") (sha 1)

def candidate : String :=
  candidateFingerprint m "owner/name" "task" (sha 3) (sha 1) (sha 2) (artifacts.projectionFingerprint m)

def authority : Value Empty := .dict
  [("origin_main", .dict [("commit", .str (sha 3)), ("tree", .str (sha 4))]),
    ("external_validation_contract",
      .dict [("skill_blob", .str "skill"), ("qualification_blob", .str "qualification")]),
    ("active_roundlet_block", .dict [("agents_blob", .str "agents"), ("block_sha256", .str "block")]),
    ("live_leaf", .dict [("issue_database_id", .int 1), ("issue_node_id", .str "node"), ("number", .int 5), ("updated_at", .str "updated"),
      ("body_sha256", .str "body")]), ("owner_instructions", .arr [])]

def payload : Value Empty := .dict
  [("schema", .str "roundwright-provenance-selection-control/v1"), ("control_mode", .str "FINAL"),
    ("capture_ready", .bool true),
      ("roundlet", .dict [("run_id", .str run), ("contract_id", .str "contract"), ("orchestrator_task", .str "orchestrator")]),
    ("selection", selection), ("authority", authority), ("control_contract_digest", .str (sha256 11)),
    ("freshness", .dict [("selection_at", .int 20), ("valid_until", .int 200), ("candidate_movement_invalidates", .bool true)]),
    ("validation_toolchain", validation.publicPayload),
      ("artifacts", expectedArtifacts artifacts (gitObservation name)),
    ("dependency_control", expectedDependency m (dependency name)), ("recorder_store", recorder),
    ("public_safe_projection", expectedPublic selection (expectation "" "") candidate
      (validation.projectionFingerprint m) (dependencyFingerprint name) ((gitObservation name).observationFingerprint m)
        (m.fingerprint recorder))]

/-- The receipt of a text. -/
def receiptOf (text : String) : Value Empty := .dict
  [("append_only", .bool true), ("capture_ready", .bool true), ("contract_sha256", .str (sha256 11)),
    ("control_mode", .str "FINAL"), ("payload_bytes", .int text.utf8ByteSize), ("payload_sha256", .str (m.sha256 text)),
      ("read_back", .str "VERIFIED"),
    ("retention_identity", .str retention), ("schema", .str "roundwright-provenance-selection-control-receipt/v1")]

theorem receiptExpected_receiptOf (text : String) {e : ExternalSelectionControlExpectation Empty}
    (h : e.contractDigest = sha256 11) :
    receiptExpected m (receiptOf text) text e = true := by
  simp [receiptExpected, receiptOf, h, reads, Value.text?, Value.same, Value.numeric, bool?]

def receiptDocument : Value Empty := receiptOf (m.dumps (payload name))

def expected : ExternalSelectionControlExpectation Empty :=
  expectation (m.sha256 (m.dumps (payload name))) (m.sha256 (m.dumps (receiptDocument name)))

def control : ExternalSelectionControl Empty where
  payloadDigest := m.sha256 (m.dumps (payload name))
  receiptDigest := m.sha256 (m.dumps (receiptDocument name))
  contractDigest := sha256 11
  retentionIdentity := retention
  mode := .final
  captureReady := true
  payload := m.dumps (payload name)
  receipt := m.dumps (receiptDocument name)
  expected := expected name
  loadFingerprint := m.fingerprint (.dict
    [("payload_digest", .str (m.sha256 (m.dumps (payload name)))),
      ("receipt_digest", .str (m.sha256 (m.dumps (receiptDocument name)))), ("contract_digest", .str (sha256 11)),
        ("retention_identity", .str retention), ("mode", .str "FINAL"),
      ("capture_ready", .bool true), ("expected", (expected name).fields)])

theorem expectedArtifacts_canonical (a : CandidateArtifactProjection) (g : ReviewedGitObservation) :
    (expectedArtifacts (F := Empty) a g).Canonical := by
  refine Value.dict_canonical (by simp) ?_
  simp only [List.forall_mem_cons, List.not_mem_nil, false_implies, implies_true, and_true]
  exact ⟨Value.dict_canonical (by simp) (by simp [Value.Canonical]), trivial, trivial,
    Value.dict_canonical (by simp) (by simp [Value.Canonical]), texts_canonical _⟩

theorem expectedDependency_canonical (d : DependencyExecutionControl m) : (expectedDependency m d).Canonical := by
  refine Value.dict_canonical (by simp) ?_
  simp only [List.forall_mem_cons, List.not_mem_nil, false_implies, implies_true, and_true]
  refine ⟨trivial, trivial, Value.canonicalItems_iff.2 fun v hv => ?_, Value.dict_canonical (by simp)
    (by simp [Value.Canonical])⟩
  obtain ⟨o, -, rfl⟩ := List.mem_map.1 hv
  exact Value.dict_canonical (by simp) (by simp [Value.Canonical])

theorem payload_canonical : (payload name).Canonical := by
  refine Value.dict_canonical (by simp) ?_
  simp only [List.forall_mem_cons, List.not_mem_nil, false_implies, implies_true, and_true]
  refine ⟨trivial, trivial, trivial, Value.dict_canonical (by simp) (by simp [Value.Canonical]),
    Value.dict_canonical (by simp) (by simp [Value.Canonical]), ?_, trivial, Value.dict_canonical (by simp)
      (by simp [Value.Canonical]),
    publicPayload_canonical _, expectedArtifacts_canonical _ _, expectedDependency_canonical _,
    Value.dict_canonical (by simp) (by simp [Value.Canonical]), ?_⟩
  · refine Value.dict_canonical (by simp) ?_
    simp only [List.forall_mem_cons, List.not_mem_nil, false_implies, implies_true, and_true]
    exact ⟨Value.dict_canonical (by simp) (by simp [Value.Canonical]), Value.dict_canonical (by simp)
      (by simp [Value.Canonical]), Value.dict_canonical (by simp) (by simp [Value.Canonical]), Value.dict_canonical
        (by simp) (by simp [Value.Canonical]), trivial⟩
  · refine Value.dict_canonical (by simp) ?_
    simp [selection, Value.Canonical]

theorem receiptOf_canonical (text : String) : (receiptOf text).Canonical := Value.dict_canonical (by simp)
    (by simp [Value.Canonical])

theorem receiptDocument_canonical : (receiptDocument name).Canonical := receiptOf_canonical _

theorem receiptOf_keys (text : String) :
    (receiptOf text).hasKeys ["append_only", "capture_ready", "contract_sha256", "control_mode",
    "payload_bytes", "payload_sha256", "read_back", "retention_identity", "schema"] = true := by
  simp [receiptOf]

theorem receiptOf_fields (text : String) : (receiptOf text).text? "retention_identity" = some retention ∧
    reads (receiptOf text) "control_mode" ControlMode.final.value = true ∧
    bool? (receiptOf text) "capture_ready" = some true := by
  simp [receiptOf, reads, Value.text?, bool?, ControlMode.value]

theorem strictJsonObject_dict {fields : List (String × Value Empty)} (h : (Value.dict fields).Canonical)
    (label : String) :
    strictJsonObject m (m.dumps (.dict fields)) label = .ok (.dict fields) := by
  simp only [strictJsonObject, bind_eq_ok, exists_unit, demand_eq_ok, refuse_eq_ok, pure_eq_ok]
  exact ⟨_, loads_dumps m.floats h, by simp, rfl⟩

theorem load_control : ExternalSelectionControl.load m (m.dumps (payload name)) (m.dumps (receiptDocument name))
    (expected name) =
    .ok (control name) := by
  have hselection : selectionExpected m selection (expected name) = true := by
    simp [selectionExpected, selection, expected, expectation, reads, Value.text?, Value.same, Value.numeric]
  have hauthority : authorityExpected m (item (payload name) "roundlet") authority (item authority "origin_main")
      (item authority "external_validation_contract") (item authority "active_roundlet_block") (expected name) =
        true := by
    simp [authorityExpected, payload, authority, expected, expectation, reads, Value.text?, Value.same, Value.sameItems,
      Value.numeric]
  have hreceipt : receiptExpected m (receiptDocument name) (m.dumps (payload name)) (expected name) = true :=
    receiptExpected_receiptOf _ rfl
  have hmode : ([ControlMode.rehearsal, .final].find? fun mode => reads (payload name) "control_mode" mode.value) =
    some .final := by
    simp [payload, reads, Value.text?, ControlMode.value]
  have hparse : strictJsonObject m (m.dumps (payload name)) "external selection control" = .ok (payload name) :=
    strictJsonObject_dict (payload_canonical name) _
  have hparse' : strictJsonObject m (m.dumps (receiptDocument name)) "external selection control receipt" =
    .ok (receiptDocument name) :=
    strictJsonObject_dict (receiptDocument_canonical name) _
  have hrun : isHex 32 run = true := Hex.isHex_text _
  have hpart : item (payload name) "selection" = selection ∧ item (payload name) "authority" = authority := by
    simp [payload]
  simp only [ExternalSelectionControl.load, bind_eq_ok, exists_unit, refuse_eq_ok, demand_eq_ok, not_or,
    Bool.not_eq_false, not_not, hparse, hparse', Except.ok.injEq, exists_eq_left', hreceipt, hpart, hselection,
      hauthority, hmode, Option.some.injEq]
  obtain ⟨hretention, hfinal, hready⟩ := receiptOf_fields (m.dumps (payload name))
  refine ⟨⟨isDigest_hex 12, rfl, isDigest_hex 13⟩, ⟨rfl, rfl⟩, receiptOf_keys _, retention, hretention,
    _, parse_retention, trivial, ⟨by
      simp [selection], by simp [authority], by simp [payload], by simp [payload, reads, Value.text?]⟩,
    ⟨by simp [authority], by simp [authority], by simp [authority]⟩, ⟨trivial, trivial⟩, true, by simp [payload, bool?],
    ⟨hrun, hfinal, hready, rfl⟩, rfl⟩

theorem window_control : window? m (control name) = some (20, 200) := by
  have hread : loads m.floats (m.dumps (payload name)) = some (payload name) :=
    loads_dumps m.floats (payload_canonical name)
  simp only [window?, control, hread]
  simp [payload, int?, asInt?]

/-- The columns of the selection. -/
def columns : SelectionColumns where
  payloadDigest := m.sha256 (m.dumps (payload name))
  receiptDigest := m.sha256 (m.dumps (receiptDocument name))
  contractDigest := sha256 11
  retentionIdentity := retention
  selectionAt := 20
  candidateFingerprint := candidate
  validationFingerprint := validation.projectionFingerprint m
  gitFingerprint := (gitObservation name).observationFingerprint m
  controlFingerprint := controlsFingerprint m (dependencyFingerprint name)
    (gitControlFingerprint m binding (dependencyFingerprint name) 20) (observationFingerprints name)
  recorderStoreFingerprint := m.fingerprint recorder

theorem columns_valid : (columns name).validate = .ok () := by
  have hcontract := isDigest_hex 11
  have hdigest : ∀ text, isDigest (m.sha256 text) = true := isDigest_sha256 m
  simp only [SelectionColumns.validate, refuse_eq_ok, not_or]
  refine ⟨?_, by simp [columns, parse_retention], by simp [columns]⟩
  simp [columns, candidate, candidateFingerprint, VerifiedValidationToolchainProjection.projectionFingerprint,
    controlsFingerprint, ReviewedGitObservation.observationFingerprint, isDigest_fingerprint, hdigest, hcontract]

def reconciled : VerifiedProvenanceSelection Empty where
  toSelectionColumns := columns name
  selectionFingerprint := m.fingerprint (columns name).value
  externalLoadFingerprint := (control name).loadFingerprint
  loadedControl := control name
  reconciliationFingerprint := sealFingerprint m (m.fingerprint (columns name).value) (control name).loadFingerprint

theorem plain_sections : (validation.publicPayload (F := Empty)).plain = true ∧
    (expectedArtifacts (F := Empty) artifacts (gitObservation name)).plain = true ∧
    (expectedDependency m (dependency name)).plain = true ∧
    (expectedPublic selection (expected name) candidate (validation.projectionFingerprint m)
    (dependencyFingerprint name)
      ((gitObservation name).observationFingerprint m) (m.fingerprint recorder)).plain = true := by
  have hnamed : ∀ {items : List NamedContentIdentity} {value : NamedContentIdentity → Value Empty},
    (∀ n, (value n).plain = true) →
      (Value.dict (items.map fun n => (n.name, value n))).plain = true := by
    intro items value hvalue
    refine Value.dict_plain fun f hf => ?_
    obtain ⟨n, -, rfl⟩ := List.mem_map.1 hf
    exact hvalue n
  refine ⟨Value.dict_plain ?_, Value.dict_plain ?_, Value.dict_plain ?_, Value.dict_plain ?_⟩
  · simp only [List.forall_mem_cons, List.not_mem_nil, false_implies, implies_true, and_true]
    refine ⟨rfl, rfl, rfl, hnamed fun _ => rfl, hnamed fun _ => rfl, hnamed fun n => Value.dict_plain ?_⟩
    cases n.version <;> simp [Value.plain]
  · simp only [List.forall_mem_cons, List.not_mem_nil, false_implies, implies_true, and_true]
    exact ⟨Value.dict_plain (by simp [Value.plain]), rfl, rfl, Value.dict_plain (by simp [Value.plain]), rfl⟩
  · simp only [List.forall_mem_cons, List.not_mem_nil, false_implies, implies_true, and_true]
    refine ⟨rfl, rfl, Value.plainItems_iff.2 fun v hv => ?_, Value.dict_plain (by simp [Value.plain])⟩
    obtain ⟨o, -, rfl⟩ := List.mem_map.1 hv
    exact Value.dict_plain (by simp [Value.plain])
  · simp [selection, Value.plain]

theorem reconcile_control : reconcileFinalProvenanceSelection m (control name) (evidence name) 30 =
    .ok (reconciled name) := by
  have hverify := verifyLoaded_of_load (load_control name)
  have hparse : strictJsonObject m (control name).payload "external selection control" = .ok (payload name) :=
    strictJsonObject_dict (payload_canonical name) _
  have hselection : selectionExpected m selection (control name).expected = true := by
    simp [selectionExpected, selection, control, expected, expectation, reads, Value.text?, Value.same, Value.numeric]
  have hready : selectionReady selection = true := by
    simp [selectionReady, selection, reads, Value.text?, isNull]
  have hrepository : isRepository "owner/name" = true ∧ isV2Token "task" = true := by decide +kernel
  have hpart : item (payload name) "selection" = selection ∧
      item (payload name) "freshness" =
        .dict [("selection_at", .int 20), ("valid_until", .int 200), ("candidate_movement_invalidates", .bool true)] ∧
      item (payload name) "validation_toolchain" = validation.publicPayload ∧
      item (payload name) "artifacts" = expectedArtifacts artifacts (gitObservation name) ∧
      item (payload name) "dependency_control" = expectedDependency m (dependency name) ∧
        item (payload name) "recorder_store" = recorder ∧
      item (payload name) "public_safe_projection" = expectedPublic selection (expected name) candidate
        (validation.projectionFingerprint m) (dependencyFingerprint name)
          ((gitObservation name).observationFingerprint m) (m.fingerprint recorder) := by
    simp only [payload, item_dict]
    simp
    rfl
  obtain ⟨hselectionPart, hfreshness, hvalidation, hartifacts, hdependency, hrecorder, hpublic⟩ := hpart
  obtain ⟨hplainValidation, hplainArtifacts, hplainDependency, hplainPublic⟩ := plain_sections name
  have hbound : (evidence name).bound "owner/name" "task" (sha 1) (sha 2) 20 = true := by
    simp only [Evidence.bound, Bool.and_eq_true, decide_eq_true_eq]
    exact ⟨⟨⟨⟨⟨⟨rfl, rfl⟩, rfl⟩, rfl⟩, rfl⟩, rfl⟩, rfl⟩
  have hobserved : (evidence name).observed = true := by
    simp [Evidence.observed, evidence, dependency, observation, DependencyComponent.value, artifacts, gitObservation,
      gitName]
  have hsealed : VerifiedProvenanceSelection.fromReconciliation m (columns name)
    (control name) = .ok (reconciled name) := by
    simp only [VerifiedProvenanceSelection.fromReconciliation, bind_eq_ok, exists_unit, columns_valid]
    exact ⟨trivial, rfl⟩
  simp only [reconcileFinalProvenanceSelection, bind_eq_ok, exists_unit, refuse_eq_ok, demand_eq_ok, not_or,
    Bool.not_eq_false, not_not, hverify, hparse, Except.ok.injEq, exists_eq_left', hselectionPart, hfreshness,
      hvalidation, hartifacts, hdependency, hrecorder, hpublic]
  refine ⟨⟨by decide, rfl, rfl⟩, trivial, ⟨by simp [selection], by simp⟩,
    ⟨by simp [selection], by simp⟩,
      by simp [payload], 20, by simp [int?, asInt?], 200, by simp [int?, asInt?], ⟨hrepository.1, hrepository.2, ?_, hselection, hready, by decide, by decide, by simp [bool?], by decide, by decide⟩, hbound, ?_⟩
  · simp [control, expected, expectation, isHex_sha]
  · refine ⟨?_, (dependencyFingerprint name, observationFingerprints name), controlFingerprint_dependency name, rfl,
      hobserved, ?_, ?_, ?_, ?_, ?_, ?_, hsealed⟩
    · rw [rewrap_eq_ok]
      exact require_dependency name (by decide)
    · exact (Value.same_iff_eq _ _ _ hplainValidation).2 rfl
    · exact (Value.same_iff_eq _ _ _ hplainArtifacts).2 rfl
    · exact (Value.same_iff_eq _ _ _ hplainDependency).2 rfl
    · exact (Value.same_iff_eq _ _ _ (expectedRecorderStore_plain _ _)).2 rfl
    · exact (Value.same_iff_eq _ _ _ hplainPublic).2 rfl
    · simp [payload, control, reads, Value.text?]

/-- The record of the selection can be sealed exactly when the name is one for records. -/
theorem sealable_control : Sealable (control name) (evidence name) (payload name) ↔ isV2Token name.1 = true := by
  have htokens : isV2Token "contract" = true ∧ isV2Token "orchestrator" = true ∧ isV2Token "route" = true ∧
    isV2Token "git" = true ∧
      isV2Token "source" = true ∧ isV2Token "1.0.0" = true := by decide +kernel
  have hprofile : isProfileId "roundwright-shadow-profile/provenance-decision/v1" = true := by decide +kernel
  obtain ⟨hcontract, horchestrator, hroute, hgit, hsource, hversion⟩ := htokens
  have hleaf : item (item (payload name) "selection") "active_leaf" = .int 5 := by simp [payload, selection]
  constructor
  · intro h
    exact (h.observations (observation .package name) List.mem_cons_self).1
  · intro h
    refine ⟨⟨hcontract, horchestrator⟩, ⟨⟨5, by decide, hleaf⟩, hroute, rfl, hprofile⟩, fun o ho => ?_⟩
    rcases List.mem_cons.1 ho with rfl | ho
    · exact ⟨h, hsource, hversion⟩
    · rw [List.mem_singleton.1 ho]
      exact ⟨hgit, hsource, hversion⟩
end

def package : Name := ⟨"package", by decide +kernel⟩

/-- A name of two parts is one for policies and none for records. -/
def pythonPackage : Name := ⟨"python/package", by decide +kernel⟩

end Sample

open Sample in
theorem reconciled_seals_and_reads_back_sample :
    SealsAndReadsBack m (control package) (reconciled package) (evidence package) 40 50 60 :=
  (reconciled_seals_and_reads_back_iff (reconcile_control package) (window_control package) (by decide) (by decide)
      (by decide)).2
    ⟨⟨payload package, loads_dumps _ (payload_canonical package),
      (sealable_control package).2 (by decide +kernel)⟩,
      (freshAt_dependency _).2 (by decide), (freshAt_dependency _).2 (by decide), (freshAt_dependency _).2 (by decide)⟩

open Sample in
/-- A loaded control is reconciled with evidence of a package `python/package`, and no record is made of the selection
in its window. -/
theorem reconciled_package_unsealable :
    ExternalSelectionControl.load m (m.dumps (payload pythonPackage))
        (m.dumps (receiptDocument pythonPackage)) (expected pythonPackage) =
      .ok (control pythonPackage) ∧
    reconcileFinalProvenanceSelection m (control pythonPackage) (evidence pythonPackage) 30 =
      .ok (reconciled pythonPackage) ∧
    window? m (control pythonPackage) = some (20, 200) ∧
    ∀ record, materializeVerifiedProvenanceRecord m (control pythonPackage) (reconciled pythonPackage)
      (evidence pythonPackage) 50 ≠ .ok record := by
  have hreconcile := reconcile_control pythonPackage
  have hwindow := window_control pythonPackage
  refine ⟨load_control pythonPackage, hreconcile, hwindow, fun record hrecord => ?_⟩
  obtain ⟨payload, hloaded⟩ := loaded_of_verifyLoaded (verifyLoaded_of_reconcile hreconcile)
  obtain ⟨dependency, observations, h⟩ := reconcile_spec hloaded.parsed hreconcile
  obtain ⟨-, hsealable, -⟩ := (materialize_iff hloaded hreconcile h hwindow (by decide) (by decide)).1 hrecord
  have hname : isV2Token "python/package" = true :=
    (hsealable.observations (observation .package pythonPackage) List.mem_cons_self).1
  exact absurd hname (by decide +kernel)

end Roundwright.Provenance
