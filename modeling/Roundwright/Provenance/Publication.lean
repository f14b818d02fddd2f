/-
Appending a record by its steps in the file system. A file that was opened and not filled stays in the way of every
later append of the record; but no process reads a part of a record, and what was appended once is there. The file store
of runtime bindings publishes in the same way, and the last result says of both when a call survives the death of its
process.
-/
import Roundwright.Lib.Exclusive
import Roundwright.Lib.JsonPrefix
import Roundwright.Provenance.Archive
import Roundwright.State.RuntimeCrash

namespace Roundwright.Provenance

open Lib Lib.JsonText

/-! ## The steps -/

/-- The files under the root, the directories of candidates, and what process made a file, which no check asks. -/
structure Volume (π : Type) where
  files : List ((String × String) × String)
  directories : List String
  makers : String × String → Option π

namespace Volume

variable {π : Type}

def file (v : Volume π) (name : String × String) : Option String := v.files.lookup name

def set (v : Volume π) (name : String × String) (text : String) : Volume π :=
  { v with files := (name, text) :: v.files.filter fun f => f.1 ≠ name }

@[simp] theorem file_set (v : Volume π) (name : String × String) (text : String) : (v.set name text).file name = some text := by
  simp [file, set]

@[simp] theorem makers_set (v : Volume π) (name : String × String) (text : String) : (v.set name text).makers = v.makers := rfl

end Volume

inductive AppendStep where
  | makeDirectory
  | create
  | write
  | read

/-- A program on the files of a record store. The environment chooses how much of a record is written first. -/
abbrev Appending (π : Type) := Script AppendStep Error Nat (Volume π)

section Steps

variable {F : Type} [DecidableEq F] (m : Machine F) {π : Type} (links : List (List String)) (store : RecordStore)

/-- The name of a record. -/
def VerifiedDurableProvenanceRecord.name (record : VerifiedDurableProvenanceRecord) : String × String :=
  (record.candidateSha, fileName record.recordDigest)

/-- The file of a record is opened by its first process; the others compare what they find. -/
def writeSteps (p : π) (record : VerifiedDurableProvenanceRecord) : Appending π Unit := do
  let made ← Script.commit .create fun _ v =>
    match v.file record.name with
    | some _ => (.ok false, v)
    | none => (.ok true, { v.set record.name "" with makers := Function.update v.makers record.name (some p) })
  match made with
  | true =>
    Script.commit .write fun part => Tx.write fun v => .ok (v.set record.name (String.ofList (record.payload.toList.take part)))
    Script.commit .write fun _ => Tx.write fun v => .ok (v.set record.name record.payload)
  | false =>
    Script.commit .read fun _ => Tx.query fun v =>
      refuse (v.file record.name ≠ some record.payload) (provenance "verified provenance record overwrite is forbidden")

/-- `append`, by a process. No program of the store makes a link. -/
def RecordStore.appendSteps (p : π) (record : VerifiedDurableProvenanceRecord) (control : ExternalSelectionControl F)
    (selection : VerifiedProvenanceSelection F) (i : Evidence m) (now : Int) : Appending π String := do
  let rebuilt ← Script.check (materializeVerifiedProvenanceRecord m control selection i now)
  Script.check (rewrap (record.verify m) fun _ => provenance "verified provenance record is unsealed")
  Script.check (refuse (record.payload ≠ rebuilt.payload) (provenance "verified provenance record authority does not match"))
  Script.check (requireSafePath store.root ⟨links, []⟩)
  Script.check (refuse (record.retentionIdentity ≠ store.retentionIdentity)
    (provenance "verified provenance record store binding is invalid"))
  Script.commit .makeDirectory fun _ => Tx.write fun v => .ok { v with directories := v.directories.insert record.candidateSha }
  Script.check (requireSafePath (store.root ++ [record.candidateSha]) ⟨links, []⟩)
  Script.check (requireSafePath (store.root ++ [record.candidateSha, fileName record.recordDigest]) ⟨links, []⟩)
  writeSteps p record
  return record.recordDigest

/-- `read_back` of a record -/
def RecordStore.readSteps (record : VerifiedDurableProvenanceRecord) : Appending π ReadBackVerifiedProvenanceRecord :=
  Script.commit .read fun _ => Tx.query fun v => store.readBack m record.candidateSha record.recordDigest ⟨links, v.files⟩

end Steps

variable {text : String}

section Facts

variable {F : Type} [DecidableEq F] {m : Machine F} {π τ : Type} {links : List (List String)} {store : RecordStore}
  {record : VerifiedDurableProvenanceRecord} {control : ExternalSelectionControl F} {selection : VerifiedProvenanceSelection F}
  {i : Evidence m} {now : Int} {p : π} {v v' w : Volume π}

/-! ## What is appended -/

theorem seen_of_verified {doc : Value F} (h : verifiedRecordDocument m text = .ok doc) :
    doc.isDict = true ∧ m.dumps doc = text ∧ reads doc "record_digest" (m.fingerprint (doc.without "record_digest")) = true ∧
      checkSelection (item doc "selection") = true := by
  simp only [verifiedRecordDocument, bind_eq_ok, exists_unit] at h
  obtain ⟨doc', hdoc, -, hdigest, -, -, hselection, -, -, _, -, _, -, _, -, -, hrest⟩ := h
  have hsame : doc' = doc := by
    split at hrest
    · simp only [bind_eq_ok, exists_unit] at hrest
      obtain ⟨_, -, -, _, -, _, -, -, -, hv⟩ := hrest
      exact pure_eq_ok.1 hv
    · simp at hrest
  subst hsame
  simp only [strictJsonObject, bind_eq_ok, exists_unit, refuse_eq_ok, pure_eq_ok, Bool.not_eq_false] at hdoc
  obtain ⟨_, -, hdict, rfl⟩ := hdoc
  simp only [refuse_eq_ok, not_or, not_not, Bool.not_eq_false] at hdigest hselection
  exact ⟨hdict, hdigest.2, hdigest.1, hselection.2⟩

/-- The checks of an append, which do not depend on the files. -/
structure Checked (m : Machine F) (links : List (List String)) (store : RecordStore)
    (record : VerifiedDurableProvenanceRecord) (control : ExternalSelectionControl F)
    (selection : VerifiedProvenanceSelection F) (i : Evidence m) (now : Int) : Prop where
  rebuilt : ∃ rebuilt, materializeVerifiedProvenanceRecord m control selection i now = .ok rebuilt ∧ record.payload = rebuilt.payload
  verified : record.verify m = .ok ()
  root : requireSafePath store.root ⟨links, []⟩ = .ok ()
  retention : record.retentionIdentity = store.retentionIdentity
  candidate : requireSafePath (store.root ++ [record.candidateSha]) ⟨links, []⟩ = .ok ()
  path : requireSafePath (store.root ++ [record.candidateSha, fileName record.recordDigest]) ⟨links, []⟩ = .ok ()

/-- A record as it is read back. -/
def VerifiedDurableProvenanceRecord.back (record : VerifiedDurableProvenanceRecord) : ReadBackVerifiedProvenanceRecord :=
  ⟨record.payload, record.recordDigest, record.retentionIdentity, record.candidateSha⟩

/-- A text that was cut off. -/
def Cut (payload text : String) : Prop := ∃ rest, rest ≠ "" ∧ text ++ rest = payload

theorem Checked.canonical (h : Checked m links store record control selection i now) :
    ∃ doc : Value F, doc.Canonical ∧ m.dumps doc = record.payload := by
  obtain ⟨rebuilt, hrebuilt, hpayload⟩ := h.rebuilt
  obtain ⟨fields, hwritten⟩ := written_of_materialize hrebuilt
  exact ⟨_, digested_canonical (m := m) hwritten.keys hwritten.undigested hwritten.canonical, (hpayload.trans hwritten.text).symm⟩

theorem Checked.seen (h : Checked m links store record control selection i now) :
    ∃ doc, verifiedRecordDocument m record.payload = .ok doc ∧ doc.text? "record_digest" = some record.recordDigest ∧
      (item doc "external").text? "retention_identity" = some record.retentionIdentity ∧
      (item doc "selection").text? "candidate_sha" = some record.candidateSha := by
  have hverify := h.verified
  simp only [VerifiedDurableProvenanceRecord.verify, bind_eq_ok, exists_unit, refuse_eq_ok, not_or, Bool.not_eq_false] at hverify
  obtain ⟨doc, hdoc, ⟨hdigest, hretention, hcandidate⟩, -⟩ := hverify
  exact ⟨doc, hdoc, of_decide_eq_true hdigest, of_decide_eq_true hretention, of_decide_eq_true hcandidate⟩

theorem not_read_cut (h : Checked m links store record control selection i now) (hcut : Cut record.payload text)
    (back : ReadBackVerifiedProvenanceRecord) : readBackVerifiedRecord m text ≠ .ok back := by
  intro hback
  simp only [readBackVerifiedRecord, bind_eq_ok] at hback
  obtain ⟨doc, hdoc, -⟩ := hback
  obtain ⟨hdict, hdumps, -⟩ := seen_of_verified hdoc
  obtain ⟨whole, hcanonical, hwhole⟩ := h.canonical
  obtain ⟨rest, hrest, happend⟩ := hcut
  refine hrest ?_
  exact dumps_prefix m.floats hdict hcanonical (by rw [show dumps m.floats doc = text from hdumps, happend]; exact hwhole.symm)

theorem readBack_eq_ok {back : ReadBackVerifiedProvenanceRecord}
    (h : store.readBack m record.candidateSha record.recordDigest ⟨links, v.files⟩ = .ok back) :
    ∃ text, v.file record.name = some text ∧ readBackVerifiedRecord m text = .ok back := by
  simp only [RecordStore.readBack, bind_eq_ok, exists_unit, demand_eq_ok, pure_eq_ok] at h
  obtain ⟨-, -, text, htext, back', hback, -, rfl⟩ := h
  exact ⟨text, htext, hback⟩

theorem readBack_whole (h : Checked m links store record control selection i now)
    (hfile : v.file record.name = some record.payload) :
    store.readBack m record.candidateSha record.recordDigest ⟨links, v.files⟩ = .ok record.back := by
  obtain ⟨doc, hdoc, hdigest, hretention, hcandidate⟩ := h.seen
  obtain ⟨-, -, hfingerprint, hselection⟩ := seen_of_verified hdoc
  have hsha : isHex 40 record.candidateSha = true := by
    simp only [checkSelection, Bool.and_eq_true, List.all_eq_true] at hselection
    have hall := hselection.1.1.1.1.1.1.1.2 "candidate_sha" (by simp)
    rw [hcandidate] at hall
    exact hall
  have hname : isDigest record.recordDigest = true := by
    have hsame : record.recordDigest = m.fingerprint (doc.without "record_digest") :=
      Option.some.inj (hdigest.symm.trans (of_decide_eq_true hfingerprint))
    rw [hsame]
    exact isDigest_fingerprint m _
  have hread : readBackVerifiedRecord m record.payload = .ok record.back := by
    rw [readBackVerifiedRecord, hdoc, ok_bind, hdigest, hretention, hcandidate]
    rfl
  have hpath : requireSafePath (store.root ++ [record.candidateSha, fileName record.recordDigest]) ⟨links, v.files⟩ =
    .ok () := h.path
  have hlookup : v.files.lookup (record.candidateSha, fileName record.recordDigest) = some record.payload := hfile
  simp [RecordStore.readBack, hsha, hname, hpath, hlookup, hread, refuse, demand, VerifiedDurableProvenanceRecord.back,
    h.retention, pure, Except.pure]

theorem payload_ne_empty (h : Checked m links store record control selection i now) : record.payload ≠ "" := by
  intro hempty
  obtain ⟨doc, hdoc, -⟩ := h.seen
  have hloads := loads_of_verified hdoc
  rw [hempty] at hloads
  cases hloads

/-- What is written first is cut off or is the whole. -/
theorem cut_take (payload : String) (part : Nat) :
    Cut payload (String.ofList (payload.toList.take part)) ∨ String.ofList (payload.toList.take part) = payload := by
  have hwhole : String.ofList (payload.toList.take part) ++ String.ofList (payload.toList.drop part) = payload := by
    rw [← String.ofList_append, List.take_append_drop, String.ofList_toList]
  by_cases hrest : String.ofList (payload.toList.drop part) = ""
  · rw [hrest, String.append_empty] at hwhole
    exact .inr hwhole
  · exact .inl ⟨_, hrest, hwhole⟩

/-! ## A process that dies -/

/-- The file under the name, once an append has gone through its steps. -/
theorem walks_write {D : Volume π → Prop} {Q : Except Error Unit → Volume π → Prop} (hs : D v)
    (hpart : v.file record.name = none → ∀ (w : Volume π) text, w.file record.name = some text → D w)
    (hnew : v.file record.name = none → ∀ w : Volume π, w.file record.name = some record.payload → Q (.ok ()) w)
    (hfound : ∀ text, v.file record.name = some text →
      Q (refuse (some text ≠ some record.payload) (provenance "verified provenance record overwrite is forbidden")) v) :
    Script.Walks D Q (writeSteps p record) v := by
  cases hfile : v.file record.name with
  | some text =>
    refine Script.Walks.commit_ok hs fun _ => ⟨false, v, by rw [hfile], hs, Script.Walks.commit hs fun _ => ⟨hs, ?_⟩⟩
    have hresult := hfound text hfile
    rw [← hfile] at hresult
    exact hresult
  | none =>
    have hat : ∀ (w : Volume π) text, D (w.set record.name text) := fun w text => hpart hfile _ text (Volume.file_set _ _ _)
    have hmade : D { v.set record.name "" with makers := Function.update v.makers record.name (some p) } :=
      hpart hfile _ "" (Volume.file_set _ _ _)
    refine Script.Walks.commit_ok hs fun _ => ⟨true, _, by rw [hfile], hmade, ?_⟩
    refine Script.Walks.commit_ok hmade fun part => ⟨(), _, rfl, hat _ _, ?_⟩
    exact Script.Walks.commit (hat _ _) fun _ => ⟨hat _ _, hnew hfile _ (Volume.file_set _ _ _)⟩

theorem walks_append (h : Checked m links store record control selection i now) {D : Volume π → Prop}
    {Q : Except Error String → Volume π → Prop} (hs : ∀ w : Volume π, w.file record.name = v.file record.name → D w)
    (hpart : v.file record.name = none → ∀ (w : Volume π) text, w.file record.name = some text → D w)
    (hnew : v.file record.name = none → ∀ w : Volume π, w.file record.name = some record.payload →
    Q (.ok record.recordDigest) w)
    (hfound : ∀ text, v.file record.name = some text → ∀ w : Volume π, w.file record.name = some text →
      Q (do
        refuse (some text ≠ some record.payload) (provenance "verified provenance record overwrite is forbidden")
        return record.recordDigest) w) :
    Script.Walks D Q (store.appendSteps m links p record control selection i now) v := by
  obtain ⟨rebuilt, hrebuilt, hpayload⟩ := h.rebuilt
  refine Script.Walks.check_ok hrebuilt (Script.Walks.check_ok (a := ()) (by rw [h.verified]; rfl) ?_)
  refine Script.Walks.check_ok (refuse_of_not (not_not.2 hpayload)) (Script.Walks.check_ok h.root ?_)
  refine Script.Walks.check_ok (refuse_of_not (not_not.2 h.retention))
    (Script.Walks.commit_ok (hs v rfl) fun _ => ⟨(), _, rfl, hs _ rfl, ?_⟩)
  refine Script.Walks.check_ok h.candidate (Script.Walks.check_ok h.path (Script.Walks.bind (walks_write (hs _ rfl) hpart ?_ ?_)))
  · intro hnone w hw
    exact Script.Walks.pure (hpart hnone w _ hw) (hnew hnone w hw)
  · intro text htext
    have hresult := hfound text htext { v with directories := v.directories.insert record.candidateSha } htext
    by_cases hsame : some text = some record.payload
    · rw [refuse_of_not (not_not.2 hsame)] at hresult ⊢
      exact Script.Walks.pure (hs _ rfl) hresult
    · rw [refuse, if_pos hsame] at hresult ⊢
      exact ⟨hs _ rfl, hresult⟩

theorem append_passes {d t : Volume π} {digest : String}
    (h : Script.Passes (fun _ => True) (store.appendSteps m links p record control selection i now) v d (.ok digest) t) :
    Checked m links store record control selection i now ∧ digest = record.recordDigest ∧ t.file record.name = some record.payload ∧
      (v.file record.name = none ∨ v.file record.name = some record.payload) ∧
      (d.file record.name = v.file record.name ∨ v.file record.name = none ∧ ∃ text, d.file record.name = some text) := by
  have hchecked : Checked m links store record control selection i now := by
    have hsteps := h
    simp only [RecordStore.appendSteps, Script.passes_check_bind, exists_unit, rewrap_eq_ok, refuse_eq_ok, not_not] at hsteps
    obtain ⟨rebuilt, hrebuilt, hverified, hpayload, hroot, hretention, hrest⟩ := hsteps
    obtain ⟨_, -, hrest⟩ := hrest.ends
    obtain ⟨⟨⟩, -, hrest⟩ := Script.ends_check_bind.1 hrest
    obtain ⟨⟨⟩, hcandidate, hrest⟩ := Script.ends_check_bind.1 hrest
    obtain ⟨⟨⟩, hpath, -⟩ := Script.ends_check_bind.1 hrest
    exact ⟨⟨rebuilt, hrebuilt, hpayload⟩, hverified, hroot, hretention, hcandidate, hpath⟩
  have hwalk := walks_append (p := p) (v := v) hchecked
    (D := fun w => w.file record.name = v.file record.name ∨ v.file record.name = none ∧ ∃ text, w.file record.name = some text)
    (Q := fun result w => ∀ digest, result = .ok digest → digest = record.recordDigest ∧ w.file record.name = some record.payload ∧
      (v.file record.name = none ∨ v.file record.name = some record.payload))
    (fun w hw => .inl hw) (fun hnone w text hw => .inr ⟨hnone, text, hw⟩)
    (fun hnone w hw _ hresult => ⟨(Except.ok.inj hresult).symm, hw, .inl hnone⟩) ?_
  · obtain ⟨hdigest, hwritten, hbefore⟩ := (Proc.Walks.ends hwalk h.ends).2 digest rfl
    have hd := Proc.Walks.passes hwalk h
    exact ⟨hchecked, hdigest, hwritten, hbefore, hd⟩
  · intro text htext w hw digest' hresult
    simp only [bind_eq_ok, exists_unit, refuse_eq_ok, not_not, pure_eq_ok] at hresult
    exact ⟨hresult.2.symm, hw.trans hresult.1, .inr (htext.trans hresult.1)⟩

variable (m links store) in
/-- An append with no other process on the files. -/
def appendAlone (environment : AppendStep → τ → Nat × τ) (e : τ) (p : π) (record : VerifiedDurableProvenanceRecord)
    (control : ExternalSelectionControl F) (selection : VerifiedProvenanceSelection F) (i : Evidence m) (now : Int) (v : Volume π) :
    Except Error String × Volume π :=
  let run := (store.appendSteps m links p record control selection i now).run environment v e
  (run.1, run.2.1)

variable (m links store) in
/-- The append can be repeated from these files: it returns the digest, and the whole record is then read back. -/
def Reappends (environment : AppendStep → τ → Nat × τ) (e : τ) (p : π) (record : VerifiedDurableProvenanceRecord)
    (control : ExternalSelectionControl F) (selection : VerifiedProvenanceSelection F) (i : Evidence m) (now : Int)
    (v : Volume π) : Prop :=
  (appendAlone m links store environment e p record control selection i now v).1 = .ok record.recordDigest ∧
  store.readBack m record.candidateSha record.recordDigest
    ⟨links, (appendAlone m links store environment e p record control selection i now v).2.files⟩ = .ok record.back

/-- An append can be repeated where there is no file yet or the whole record. -/
theorem reappends_iff {environment : AppendStep → τ → Nat × τ} {e : τ} (h : Checked m links store record control selection i now) :
    Reappends m links store environment e p record control selection i now v ↔
      v.file record.name = none ∨ v.file record.name = some record.payload := by
  have hrun := Script.Walks.run (walks_append (p := p) (v := v) h (D := fun _ => True)
    (Q := fun result w => (v.file record.name = none → result = .ok record.recordDigest ∧ w.file record.name = some record.payload) ∧
      ∀ text, v.file record.name = some text → w.file record.name = some text ∧
        (result = .ok record.recordDigest ↔ text = record.payload))
    (fun _ _ => trivial) (fun _ _ _ _ => trivial) ?_ ?_) environment e
  -- with no file the append writes it, with one it reads it back
  · cases hfile : v.file record.name with
    | none =>
      obtain ⟨hresult, hwritten⟩ := hrun.1 hfile
      exact ⟨fun _ => .inl rfl, fun _ => ⟨hresult, readBack_whole h hwritten⟩⟩
    | some text =>
      obtain ⟨hkept, hresult⟩ := hrun.2 text hfile
      constructor
      · rintro ⟨hok, -⟩
        rw [hresult.1 hok]
        exact .inr rfl
      · rintro (hnone | hsame)
        · cases hnone
        · obtain rfl := Option.some.inj hsame
          exact ⟨hresult.2 rfl, readBack_whole h hkept⟩
  · intro hnone w hw
    refine ⟨fun _ => ⟨rfl, hw⟩, fun text htext => ?_⟩
    rw [hnone] at htext
    cases htext
  · intro text htext w hw
    refine ⟨fun hnone => ?_, fun text' htext' => ?_⟩
    · rw [hnone] at htext
      cases htext
    · obtain rfl := Option.some.inj (htext.symm.trans htext')
      refine ⟨hw, ?_⟩
      simp only [bind_eq_ok, exists_unit, refuse_eq_ok, not_not, Option.some.injEq, pure_eq_ok, and_true]

/-- An append that can be repeated has a run that returns, whose process can die at the end of it. -/
theorem Reappends.passes {environment : AppendStep → τ → Nat × τ} {e : τ}
    (h : Reappends m links store environment e p record control selection i now v) :
    ∃ t, Script.Passes (fun _ => True) (store.appendSteps m links p record control selection i now) v t
    (.ok record.recordDigest) t := by
  have hends := Proc.ends_respond environment (store.appendSteps m links p record control selection i now) v e
  have hresult : (Proc.respond environment (store.appendSteps m links p record control selection i now) v e).1 =
    .ok record.recordDigest := h.1
  rw [hresult] at hends
  exact ⟨_, Proc.Passes.finish hends⟩

/-- An append that returns can be repeated after its process died on the way exactly when the file under its name is as
it was before, or as it is in the end. -/
theorem reappends_passes {environment : AppendStep → τ → Nat × τ} {e : τ} {q : π} {d t : Volume π} {digest : String}
    (h : Script.Passes (fun _ => True) (store.appendSteps m links p record control selection i now) v d (.ok digest) t) :
    Reappends m links store environment e q record control selection i now d ↔
      d.file record.name = v.file record.name ∨ d.file record.name = t.file record.name := by
  obtain ⟨hchecked, -, hdone, hbefore, hd⟩ := append_passes h
  rw [reappends_iff hchecked, hdone]
  rcases hd with hsame | ⟨hnone, -⟩
  · rw [hsame]
    exact ⟨fun _ => .inl rfl, fun _ => hbefore⟩
  · rw [hnone]

/-! ## Processes that append the same record -/

/-- The file under a name, with its maker. -/
def view (name : String × String) (v : Volume π) : Option (Option π × String) := (v.file name).map fun text => (v.makers name, text)

inductive Request where
  | append
  | read

variable (m links store) in
/-- What a process runs: the append, or a reader of the record. -/
def program (record : VerifiedDurableProvenanceRecord) (control : ExternalSelectionControl F)
    (selection : VerifiedProvenanceSelection F) (i : Evidence m) (now : Int) (p : π) : Request →
    Appending π (String ⊕ ReadBackVerifiedProvenanceRecord)
  | .append => do
    let digest ← store.appendSteps m links p record control selection i now
    return .inl digest
  | .read => do
    let back ← store.readSteps m links record
    return .inr back

section Twins

open Exclusive

/-- The step of a process on the file of a record. -/
abbrev Share (record : VerifiedDurableProvenanceRecord) (p : π) : Volume π → Volume π → Prop :=
  Moves (view record.name) (Cut record.payload) record.payload p

abbrev Sound (record : VerifiedDurableProvenanceRecord) : Volume π → Prop :=
  Exclusive.Sound (view record.name) (Cut record.payload) record.payload

abbrev Whole (record : VerifiedDurableProvenanceRecord) : Volume π → Prop := Done (view record.name) record.payload

abbrev WorksOn {α : Type} (record : VerifiedDurableProvenanceRecord) (p : π) (P : Volume π → Prop) (x : Appending π α)
    (A : α → Volume π → Prop) : Prop :=
  Works (view record.name) (Cut record.payload) record.payload (Sound record) p P x A

theorem whole_iff : Whole record v ↔ v.file record.name = some record.payload := by
  constructor
  · rintro ⟨o, ho⟩
    obtain ⟨text, htext, heq⟩ := Option.map_eq_some_iff.1 ho
    rw [htext, (Prod.mk.inj heq).2]
  · intro h
    exact ⟨v.makers record.name, by rw [view, h]; rfl⟩

theorem own_set (h : v.makers record.name = some p) : Own (view record.name) p text (v.set record.name text) := by
  rw [Own, view, Volume.file_set, Volume.makers_set, h]
  rfl

theorem maker_of_own (h : Own (view record.name) p text v) : v.makers record.name = some p := by
  obtain ⟨_, -, heq⟩ := Option.map_eq_some_iff.1 h
  exact (Prod.mk.inj heq).1

/-- A file of the process. -/
def Holding (record : VerifiedDurableProvenanceRecord) (p : π) (I : String → Prop) (v : Volume π) : Prop :=
  ∃ text, I text ∧ Own (view record.name) p text v

theorem holding_stable {I : String → Prop} : Proc.Stable (Pool.Foreign (Share record) p) (Holding record p I) := by
  rintro s t ⟨text, htext, hown⟩ hmove
  exact ⟨text, htext, own_stable s t hown hmove⟩

/-- A step that writes to a file of its own. -/
theorem works_set {I J : String → Prop} {text : Nat → String}
    (h : ∀ old part, I old → J (text part) ∧ (Cut record.payload (text part) ∨ text part = record.payload) ∧
      (old = record.payload → text part = record.payload)) :
    WorksOn record p (Holding record p I) (Script.commit .write fun part => Tx.write fun v => .ok (v.set record.name (text part)))
      fun _ => Holding record p J := by
  refine Script.Triple.commit (sound_stable.and holding_stable) (fun _ => sound_stable.and holding_stable)
    (sound_stable.and trivial_stable) ?_
  rintro v part hi ⟨old, hold, hown⟩
  obtain ⟨hJ, hmade, hdone⟩ := h old part hold
  have hmove : Share record p v (v.set record.name (text part)) := .work hown (own_set (maker_of_own hown)) hmade hdone
  exact ⟨hmove, hmove.sound hi, _, hJ, own_set (maker_of_own hown)⟩

/-- Among others a process that goes through its steps leaves the whole record. -/
theorem works_writeSteps (hpayload : record.payload ≠ "") :
    WorksOn record p (fun _ => True) (writeSteps p record) fun _ => Whole record := by
  have hempty : Cut record.payload "" := ⟨record.payload, hpayload, String.empty_append⟩
  have hstable : ∀ made, Proc.Stable (Pool.Foreign (Share record) p) fun v : Volume π => made = true → Holding record p (· = "") v :=
    fun made s t hs hmove hmade => holding_stable s t (hs hmade) hmove
  have hcreate : WorksOn record p (fun _ => True)
      (Script.commit .create fun _ v =>
        match v.file record.name with
        | some _ => (.ok false, v)
        | none => (.ok true, { v.set record.name "" with makers := Function.update v.makers record.name (some p) }))
      fun made v => made = true → Holding record p (· = "") v := by
    refine Script.Triple.commit (sound_stable.and trivial_stable) (fun made => sound_stable.and (hstable made))
      (sound_stable.and trivial_stable) ?_
    intro v _ hi _
    cases hfile : v.file record.name with
    | some text => exact ⟨.refl rfl, hi, nofun⟩
    | none =>
      have hnone : view record.name v = none := by rw [view, hfile]; rfl
      have hown : Own (view record.name) p ""
        { v.set record.name "" with makers := Function.update v.makers record.name (some p) } := by
        have hset : Volume.file { v.set record.name "" with makers := Function.update v.makers record.name (some p) }
          record.name = some "" :=
          Volume.file_set _ _ _
        rw [Own, view, hset]
        simp
      have hmove : Share record p v _ := .make hnone hown hempty
      exact ⟨hmove, hmove.sound hi, fun _ => ⟨"", rfl, hown⟩⟩
  refine Works.bind sound_stable hcreate fun made => ?_
  -- a file made anew is empty, and each chunk leaves a prefix of the record
  cases made with
  | true =>
    refine Works.weaken (P := Holding record p (· = "")) ?_ (fun _ hs => hs rfl) fun _ _ => id
    refine Works.bind sound_stable (A := fun _ => Holding record p fun _ => True) (works_set fun old part hold => ?_) fun _ => ?_
    · refine ⟨trivial, cut_take _ part, fun hwhole => ?_⟩
      exact absurd (hold.symm.trans hwhole).symm hpayload
    · have hwhole : ∀ (old : String) (_ : Nat), True → (record.payload = record.payload) ∧
          (Cut record.payload record.payload ∨ record.payload = record.payload) ∧
            (old = record.payload → record.payload = record.payload) :=
        fun _ _ _ => ⟨rfl, .inr rfl, fun _ => rfl⟩
      refine Works.weaken (works_set (J := (· = record.payload)) hwhole) (fun _ => id) fun _ v hs => ?_
      · obtain ⟨text, rfl, hown⟩ := hs
        exact ⟨_, hown⟩
  | false =>
    refine Works.query sound_stable (hstable false) (fun _ => done_stable) fun v _ _ _ h => ?_
    rw [refuse_eq_ok, not_not] at h
    exact whole_iff.2 h

section

variable (h : Checked m links store record control selection i now)

include h

/-- Among others an append that returns leaves the whole record. -/
theorem works_append : WorksOn record p (fun _ => True) (store.appendSteps m links p record control selection i now)
    fun digest v => digest = record.recordDigest ∧ Whole record v := by
  refine Works.check sound_stable fun _ _ => Works.check sound_stable fun _ _ => Works.check sound_stable fun _ _ => ?_
  refine Works.check sound_stable fun _ _ => Works.check sound_stable fun _ _ => ?_
  refine Works.bind sound_stable (A := fun _ _ => True) ?_ fun _ => ?_
  · exact Script.Triple.commit (sound_stable.and trivial_stable) (fun _ => sound_stable.and trivial_stable)
      (sound_stable.and trivial_stable) fun v _ hi _ => ⟨.refl rfl, hi, trivial⟩
  refine Works.check sound_stable fun _ _ => Works.check sound_stable fun _ _ => ?_
  refine Works.bind sound_stable (works_writeSteps (payload_ne_empty h)) fun _ => ?_
  exact Works.weaken (Works.pure sound_stable (A := fun digest v => digest = record.recordDigest ∧ Whole record v)
    (and_stable done_stable)) (fun _ hs => ⟨rfl, hs⟩) fun _ _ => id

/-- Among others a reader gets the whole record or nothing. -/
theorem works_readSteps :
    WorksOn record p (fun _ => True) (store.readSteps m links record) fun back v => back = record.back ∧ Whole record v := by
  refine Works.query sound_stable trivial_stable (fun _ => and_stable done_stable) fun v back hsound _ hread => ?_
  obtain ⟨text, htext, hback⟩ := readBack_eq_ok hread
  have hview : view record.name v = some (v.makers record.name, text) := by rw [view, htext]; rfl
  have hwhole := hsound.done hview fun hcut => not_read_cut h hcut back hback
  exact ⟨Except.ok.inj (hread.symm.trans (readBack_whole h (whole_iff.1 hwhole))), hwhole⟩

/-- Once the record is whole every append returns its digest. -/
theorem answers_append : Answers (view record.name) (Cut record.payload)
    record.payload p (store.appendSteps m links p record control selection i now) record.recordDigest := by
  obtain ⟨rebuilt, hrebuilt, hpayload⟩ := h.rebuilt
  refine (answers_check hrebuilt).bind ((answers_check (a := ()) (by rw [h.verified]; rfl)).bind ?_)
  refine (answers_check (refuse_of_not (not_not.2 hpayload))).bind ((answers_check h.root).bind ?_)
  refine (answers_check (refuse_of_not (not_not.2 h.retention))).bind ?_
  refine Answers.bind (a := ()) (answers_commit fun v _ _ => ⟨_, rfl, rfl⟩) ?_
  refine (answers_check h.candidate).bind ((answers_check h.path).bind (Answers.bind (a := ()) ?_ (answers_check rfl)))
  refine Answers.bind (a := false) (answers_commit fun v _ hwhole => ?_) (answers_query fun v hwhole => ?_)
  · rw [whole_iff.1 hwhole]
    exact ⟨v, rfl, rfl⟩
  · exact refuse_of_not (not_not.2 (whole_iff.1 hwhole))

theorem answers_readSteps : Answers (view record.name) (Cut record.payload) record.payload p
    (store.readSteps m links record) record.back :=
  answers_query fun _ hwhole => readBack_whole h (whole_iff.1 hwhole)

end

/-! ### Runs -/

/-- What is returned in a run: the digest, or the record, and then the whole record is there. -/
def Sure (record : VerifiedDurableProvenanceRecord) (result : Except Error (String ⊕ ReadBackVerifiedProvenanceRecord))
    (v : Volume π) : Prop :=
  ∀ a, result = .ok a → (a = .inl record.recordDigest ∨ a = .inr record.back) ∧ Whole record v

theorem safe_program (h : Checked m links store record control selection i now) (request : Request) (hsound : Sound record v) :
    Proc.Safe (Pool.Foreign (Share record) p) (Share record p) (Sure record)
      (program m links store record control selection i now p request) v := by
  have hreturn : ∀ {q : Prop} (a : String ⊕ ReadBackVerifiedProvenanceRecord),
    (q → a = .inl record.recordDigest ∨ a = .inr record.back) →
      WorksOn record p (fun v => q ∧ Whole record v) (pure a)
        fun a' v => (a' = .inl record.recordDigest ∨ a' = .inr record.back) ∧ Whole record v := by
    intro q a hq
    exact Works.weaken (Works.pure sound_stable
      (A := fun a' v => (a' = .inl record.recordDigest ∨ a' = .inr record.back) ∧ Whole record v) (and_stable done_stable))
      (fun _ hs => ⟨hq hs.1, hs.2⟩) fun _ _ => id
  have hworks : WorksOn record p (fun _ => True) (program m links store record control selection i now p request)
      fun a v => (a = .inl record.recordDigest ∨ a = .inr record.back) ∧ Whole record v := by
    cases request with
    | append => exact Works.bind sound_stable (works_append h) fun digest => hreturn (.inl digest) fun heq => .inl (heq ▸ rfl)
    | read => exact Works.bind sound_stable (works_readSteps h) fun back => hreturn (.inr back) fun heq => .inr (heq ▸ rfl)
  refine (hworks v hsound trivial).mono fun result t ht a ha => ?_
  subst ha
  exact ht.2

theorem answering_program (h : Checked m links store record control selection i now) (request : Request) (hwhole : Whole record v) :
    Proc.Safe (Pool.Foreign (Share record) p) (Share record p)
      (fun result _ => result = .ok (.inl record.recordDigest) ∨ result = .ok (.inr record.back))
      (program m links store record control selection i now p request) v := by
  have hanswers : ∃ a, (a = .inl record.recordDigest ∨ a = .inr record.back) ∧
      Answers (view record.name) (Cut record.payload) record.payload p
        (program m links store record control selection i now p request) a := by
    cases request with
    | append => exact ⟨_, .inl rfl, (answers_append h).bind (answers_check rfl)⟩
    | read => exact ⟨_, .inr rfl, (answers_readSteps h).bind (answers_check rfl)⟩
  obtain ⟨a, ha, hanswers⟩ := hanswers
  refine (hanswers v hwhole trivial).mono fun result t ht => ?_
  cases result with
  | error e => exact ht.2.elim
  | ok a' =>
    obtain ⟨-, rfl⟩ := ht
    exact ha.imp (congrArg _) (congrArg _)

/-- Processes that append the same record and read it, from files with which the append would return: nobody gets
anything but the digest and the record, and every call that starts after one has returned gets them. -/
theorem twins_run [DecidableEq π] {d t : Volume π} {digest : String}
    (h : Script.Passes (fun _ => True) (store.appendSteps m links p record control selection i now) v d (.ok digest) t)
    {mid later : Pool π AppendStep Nat (Volume π) (Except Error (String ⊕ ReadBackVerifiedProvenanceRecord))}
    (hmid : Relation.ReflTransGen (Pool.Turn (program m links store record control selection i now))
    ⟨v, fun _ => none, []⟩ mid) (hlater : Relation.ReflTransGen
    (Pool.Turn (program m links store record control selection i now)) mid later) :
    (∀ q a, (q, .ok a) ∈ mid.returned → a = .inl record.recordDigest ∨ a = .inr record.back) ∧
    ∀ q a q', (q, .ok a) ∈ mid.returned → mid.running q' = none →
      ∃ new, later.returned = mid.returned ++ new ∧
        ∀ result, (q', result) ∈ new → result = .ok (.inl record.recordDigest) ∨ result = .ok (.inr record.back) := by
  obtain ⟨hchecked, -, -, hbefore, -⟩ := append_passes h
  have hsound : Sound record v := by
    intro o text htext
    obtain ⟨text', htext', heq⟩ := Option.map_eq_some_iff.1 htext
    obtain ⟨-, rfl⟩ := Prod.mk.inj heq
    rcases hbefore with hnone | hwhole
    · rw [hnone] at htext'
      cases htext'
    · exact .inr (Option.some.inj (htext'.symm.trans hwhole))
  have hprogram : ∀ (q : π) request (w : Volume π), Sound record w → Proc.Safe (Pool.Foreign (Share record) q)
      (Share record q) (Sure record) (program m links store record control selection i now q request) w :=
    fun q request w hsound => safe_program hchecked request hsound
  have hinv : ∀ (q : π) (w w' : Volume π), Sound record w → Share record q w w' → Sound record w' :=
    fun _ _ _ hsound hmove => hmove.sound hsound
  have hidle : Pool.AllSafe (Share record) (Sure record)
      (⟨v, fun _ => none, []⟩ : Pool π AppendStep Nat (Volume π) (Except Error (String ⊕ ReadBackVerifiedProvenanceRecord))) :=
    fun _ _ hrunning => nomatch hrunning
  -- what a process has returned is sure for whoever starts later
  have hreturned := Pool.returned_run (K := Sure record) hprogram hinv (fun _ _ => id)
    (fun q result w w' hsure hmove a ha => ⟨(hsure a ha).1, hmove.done (hsure a ha).2⟩) hmid hsound hidle nofun
  refine ⟨fun q a ha => (hreturned _ ha a rfl).1, fun q a q' ha hq' => ?_⟩
  obtain ⟨hshared, hsafe⟩ := Pool.allSafe_run hprogram hinv hmid hsound hidle
  exact Pool.answered_run hprogram hinv (fun _ _ _ hwhole hmove => hmove.done hwhole)
    (fun request w hwhole => answering_program hchecked request hwhole) hlater hshared hsafe hq' (hreturned _ ha a rfl).2

end Twins

end Facts

/-! ## Both stores -/

section Both

open State

variable {F : Type} [DecidableEq F] {host : Host} {floats : Floats F} {source : Digest} {m : Machine F} {π τ : Type} [DecidableEq π]

/-- A call of either store that would return can be repeated after its process died on the way exactly when the process
had not yet made its directory or file or was done; of the store of runtime bindings the policy digest has to be right
besides. Among processes that run the same call nobody gets a part of a record, and once one has returned every call
that starts afterwards returns. -/
theorem publication_survives_exact (environment : FileStep → τ → Nat × τ) (environment' : AppendStep → τ → Nat × τ)
    (e : τ) (p q : π) :
    (∀ b call r (s d t : Root π), Script.Passes (fun _ => True) (FileStore.persist host floats source p b call) s d (.ok r) t →
      (∀ b', FileStore.contents host floats source r r.readyAt s = .ok b' →
        host.hexdigest (b'.canonicalMaterial floats) = host.hexdigest (b.canonicalMaterial floats) →
        b'.canonicalMaterial floats = b.canonicalMaterial floats) →
      (FileStore.Repeats host floats source environment e q b call r d ↔
        (d = s ∨ d = t) ∧ b.reviewPolicyDigest = b.policyDigest host) ∧
      ∀ mid later,
        Relation.ReflTransGen (Pool.Turn (κ := FileStore.Request r) (FileStore.program host floats source b call))
          ⟨s, fun _ => none, []⟩ mid →
        Relation.ReflTransGen (Pool.Turn (κ := FileStore.Request r) (FileStore.program host floats source b call)) mid later →
        (∀ q a, (q, .ok a) ∈ mid.returned → a = .inl r ∨ a = .inr b) ∧
        (b.reviewPolicyDigest = b.policyDigest host → ∀ q a q', (q, .ok a) ∈ mid.returned → mid.running q' = none →
          ∃ new, later.returned = mid.returned ++ new ∧
            ∀ result, (q', result) ∈ new → result = .ok (.inl r) ∨ result = .ok (.inr b))) ∧
    ∀ links store record control selection (i : Evidence m) now (v d t : Volume π) digest,
      Script.Passes (fun _ => True) (store.appendSteps m links p record control selection i now) v d (.ok digest) t →
      (Reappends m links store environment' e q record control selection i now d ↔
        d.file record.name = v.file record.name ∨ d.file record.name = t.file record.name) ∧
      ∀ mid later,
        Relation.ReflTransGen (Pool.Turn (program m links store record control selection i now)) ⟨v, fun _ => none, []⟩ mid →
        Relation.ReflTransGen (Pool.Turn (program m links store record control selection i now)) mid later →
        (∀ q a, (q, .ok a) ∈ mid.returned → a = .inl record.recordDigest ∨ a = .inr record.back) ∧
        ∀ q a q', (q, .ok a) ∈ mid.returned → mid.running q' = none →
          ∃ new, later.returned = mid.returned ++ new ∧
            ∀ result, (q', result) ∈ new → result = .ok (.inl record.recordDigest) ∨ result = .ok (.inr record.back) := by
  constructor
  · intro b call r s d t h hfree
    exact ⟨FileStore.repeats_iff h hfree, fun mid later hmid hlater => FileStore.twins_run h hfree hmid hlater⟩
  · intro links store record control selection i now v d t digest h
    exact ⟨reappends_passes h, fun mid later hmid hlater => twins_run h hmid hlater⟩

/-- A record that is made of a selection passes the checks of a store of its control where there are no links. -/
theorem checked_of_materialize {F : Type} [DecidableEq F] {m : Machine F} {store : RecordStore}
    {record : VerifiedDurableProvenanceRecord} {control : ExternalSelectionControl F}
    {selection : VerifiedProvenanceSelection F} {i : Evidence m} {now : Int}
    (hmaterialize : materializeVerifiedProvenanceRecord m control selection i now = .ok record)
    (hverify : record.verify m = .ok ()) (hretention : record.retentionIdentity = store.retentionIdentity) :
    Checked m [] store record control selection i now := by
  have hlinks : Unlinked store record ⟨[], []⟩ := fun _ hp => absurd hp List.not_mem_nil
  refine ⟨⟨record, hmaterialize, rfl⟩, hverify, ?_, hretention, ?_, requireSafePath_of_unlinked hlinks List.prefix_rfl⟩
  · exact requireSafePath_of_unlinked hlinks (List.prefix_append _ _)
  · refine requireSafePath_of_unlinked hlinks ((List.prefix_append_right_inj _).2 ?_)
    exact List.prefix_append [record.candidateSha] [fileName record.recordDigest]

/-- A selection can be made a record, which a store takes. -/
theorem checked_sample : ∃ (store : RecordStore) (record : VerifiedDurableProvenanceRecord)
    (control : ExternalSelectionControl Empty) (selection : VerifiedProvenanceSelection Empty) (i : Evidence Sample.m),
    Checked Sample.m [] store record control selection i 50 := by
  have hreconcile := Sample.reconcile_control Sample.package
  obtain ⟨payload, hloaded⟩ := loaded_of_verifyLoaded (verifyLoaded_of_reconcile hreconcile)
  obtain ⟨dependency, observations, h⟩ := reconcile_spec hloaded.parsed hreconcile
  have hpayload : payload = Sample.payload Sample.package :=
    Option.some.inj ((strictJsonObject_ok _ hloaded.parsed).symm.trans (loads_dumps _ (Sample.payload_canonical Sample.package)))
  have hsealable : Sealable (Sample.control Sample.package) (Sample.evidence Sample.package) payload := by
    rw [hpayload]
    exact (Sample.sealable_control Sample.package).2 (by decide +kernel)
  have hverify := verify_sealedRecord hloaded h hsealable
  have hmaterialize := (materialize_iff hloaded hreconcile h (Sample.window_control Sample.package)
    (show (20 : Int) ≤ 50 by decide) (show (50 : Int) ≤ 200 by decide)).2 ⟨rfl, hsealable, (Sample.freshAt_dependency _).2 (by decide)⟩
  let store : RecordStore := ⟨[], (Sample.control Sample.package).retentionIdentity, by rw [hloaded.retention]; rfl⟩
  exact ⟨store, _, _, _, _, checked_of_materialize hmaterialize hverify rfl⟩

open State.Sample in
/-- A process that dies when its receipt, or its record, is in place is no matter: the call can be repeated. -/
theorem publication_survives_done :
    (∃ r t, Script.Passes (fun _ => True)
    (FileStore.persist .sample floatless (configuration 6) () reviewed State.Sample.call) emptyRoot t
        (.ok r) t ∧
      FileStore.Repeats .sample floatless (configuration 6) atOnce () () reviewed State.Sample.call r t) ∧
    ∃ (store : RecordStore) (record : VerifiedDurableProvenanceRecord) (control : ExternalSelectionControl Empty)
      (selection : VerifiedProvenanceSelection Empty) (i : Evidence Sample.m) (t : Volume Unit),
      Script.Passes (fun _ => True) (store.appendSteps Sample.m [] () record control selection i 50)
        ⟨[], [], fun _ => none⟩ t (.ok record.recordDigest) t ∧
      Reappends Sample.m [] store (fun _ e => (0, e)) () () record control selection i 50 t := by
  have hexact := @publication_survives_exact Empty _ .sample floatless (configuration 6) Sample.m Unit Unit _ atOnce
    (fun _ e => (0, e)) () () ()
  constructor
  · obtain ⟨r, hrecord⟩ := accepted reviewed
    have hpasses := Proc.Passes.finish (FileStore.ends_new (p := ()) hrecord (rfl : emptyRoot r.recordIdentity = none))
    have hnone : ∀ b', FileStore.contents .sample floatless (configuration 6) r r.readyAt emptyRoot ≠ .ok b' := by
      intro b' hread
      obtain ⟨-, text, hkeeps, -⟩ := FileStore.contents_eq_ok.1 hread
      obtain ⟨entry, hentry⟩ := FileStore.exists_of_keeps hkeeps
      cases hentry
    have hrepeats := (hexact.1 reviewed State.Sample.call r _ _ _ hpasses fun b' hread => absurd hread (hnone b')).1
    exact ⟨r, _, hpasses, hrepeats.2 ⟨.inr rfl, reviewed_policy⟩⟩
  · obtain ⟨store, record, control, selection, i, hchecked⟩ := checked_sample
    have hnew : Reappends Sample.m [] store (fun _ e => (0, e)) () () record control selection i 50 ⟨[], [], fun _ => none⟩ :=
      (reappends_iff hchecked).2 (.inl rfl)
    obtain ⟨t, hpasses⟩ := hnew.passes
    exact ⟨store, record, control, selection, i, t, hpasses, (hexact.2 _ _ _ _ _ _ _ _ _ _ _ hpasses).1.2 (.inr rfl)⟩

open State.Sample in
/-- A process that dies after it has made the directory of the record leaves it in the way. -/
theorem crash_after_directory : ∃ r d t,
    Script.Passes (fun _ => True) (FileStore.persist .sample floatless (configuration 6) () reviewed State.Sample.call)
    emptyRoot d (.ok r) t ∧
    ¬ FileStore.Repeats .sample floatless (configuration 6) atOnce () () reviewed State.Sample.call r d := by
  obtain ⟨r, hrecord⟩ := accepted reviewed
  have hends : Proc.Ends (fun _ => True)
      (FileStore.persist .sample floatless (configuration 6) () reviewed State.Sample.call) emptyRoot (.ok r) _ :=
        FileStore.ends_new hrecord rfl
  refine ⟨r, Function.update emptyRoot r.recordIdentity (some (.folder () [])),
    FileStore.withRecord floatless () emptyRoot reviewed r, ?_, FileStore.not_repeats_making hrecord
      (Function.update_self _ _ _) rfl⟩
  rw [FileStore.persist, accept_eq_ok.2 hrecord] at hends ⊢
  obtain ⟨r', hr', hlook⟩ := Script.ends_check_bind.1 hends
  cases hr'
  obtain ⟨_, -, hmake⟩ := hlook
  obtain ⟨_, -, hrest⟩ := hmake
  exact Script.passes_check_bind.2 ⟨r, rfl, 0, trivial, .inr ⟨0, trivial, .inr (Proc.Passes.start hrest)⟩⟩

end Both

end Roundwright.Provenance
