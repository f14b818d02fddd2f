/-
The journal under one process. Every step either leaves what a load finds or puts one entry of one key
into it; an operation that succeeds has written what it returns.
-/
import Roundwright.GitHub.Journal

namespace Roundwright.GitHub

open Lib

variable {host : Host}

/-- One step: `change` says which entries may be put over what the key held. -/
inductive FileStep (key : Digest) (change : Option MutationJournalEntry → MutationJournalEntry → Prop)
    (s s' : JournalFile host) : Prop
  | same (contents : s'.contents = s.contents)
  | put (records : Records host) (entry : MutationJournalEntry) (before : s.contents = .ok records)
      (after : s'.contents = .ok (records.upsert entry)) (ofKey : entry.key host = key) (changes : change (records.get key) entry)

namespace FileStep

variable {key : Digest} {change change' : Option MutationJournalEntry → MutationJournalEntry → Prop} {s s' : JournalFile host}

theorem refl (s : JournalFile host) : FileStep key change s s := .same rfl

theorem mono (h : FileStep key change s s') (himp : ∀ prior entry, s.get key = prior → change prior entry → change' prior entry) :
    FileStep key change' s s' := by
  cases h with
  | same contents => exact .same contents
  | put records entry before after ofKey changes =>
    exact .put records entry before after ofKey (himp _ _ (by simp [JournalFile.get, before]) changes)

/-- What is found under the key of the step, and under every other. -/
theorem get_eq (h : FileStep key change s s') :
    (∀ k, s'.get k = s.get k) ∨ (∃ entry, s'.get key = some entry ∧ change (s.get key) entry) ∧ ∀ k, k ≠ key →
    s'.get k = s.get k := by
  cases h with
  | same contents => exact .inl fun k => by simp [JournalFile.get, contents]
  | put records entry before after ofKey changes =>
    have hafter : ∀ k, s'.get k = Records.get (records.upsert entry) k := fun k => by simp [JournalFile.get, after]
    have hbefore : ∀ k, s.get k = records.get k := fun k => by simp [JournalFile.get, before]
    refine .inr ⟨⟨entry, ?_, by rw [hbefore]; exact changes⟩, fun k hk => ?_⟩
    · rw [hafter, ← ofKey, Records.get_upsert_self]
    · rw [hafter, hbefore, Records.get_upsert_other]
      rw [ofKey]
      exact fun he => hk he.symm

end FileStep

/-- An entry that a load finds has passed its checks and is stored under its own key. -/
theorem JournalFile.get_valid {file : JournalFile host} {key : Digest} {entry : MutationJournalEntry}
    (h : file.get key = some entry) : entry.check host = .ok () ∧ entry.key host = key := by
  unfold JournalFile.get at h
  split at h
  · rename_i records hcontents
    obtain ⟨hmem, hkey⟩ := Records.get_eq_some.1 h
    exact ⟨JournalFile.contents_valid hcontents entry hmem, hkey⟩
  · cases h

section Rules

variable {α : Type} {step : JournalFile host → JournalFile host → Prop} {Q : α → JournalFile host → Prop}
  {s : JournalFile host} (hrefl : ∀ s, step s s)

include hrefl

/-- A load changes nothing; it fails, or finds the contents of the file. -/
theorem load_holds {f : Except Error (Records host) → JournalProc host α}
    (herror : ∀ e, (f (.error e)).Holds (fun _ => step) Q s)
    (hok : ∀ records, s.contents = .ok records → (f (.ok records)).Holds (fun _ => step) Q s) :
    (load >>= f).Holds (fun _ => step) Q s := by
  rw [load_bind]
  refine fun _ => ⟨hrefl s, ?_⟩
  dsimp only
  split
  · exact herror _
  · rw [loadPath_bind]
    refine fun _ => ⟨hrefl s, ?_⟩
    dsimp only
    split
    · refine fun fault => ⟨hrefl s, ?_⟩
      dsimp only
      cases hread : readResult s fault with
      | error e => exact herror e
      | ok loaded => exact hok loaded (readResult_ok hread)
    · rename_i hpath
      have hnone : s.path = none := by simpa using hpath
      exact hok .empty (by simp [JournalFile.contents, hnone])

/-- A store over the records that were loaded. -/
theorem store_holds {f : Except Error Unit → JournalProc host α} {records : Records host} {entry : MutationJournalEntry}
    (hcontents : s.contents = .ok records) (hvalid : entry.check host = .ok ())
    (htouch : ∀ s', s'.contents = s.contents → step s s')
    (hput : ∀ middle s', middle.contents = s.contents → s'.contents = .ok (records.upsert entry) → step middle s')
    (herror : ∀ e s', s'.contents = s.contents → (f (.error e)).Holds (fun _ => step) Q s')
    (hok : ∀ s', s'.contents = .ok (records.upsert entry) → (f (.ok ())).Holds (fun _ => step) Q s') :
    (store (records.upsert entry) records (entry.key host) >>= f).Holds (fun _ => step) Q s := by
  rw [store_bind]
  intro fault
  have hwritten : (written (records.upsert entry) s fault).contents = s.contents := rfl
  refine ⟨htouch _ hwritten, ?_⟩
  cases fault with
  | true => exact herror _ _ hwritten
  | false =>
    intro fault
    cases fault with
    | true => exact ⟨hrefl _, herror _ _ hwritten⟩
    | false =>
      have hafter : (replaced (written (records.upsert entry) s false) false).contents = .ok (records.upsert entry) := by
        simp [replaced, written, JournalFile.contents, decode_upsert (JournalFile.contents_valid hcontents) hvalid]
      exact ⟨hput _ _ hwritten hafter, hok _ hafter⟩

end Rules

/-- A claim creates an entry where there was none, or finds one of the same evidence. -/
theorem claim_holds {evidence : MutationJournalEntry} (hvalid : evidence.check host = .ok ()) (s : JournalFile host) :
    (claim evidence).Holds (fun _ => FileStep (evidence.key host) fun prior entry => prior = none ∧ entry = evidence)
      (fun r s' => ∀ entry created, r = .ok (entry, created) → s'.get (evidence.key host) = some entry ∧
        (created = true → s.get (evidence.key host) = none ∧ entry = evidence) ∧
        (created = false → s' = s ∧ entry.evidence = evidence.evidence)) s := by
  refine load_holds .refl (fun e entry created h => by cases h) fun records hcontents => ?_
  have hget : s.get (evidence.key host) = records.get (evidence.key host) := by simp [JournalFile.get, hcontents]
  simp only [claimLoaded]
  cases hfound : records.get (evidence.key host) with
  | some prior =>
    dsimp only
    by_cases hmatch : prior.evidence = evidence.evidence
    · rw [if_pos hmatch]
      rintro entry created ⟨⟩
      exact ⟨hget.trans hfound, by simp, fun _ => ⟨rfl, hmatch⟩⟩
    · rw [if_neg hmatch]
      intro entry created h
      cases h
  | none =>
    refine store_holds .refl hcontents hvalid (fun _ h => .same h) (fun middle s' hmiddle hafter => ?_)
      (fun e s' _ entry created h => by cases h) (fun s' hafter entry created h => ?_)
    · exact .put records evidence (hmiddle.trans hcontents) hafter rfl ⟨hfound, rfl⟩
    · cases h
      refine ⟨?_, fun _ => ⟨hget.trans hfound, rfl⟩, fun h => by cases h⟩
      simp [JournalFile.get, hafter, Records.get_upsert_self]

/-- A transition that succeeds has replaced the entry it was given. -/
theorem transition_holds (entry : MutationJournalEntry) (request : TransitionRequest) (s : JournalFile host) :
    (transition entry request).Holds
      (fun _ => FileStep (entry.key host) fun prior updated => prior = some entry ∧ updatedEntry host entry request = .ok updated)
      (fun r s' => ∀ updated, r = .ok updated → s'.get (entry.key host) = some updated ∧
        updatedEntry host entry request = .ok updated ∧ s.get (entry.key host) = some entry) s := by
  refine load_holds .refl (fun e updated h => by cases h) fun records hcontents => ?_
  have hget : s.get (entry.key host) = records.get (entry.key host) := by simp [JournalFile.get, hcontents]
  simp only [transitionLoaded]
  by_cases hfound : records.get (entry.key host) = some entry
  · rw [if_pos hfound]
    cases hupdated : updatedEntry host entry request with
    | error e =>
      intro updated h
      cases h
    | ok updated =>
      have hmoved := (updatedEntry_ok hupdated).1
      rw [← hmoved.key]
      refine store_holds .refl hcontents hmoved.valid (fun _ h => .same h) (fun middle s' hmiddle hafter => ?_)
        (fun e s' _ other h => by cases h) (fun s' hafter other h => ?_)
      · refine .put records updated (hmiddle.trans hcontents) hafter rfl ⟨?_, rfl⟩
        rw [hmoved.key, hfound]
      · cases h
        refine ⟨?_, rfl, ?_⟩
        · simp [JournalFile.get, hafter, Records.get_upsert_self]
        · rw [hmoved.key, hget, hfound]
  · rw [if_neg hfound]
    intro updated h
    cases h

theorem findEntry_holds (key : Digest) (s : JournalFile host) :
    (findEntry key).Holds (fun _ => FileStep key fun _ _ => False)
    (fun r s' => s' = s ∧ ∀ found, r = .ok found → s.get key = found) s := by
  refine load_holds .refl (fun e => ⟨rfl, fun found h => by cases h⟩) fun records hcontents => ⟨rfl, fun found h => ?_⟩
  cases h
  simp [JournalFile.get, hcontents]

end Roundwright.GitHub
