/-
Several processes on one journal file. Nothing orders the load of one process before the replacement of
another, so an update can be lost; where every replacement that takes place is of entries its process has
loaded, by the temporary file it has written, it is an update of one key of the file as it stands.
-/
import Roundwright.GitHub.Journal

namespace Roundwright.GitHub

open Lib

/-! ## Calls -/

inductive JournalCall (host : Host) where
  | claim (evidence : MutationJournalEntry) (valid : evidence.check host = .ok ())
  | transition (evidence : MutationJournalEntry) (request : TransitionRequest)
  | find (key : Digest)

inductive Returned where
  | claimed (result : Except Error (MutationJournalEntry × Bool))
  | moved (result : Except Error MutationJournalEntry)
  | found (result : Except Error (Option MutationJournalEntry))

variable {entry : MutationJournalEntry}

namespace Returned

/-- The entry a claim created: `created = True`. -/
def created : Returned → Option MutationJournalEntry
  | .claimed (.ok (entry, true)) => some entry
  | _ => none

/-- The entry that was stored before the call returned. -/
def wrote : Returned → Option MutationJournalEntry
  | .claimed (.ok (entry, true)) => some entry
  | .moved (.ok entry) => some entry
  | _ => none

theorem wrote_of_created {a : Returned} (h : a.created = some entry) :
    a.wrote = some entry := by
  unfold created at h
  split at h
  · exact h
  · cases h

end Returned

variable {host : Host}

def JournalCall.program : JournalCall host → JournalProc host Returned
  | .claim evidence _ => GitHub.claim evidence >>= fun r => .ret (.claimed r)
  | .transition evidence request => GitHub.transition evidence request >>= fun r => .ret (.moved r)
  | .find key => findEntry key >>= fun r => .ret (.found r)

/-- The entries of a text. -/
def JournalText.rows? : JournalText host → Option (List MutationJournalEntry)
  | .records table => some table.rows
  | .malformed => none

/-- The entries that a load finds. -/
def JournalFile.rows (s : JournalFile host) : List MutationJournalEntry :=
  match s.contents with
  | .ok records => records.rows
  | .error _ => []

/-- The temporary file is the one the process has written, and the process has loaded whatever the journal has, but for
the entry of its own key that it replaces. -/
def Fresh (loaded written : List MutationJournalEntry) (key : Digest) (s : JournalFile host) : Prop :=
  s.temporary.bind JournalText.rows? = some written ∧
    ∀ e ∈ s.rows, e ∈ loaded ∨ (e.key host = key ∧ ∃ prior ∈ loaded, prior.key host = key)

/-- A replacement that fails or is a fresh one. -/
def Undisturbed : JournalAction → JournalFile host → JournalFile host → Prop
  | .replace loaded written key, s, s' => s' = s ∨ Fresh loaded written key s
  | _, _, _ => True

/-! ## What an action does -/

/-- A replacement that took place: one entry is put into the file as it stands, a new one by a claim or one
that was there before by a transition. -/
structure Replaced (key : Digest) (s s' : JournalFile host) (r : Option Returned) (entry : MutationJournalEntry) (a : Returned) :
    Prop where
  get : ∀ k, s'.get k = if key = k then some entry else s.get k
  legible : ∃ records, s'.contents = .ok records
  ofKey : entry.key host = key
  result : r = some a
  wrote : a.wrote = some entry
  fresh : a.created ≠ none → s.get key = none
  moved : a.created = none → s.get key ≠ none

def Guarantee (l : JournalAction) (s s' : JournalFile host) (r : Option Returned) : Prop :=
  match l with
  | .replace _ _ key => (s' = s ∧ ∀ a ∈ r, a.wrote = none) ∨ ∃ entry a, Replaced key s s' r entry a
  | .writeTemporary => s'.path = s.path ∧ ∀ a ∈ r, a.wrote = none
  | _ => s' = s ∧ ∀ a ∈ r, a.wrote = none

/-- A replacement of an entry of the key. -/
def Replaces (key : Digest) (l : JournalAction) : Prop := ∃ loaded written, l = .replace loaded written key

namespace Guarantee

variable {l : JournalAction} {s s' : JournalFile host} {r : Option Returned} {key : Digest}

/-- Only a replacement changes what a load finds. -/
theorem contents_eq (h : Guarantee l s s' r) : s'.contents = s.contents ∨ ∃ key entry a, Replaces key l ∧
    Replaced key s s' r entry a := by
  cases l with
  | checkTemporary => rw [h.1]; exact .inl rfl
  | checkPath => rw [h.1]; exact .inl rfl
  | readPath => rw [h.1]; exact .inl rfl
  | writeTemporary =>
    unfold JournalFile.contents
    rw [h.1]
    exact .inl rfl
  | replace loaded written key =>
    rcases h with ⟨rfl, -⟩ | ⟨entry, a, hr⟩
    · exact .inl rfl
    · exact .inr ⟨key, entry, a, ⟨loaded, written, rfl⟩, hr⟩

/-- An action that replaces no entry of a key leaves what is found under it. -/
theorem get_eq (h : Guarantee l s s' r) (hl : Replaces key l → s' = s) : s'.get key = s.get key := by
  rcases h.contents_eq with hsame | ⟨other, entry, a, hother, hr⟩
  · unfold JournalFile.get
    rw [hsame]
  · by_cases hkey : other = key
    · subst hkey
      rw [hl hother]
    · rw [hr.get, if_neg hkey]

/-- No action makes an entry disappear. -/
theorem get_ne_none (h : Guarantee l s s' r) (hsome : s.get key ≠ none) : s'.get key ≠ none := by
  rcases h.contents_eq with hsame | ⟨other, entry, a, -, hr⟩
  · unfold JournalFile.get at hsome ⊢
    rwa [hsame]
  · rw [hr.get]
    split
    · exact Option.some_ne_none entry
    · exact hsome

theorem legible (h : Guarantee l s s' r) (hs : ∃ records, s.contents = .ok records) : ∃ records, s'.contents = .ok records := by
  rcases h.contents_eq with hsame | ⟨_, _, _, -, hr⟩
  · rwa [hsame]
  · exact hr.legible

/-- Only a replacement ends in a call that has written. -/
theorem replaced_of_wrote (h : Guarantee l s s' r) {a : Returned} (ha : r = some a)
    (hw : a.wrote = some entry) : ∃ key, Replaces key l ∧ Replaced key s s' r entry a := by
  have hno : ¬ ∀ b ∈ r, b.wrote = none := fun hall => by
    have := hall a (by rw [ha]; rfl)
    rw [hw] at this
    cases this
  cases l with
  | checkTemporary => exact absurd h.2 hno
  | checkPath => exact absurd h.2 hno
  | readPath => exact absurd h.2 hno
  | writeTemporary => exact absurd h.2 hno
  | replace loaded written key =>
    rcases h with ⟨-, hall⟩ | ⟨other, b, hr⟩
    · exact absurd hall hno
    · obtain rfl : b = a := Option.some.inj (hr.result.symm.trans ha)
      obtain rfl : other = entry := Option.some.inj (hr.wrote.symm.trans hw)
      exact ⟨key, ⟨loaded, written, rfl⟩, hr⟩

end Guarantee

/-! ## The programs guard themselves -/

abbrev Others (host : Host) : JournalFile host → JournalFile host → Prop := Pool.Others Guarantee

/-- The records were loaded: the file is still a journal, with an entry under every key that they have one under. -/
def Loaded (records : Records host) (s : JournalFile host) : Prop :=
  (∃ current, s.contents = .ok current) ∧ ∀ k, records.get k ≠ none → s.get k ≠ none

theorem Loaded.of_contents {records : Records host} {s : JournalFile host} (h : s.contents = .ok records) : Loaded records s :=
  ⟨⟨records, h⟩, fun k hk => by simpa [JournalFile.get, h] using hk⟩

theorem Loaded.stable {records : Records host} {s s' : JournalFile host} (h : Loaded records s) (hs : Others host s s') :
    Loaded records s' := by
  obtain ⟨l, r, hg⟩ := hs
  exact ⟨hg.legible h.1, fun k hk => hg.get_ne_none (h.2 k hk)⟩

/-- What a fresh replacement finds: under other keys nothing but what was loaded, and under its own key an entry if one
was loaded there. -/
theorem Loaded.get_eq {records : Records host} {s : JournalFile host} {key : Digest}
    {written : List MutationJournalEntry} (h : Loaded records s) (hf : Fresh records.rows written key s) :
    (∀ k, k ≠ key → s.get k = records.get k) ∧ (records.get key = none → s.get key = none) := by
  obtain ⟨current, hcontents⟩ := h.1
  have hget : ∀ k, s.get k = current.get k := fun k => by simp [JournalFile.get, hcontents]
  have hrows : ∀ e ∈ current.rows, e ∈ records.rows ∨ (e.key host = key ∧ ∃ prior ∈ records.rows, prior.key host = key) := by
    simpa [JournalFile.rows, hcontents] using hf.2
  -- an entry of the current file was loaded, or is of the key itself
  constructor
  · intro k hk
    rw [hget]
    cases hcurrent : current.get k with
    | none =>
      by_contra hsome
      exact h.2 k (Ne.symm hsome) ((hget k).trans hcurrent)
    | some e =>
      obtain ⟨hmem, rfl⟩ := Records.get_eq_some.1 hcurrent
      rcases hrows e hmem with hloaded | ⟨hown, -⟩
      · exact (Records.get_eq_some.2 ⟨hloaded, rfl⟩).symm
      · exact absurd hown hk
  · intro hnone
    rw [hget]
    by_contra hsome
    obtain ⟨e, he⟩ := Option.ne_none_iff_exists'.1 hsome
    obtain ⟨hmem, hkey⟩ := Records.get_eq_some.1 he
    have hno : ∀ prior ∈ records.rows, prior.key host ≠ key := fun prior hprior hown => by
      rw [Records.get_eq_some.2 ⟨hprior, hown⟩] at hnone
      cases hnone
    rcases hrows e hmem with hloaded | ⟨-, prior, hprior, hown⟩
    · exact hno e hloaded hkey
    · exact hno prior hprior hown

/-- The program is guarded from the assertion on. -/
abbrev Safe (p : JournalProc host Returned) (P : JournalFile host → Prop) : Prop :=
  p.Guards (Others host) Undisturbed Guarantee P

/-- A program that has not just written. -/
def Idle (p : JournalProc host Returned) : Prop := ∀ a ∈ p.value?, a.wrote = none

theorem safe_act {l : JournalAction} {effect : JournalFile host → Bool → JournalFile host}
    {next : JournalFile host → Bool → JournalProc host Returned} {P : JournalFile host → Prop}
    (hstable : ∀ s s', P s → Others host s s' → P s')
    (h : ∀ s i, P s → Undisturbed l s (effect s i) → Guarantee l s (effect s i) (next s i).value? ∧
      ∃ P', P' (effect s i) ∧ Safe (next s i) P') : Safe (.act l effect next) P :=
  ⟨hstable, h⟩

section

variable {f : Except Error (Records host) → JournalProc host Returned} (hidle : ∀ r, Idle (f r))
  (herror : ∀ e, Safe (f (.error e)) fun _ => True)
  (hok : ∀ records, (∀ e ∈ records.rows, e.check host = .ok ()) → Safe (f (.ok records)) (Loaded records))

include hidle herror hok

theorem safe_loadPath : Safe (loadPath >>= f) fun _ => True := by
  rw [loadPath_bind]
  refine safe_act (fun _ _ h _ => h) fun s i _ _ => ?_
  cases hpath : s.path with
  | none => exact ⟨⟨rfl, hidle _⟩, _, Loaded.of_contents (by simp [JournalFile.contents, hpath]), hok .empty (by simp)⟩
  | some text =>
    refine ⟨⟨rfl, fun _ h => by cases h⟩, fun _ => True, trivial, safe_act (fun _ _ h _ => h) fun s i _ _ => ?_⟩
    cases hread : readResult s i with
    | error e => exact ⟨⟨rfl, hidle _⟩, _, trivial, herror e⟩
    | ok records =>
      have hcontents := readResult_ok hread
      exact ⟨⟨rfl, hidle _⟩, Loaded records, .of_contents hcontents, hok records (JournalFile.contents_valid hcontents)⟩

theorem safe_load : Safe (load >>= f) fun _ => True := by
  rw [load_bind]
  refine safe_act (fun _ _ h _ => h) fun s i _ _ => ?_
  cases s.temporary.isSome with
  | true => exact ⟨⟨rfl, hidle _⟩, _, trivial, herror _⟩
  | false => exact ⟨⟨rfl, fun _ h => by rw [if_neg (by simp), loadPath_bind] at h; cases h⟩, _, trivial,
      safe_loadPath hidle herror hok⟩

end

/-- The replacement of the file by a text with the entry put into what was loaded. -/
theorem replaced_get {records : Records host} {s : JournalFile host} {text : JournalText host}
    (hs : Loaded records s) (hvalid : ∀ e ∈ records.rows, e.check host = .ok ()) (hentry : entry.check host = .ok ())
    (htemp : s.temporary = some text) (hf : Fresh records.rows (records.upsert entry).rows (entry.key host) s) :
    (replaced s false).contents = .ok (records.upsert entry) ∧
      ∀ k, (replaced s false).get k = if entry.key host = k then some entry else s.get k := by
  have htext : text = .records (records.upsert entry) := by
    have hrows : text.rows? = some (records.upsert entry).rows := by simpa [htemp] using hf.1
    cases text with
    | malformed => cases hrows
    | records written => rw [Table.ext (Option.some.inj hrows)]
  have hcontents : (replaced s false).contents = .ok (records.upsert entry) := by
    simp [replaced, htemp, htext, JournalFile.contents, decode_upsert hvalid hentry]
  refine ⟨hcontents, fun k => ?_⟩
  rw [show (replaced s false).get k = Records.get (records.upsert entry) k by simp [JournalFile.get, hcontents]]
  split
  · rename_i hk
    rw [← hk]
    exact Records.get_upsert_self _ _
  · rename_i hk
    rw [Records.get_upsert_other hk, (hs.get_eq hf).1 k fun heq => hk heq.symm]

/-- A store over the records that were loaded. -/
theorem safe_store {f : Except Error Unit → JournalProc host Returned} {records : Records host}
    {a : Returned} (hvalid : ∀ e ∈ records.rows, e.check host = .ok ())
    (hentry : entry.check host = .ok ()) (herror : ∀ e, Idle (f (.error e)) ∧ Safe (f (.error e)) fun _ => True)
    (hok : f (.ok ()) = .ret a) (hwrote : a.wrote = some entry)
    (hfresh : a.created ≠ none → records.get (entry.key host) = none)
    (hmoved : a.created = none → records.get (entry.key host) ≠ none) :
    Safe (store (records.upsert entry) records (entry.key host) >>= f) (Loaded records) := by
  rw [store_bind]
  refine safe_act (fun _ _ h hs => h.stable hs) fun s i hs _ => ?_
  have hwritten : Loaded records (written (records.upsert entry) s i) := hs
  cases i with
  | true => exact ⟨⟨rfl, (herror _).1⟩, _, trivial, (herror _).2⟩
  | false =>
    refine ⟨⟨rfl, fun _ h => by cases h⟩, _, hwritten, safe_act (fun _ _ h hs => h.stable hs) fun s i hs hundisturbed => ?_⟩
    -- a replacement fails when the disk does or when another process has taken the temporary file away
    cases i with
    | true => exact ⟨.inl ⟨rfl, (herror _).1⟩, _, trivial, (herror _).2⟩
    | false =>
      cases htemp : s.temporary with
      | none =>
        have hsame : replaced s false = s := by simp [replaced, htemp]
        have hresult : ∃ e, replaceResult s false = .error e := ⟨_, by simp [replaceResult, htemp, refuse]; rfl⟩
        obtain ⟨e, hresult⟩ := hresult
        rw [hresult, hsame]
        exact ⟨.inl ⟨rfl, (herror e).1⟩, _, trivial, (herror e).2⟩
      | some text =>
        have hf : Fresh records.rows (records.upsert entry).rows (entry.key host) s := by
          rcases hundisturbed with hsame | hf
          · have hgone := congrArg JournalFile.temporary hsame
            simp [replaced, htemp] at hgone
          · exact hf
        have hresult : f (replaceResult s false) = .ret a := by
          rw [← hok, replaceResult, refuse_of_not (by simp [htemp])]
        obtain ⟨hcontents, hget⟩ := replaced_get hs hvalid hentry htemp hf
        refine ⟨.inr ⟨entry, a, hget, ⟨_, hcontents⟩, rfl, ?_, hwrote, fun h => ?_, fun h => ?_⟩, fun _ => True, trivial, ?_⟩
        · rw [hresult]
          rfl
        · exact (hs.get_eq hf).2 (hfresh h)
        · exact hs.2 _ (hmoved h)
        · rw [hresult]
          trivial

/-- A program that starts with an action has not returned. -/
theorem idle_act {l : JournalAction} {effect : JournalFile host → Bool → JournalFile host}
    {next : JournalFile host → Bool → JournalProc host Returned} : Idle (.act l effect next) := fun _ h => by cases h

theorem safe_claim (evidence : MutationJournalEntry) (valid : evidence.check host = .ok ()) :
    Safe (JournalCall.claim evidence valid).program fun _ => True := by
  rw [JournalCall.program, GitHub.claim, Proc.bind_assoc]
  refine safe_load (fun r => ?_) (fun e => trivial) fun records hvalid => ?_
  · rcases r with e | records
    · exact fun a ha => by cases ha; rfl
    · simp only [claimLoaded]
      split
      · split <;> exact fun a ha => by cases ha; rfl
      · rw [Proc.bind_assoc, store_bind]
        exact idle_act
  · simp only [claimLoaded]
    split
    · split <;> trivial
    · rename_i hnone
      rw [Proc.bind_assoc]
      exact safe_store hvalid valid (fun e => ⟨fun a ha => by cases ha; rfl, trivial⟩) rfl rfl (fun _ => hnone)
        fun h => by cases h

theorem safe_transition (evidence : MutationJournalEntry) (request : TransitionRequest) :
    Safe (JournalCall.transition evidence request : JournalCall host).program fun _ => True := by
  rw [JournalCall.program, GitHub.transition, Proc.bind_assoc]
  refine safe_load (fun r => ?_) (fun e => trivial) fun records hvalid => ?_
  · rcases r with e | records
    · exact fun a ha => by cases ha; rfl
    · simp only [transitionLoaded]
      split
      · split
        · exact fun a ha => by cases ha; rfl
        · rw [Proc.bind_assoc, store_bind]
          exact idle_act
      · exact fun a ha => by cases ha; rfl
  · simp only [transitionLoaded]
    split
    · rename_i hfound
      split
      · trivial
      · rename_i updated hupdated
        have hmoved := (updatedEntry_ok hupdated).1
        rw [Proc.bind_assoc, ← hmoved.key]
        refine safe_store hvalid hmoved.valid (fun e => ⟨fun a ha => by cases ha; rfl, trivial⟩) rfl rfl
          (fun h => absurd rfl h) fun _ => ?_
        rw [hmoved.key, hfound]
        simp
    · trivial

theorem safe_find (key : Digest) : Safe (JournalCall.find key : JournalCall host).program fun _ => True := by
  rw [JournalCall.program, findEntry, Proc.bind_assoc]
  exact safe_load (fun r => fun a ha => by cases ha; rfl) (fun e => trivial) fun _ _ => trivial

theorem JournalCall.safe (call : JournalCall host) : Safe call.program fun _ => True := by
  cases call with
  | claim evidence valid => exact safe_claim evidence valid
  | transition evidence request => exact safe_transition evidence request
  | find key => exact safe_find key

/-- A call begins with a step on the file. -/
theorem JournalCall.program_value (call : JournalCall host) : call.program.value? = none := by
  cases call with
  | claim evidence valid =>
    rw [JournalCall.program, GitHub.claim, Proc.bind_assoc, load_bind]
    rfl
  | transition evidence request =>
    rw [JournalCall.program, GitHub.transition, Proc.bind_assoc, load_bind]
    rfl
  | find key =>
    rw [JournalCall.program, findEntry, Proc.bind_assoc, load_bind]
    rfl

/-! ## Runs of several processes -/

abbrev JournalPool (π : Type) (host : Host) := Pool π JournalAction Bool (JournalFile host) Returned

/-- No call is running and none has returned. -/
def JournalPool.idle (π : Type) (file : JournalFile host) : JournalPool π host := ⟨file, fun _ => none, []⟩

section Pools

variable {π : Type} [DecidableEq π]

/-- One step of one of the processes. -/
def RaceStep (taken : JournalAction → JournalFile host → JournalFile host → Prop) (a b : JournalPool π host) : Prop :=
  ∃ event, Pool.Step JournalCall.program (fun _ _ => True) a event b ∧ ∀ l, event = some l → taken l a.shared b.shared

/-- An undisturbed step that replaces no entry of the key. -/
def QuietStep (key : Digest) : JournalPool π host → JournalPool π host → Prop :=
  RaceStep fun l s s' => Undisturbed l s s' ∧ (Replaces key l → s' = s)

variable {key : Digest}

abbrev PoolGuarded (pool : JournalPool π host) : Prop := Pool.Guarded Undisturbed Guarantee pool

variable {pool : JournalPool π host}

variable {file : JournalFile host}

theorem guarded_run (hrun : Relation.ReflTransGen (RaceStep Undisturbed) (.idle π file) pool) : PoolGuarded pool := by
  induction hrun with
  | refl => exact Pool.Guarded.initial
  | tail _ hstep ih =>
    obtain ⟨event, hstep, htaken⟩ := hstep
    exact ih.step JournalCall.safe hstep htaken

theorem get_quiet {pool pool' : JournalPool π host} (hg : PoolGuarded pool)
    (hrun : Relation.ReflTransGen (QuietStep key) pool pool') : PoolGuarded pool' ∧ pool'.shared.get key = pool.shared.get key := by
  induction hrun with
  | refl => exact ⟨hg, rfl⟩
  | tail _ hstep ih =>
    obtain ⟨event, hstep, hquiet⟩ := hstep
    refine ⟨ih.1.step JournalCall.safe hstep fun l hl => (hquiet l hl).1, Eq.trans ?_ ih.2⟩
    cases hstep with
    | start p call idle => rfl
    | act p at_ i => exact (ih.1.guaranteed at_ i (hquiet _ rfl).1).get_eq (hquiet _ rfl).2
    | finish p at_ => rfl
    | die p => rfl

/-- A load whose steps all see a file with the entry finds the entry. -/
theorem load_sees {P : JournalFile host → Prop} (hP : ∀ s, P s → s.get key = some entry) :
    load.Sees P fun r => ∀ records, r = .ok records → records.get key = some entry := by
  unfold load
  rw [Proc.action_bind]
  intro s _ _
  dsimp only
  split
  · intro records h
    cases h
  · unfold loadPath
    rw [Proc.action_bind]
    intro s _ hs
    dsimp only
    split
    · intro s fault hs records h
      have hget := hP s hs
      rwa [JournalFile.get, readResult_ok h] at hget
    · rename_i hpath
      have hnone : s.path = none := by simpa using hpath
      have hget := hP s hs
      simp [JournalFile.get, JournalFile.contents, hnone, Records.get] at hget

/-! ### What was written -/

/-- The process has written the entry, and its call has returned or is about to. -/
def HasWritten (pool : JournalPool π host) (p : π) (entry : MutationJournalEntry) : Prop :=
  ∃ a : Returned, a.wrote = some entry ∧ ((p, a) ∈ pool.returned ∨ pool.running p = some (.ret a))

/-- Whoever has written an entry put it into the file at some point of the run. -/
theorem written_run (hrun : Relation.ReflTransGen (RaceStep Undisturbed) (.idle π file) pool) {p : π}
    (hw : HasWritten pool p entry) : ∃ at_, Relation.ReflTransGen (RaceStep Undisturbed) (.idle π file) at_ ∧
      at_.shared.get (entry.key host) = some entry ∧ Relation.ReflTransGen (RaceStep Undisturbed) at_ pool := by
  induction hrun with
  | refl =>
    obtain ⟨a, -, hmem | hrunning⟩ := hw
    · cases hmem
    · cases hrunning
  | @tail pool pool' hpre hlast ih =>
    have hguard := guarded_run hpre
    obtain ⟨event, hstep, htaken⟩ := id hlast
    -- a call that had written before this step had written before
    have hold : HasWritten pool p entry → ∃ at_, Relation.ReflTransGen (RaceStep Undisturbed) (.idle π file) at_ ∧
        at_.shared.get (entry.key host) = some entry ∧ Relation.ReflTransGen (RaceStep Undisturbed) at_ pool' := fun h => by
      obtain ⟨at_, hat, hget, hto⟩ := ih h
      exact ⟨at_, hat, hget, hto.tail hlast⟩
    obtain ⟨a, hwrote, hmem | hrunning⟩ := hw
    · cases hstep with
      | start q call idle => exact hold ⟨a, hwrote, .inl hmem⟩
      | act q at_ i => exact hold ⟨a, hwrote, .inl hmem⟩
      | @finish q b at_ =>
        rcases List.mem_append.1 hmem with hmem | hnew
        · exact hold ⟨a, hwrote, .inl hmem⟩
        · obtain ⟨rfl, rfl⟩ := Prod.mk.inj (List.mem_singleton.1 hnew)
          exact hold ⟨a, hwrote, .inr at_⟩
      | die q => exact hold ⟨a, hwrote, .inl hmem⟩
    · cases hstep with
      | start q call idle =>
        by_cases hpq : p = q
        · subst hpq
          have hret : call.program = .ret a := by simpa using hrunning
          have := call.program_value
          rw [hret] at this
          cases this
        · exact hold ⟨a, hwrote, .inr (by simpa [hpq] using hrunning)⟩
      | @act q l effect next at_ i =>
        by_cases hpq : p = q
        · subst hpq
          have hret : next pool.shared i = .ret a := by simpa using hrunning
          obtain ⟨key, -, hr⟩ := (hguard.guaranteed at_ i (htaken l rfl)).replaced_of_wrote (by rw [hret]; rfl) hwrote
          refine ⟨_, hpre.tail hlast, ?_, .refl⟩
          rw [hr.get, if_pos hr.ofKey.symm]
        · exact hold ⟨a, hwrote, .inr (by simpa [hpq] using hrunning)⟩
      | finish q at_ =>
        by_cases hpq : p = q
        · subst hpq
          simp at hrunning
        · exact hold ⟨a, hwrote, .inr (by simpa [hpq] using hrunning)⟩
      | die q =>
        by_cases hpq : p = q
        · subst hpq
          simp at hrunning
        · exact hold ⟨a, hwrote, .inr (by simpa [hpq] using hrunning)⟩

/-! ### What was created -/

/-- The call of the process is about to return that it created an entry of the key. -/
def Creating (pool : JournalPool π host) (key : Digest) (p : π) : Prop :=
  ∃ a entry, pool.running p = some (.ret a) ∧ a.created = some entry ∧ entry.key host = key

/-- The call created an entry of the key. -/
def Returned.creates (host : Host) (key : Digest) (a : Returned) : Bool := a.created.any fun entry => entry.key host = key

/-- How many calls have returned that they created an entry of the key. -/
def createdCount (pool : JournalPool π host) (key : Digest) : Nat :=
  pool.returned.countP fun r => r.2.creates host key

/-- At most one call creates the entry of a key, and only a call that does so puts a first entry there. -/
structure OneCreator (key : Digest) (pool : JournalPool π host) : Prop where
  one : ∀ p q, Creating pool key p → Creating pool key q → p = q
  pending : ∀ p, Creating pool key p → createdCount pool key = 0
  atMost : createdCount pool key ≤ 1
  kept : (∃ p, Creating pool key p) ∨ createdCount pool key ≠ 0 → pool.shared.get key ≠ none

omit [DecidableEq π] in
/-- A step after which the creating calls are among those before, none has returned and no entry is gone. -/
theorem OneCreator.of_fewer {pool pool' : JournalPool π host} (h : OneCreator key pool)
    (hfewer : ∀ p, Creating pool' key p → Creating pool key p) (hcount : createdCount pool' key = createdCount pool key)
    (hget : pool.shared.get key ≠ none → pool'.shared.get key ≠ none) : OneCreator key pool' := by
  refine ⟨fun p q hp hq => h.one p q (hfewer p hp) (hfewer q hq), fun p hp => ?_, hcount ▸ h.atMost, fun hsome => hget (h.kept ?_)⟩
  · rw [hcount]
    exact h.pending p (hfewer p hp)
  · rw [hcount] at hsome
    exact hsome.imp_left fun ⟨p, hp⟩ => ⟨p, hfewer p hp⟩

/-- A process that was not about to return anything creates nothing by doing nothing. -/
theorem Creating.of_update {shared : JournalFile host} {p : π} {program : Option (JournalProc host Returned)}
    {returned : List (π × Returned)} {q : π} (hnot : ∀ a, program = some (.ret a) → a.creates host key = false)
    (h : Creating (⟨shared, Function.update pool.running p program, returned⟩ : JournalPool π host) key q) :
    Creating pool key q := by
  obtain ⟨a, entry, hrunning, hcreated, hkey⟩ := h
  by_cases hqp : q = p
  · subst hqp
    have := hnot a (by simpa using hrunning)
    simp [Returned.creates, hcreated, hkey] at this
  · exact ⟨a, entry, by simpa [hqp] using hrunning, hcreated, hkey⟩

theorem OneCreator.step {pool pool' : JournalPool π host} {event : Option JournalAction} (hg : PoolGuarded pool)
    (h : OneCreator key pool) (hs : Pool.Step JournalCall.program (fun _ _ => True) pool event pool')
    (htaken : ∀ l, event = some l → Undisturbed l pool.shared pool'.shared) : OneCreator key pool' := by
  cases hs with
  | start p call idle =>
    refine h.of_fewer (fun q hq => hq.of_update fun a ha => ?_) rfl id
    have hvalue := call.program_value
    rw [Option.some.inj ha] at hvalue
    cases hvalue
  | @act p l effect next at_ i =>
    have hdone := hg.guaranteed at_ i (htaken l rfl)
    by_cases hcreates : ∃ a, next pool.shared i = .ret a ∧ a.creates host key = true
    · obtain ⟨a, hret, hcreates⟩ := hcreates
      obtain ⟨entry, hcreated, hkey⟩ : ∃ entry, a.created = some entry ∧ entry.key host = key := by
        simpa [Returned.creates, Option.any_eq_true] using hcreates
      obtain ⟨k, -, hr⟩ := hdone.replaced_of_wrote (by rw [hret]; rfl) (Returned.wrote_of_created hcreated)
      obtain rfl : k = key := hr.ofKey.symm.trans hkey
      -- the key was free, so no other call creates it
      have hfree : pool.shared.get k = none := hr.fresh (by rw [hcreated]; exact Option.some_ne_none entry)
      have hnone : ∀ q, ¬ Creating pool k q := fun q hq => h.kept (.inl ⟨q, hq⟩) hfree
      have hzero : createdCount pool k = 0 := by
        by_contra hne
        exact h.kept (.inr hne) hfree
      have honly : ∀ q, Creating (⟨effect pool.shared i, Function.update pool.running p (some (next pool.shared i)),
          pool.returned⟩ : JournalPool π host) k q → q = p := fun q hq => by
        by_contra hqp
        obtain ⟨b, other, hrunning, hrest⟩ := hq
        exact hnone q ⟨b, other, by simpa [hqp] using hrunning, hrest⟩
      refine ⟨fun q q' hq hq' => (honly q hq).trans (honly q' hq').symm, fun q hq => hzero, ?_, fun _ => ?_⟩
      · exact (show createdCount pool k ≤ 1 by omega)
      · rw [hr.get, if_pos rfl]
        exact Option.some_ne_none entry
    · refine h.of_fewer (fun q hq => hq.of_update fun a ha => ?_) rfl fun hsome => hdone.get_ne_none hsome
      by_contra hcreate
      exact hcreates ⟨a, Option.some.inj ha, by simpa using hcreate⟩
  | @finish p a at_ =>
    by_cases hcreate : a.creates host key = true
    · obtain ⟨entry, hcreated, hkey⟩ : ∃ entry, a.created = some entry ∧ entry.key host = key := by
        simpa [Returned.creates, Option.any_eq_true] using hcreate
      have hp : Creating pool key p := ⟨a, entry, at_, hcreated, hkey⟩
      have hnone : ∀ q, ¬ Creating (⟨pool.shared, Function.update pool.running p none, pool.returned ++ [(p, a)]⟩ :
          JournalPool π host) key q := fun q hq => by
        obtain ⟨b, other, hrunning, hrest⟩ := hq
        by_cases hqp : q = p
        · subst hqp
          simp at hrunning
        · exact hqp (h.one q p ⟨b, other, by simpa [hqp] using hrunning, hrest⟩ hp)
      refine ⟨fun q q' hq => absurd hq (hnone q), fun q hq => absurd hq (hnone q), ?_, fun _ => h.kept (.inl ⟨p, hp⟩)⟩
      have hzero := h.pending p hp
      unfold createdCount at hzero ⊢
      rw [List.countP_append, hzero]
      simp [hcreate]
    · refine h.of_fewer (fun q hq => hq.of_update fun b hb => by cases hb) ?_ id
      unfold createdCount
      rw [List.countP_append]
      simp [hcreate]
  | die p => exact h.of_fewer (fun q hq => hq.of_update fun a ha => by cases ha) rfl id

theorem oneCreator_run (key : Digest) (hrun : Relation.ReflTransGen (RaceStep Undisturbed) (.idle π file) pool) :
    OneCreator key pool := by
  induction hrun with
  | refl =>
    have hnone : ∀ p, ¬ Creating (.idle π file) key p := fun p hp => by
      obtain ⟨a, entry, hrunning, -⟩ := hp
      cases hrunning
    refine ⟨fun p q hp => absurd hp (hnone p), fun p hp => absurd hp (hnone p), by simp [createdCount, JournalPool.idle], ?_⟩
    rintro (⟨p, hp⟩ | hne)
    · exact absurd hp (hnone p)
    · simp [createdCount, JournalPool.idle] at hne
  | tail hpre hlast ih =>
    obtain ⟨event, hstep, htaken⟩ := hlast
    exact ih.step (guarded_run hpre) hstep htaken

end Pools

/-! ## Schedules -/

namespace Sample

/-- Claim evidence for an idempotency key. -/
def evidence (idempotencyKey : String) : MutationJournalEntry where
  evidence :=
    { repository := ⟨"example", "roundwright"⟩, operation := .closeIssue, idempotencyKey
      targetIdentity := .sha256 (.ofNat 64 1), idempotencyIdentity := .sha256 (.ofNat 64 2)
      intentIdentity := .sha256 (.ofNat 64 3), authorizationBundleIdentity := .sha256 (.ofNat 64 4)
      candidateSha := "c", configurationDigest := .sha256 (.ofNat 64 5), gateIdentity := .sha256 (.ofNat 64 6)
      semanticPlanIdentity := .sha256 (.ofNat 64 7), command := ⟨.closeIssue⟩
      preStateReadIdentity := .sha256 (.ofNat 64 8), semanticReadbackIdentity := .sha256 (.ofNat 64 9)
      evaluatedAt := 0, freshUntil := 300, timeIdentity := timeIdentityOf .sample 0 300 }
  lifecycle := .claimed
  receipt := none
  preState := none
  createdResource := none

theorem evidence_check (idempotencyKey : String) : (evidence idempotencyKey).check .sample = .ok () := by
  simp [MutationJournalEntry.check, evidence, refuse, JournalLifecycle.executionCapable, JournalLifecycle.located,
    JournalLifecycle.unlocated, bind, Except.bind]

def claimOf (idempotencyKey : String) : JournalCall .sample := .claim (evidence idempotencyKey) (evidence_check _)

/-- A directory without a journal. -/
def empty : JournalFile .sample := ⟨none, none⟩

/-- Both processes load before either replaces. -/
def overlapping (first second : String) : List (Pool.Move Bool (JournalCall .sample) Bool) :=
  [.start false (claimOf first), .start true (claimOf second), .act false false, .act false false, .act true false,
    .act true false, .act false false, .act false false, .act true false, .act true false, .finish false, .finish true]

/-- Both processes load and write their temporary file; the first one's is the last and replaces the journal. -/
def overtaken (first second : String) : List (Pool.Move Bool (JournalCall .sample) Bool) :=
  [.start false (claimOf first), .start true (claimOf second), .act false false, .act false false, .act true false,
    .act true false, .act true false, .act false false, .act false false, .finish false]

/-- The actions that `Undisturbed` allows whatever they come to. -/
def Allowed : JournalAction → JournalFile host → Prop
  | .replace loaded written key, s => Fresh loaded written key s
  | _, _ => True

instance (l : JournalAction) (s : JournalFile host) : Decidable (Allowed l s) := by
  unfold Allowed Fresh
  split <;> infer_instance

theorem run_allowed {moves : List (Pool.Move Bool (JournalCall host) Bool)} {start pool : JournalPool Bool host}
    (h : moves.foldlM (Pool.move JournalCall.program Allowed) start = some pool) :
    Relation.ReflTransGen (RaceStep Undisturbed) start pool := by
  refine Relation.ReflTransGen.mono (fun a b hstep => ?_) _ _ (Pool.moves_steps h)
  obtain ⟨event, hstep⟩ := hstep
  cases hstep with
  | start p call idle => exact ⟨none, .start p call idle, fun l hl => by cases hl⟩
  | @act p l effect next at_ i may =>
    refine ⟨some l, .act p at_ i trivial, fun k hk => ?_⟩
    obtain rfl := Option.some.inj hk
    cases l with
    | replace loaded written key => exact .inr may
    | _ => trivial
  | finish p at_ => exact ⟨none, .finish p at_, fun l hl => by cases hl⟩
  | die p => exact ⟨none, .die p, fun l hl => by cases hl⟩

end Sample

/-- Any step may come at any time. -/
def Unordered : JournalAction → JournalFile host → JournalFile host → Prop := fun _ _ _ => True

theorem run_unordered {moves : List (Pool.Move Bool (JournalCall host) Bool)} {start pool : JournalPool Bool host}
    (h : moves.foldlM (Pool.move JournalCall.program fun _ _ => True) start = some pool) :
    Relation.ReflTransGen (RaceStep Unordered) start pool := by
  refine Relation.ReflTransGen.mono (fun a b hstep => ?_) _ _ (Pool.moves_steps h)
  obtain ⟨event, hstep⟩ := hstep
  exact ⟨event, hstep, fun _ _ => trivial⟩

end Roundwright.GitHub
