/-
One child at a time under live authority. A row goes from running to one of its ends and then stays as it is; what an
object makes of a row it makes under its own authority, and it ends only a process that it has admitted. The invariant
keeps the rows, the history of their changes and the memory of every object together: an object that holds no process
has none that runs.
-/
import Roundwright.Native.Step
import Roundwright.Lib.Chain
import Roundwright.Lib.Table

namespace Roundwright.Native

open Lib State Handoff

variable {host : Host} {l : Action} {w w' : World} {object : Nat} {h h' : NativeHost} {instant : Instant}
  {rows rows' : List ProcessRow} {processId : String}

/-! ## Rows -/

theorem rowOf_append {r : ProcessRow} (fresh : rowOf rows r.processId = none) (processId : String) :
    rowOf (rows ++ [r]) processId = if processId = r.processId then some r else rowOf rows processId := by
  unfold rowOf at *
  split_ifs with heq
  · subst heq
    exact find?_append_self (find?_key_none.1 fresh) rfl
  · exact find?_append_ne fun hr => heq hr.symm

variable {f : ProcessRow → ProcessRow}

theorem rowOf_updated (hf : ∀ r, (f r).processId = r.processId) (rows : List ProcessRow) (target processId : String) :
    rowOf (updated rows target f) processId = if processId = target then (rowOf rows processId).map f else rowOf rows processId := by
  have hkey : ∀ r, (if r.processId = target then f r else r).processId = r.processId := by
    intro r
    split
    · exact hf r
    · rfl
  unfold rowOf updated
  rw [find?_map_key hkey]
  cases hfound : rows.find? fun r => r.processId = processId with
  | none => simp
  | some r =>
    obtain rfl : r.processId = processId := by simpa using List.find?_some hfound
    split_ifs with heq
    · simp [heq]
    · simp [heq]

/-- What the rows can become: a row stays, and one that has ended stays as it is. -/
def Later (rows rows' : List ProcessRow) : Prop :=
  ∀ p r, rowOf rows p = some r → (∃ r', rowOf rows' p = some r') ∧ (r.state ≠ .running → rowOf rows' p = some r)

theorem Later.refl (rows : List ProcessRow) : Later rows rows := fun _ r hr => ⟨⟨r, hr⟩, fun _ => hr⟩

theorem Later.trans {rows'' : List ProcessRow} (h : Later rows rows') (h' : Later rows' rows'') : Later rows rows'' := by
  intro p r hr
  obtain ⟨⟨r', hr'⟩, hended⟩ := h p r hr
  refine ⟨(h' p r' hr').1, fun hstate => ?_⟩
  exact (h' p r (hended hstate)).2 hstate

/-! ## Changes -/

/-- What an action of an object can make of the row of a process at an instant; `admittedBy` says that the object has
admitted the process. -/
inductive Turn (admittedBy : Prop) (object : Nat) (h : NativeHost) (instant : Instant) (processId : String) :
    Action → Option ProcessRow → Option ProcessRow → Prop
  | kept {l : Action} (row : Option ProcessRow) : Turn admittedBy object h instant processId l row row
  | admitted (source : InvocationSource) (lease : Int) (positive : 0 < lease) :
      Turn admittedBy object h instant processId (.start object processId source (.utc instant)) none
        (some (Control.admitted h.installation processId source (sinceEpoch instant) lease))
  | renewed (row : ProcessRow) (lease : Int) (positive : 0 < lease) (running : row.state = .running) (own : admittedBy) :
      Turn admittedBy object h instant processId
        (.renewChildLease object processId (.utc instant) (.microseconds lease)) (some row)
          (some { row with leaseExpiresAt := sinceEpoch instant + lease, updatedAt := sinceEpoch instant })
  | completed (row : ProcessRow) (running : row.state = .running) (own : admittedBy) :
      Turn admittedBy object h instant processId (.complete object processId (.utc instant)) (some row)
        (some { row with state := .completed, updatedAt := sinceEpoch instant })
  | cancelled (row : ProcessRow) (running : row.state = .running) (own : admittedBy) :
      Turn admittedBy object h instant processId (.cancel object processId (.utc instant)) (some row)
        (some { row with state := .cancelled, updatedAt := sinceEpoch instant })
  | recovered (row : ProcessRow) (interval : Int) (positive : 0 < interval) (running : row.state = .running)
      (stale : row.startedAt + interval ≤ sinceEpoch instant) (expired : row.leaseExpiresAt ≤ sinceEpoch instant) :
      Turn admittedBy object h instant processId
        (.recoverStaleChild object processId (.utc instant) (.microseconds interval)) (some row)
          (some { row with state := .recovered, updatedAt := sinceEpoch instant })

theorem Turn.mono {a b : Prop} {row row' : Option ProcessRow} (ht : Turn a object h instant processId l row row') (hab : a → b) :
    Turn b object h instant processId l row row' := by
  cases ht with
  | kept => exact .kept _
  | admitted source lease positive => exact .admitted source lease positive
  | renewed row lease positive running own => exact .renewed row lease positive running (hab own)
  | completed row running own => exact .completed row running (hab own)
  | cancelled row running own => exact .cancelled row running (hab own)
  | recovered row interval positive running stale expired => exact .recovered row interval positive running stale expired

variable {admittedBy : String → Prop}

theorem turn_updated {row : ProcessRow} (hf : ∀ r, (f r).processId = r.processId)
    (found : rowOf rows row.processId = some row)
    (ht : Turn (admittedBy row.processId) object h instant row.processId l (some row) (some (f row))) (p : String) :
    Turn (admittedBy p) object h instant p l (rowOf rows p) (rowOf (updated rows row.processId f) p) := by
  rw [rowOf_updated hf]
  split_ifs with hp
  · subst hp
    rw [found]
    exact ht
  · exact .kept _

theorem Change.turn (hc : Change object h instant rows l h' rows')
    (hactive : ∀ p, h.activeProcessId = some p → p ∈ h.consumedProcessIds)
    (hconsumed : ∀ p ∈ h.consumedProcessIds, admittedBy p) (p : String) : Turn (admittedBy p) object h instant p l
    (rowOf rows p) (rowOf rows' p) := by
  cases hc with
  | admitted q source lease positive idle free fresh =>
    rw [rowOf_append fresh]
    split_ifs with hp
    · obtain rfl : p = q := hp
      rw [fresh]
      exact .admitted source lease positive
    · exact .kept _
  | renewed row lease positive found running active =>
    exact turn_updated (by intro r; rfl) found (.renewed row lease positive running (hconsumed _ (hactive _ active))) p
  | completed row found running active =>
    exact turn_updated (by intro r; rfl) found (.completed row running (hconsumed _ (hactive _ active))) p
  | cancelled row found running active =>
    exact turn_updated (by intro r; rfl) found (.cancelled row running (hconsumed _ (hactive _ active))) p
  | cancelledAgain row found running idle consumed =>
    exact turn_updated (by intro r; rfl) found (.cancelled row running (hconsumed _ consumed)) p
  | settled row found ended active => exact .kept _
  | recovered row interval positive found running stale expired =>
    exact turn_updated (by intro r; rfl) found (.recovered row interval positive running stale expired) p

theorem later_of_turns (ht : ∀ p, Turn (admittedBy p) object h instant p l (rowOf rows p) (rowOf rows' p)) :
    Later rows rows' := by
  intro p r hr
  have hturn := ht p
  rw [hr] at hturn
  generalize rowOf rows' p = row' at hturn
  cases hturn with
  | kept => exact ⟨⟨r, rfl⟩, fun _ => rfl⟩
  | renewed _ lease positive running own => exact ⟨⟨_, rfl⟩, fun hended => absurd running hended⟩
  | completed _ running own => exact ⟨⟨_, rfl⟩, fun hended => absurd running hended⟩
  | cancelled _ running own => exact ⟨⟨_, rfl⟩, fun hended => absurd running hended⟩
  | recovered _ interval positive running stale expired => exact ⟨⟨_, rfl⟩, fun hended => absurd running hended⟩

/-- The rows are for the receipt of the object, if they were before. -/
theorem Turn.receipt {a : Prop} {row row' : Option ProcessRow} (ht : Turn a object h instant processId l row row')
    (hb : ∀ r, row = some r → r.receiptFingerprint = h.installation.receipt.receiptFingerprint) (r : ProcessRow)
    (hr : row' = some r) :
    r.receiptFingerprint = h.installation.receipt.receiptFingerprint := by
  cases ht with
  | kept => exact hb r hr
  | admitted =>
    cases hr
    rfl
  | renewed row =>
    cases hr
    exact hb row rfl
  | completed row =>
    cases hr
    exact hb row rfl
  | cancelled row =>
    cases hr
    exact hb row rfl
  | recovered row =>
    cases hr
    exact hb row rfl

theorem updated_ids (hf : ∀ r, (f r).processId = r.processId) (p : String) (hids : (rows.map (·.processId)).Nodup) :
    ((updated rows p f).map (·.processId)).Nodup := by
  have hmap : (updated rows p f).map (·.processId) = rows.map (·.processId) := by
    unfold updated
    rw [List.map_map]
    apply List.map_congr_left
    intro r _
    show (if r.processId = p then f r else r).processId = r.processId
    split
    · exact hf r
    · rfl
  rw [hmap]
  exact hids

/-- The process ids stay a key. -/
theorem Change.ids (hc : Change object h instant rows l h' rows') (hids : (rows.map (·.processId)).Nodup) :
    (rows'.map (·.processId)).Nodup := by
  cases hc with
  | admitted p source lease positive idle free fresh =>
    rw [List.map_append]
    refine hids.append (List.nodup_singleton _) ?_
    rw [List.map_singleton, List.disjoint_singleton]
    intro hmem
    obtain ⟨r, hr, hp⟩ := List.mem_map.1 hmem
    exact find?_key_none.1 fresh r hr hp
  | settled => exact hids
  | _ => exact updated_ids (by intro r; rfl) _ hids

/-- How many processes run. -/
def runningCount (rows : List ProcessRow) : Nat := rows.countP fun r => r.state = .running

/-- What is no start of a process raises no count. -/
theorem runningCount_updated {row : ProcessRow} (running : row.state = .running)
    (found : rowOf rows row.processId = some row) (hids : (rows.map (·.processId)).Nodup) :
    runningCount (updated rows row.processId f) ≤ runningCount rows := by
  have hmap : ∀ l : List ProcessRow, (∀ r ∈ l, r.processId = row.processId → r = row) →
      runningCount (updated l row.processId f) ≤ runningCount l := by
    intro l hl
    induction l with
    | nil => exact le_rfl
    | cons r rest ih =>
      have hrest := ih fun r' hr' => hl r' (List.mem_cons_of_mem _ hr')
      unfold runningCount updated at *
      rw [List.map_cons, List.countP_cons, List.countP_cons]
      by_cases hr : r.processId = row.processId
      · obtain rfl := hl r List.mem_cons_self hr
        simp only [running, decide_true, if_true]
        split <;> omega
      · rw [if_neg hr]
        omega
  refine hmap rows fun r hr heq => ?_
  have hfound := (find?_of_nodup hids).2 ⟨hr, heq⟩
  exact Option.some.inj (hfound.symm.trans found)

/-- At most one process runs. -/
theorem Change.single (hc : Change object h instant rows l h' rows') (hids : (rows.map (·.processId)).Nodup)
    (hsingle : runningCount rows ≤ 1) : runningCount rows' ≤ 1 := by
  cases hc with
  | admitted p source lease positive idle free fresh =>
    have hnone : runningCount rows = 0 := by
      unfold runningCount
      rw [List.countP_eq_zero]
      intro r hr
      simpa using free r hr
    unfold runningCount at *
    rw [List.countP_append, hnone, zero_add]
    exact List.countP_le_length
  | settled => exact hsingle
  | renewed row lease positive found running => exact (runningCount_updated running found hids).trans hsingle
  | completed row found running => exact (runningCount_updated running found hids).trans hsingle
  | cancelled row found running => exact (runningCount_updated running found hids).trans hsingle
  | cancelledAgain row found running => exact (runningCount_updated running found hids).trans hsingle
  | recovered row interval positive found running => exact (runningCount_updated running found hids).trans hsingle

/-! ## The law -/

/-- The change has admitted the process. -/
def Entry.Admits (e : Entry) (processId : String) : Prop := rowOf e.before processId = none ∧ rowOf e.after processId ≠ none

/-- An object has admitted a process. -/
def AdmittedBy (history : List Entry) (object : Nat) (processId : String) : Prop :=
  ∃ e ∈ history, e.object = object ∧ e.Admits processId

/-- A change that was lawful: its object was authorized for its receipt, which is the receipt of every row, and it made
one of the turns of every row. -/
structure Entry.Lawful (host : Host) (history : List Entry) (e : Entry) : Prop where
  authorized : e.host.Authorized host e.authority e.now
  receipt : ∀ p r, rowOf e.after p = some r → r.receiptFingerprint = e.host.installation.receipt.receiptFingerprint
  turns : ∃ instant, e.now = .utc instant ∧
    ∀ p, Turn (AdmittedBy history e.object p) e.object e.host instant p e.action (rowOf e.before p) (rowOf e.after p)

/-- An object on the database. -/
structure HostLaw (control : Control) (history : List Entry) (object : Nat) (h : NativeHost) : Prop where
  metadata : control.metadata = some h.installation.metadata
  active : ∀ p, h.activeProcessId = some p → p ∈ h.consumedProcessIds
  running : h.activeProcessId = none ↔ h.state ≠ .running
  consumed : ∀ p ∈ h.consumedProcessIds, AdmittedBy history object p
  unheld : ∀ p ∈ h.consumedProcessIds, h.activeProcessId ≠ some p → ∀ r, rowOf control.rows p = some r → r.state ≠ .running

structure Law (host : Host) (w : World) : Prop where
  ids : (w.control.rows.map (·.processId)).Nodup
  single : runningCount w.control.rows ≤ 1
  receipts : ∀ p r, rowOf w.control.rows p = some r → ∃ m, w.control.metadata = some m ∧ r.receiptFingerprint = m.receiptFingerprint
  linked : Linked Entry.after (fun e => some e.before) (some []) w.history
  last : (w.history.getLast?.map Entry.after).or (some []) = some w.control.rows
  later : ∀ e ∈ w.history, Later e.after w.control.rows
  order : w.history.Pairwise fun e e' => Later e.after e'.before
  lawful : ∀ e ∈ w.history, e.Lawful host w.history
  hosts : ∀ object h, w.hosts object = some h → h.controlled = true → HostLaw w.control w.history object h

theorem Law.initial (authority : Handoff.Store) : Law host (.initial authority) where
  ids := List.nodup_nil
  single := Nat.zero_le 1
  receipts _ _ hr := nomatch hr
  linked := trivial
  last := rfl
  later _ he := nomatch he
  order := .nil
  lawful _ he := nomatch he
  hosts _ _ hh := nomatch hh

theorem AdmittedBy.mono {history history' : List Entry} (hsub : ∀ e ∈ history, e ∈ history')
    (ha : AdmittedBy history object processId) :
    AdmittedBy history' object processId := by
  obtain ⟨e, he, hobject, hadmits⟩ := ha
  exact ⟨e, hsub e he, hobject, hadmits⟩

theorem Entry.Lawful.mono {history history' : List Entry} {e : Entry} (hsub : ∀ e ∈ history, e ∈ history')
    (hl : e.Lawful host history) :
    e.Lawful host history' := by
  obtain ⟨instant, hnow, hturns⟩ := hl.turns
  exact ⟨hl.authorized, hl.receipt, instant, hnow, fun p => (hturns p).mono (AdmittedBy.mono hsub)⟩

theorem Law.row_of_admitted (hl : Law host w) (ha : AdmittedBy w.history object processId) :
    ∃ r, rowOf w.control.rows processId = some r := by
  obtain ⟨e, he, -, -, hafter⟩ := ha
  obtain ⟨r, hr⟩ := Option.ne_none_iff_exists'.1 hafter
  exact (hl.later e he processId r hr).1

theorem Law.admitted_once (hl : Law host w) {object' : Nat} (ha : AdmittedBy w.history object processId)
    (ha' : AdmittedBy w.history object' processId) : object = object' := by
  obtain ⟨e, he, rfl, hadmits⟩ := ha
  obtain ⟨e', he', rfl, hadmits'⟩ := ha'
  have hapart : ∀ a b : Entry, Later a.after b.before → a.Admits processId → ¬ b.Admits processId := by
    intro a b hlater haa hba
    obtain ⟨r, hr⟩ := Option.ne_none_iff_exists'.1 haa.2
    obtain ⟨r', hr'⟩ := (hlater processId r hr).1
    rw [hba.1] at hr'
    cases hr'
  have hforth : w.history.Pairwise fun a b => a.Admits processId → b.Admits processId → a = b :=
    hl.order.imp fun hlater haa hba => absurd hba (hapart _ _ hlater haa)
  have hback : w.history.Pairwise fun a b => b.Admits processId → a.Admits processId → b = a :=
    hl.order.imp fun hlater hba haa => absurd hba (hapart _ _ hlater haa)
  have hsame := List.Pairwise.forall_of_forall_of_flip (fun _ _ _ _ => rfl) hforth hback
  rw [hsame he he' hadmits hadmits']

variable {control : Control}

/-- An object keeps its law while the rows go on. -/
theorem HostLaw.mono {history : List Entry} (hh : HostLaw w.control w.history object h) (hl : Law host w)
    (hmetadata : ∀ m, w.control.metadata = some m → control.metadata = some m) (hsub : ∀ e ∈ w.history, e ∈ history)
    (hlater : Later w.control.rows control.rows) : HostLaw control history object h where
  metadata := hmetadata _ hh.metadata
  active := hh.active
  running := hh.running
  consumed p hp := (hh.consumed p hp).mono hsub
  unheld p hp hne r hr := by
    obtain ⟨r₀, hr₀⟩ := hl.row_of_admitted (hh.consumed p hp)
    have hended := hh.unheld p hp hne r₀ hr₀
    rw [(hlater p r₀ hr₀).2 hended] at hr
    cases hr
    exact hended

/-- An object whose process has ended can come to rest. -/
theorem HostLaw.rest {history : List Entry} (hh : HostLaw control history object h)
    (hended : ∀ p, h.activeProcessId = some p → ∀ r, rowOf control.rows p = some r → r.state ≠ .running) :
    HostLaw control history object h.rest where
  metadata := hh.metadata
  active _ hp := nomatch hp
  running := ⟨fun _ hno => (nomatch hno), fun _ => rfl⟩
  consumed := hh.consumed
  unheld p hp _ r hr := by
    by_cases hactive : h.activeProcessId = some p
    · exact hended p hactive r hr
    · exact hh.unheld p hp hactive r hr

/-! ## One step -/

theorem World.commit_changed (w : World) (object : Nat) (h : NativeHost) (l : Action) (now : Clock)
    (hne : control.rows ≠ w.control.rows) :
    (w.commit object h l now control).history = w.history ++ [⟨object, h, l, now, w.authority, w.control.rows, control.rows⟩] := by
  unfold World.commit
  rw [if_neg hne]

theorem World.mem_commit {now : Clock} : ∀ e ∈ w.history, e ∈ (w.commit object h l now control).history := by
  intro e he
  unfold World.commit
  show e ∈ ite _ _ _
  split_ifs
  · exact he
  · exact List.mem_append_left _ he

/-- A step that leaves the rows, the history and the objects. -/
theorem Law.frame (hl : Law host w) (hrows : w'.control.rows = w.control.rows)
    (hmetadata : ∀ m, w.control.metadata = some m → w'.control.metadata = some m) (hhistory : w'.history = w.history)
    (hhosts : w'.hosts = w.hosts) : Law host w' where
  ids := hrows ▸ hl.ids
  single := hrows ▸ hl.single
  receipts p r hr := by
    rw [hrows] at hr
    obtain ⟨m, hm, heq⟩ := hl.receipts p r hr
    exact ⟨m, hmetadata m hm, heq⟩
  linked := hhistory ▸ hl.linked
  last := by rw [hhistory, hrows]; exact hl.last
  later := by rw [hhistory, hrows]; exact hl.later
  order := hhistory ▸ hl.order
  lawful := hhistory ▸ hl.lawful
  hosts o k hk hcontrolled := by
    rw [hhosts] at hk
    refine (hl.hosts o k hk hcontrolled).mono hl hmetadata (fun e he => hhistory ▸ he) ?_
    rw [hrows]
    exact .refl _

/-- A change of an object's memory that its law allows. -/
theorem Law.setHost (hl : Law host w) (hh : h.controlled = true → HostLaw w.control w.history object h) :
    Law host (w.setHost object h) where
  ids := hl.ids
  single := hl.single
  receipts := hl.receipts
  linked := hl.linked
  last := hl.last
  later := hl.later
  order := hl.order
  lawful := hl.lawful
  hosts o k hk hcontrolled := by
    have hk : Function.update w.hosts object (some h) o = some k := hk
    by_cases ho : o = object
    · subst ho
      obtain rfl : h = k := by simpa using hk
      exact hh hcontrolled
    · exact hl.hosts o k (by simpa [ho] using hk) hcontrolled

/-- A change of the rows by an object that is authorized. -/
theorem Law.commit (hl : Law host w) (hh : HostLaw w.control w.history object h)
    (authorized : h.Authorized host w.authority (.utc instant)) (hc : Change object h instant w.control.rows l h' rows) :
    Law host (w.commit object h l (.utc instant) { w.control with rows := rows }) := by
  by_cases hsame : rows = w.control.rows
  · subst hsame
    rw [World.commit_same]
    exact hl
  have hturns := hc.turn hh.active hh.consumed
  have hlater := later_of_turns hturns
  have hreceipt : ∀ p r, rowOf w.control.rows p = some r → r.receiptFingerprint = h.installation.receipt.receiptFingerprint := by
    intro p r hr
    obtain ⟨m, hm, heq⟩ := hl.receipts p r hr
    rw [hh.metadata] at hm
    cases hm
    exact heq
  have hhistory := w.commit_changed object h l (.utc instant) (show { w.control with rows := rows }.rows ≠ w.control.rows from hsame)
  have hsub : ∀ e ∈ w.history, e ∈ (w.commit object h l (.utc instant) { w.control with rows := rows }).history := World.mem_commit
  generalize hw' : w.commit object h l (.utc instant) { w.control with rows := rows } = w' at hhistory hsub ⊢
  have hcontrol : w'.control = { w.control with rows := rows } := hw' ▸ rfl
  have hhosts : w'.hosts = w.hosts := hw' ▸ rfl
  -- the history grows by one event; what was lawful before stays so
  refine ⟨?_, ?_, ?_, ?_, ?_, ?_, ?_, ?_, ?_⟩
  · rw [hcontrol]
    exact hc.ids hl.ids
  · rw [hcontrol]
    exact hc.single hl.ids hl.single
  · rw [hcontrol]
    intro p r hr
    exact ⟨_, hh.metadata, (hturns p).receipt (hreceipt p) r hr⟩
  · rw [hhistory, linked_append_singleton]
    exact ⟨hl.linked, hl.last.symm⟩
  · rw [hhistory, hcontrol]
    simp
  · rw [hhistory, hcontrol]
    intro e he
    rcases List.mem_append.1 he with he | he
    · exact (hl.later e he).trans hlater
    · obtain rfl := List.mem_singleton.1 he
      exact .refl _
  · rw [hhistory, List.pairwise_append]
    refine ⟨hl.order, List.pairwise_singleton _ _, fun e he e' he' => ?_⟩
    obtain rfl := List.mem_singleton.1 he'
    exact hl.later e he
  · intro e he
    rw [hhistory] at he
    rcases List.mem_append.1 he with he | he
    · exact (hl.lawful e he).mono hsub
    · obtain rfl := List.mem_singleton.1 he
      exact ⟨authorized, fun p r hr => (hturns p).receipt (hreceipt p) r hr, instant, rfl,
        fun p => (hturns p).mono (AdmittedBy.mono hsub)⟩
  · intro o k hk hcontrolled
    rw [hhosts] at hk
    refine (hl.hosts o k hk hcontrolled).mono hl (fun m hm => ?_) hsub ?_
    · rw [hcontrol]
      exact hm
    · rw [hcontrol]
      exact hlater

/-- The object after a change that it has made. -/
theorem Change.hostLaw (hl : Law host w) (hh : HostLaw w.control w.history object h)
    (hc : Change object h instant w.control.rows l h' rows) :
    HostLaw { w.control with rows := rows } (w.commit object h l (.utc instant) { w.control with rows := rows }).history
    object h' := by
  have hlater := later_of_turns (hc.turn hh.active hh.consumed)
  have hkept : HostLaw { w.control with rows := rows }
    (w.commit object h l (.utc instant) { w.control with rows := rows }).history object h :=
    hh.mono hl (fun m hm => hm) World.mem_commit hlater
  -- The process of the object has the state that the change gave it.
  have hended : ∀ {row : ProcessRow} {state : ProcessState}, state ≠ .running → rowOf w.control.rows row.processId = some row →
      h.activeProcessId = some row.processId → ∀ p, h.activeProcessId = some p → ∀ r,
      rowOf (updated w.control.rows row.processId fun r => { r with state := state, updatedAt := sinceEpoch instant }) p = some r →
      r.state ≠ .running := by
    intro row state hstate found active p hp r hr
    rw [active] at hp
    cases hp
    rw [rowOf_updated (by intro r; rfl), if_pos rfl, found] at hr
    cases hr
    exact hstate
  cases hc with
  | admitted q source lease positive idle free fresh =>
    have hactive : h.activeProcessId = none := hh.running.2 (by rw [idle]; decide)
    have hne : { w.control with rows := w.control.rows ++
      [Control.admitted h.installation q source (sinceEpoch instant) lease] }.rows ≠ w.control.rows := by simp
    have hhistory := w.commit_changed object h (.start object q source (.utc instant)) (.utc instant) hne
    refine ⟨hkept.metadata, fun p hp => ?_, ⟨fun hno => (nomatch hno), fun hno => absurd rfl hno⟩, fun p hp => ?_,
      fun p hp hne r hr => ?_⟩
    · obtain rfl : q = p := Option.some.inj hp
      exact List.mem_cons_self
    · rcases List.mem_cons.1 hp with rfl | hp
      · refine ⟨_, hhistory ▸ List.mem_append_right _ List.mem_cons_self, rfl, fresh, ?_⟩
        show rowOf (w.control.rows ++ [Control.admitted h.installation p source (sinceEpoch instant) lease]) p ≠ none
        rw [rowOf_append fresh, if_pos
          (show p = (Control.admitted h.installation p source (sinceEpoch instant) lease).processId from rfl)]
        exact Option.some_ne_none _
      · exact hkept.consumed p hp
    · rcases List.mem_cons.1 hp with rfl | hp
      · exact absurd rfl hne
      · refine hkept.unheld p hp ?_ r hr
        rw [hactive]
        exact Option.some_ne_none p ∘ Eq.symm
  | renewed row lease positive found running active => exact hkept
  | completed row found running active => exact hkept.rest (hended (by decide) found active)
  | cancelled row found running active => exact hkept.rest (hended (by decide) found active)
  | cancelledAgain row found running idle consumed =>
    have hactive : h.activeProcessId = none := hh.running.2 (by rw [idle]; decide)
    exact absurd running (hh.unheld _ consumed (by rw [hactive]; exact Option.some_ne_none _ ∘ Eq.symm) row found)
  | settled row found ended active =>
    refine hkept.rest fun p hp r hr => ?_
    rw [active] at hp
    cases hp
    obtain rfl := Option.some.inj (found.symm.trans hr)
    rw [ended]
    decide
  | recovered row interval positive found running stale expired =>
    split_ifs with hactive
    · exact hkept.rest (hended (by decide) found hactive)
    · exact hkept

theorem Law.moves (hl : Law host w) (hm : Moves host l w w') : Law host w' := by
  cases hm with
  | still => exact hl
  | authority call => exact hl.frame rfl (fun _ hm => hm) rfl rfl
  | installed object coordinator i free metadata =>
    have hmetadata : ∀ m, w.control.metadata = some m → some i.metadata = some m := by
      intro m hm
      rw [hm] at metadata
      rcases metadata with hno | heq
      · cases hno
      · exact heq.symm
    refine Law.setHost (hl.frame rfl hmetadata rfl rfl) fun _ =>
      ⟨rfl, fun p hp => ?_, ⟨fun _ hno => (nomatch hno), fun _ => rfl⟩, fun p hp => absurd hp List.not_mem_nil,
        fun p hp => absurd hp List.not_mem_nil⟩
    cases hp
  | memory object h bare uncontrolled =>
    refine hl.setHost fun hcontrolled => ?_
    rw [uncontrolled] at hcontrolled
    cases hcontrolled
  | stopped object h found idle =>
    refine hl.setHost fun hcontrolled => ?_
    have hh := hl.hosts object h found hcontrolled
    exact ⟨hh.metadata, hh.active, ⟨fun _ hno => (nomatch hno), fun _ => hh.running.2 idle⟩, hh.consumed, hh.unheld⟩
  | changed object h h' instant rows found controlled authorized matches_ change =>
    have hh := hl.hosts object h found controlled
    exact (hl.commit hh authorized change).setHost fun _ => change.hostLaw hl hh

end Roundwright.Native
