/-
What an action of a native host can do, said once. Each operation of the control database refuses and leaves it as it
was, or accepts and has seen what its acceptance rests on; an action of an object is then a change of the rows under
authority with a change of the object's memory, or one of a few steps that leave the rows alone.
-/
import Roundwright.Native.Host
import Roundwright.Handoff.Invariant

namespace Roundwright.Native

open Lib State Handoff

/-! ## The database -/

theorem Interval.require_ok {interval : Interval} {message : String} {n : Int} (h : interval.require message = .ok n) :
    0 < n ∧ interval = .microseconds n := by
  unfold Interval.require at h
  cases interval with
  | other => cases h
  | microseconds m =>
    simp only at h
    split at h
    · cases h
    · cases h
      exact ⟨by omega, rfl⟩

namespace Control

/-- The transaction has not accepted and has written nothing. -/
def Refused (c : Control) (out : Outcome) : Prop := (∀ d, out.1 = .ok d → d.accepted = false) ∧ out.2 = c

/-- The transaction has accepted and left the rows. -/
def Accepts (c : Control) (rows : List ProcessRow) (out : Outcome) : Prop :=
  ∃ d, d.accepted = true ∧ out = (.ok d, { c with rows := rows })

theorem refused_error (c : Control) (e : Raised) : c.Refused (.error e, c) := ⟨fun _ h => (nomatch h), rfl⟩

theorem refused_denied (c : Control) (i : NativeHostInstallation) (reason : String) (processId : Option String) :
    c.Refused (.ok (i.denied reason processId), c) := by
  refine ⟨fun d h => ?_, rfl⟩
  cases h
  rfl

variable {c : Control} {i : NativeHostInstallation} {processId : String} {now : Int} {available : Bool}

theorem admitProcess_cases (source : InvocationSource) (leaseFor : Interval) :
    c.Refused (c.admitProcess i processId source now leaseFor available) ∨
      ∃ lease, 0 < lease ∧ c.matches_ i = true ∧ (∀ r ∈ c.rows, r.state ≠ .running) ∧ c.row? processId = none ∧
        c.Accepts (c.rows ++ [admitted i processId source now lease])
          (c.admitProcess i processId source now leaseFor available) := by
  unfold admitProcess
  cases hlease : leaseFor.require "native host process lease is invalid" with
  | error e => exact .inl (c.refused_error e)
  | ok lease =>
    simp only
    split_ifs with _ hmatches hrunning hrow
    iterate 4 exact .inl (c.refused_denied i _ _)
    · exact .inl (c.refused_error _)
    · refine .inr ⟨lease, (Interval.require_ok hlease).1, by simpa using hmatches, ?_, not_not.1 hrow, _, rfl, rfl⟩
      intro r hr hstate
      exact hrunning (List.any_eq_true.2 ⟨r, hr, by simp [hstate]⟩)

theorem renewLease_cases (leaseFor : Interval) :
    c.Refused (c.renewLease i processId now leaseFor available) ∨
      ∃ row lease, 0 < lease ∧ leaseFor = .microseconds lease ∧ c.matches_ i = true ∧ c.row? processId = some row ∧
        row.state = .running ∧
        c.Accepts (c.update processId fun r => { r with leaseExpiresAt := now + lease, updatedAt := now }).rows
          (c.renewLease i processId now leaseFor available) := by
  unfold renewLease
  cases hlease : leaseFor.require "native host process lease is invalid" with
  | error e => exact .inl (c.refused_error e)
  | ok lease =>
    simp only
    split_ifs with _ hmatches _ hrow
    iterate 2 exact .inl (c.refused_denied i _ _)
    · exact .inl (c.refused_error _)
    · exact .inl (c.refused_denied i _ _)
    · cases hfound : c.row? processId with
      | none => simp [hfound] at hrow
      | some row =>
        refine .inr ⟨row, lease, (Interval.require_ok hlease).1,
          (Interval.require_ok hlease).2, by simpa using hmatches, rfl, ?_, _, rfl, rfl⟩
        simpa [hfound] using hrow

/-- A finish that is accepted ends the process, or has found it cancelled before and changes nothing. -/
theorem finish_cases (state : ProcessState) :
    c.Refused (c.finish i processId state now available) ∨
      ∃ row, c.matches_ i = true ∧ c.row? processId = some row ∧
        ((row.state = .running ∧ c.Accepts (c.update processId fun r => { r with state := state, updatedAt := now }).rows
            (c.finish i processId state now available)) ∨
          (state = .cancelled ∧ row.state = .cancelled ∧ c.Accepts c.rows (c.finish i processId state now available))) := by
  unfold finish
  cases hfound : c.row? processId with
  | none =>
    simp only
    split_ifs
    · exact .inl (c.refused_error _)
    iterate 3 exact .inl (c.refused_denied i _ _)
  | some row =>
    simp only
    split_ifs with _ _ hmatches hstate hcancelled
    · exact .inl (c.refused_error _)
    iterate 2 exact .inl (c.refused_denied i _ _)
    · exact .inr ⟨row, by simpa using hmatches, rfl, .inr ⟨hcancelled.1, hcancelled.2, _, rfl, rfl⟩⟩
    · exact .inl (c.refused_denied i _ _)
    · exact .inl (c.refused_error _)
    · exact .inr ⟨row, by simpa using hmatches, rfl, .inl ⟨not_not.1 hstate, _, rfl, rfl⟩⟩

theorem recoverStale_cases (staleAfter : Interval) :
    c.Refused (c.recoverStale i processId now staleAfter available) ∨
      ∃ row interval, 0 < interval ∧ staleAfter = .microseconds interval ∧ c.matches_ i = true ∧ c.row? processId = some row ∧
        row.state = .running ∧ row.startedAt + interval ≤ now ∧ row.leaseExpiresAt ≤ now ∧
        c.Accepts (c.update processId fun r => { r with state := .recovered, updatedAt := now }).rows
          (c.recoverStale i processId now staleAfter available) := by
  unfold recoverStale
  cases hinterval : staleAfter.require "native host stale-child interval is invalid" with
  | error e => exact .inl (c.refused_error e)
  | ok interval =>
    obtain ⟨hpositive, hgiven⟩ := Interval.require_ok hinterval
    cases hfound : c.row? processId with
    | none =>
      simp only
      split_ifs
      iterate 3 exact .inl (c.refused_denied i _ _)
    | some row =>
      simp only
      split_ifs with _ hmatches hstate hlive
      iterate 4 exact .inl (c.refused_denied i _ _)
      · exact .inl (c.refused_error _)
      · refine .inr ⟨row, interval, hpositive, hgiven, by simpa using hmatches, rfl, not_not.1 hstate, ?_, ?_, _, rfl, rfl⟩
        · omega
        · omega

end Control

/-! ## What an action does -/

/-- The rows with the row of a process changed. -/
def updated (rows : List ProcessRow) (processId : String) (f : ProcessRow → ProcessRow) : List ProcessRow :=
  rows.map fun r => if r.processId = processId then f r else r

/-- The row of a process. -/
def rowOf (rows : List ProcessRow) (processId : String) : Option ProcessRow := rows.find? fun r => r.processId = processId

/-- What an object does to the rows and to itself, in which action and at which instant. -/
inductive Change (object : Nat) (h : NativeHost) (instant : Instant) (rows : List ProcessRow) :
    Action → NativeHost → List ProcessRow → Prop
  | admitted (processId : String) (source : InvocationSource) (lease : Int) (positive : 0 < lease)
      (idle : h.state = .idle) (free : ∀ r ∈ rows, r.state ≠ .running) (fresh : rowOf rows processId = none) :
      Change object h instant rows (.start object processId source (.utc instant))
        { h with consumedProcessIds := processId :: h.consumedProcessIds, activeProcessId := some processId, state := .running }
        (rows ++ [Control.admitted h.installation processId source (sinceEpoch instant) lease])
  | renewed (row : ProcessRow) (lease : Int) (positive : 0 < lease) (found : rowOf rows row.processId = some row)
      (running : row.state = .running) (active : h.activeProcessId = some row.processId) :
      Change object h instant rows (.renewChildLease object row.processId (.utc instant) (.microseconds lease)) h
        (updated rows row.processId fun r =>
          { r with leaseExpiresAt := sinceEpoch instant + lease, updatedAt := sinceEpoch instant })
  | completed (row : ProcessRow) (found : rowOf rows row.processId = some row) (running : row.state = .running)
      (active : h.activeProcessId = some row.processId) :
      Change object h instant rows (.complete object row.processId (.utc instant)) h.rest
        (updated rows row.processId fun r => { r with state := .completed, updatedAt := sinceEpoch instant })
  | cancelled (row : ProcessRow) (found : rowOf rows row.processId = some row) (running : row.state = .running)
      (active : h.activeProcessId = some row.processId) :
      Change object h instant rows (.cancel object row.processId (.utc instant)) h.rest
        (updated rows row.processId fun r => { r with state := .cancelled, updatedAt := sinceEpoch instant })
  /-- The object is at rest and has once admitted the process. -/
  | cancelledAgain (row : ProcessRow) (found : rowOf rows row.processId = some row) (running : row.state = .running)
      (idle : h.state = .idle) (consumed : row.processId ∈ h.consumedProcessIds) :
      Change object h instant rows (.cancel object row.processId (.utc instant)) h
        (updated rows row.processId fun r => { r with state := .cancelled, updatedAt := sinceEpoch instant })
  /-- The object holds a process that is cancelled already. -/
  | settled (row : ProcessRow) (found : rowOf rows row.processId = some row) (ended : row.state = .cancelled)
      (active : h.activeProcessId = some row.processId) :
      Change object h instant rows (.cancel object row.processId (.utc instant)) h.rest rows
  | recovered (row : ProcessRow) (interval : Int) (positive : 0 < interval)
      (found : rowOf rows row.processId = some row) (running : row.state = .running)
        (stale : row.startedAt + interval ≤ sinceEpoch instant) (expired : row.leaseExpiresAt ≤ sinceEpoch instant) :
      Change object h instant rows (.recoverStaleChild object row.processId (.utc instant) (.microseconds interval))
        (if h.activeProcessId = some row.processId then h.rest else h)
        (updated rows row.processId fun r => { r with state := .recovered, updatedAt := sinceEpoch instant })

/-- The coordinator of an object is authorized for its installation. -/
def NativeHost.Authorized (host : Host) (authority : Handoff.Store) (h : NativeHost) (now : Clock) : Prop :=
  Handoff.Authorized host authority h.coordinator h.installation.identity h.installation.receipt now

/-- What an action does to the world. -/
inductive Moves (host : Host) : Action → World → World → Prop
  | still {l : Action} {w : World} : Moves host l w w
  | authority {w : World} (call : Handoff.Call) : Moves host (.authority call) w
      { w with authority := (call.run host w.authority).2 }
  | installed {l : Action} {w : World} (object coordinator : Nat) (i : NativeHostInstallation)
      (free : w.hosts object = none) (metadata : w.control.metadata = none ∨ w.control.metadata = some i.metadata) :
      Moves host l w ({ w with control := { w.control with metadata := some i.metadata } }.setHost object (.new coordinator i true))
  /-- An object without a database. -/
  | memory {l : Action} {w : World} (object : Nat) (h : NativeHost)
      (bare : ∀ old, w.hosts object = some old → old.controlled = false) (uncontrolled : h.controlled = false) :
        Moves host l w (w.setHost object h)
  | stopped {l : Action} {w : World} (object : Nat) (h : NativeHost) (found : w.hosts object = some h) (idle : h.state ≠ .running) :
      Moves host l w (w.setHost object { h with state := .stopped })
  | changed {l : Action} {w : World} (object : Nat) (h h' : NativeHost) (instant : Instant) (rows : List ProcessRow)
      (found : w.hosts object = some h) (controlled : h.controlled = true)
        (authorized : h.Authorized host w.authority (.utc instant))
      (matches_ : w.control.matches_ h.installation = true) (change : Change object h instant w.control.rows l h' rows) :
      Moves host l w ((w.commit object h l (.utc instant) { w.control with rows := rows }).setHost object h')

/-- The answer is not an accepted one. -/
def Denied (a : Except Raised Reply) : Prop := ∀ reply, a = .ok reply → reply.accepted = false

/-- The action moves the world, and not the rows when it is denied. -/
def Answers (host : Host) (l : Action) (w : World) (out : Except Raised Reply × World) : Prop :=
  Moves host l w out.2 ∧ (Denied out.1 → out.2.control.rows = w.control.rows)

/-- An answer of a section. -/
def Decides (host : Host) (l : Action) (w : World) (out : Except Raised NativeHostDecision × World) : Prop :=
  Moves host l w out.2 ∧ ((∀ d, out.1 = .ok d → d.accepted = false) → out.2.control.rows = w.control.rows)

variable {host : Host} {l : Action} {w : World} {object : Nat} {h : NativeHost} {processId : String} {now : Clock} {available : Bool}

/-- A section as an action. -/
theorem reply_run (f : Section) (w : World) : (Reply.host <$> f) w = ((f w).1.map Reply.host, (f w).2) := by
  show (f >>= fun d => pure (Reply.host d)) w = _
  simp only [bind]
  rcases f w with ⟨e | d, w'⟩ <;> rfl

theorem Decides.answers {f : Section} (hf : Decides host l w (f w)) : Answers host l w ((Reply.host <$> f) w) := by
  rw [reply_run]
  refine ⟨hf.1, fun hdenied => hf.2 fun d hd => ?_⟩
  apply hdenied (.host d)
  rw [hd]
  rfl

/-- Whatever is answered, nothing is done. -/
theorem Decides.still (a : Except Raised NativeHostDecision) : Decides host l w (a, w) := ⟨.still, fun _ => rfl⟩

theorem World.commit_same (w : World) (object : Nat) (h : NativeHost) (l : Action) (now : Clock) :
    w.commit object h l now w.control = w := by
  unfold World.commit
  rw [if_pos rfl]

theorem World.setHost_same (hw : w.hosts object = some h) : w.setHost object h = w := by
  unfold World.setHost
  rw [Function.update_eq_self_iff.2 hw.symm]

@[simp] theorem World.setHost_control (w : World) (object : Nat) (h : NativeHost) : (w.setHost object h).control = w.control := rfl

@[simp] theorem World.setHost_history (w : World) (object : Nat) (h : NativeHost) : (w.setHost object h).history = w.history := rfl

@[simp] theorem World.commit_control (w : World) (object : Nat) (h : NativeHost) (l : Action) (now : Clock) (c : Control) :
    (w.commit object h l now c).control = c := rfl

@[simp] theorem World.commit_hosts (w : World) (object : Nat) (h : NativeHost) (l : Action) (now : Clock) (c : Control) :
    (w.commit object h l now c).hosts = w.hosts := rfl

theorem NativeHost.runAuthorizedTransition_decides {asked : Option String} {transition : Section}
    (ht : h.Authorized host w.authority now → Decides host l w (transition w)) :
    Decides host l w (h.runAuthorizedTransition host asked now transition w) := by
  unfold NativeHost.runAuthorizedTransition
  cases hd : (authorize host h.coordinator h.installation.identity h.installation.receipt now w.authority).1 with
  | error e => exact .still _
  | ok d =>
    simp only
    split_ifs with hauthorized
    · exact ht ⟨d, hd, hauthorized⟩
    · exact .still _

/-- A transition on the database: where it is refused nothing is done, where it is accepted the object changes with
it. -/
theorem NativeHost.durable_decides {instant : Instant} {transaction : Control → Control.Outcome} {changed : NativeHost}
    {reason : String} (hw : w.hosts object = some h) (hkeeps : changed.controlled = h.controlled)
    (ht : h.controlled = true → w.control.Refused (transaction w.control) ∨ ∃ rows, w.control.Accepts rows (transaction w.control) ∧
      Moves host l w ((w.commit object h l (.utc instant) { w.control with rows := rows }).setHost object changed)) :
    Decides host l w (h.durable object processId (.utc instant) l transaction changed reason w) := by
  unfold NativeHost.durable
  cases hcontrolled : h.controlled with
  | false =>
    refine ⟨.memory object changed (fun old hold => ?_) (hkeeps.trans hcontrolled), fun _ => rfl⟩
    rw [hw] at hold
    cases hold
    exact hcontrolled
  | true =>
    rw [if_pos rfl]
    rcases ht hcontrolled with ⟨hdenied, hsame⟩ | ⟨rows, ⟨d, haccepted, hout⟩, hmoves⟩
    · rcases htx : transaction w.control with ⟨e | d, control⟩
      · rw [htx] at hsame
        obtain rfl : control = w.control := hsame
        simp only [World.commit_same]
        exact .still _
      · rw [htx] at hsame hdenied
        obtain rfl : control = w.control := hsame
        simp only [World.commit_same, hdenied d rfl]
        exact .still _
    · rw [hout]
      simp only [haccepted, if_true]
      refine ⟨hmoves, fun hno => ?_⟩
      cases hno _ rfl

theorem timestamp_ok {n : Int} (h : timestamp now = .ok n) : ∃ instant, now = .utc instant ∧ n = sinceEpoch instant := by
  cases now with
  | other => cases h
  | utc instant => exact ⟨instant, rfl, (Except.ok.inj h).symm⟩

theorem NativeHost.start_decides (source : InvocationSource) (hw : w.hosts object = some h) :
    Decides host (.start object processId source now) w (h.start host object processId now available source w) := by
  unfold NativeHost.start
  split_ifs with hstopped hrunning
  iterate 3 exact .still _
  refine runAuthorizedTransition_decides fun hauthorized => ?_
  cases hnow : timestamp now with
  | error e => exact .still _
  | ok n =>
    obtain ⟨instant, rfl, rfl⟩ := timestamp_ok hnow
    have hidle : h.state = .idle := by
      cases hstate : h.state with
      | idle => rfl
      | running => exact absurd hstate hrunning
      | stopped => exact absurd hstate hstopped
    refine durable_decides hw rfl fun hcontrolled => ?_
    rcases Control.admitProcess_cases source
      defaultProcessLease with hrefused | ⟨lease, hpositive, hmatches, hfree, hfresh, haccepts⟩
    · exact .inl hrefused
    · exact .inr ⟨_, haccepts, .changed object h _ instant _ hw hcontrolled hauthorized hmatches
        (.admitted processId source lease hpositive hidle hfree hfresh)⟩

theorem rowOf_processId {rows : List ProcessRow} {row : ProcessRow} (hrow : rowOf rows processId = some row) :
    row.processId = processId := by
  simpa using List.find?_some hrow

theorem NativeHost.complete_decides (hw : w.hosts object = some h) :
    Decides host (.complete object processId now) w (h.complete host object processId now available w) := by
  unfold NativeHost.complete
  cases hnow : timestamp now with
  | error e => exact .still _
  | ok n =>
    obtain ⟨instant, rfl, rfl⟩ := timestamp_ok hnow
    simp only
    split_ifs with _ hactive
    iterate 2 exact .still _
    refine runAuthorizedTransition_decides fun hauthorized => durable_decides hw rfl fun hcontrolled => ?_
    rcases Control.finish_cases .completed with hrefused | ⟨row, hmatches, hfound, ⟨hrunning, haccepts⟩ | ⟨hno, -, -⟩⟩
    · exact .inl hrefused
    · obtain rfl := rowOf_processId hfound
      exact .inr ⟨_, haccepts, .changed object h _ instant _ hw hcontrolled hauthorized hmatches
        (.completed row hfound hrunning (by tauto))⟩
    · cases hno

theorem NativeHost.cancel_decides (hw : w.hosts object = some h) :
    Decides host (.cancel object processId now) w (h.cancel host object processId now available w) := by
  unfold NativeHost.cancel
  cases hnow : timestamp now with
  | error e => exact .still _
  | ok n =>
    obtain ⟨instant, rfl, rfl⟩ := timestamp_ok hnow
    simp only
    split_ifs with _ hagain hactive
    · exact .still _
    · refine runAuthorizedTransition_decides fun hauthorized => durable_decides hw rfl fun hcontrolled => ?_
      rcases Control.finish_cases .cancelled with hrefused | ⟨row, hmatches, hfound, ⟨hrunning, haccepts⟩ | ⟨-, hended, haccepts⟩⟩
      · exact .inl hrefused
      · obtain rfl := rowOf_processId hfound
        exact .inr ⟨_, haccepts, .changed object h _ instant _ hw hcontrolled hauthorized hmatches
          (.cancelledAgain row hfound hrunning hagain.1 hagain.2.2)⟩
      · refine .inr ⟨_, haccepts, ?_⟩
        rw [World.commit_same, World.setHost_same hw]
        exact .still
    · exact .still _
    · refine runAuthorizedTransition_decides fun hauthorized => durable_decides hw rfl fun hcontrolled => ?_
      rcases Control.finish_cases .cancelled with hrefused | ⟨row, hmatches, hfound, ⟨hrunning, haccepts⟩ | ⟨-, hended, haccepts⟩⟩
      · exact .inl hrefused
      · obtain rfl := rowOf_processId hfound
        exact .inr ⟨_, haccepts, .changed object h _ instant _ hw hcontrolled hauthorized hmatches
          (.cancelled row hfound hrunning (by tauto))⟩
      · obtain rfl := rowOf_processId hfound
        exact .inr ⟨_, haccepts, .changed object h _ instant _ hw hcontrolled hauthorized hmatches
          (.settled row hfound hended (by tauto))⟩

theorem NativeHost.renewChildLease_decides (leaseFor : Interval) (hw : w.hosts object = some h) :
    Decides host (.renewChildLease object processId now leaseFor) w
      (h.renewChildLease host object processId now available leaseFor w) := by
  unfold NativeHost.renewChildLease
  cases hnow : timestamp now with
  | error e => exact .still _
  | ok n =>
    obtain ⟨instant, rfl, rfl⟩ := timestamp_ok hnow
    simp only
    split_ifs with hcontrolled hactive
    iterate 2 exact .still _
    refine runAuthorizedTransition_decides fun hauthorized => ?_
    show Decides host _ w ((w.control.renewLease h.installation processId (sinceEpoch instant) leaseFor available).1,
      w.commit object h (.renewChildLease object processId (.utc instant) leaseFor) (.utc instant)
        (w.control.renewLease h.installation processId (sinceEpoch instant) leaseFor available).2)
    rcases @Control.renewLease_cases w.control h.installation processId (sinceEpoch instant) available leaseFor with
      ⟨-, hsame⟩ | ⟨row, lease, hpositive, rfl, hmatches, hfound, hrunning, d, haccepted, hout⟩
    · rw [hsame, World.commit_same]
      exact .still _
    · rw [hout]
      obtain rfl := rowOf_processId hfound
      refine ⟨?_, fun hno => ?_⟩
      · have hmoves := Moves.changed object h h instant _ hw (by simpa using hcontrolled) hauthorized hmatches
          (.renewed row lease hpositive hfound hrunning (by tauto))
        rw [World.setHost_same (by simpa using hw)] at hmoves
        exact hmoves
      · rw [hno d rfl] at haccepted
        cases haccepted

theorem NativeHost.recoverStaleChild_decides (staleAfter : Interval) (hw : w.hosts object = some h) :
    Decides host (.recoverStaleChild object processId now staleAfter) w
      (h.recoverStaleChild host object processId now available staleAfter w) := by
  unfold NativeHost.recoverStaleChild
  cases hnow : timestamp now with
  | error e => exact .still _
  | ok n =>
    obtain ⟨instant, rfl, rfl⟩ := timestamp_ok hnow
    by_cases hcontrolled : h.controlled = false
    · simp only [if_pos hcontrolled]
      exact .still _
    simp only [if_neg hcontrolled]
    refine runAuthorizedTransition_decides fun hauthorized => durable_decides hw (by split <;> rfl) fun hcontrolled => ?_
    rcases Control.recoverStale_cases staleAfter with
      hrefused | ⟨row, interval, hpositive, rfl, hmatches, hfound, hrunning, hstale, hexpired, haccepts⟩
    · exact .inl hrefused
    · obtain rfl := rowOf_processId hfound
      exact .inr ⟨_, haccepts, .changed object h _ instant _ hw hcontrolled hauthorized hmatches
        (.recovered row interval hpositive hfound hrunning hstale hexpired)⟩

theorem NativeHost.stop_decides (hw : w.hosts object = some h) : Decides host l w (h.stop object w) := by
  unfold NativeHost.stop
  split_ifs with _ hrunning
  iterate 2 exact .still _
  exact ⟨.stopped object h hw hrunning, fun _ => rfl⟩

theorem NativeHost.wake_decides : Decides host l w (h.wake host processId now w) := by
  unfold NativeHost.wake
  split
  · split_ifs
    iterate 2 exact .still _
  · exact .still _

theorem installNativeHost_decides {coordinator : Nat} {i : NativeHostInstallation} {paths : Bool} {environment : Environment} :
    Decides host l w (installNativeHost host object coordinator i now paths environment w) := by
  unfold installNativeHost
  split_ifs with hfree hpaths
  · exact .still _
  · refine NativeHost.runAuthorizedTransition_decides fun _ => ⟨.memory object _ (fun old hold => ?_) rfl, fun _ => rfl⟩
    rw [not_not.1 hfree] at hold
    cases hold
  · refine NativeHost.runAuthorizedTransition_decides fun _ => ?_
    cases environment.worktree with
    | error message => exact .still _
    | ok _ =>
      simp only
      unfold Control.install
      split_ifs with _ hother
      iterate 2 exact .still _
      refine ⟨.installed object coordinator i (not_not.1 hfree) ?_, fun _ => rfl⟩
      by_cases hnone : w.control.metadata = none
      · exact .inl hnone
      · exact .inr (not_not.1 fun hne => hother ⟨hnone, hne⟩)

theorem onObject_decides {f : NativeHost → Section} (hf : ∀ h, w.hosts object = some h → Decides host l w (f h w)) :
    Decides host l w (onObject object f w) := by
  unfold onObject
  cases hw : w.hosts object with
  | none => exact .still _
  | some h => exact hf h hw

theorem perform_answers (environment : Environment) (l : Action) (w : World) : Answers host l w (perform host environment l w) := by
  cases l with
  | install object coordinator i now paths => exact installNativeHost_decides.answers
  | start object processId source now => exact (onObject_decides fun h hw => h.start_decides source hw).answers
  | wake object processId now => exact (onObject_decides fun h _ => h.wake_decides).answers
  | complete object processId now => exact (onObject_decides fun h hw => h.complete_decides hw).answers
  | cancel object processId now => exact (onObject_decides fun h hw => h.cancel_decides hw).answers
  | renewChildLease object processId now leaseFor =>
      exact (onObject_decides fun h hw => h.renewChildLease_decides leaseFor hw).answers
  | recoverStaleChild object processId now staleAfter =>
    exact (onObject_decides fun h hw => h.recoverStaleChild_decides staleAfter hw).answers
  | stop object => exact (onObject_decides fun h hw => h.stop_decides hw).answers
  | child => exact ⟨.still, fun _ => rfl⟩
  | authority call => exact ⟨.authority call, fun _ => rfl⟩

end Roundwright.Native
