/-
`NativeHost` objects on one control database, their coordinators on one authority store. A method looks at the object
under its own lock, and what it does to the database it does while the authority is locked, so each method is one atomic
action on the world, or, for a scheduler wake and for `execute_one_shot`, a few of them.
-/
import Roundwright.Native.Control
import Roundwright.Lib.Script

namespace Roundwright.Native

open Lib State Handoff

/-! ## Objects -/

inductive NativeHostState where
  | idle | running | stopped
deriving DecidableEq

/-- A `NativeHost`. A coordinator is known by the number of its token; `controlled` is `_control_store is not None`. -/
structure NativeHost where
  coordinator : Nat
  installation : NativeHostInstallation
  controlled : Bool
  state : NativeHostState
  activeProcessId : Option String
  consumedProcessIds : List String
deriving DecidableEq

def NativeHost.new (coordinator : Nat) (installation : NativeHostInstallation) (controlled : Bool) : NativeHost :=
  ⟨coordinator, installation, controlled, .idle, none, []⟩

/-! ## Actions -/

/-- What the environment decides in an action: whether SQLite is available, what the check of the worktree finds,
whether the child raises. -/
structure Environment where
  available : Bool
  worktree : Except String Unit
  raises : Bool

inductive Action where
  | install (object coordinator : Nat) (installation : NativeHostInstallation) (now : Clock) (paths : Bool)
  | start (object : Nat) (processId : String) (source : InvocationSource) (now : Clock)
  | wake (object : Nat) (processId : String) (now : Clock)
  | complete (object : Nat) (processId : String) (now : Clock)
  | cancel (object : Nat) (processId : String) (now : Clock)
  | renewChildLease (object : Nat) (processId : String) (now : Clock) (leaseFor : Interval)
  | recoverStaleChild (object : Nat) (processId : String) (now : Clock) (staleAfter : Interval)
  | stop (object : Nat)
  | child
  | authority (call : Handoff.Call)

/-! ## The world -/

/-- A change of the process rows: who made it, in which action and when, under which authority. It is no part of the
program and nothing reads it. -/
structure Entry where
  object : Nat
  host : NativeHost
  action : Action
  now : Clock
  authority : Handoff.Store
  before : List ProcessRow
  after : List ProcessRow

/-- The authority store, the control database and the objects, by number. -/
structure World where
  authority : Handoff.Store
  control : Control
  hosts : Nat → Option NativeHost
  history : List Entry

def World.initial (authority : Handoff.Store) : World := ⟨authority, .initial, fun _ => none, []⟩

namespace World

/-- The object after a change of its memory. -/
def setHost (w : World) (object : Nat) (h : NativeHost) : World := { w with hosts := Function.update w.hosts object (some h) }

/-- The world after a transaction on the database; a change of the rows goes into the history. -/
def commit (w : World) (object : Nat) (h : NativeHost) (action : Action) (now : Clock) (control : Control) : World :=
  { w with
    control := control
    history := if control.rows = w.control.rows then w.history
      else w.history ++ [⟨object, h, action, now, w.authority, w.control.rows, control.rows⟩] }

end World

/-- What a call returns. -/
inductive Reply where
  | host (d : NativeHostDecision)
  | authority (d : HandoffDecision)
  | returned
deriving DecidableEq

def Reply.accepted : Reply → Bool
  | .host d => d.accepted
  | .authority d => d.authorized
  | .returned => true

/-- An atomic section of a call. -/
abbrev Section := Tx Raised World NativeHostDecision

def answer (d : NativeHostDecision) : Section := pure d

namespace NativeHost

/-- `_run_authorized_transition`: the transition runs while the exact receipt is authorized, else the call is denied. -/
def runAuthorizedTransition (host : Host) (h : NativeHost) (processId : Option String) (now : Clock)
    (transition : Section) : Section := fun w =>
  match (authorize host h.coordinator h.installation.identity h.installation.receipt now w.authority).1 with
  | .ok authority => if authority.authorized then transition w else answer (h.installation.denied authority.reason processId) w
  | .error e => (.error (.handoff e), w)

variable (host : Host) (object : Nat) (h : NativeHost) (processId : String) (now : Clock) (available : Bool)

/-- The object back at rest. -/
def rest : NativeHost := { h with activeProcessId := none, state := .idle }

/-- A transition that goes to the database first, and changes the object when that is accepted. -/
def durable (action : Action) (transaction : Control → Control.Outcome) (changed : NativeHost) (reason : String) :
    Section := fun w =>
  if h.controlled then
    match transaction w.control with
    | (.error e, control) => (.error e, w.commit object h action now control)
    | (.ok d, control) =>
      let w := w.commit object h action now control
      if d.accepted then (.ok (h.installation.accepted reason (some processId)), w.setHost object changed) else (.ok d, w)
  else (.ok (h.installation.accepted reason (some processId)), w.setHost object changed)

/-- `_start` -/
def start (source : InvocationSource) : Section := fun w =>
  if h.state = .stopped then answer (h.installation.denied "native host is stopped" (some processId)) w
  else if h.state = .running then answer (h.installation.denied "native host already has an active process" (some processId)) w
  else if processId ∈ h.consumedProcessIds then
    answer (h.installation.denied "native host process identity was already consumed" (some processId)) w
  else runAuthorizedTransition host h (some processId) now (fun w =>
    match timestamp now with
    | .error e => (.error e, w)
    | .ok instant =>
      durable object h processId now (.start object processId source now)
        (fun c => c.admitProcess h.installation processId source instant defaultProcessLease available)
        { h with consumedProcessIds := processId :: h.consumedProcessIds, activeProcessId := some processId, state := .running }
        ("native host " ++ source.value ++ " process admitted") w) w

/-- `request_scheduler_wakeup` of the coordinator. -/
def wake : Section := fun w =>
  match (authorize host h.coordinator h.installation.identity h.installation.receipt now w.authority).1 with
  | .ok authority =>
    if authority.authorized then
      answer (h.installation.accepted "work may be requested from the receipt-bound orchestrator" (some processId)) w
    else answer (h.installation.denied authority.reason (some processId)) w
  | .error e => (.error (.handoff e), w)

/-- `complete` -/
def complete : Section := fun w =>
  match timestamp now with
  | .error e => (.error e, w)
  | .ok instant =>
    if h.state = .stopped then answer (h.installation.denied "native host is stopped" (some processId)) w
    else if h.state ≠ .running ∨ h.activeProcessId ≠ some processId then
      answer (h.installation.denied "native host process is not active" (some processId)) w
    else runAuthorizedTransition host h (some processId) now
      (durable object h processId now (.complete object processId now)
        (fun c => c.finish h.installation processId .completed instant available) h.rest
        "native host process completed") w

/-- `cancel` -/
def cancel : Section := fun w =>
  match timestamp now with
  | .error e => (.error e, w)
  | .ok instant =>
    if h.state = .stopped then answer (h.installation.denied "native host is stopped" (some processId)) w
    else if h.state = .idle ∧ h.controlled = true ∧ processId ∈ h.consumedProcessIds then
      runAuthorizedTransition host h (some processId) now
        (durable object h processId now (.cancel object processId now)
          (fun c => c.finish h.installation processId .cancelled instant available) h
          "native host process is already cancelled") w
    else if h.state ≠ .running ∨ h.activeProcessId ≠ some processId then
      answer (h.installation.denied "native host process is not active" (some processId)) w
    else runAuthorizedTransition host h (some processId) now
      (durable object h processId now (.cancel object processId now)
        (fun c => c.finish h.installation processId .cancelled instant available) h.rest
        "native host process cancelled") w

/-- `renew_child_lease` -/
def renewChildLease (leaseFor : Interval) : Section := fun w =>
  match timestamp now with
  | .error e => (.error e, w)
  | .ok instant =>
    if h.controlled = false then answer (h.installation.denied "native host has no durable child lease" (some processId)) w
    else if h.state ≠ .running ∨ h.activeProcessId ≠ some processId then
      answer (h.installation.denied "native host process is not active" (some processId)) w
    else runAuthorizedTransition host h (some processId) now (fun w =>
      let (decision, control) := w.control.renewLease h.installation processId instant leaseFor available
      (decision, w.commit object h (.renewChildLease object processId now leaseFor) now control)) w

/-- `recover_stale_child` -/
def recoverStaleChild (staleAfter : Interval) : Section := fun w =>
  match timestamp now with
  | .error e => (.error e, w)
  | .ok instant =>
    if h.controlled = false then
      answer (h.installation.denied "native host has no durable child state to recover" (some processId)) w
    else runAuthorizedTransition host h (some processId) now
      (durable object h processId now (.recoverStaleChild object processId now staleAfter)
        (fun c => c.recoverStale h.installation processId instant staleAfter available)
        (if h.activeProcessId = some processId then h.rest else h) "native host stale child recovered") w

/-- `stop` -/
def stop : Section := fun w =>
  if h.state = .stopped then answer (h.installation.accepted "native host is already stopped" none) w
  else if h.state = .running then answer (h.installation.denied "native host has an active process" h.activeProcessId) w
  else (.ok (h.installation.accepted "native host stopped" none), w.setHost object { h with state := .stopped })

end NativeHost

/-- `install_native_host`; the new object takes a number that is not in use. -/
def installNativeHost (host : Host) (object coordinator : Nat) (i : NativeHostInstallation) (now : Clock) (paths : Bool)
    (environment : Environment) : Section := fun w =>
  if w.hosts object ≠ none then (.error .noObject, w)
  else
    NativeHost.runAuthorizedTransition host (.new coordinator i paths) none now (fun w =>
      if paths = false then
        (.ok (i.accepted "native host installation admitted" none), w.setHost object (.new coordinator i false))
      else
        match environment.worktree with
        | .error message => answer (i.denied message none) w
        | .ok () =>
          match w.control.install i environment.available with
          | (.error e, control) => (.error e, { w with control := control })
          | (.ok d, control) =>
            let w := { w with control := control }
            if d.accepted then (.ok d, w.setHost object (.new coordinator i true)) else (.ok d, w)) w

/-- A section on an object that exists. -/
def onObject (object : Nat) (f : NativeHost → Section) : Section := fun w =>
  match w.hosts object with
  | some h => f h w
  | none => (.error .noObject, w)

/-- What an action does. -/
def perform (host : Host) (environment : Environment) : Action → Tx Raised World Reply
  | .install object coordinator i now paths => Reply.host <$> installNativeHost host object coordinator i now paths environment
  | .start object processId source now =>
    Reply.host <$> onObject object fun h => h.start host object processId now environment.available source
  | .wake object processId now => Reply.host <$> onObject object fun h => h.wake host processId now
  | .complete object processId now => Reply.host <$> onObject object fun h => h.complete host object processId now
      environment.available
  | .cancel object processId now => Reply.host <$> onObject object fun h => h.cancel host object processId now environment.available
  | .renewChildLease object processId now leaseFor =>
    Reply.host <$> onObject object fun h => h.renewChildLease host object processId now environment.available leaseFor
  | .recoverStaleChild object processId now staleAfter =>
    Reply.host <$> onObject object fun h => h.recoverStaleChild host object processId now environment.available staleAfter
  | .stop object => Reply.host <$> onObject object fun h => h.stop object
  | .child => Tx.check (if environment.raises then .error .child else .ok .returned)
  | .authority call => fun w =>
    let (decision, authority) := call.run host w.authority
    (match decision with
      | .ok d => .ok (.authority d)
      | .error e => .error (.handoff e), { w with authority := authority })

/-! ## Calls -/

inductive Call where
  | installNativeHost (object coordinator : Nat) (installation : NativeHostInstallation) (now : Clock) (paths : Bool)
  | runOnce (object : Nat) (processId : String) (now : Clock)
  | requestSchedulerWake (object : Nat) (processId : String) (now : Clock)
  | complete (object : Nat) (processId : String) (now : Clock)
  | cancel (object : Nat) (processId : String) (now : Clock)
  | renewChildLease (object : Nat) (processId : String) (now : Clock) (leaseFor : Interval)
  | recoverStaleChild (object : Nat) (processId : String) (now : Clock) (staleAfter : Interval)
  | executeOneShot (object : Nat) (processId : String) (now : Clock)
  | stop (object : Nat)
  | authority (call : Handoff.Call)

abbrev Program := Script Action Raised Environment World

/-- One action. -/
def act (host : Host) (action : Action) : Program Reply := Script.commit action fun environment => perform host environment action

/-- One action of a call that takes a process identity. -/
def actOn (host : Host) (processId : String) (action : String → Action) : Program Reply := do
  let process ← Script.check (requireProcessId processId)
  act host (action process)

/-- The actions of a call, one after another. -/
def program (host : Host) : Call → Program Reply
  | .installNativeHost object coordinator i now paths => act host (.install object coordinator i now paths)
  | .runOnce object processId now => actOn host processId fun process => .start object process .oneShot now
  | .requestSchedulerWake object processId now => do
    let process ← Script.check (requireProcessId processId)
    let woken ← act host (.wake object process now)
    if woken.accepted then act host (.start object process .schedulerWake now) else pure woken
  | .complete object processId now => actOn host processId fun process => .complete object process now
  | .cancel object processId now => actOn host processId fun process => .cancel object process now
  | .renewChildLease object processId now leaseFor => actOn host processId fun process => .renewChildLease object
      process now leaseFor
  | .recoverStaleChild object processId now staleAfter =>
    actOn host processId fun process => .recoverStaleChild object process now staleAfter
  | .executeOneShot object processId now => do
    let started ← actOn host processId fun process => .start object process .oneShot now
    if started.accepted then
      let _ ← Script.onError (act host .child) (Script.handle
        (do let _ ← actOn host processId fun process => .cancel object process now; pure ()) fun e => Script.check (.error e))
      actOn host processId fun process => .complete object process now
    else pure started
  | .stop object => act host (.stop object)
  | .authority call => act host (.authority call)

end Roundwright.Native
