/-
The control database of a native host: which installation it belongs to, and one row for each process it has admitted.
Every operation is one transaction; SQLite may be unavailable to any of them, and then nothing is written.
-/
import Roundwright.Handoff.Coordinator

namespace Roundwright.Native

open Lib State Handoff

/-! ## Values -/

inductive InvocationSource where
  | oneShot | schedulerWake
deriving DecidableEq

def InvocationSource.value : InvocationSource → String
  | .oneShot => "one-shot"
  | .schedulerWake => "scheduler-wake"

/-- The texts of the column `state`. -/
inductive ProcessState where
  | running | completed | cancelled | recovered
deriving DecidableEq

def ProcessState.value : ProcessState → String
  | .running => "running"
  | .completed => "completed"
  | .cancelled => "cancelled"
  | .recovered => "recovered"

/-- What a call can raise. -/
inductive Raised where
  | nativeHost (message : String)
  | overflow
  | handoff (e : Error)
  | child
  | noObject
deriving DecidableEq

/-- What is given as a `timedelta`: microseconds, or anything else. -/
inductive Interval where
  | microseconds (n : Int)
  | other

/-- An interval that is longer than nothing. -/
def Interval.require (interval : Interval) (message : String) : Except Raised Int :=
  match interval with
  | .microseconds n => if n ≤ 0 then .error (.nativeHost message) else .ok n
  | .other => .error (.nativeHost message)

/-- `_DEFAULT_PROCESS_LEASE` -/
def defaultProcessLease : Interval := .microseconds 60000000

/-- The microseconds from the beginning of 1970 to an instant. -/
def sinceEpoch (instant : Instant) : Int := instant.val - 62135596800000000

/-- `_timestamp` -/
def timestamp : Clock → Except Raised Int
  | .utc now => .ok (sinceEpoch now)
  | .other => .error (.nativeHost "native host timestamp must be an aware UTC datetime")

/-- `_TOKEN` -/
def isProcessId (text : String) : Bool :=
  headTail Char.isAlphanum (fun c => c.isAlphanum || c ∈ ['.', '_', ':', '/', '-']) 127 text

/-- `_require_process_id` -/
def requireProcessId (text : String) : Except Raised String :=
  if isProcessId text then .ok text else .error (.nativeHost "native host process identity is invalid")

/-- `NativeHostInstallation`; its constructor insists on the last field. -/
structure NativeHostInstallation where
  installationFingerprint : Fingerprint
  identity : DeploymentAuthorityIdentity
  receipt : DeploymentAuthorityHandoffReceipt
  bound : receipt.identity.same identity = true
deriving DecidableEq

structure NativeHostDecision where
  accepted : Bool
  reason : String
  installationFingerprint : Option Fingerprint
  receiptFingerprint : Option Fingerprint
  processId : Option String
deriving DecidableEq

namespace NativeHostInstallation

variable (i : NativeHostInstallation) (reason : String) (processId : Option String)

/-- `_accepted` -/
def accepted : NativeHostDecision := ⟨true, reason, some i.installationFingerprint, some i.receipt.receiptFingerprint, processId⟩

/-- `_denied` -/
def denied : NativeHostDecision := ⟨false, reason, some i.installationFingerprint, some i.receipt.receiptFingerprint, processId⟩

end NativeHostInstallation

/-! ## The database -/

/-- `native_host_metadata` -/
structure Metadata where
  installationFingerprint : Fingerprint
  receiptFingerprint : Fingerprint
  candidateSha : CandidateSha
deriving DecidableEq

def NativeHostInstallation.metadata (i : NativeHostInstallation) : Metadata :=
  ⟨i.installationFingerprint, i.receipt.receiptFingerprint, i.identity.candidateSha⟩

/-- `native_host_process` -/
structure ProcessRow where
  processId : String
  receiptFingerprint : Fingerprint
  candidateSha : CandidateSha
  source : InvocationSource
  state : ProcessState
  startedAt : Int
  leaseExpiresAt : Int
  updatedAt : Int
deriving DecidableEq

structure Control where
  metadata : Option Metadata
  rows : List ProcessRow

/-- An integer that SQLite can store. -/
def fitsInteger (n : Int) : Bool := -2 ^ 63 ≤ n ∧ n < 2 ^ 63

namespace Control

def initial : Control := ⟨none, []⟩

variable (c : Control) (i : NativeHostInstallation)

/-- `_matches` -/
def matches_ : Bool := c.metadata = some i.metadata

def row? (processId : String) : Option ProcessRow := c.rows.find? fun r => r.processId = processId

/-- `UPDATE native_host_process SET … WHERE process_id = ?` -/
def update (processId : String) (f : ProcessRow → ProcessRow) : Control :=
  { c with rows := c.rows.map fun r => if r.processId = processId then f r else r }

/-- The answer of a transaction and what it leaves. -/
abbrev Outcome := Except Raised NativeHostDecision × Control

def unavailable (processId : Option String) : Outcome := (.ok (i.denied "native host state database is unavailable" processId), c)

def notAuthoritative (processId : String) : Outcome :=
  (.ok (i.denied "native host state is not authoritative for this candidate" (some processId)), c)

/-- `install` -/
def install (available : Bool) : Outcome :=
  if available = false then c.unavailable i none
  else if c.metadata ≠ none ∧ c.metadata ≠ some i.metadata then
    (.ok (i.denied "native host state belongs to a different receipt or candidate" none), c)
  else (.ok (i.accepted "native host installation recorded" none), { c with metadata := some i.metadata })

/-- The row that `admitProcess` inserts. -/
def admitted (processId : String) (source : InvocationSource) (now lease : Int) : ProcessRow :=
  ⟨processId, i.receipt.receiptFingerprint, i.identity.candidateSha, source, .running, now, now + lease, now⟩

/-- `NativeHostControlStore.admit` -/
def admitProcess (processId : String) (source : InvocationSource) (now : Int) (leaseFor : Interval) (available : Bool) : Outcome :=
  match leaseFor.require "native host process lease is invalid" with
  | .error e => (.error e, c)
  | .ok lease =>
    if available = false then c.unavailable i processId
    else if c.matches_ i = false then c.notAuthoritative i processId
    else if c.rows.any fun r => r.state = .running then
      (.ok (i.denied "native host lock has an active process" (some processId)), c)
    else if c.row? processId ≠ none then
      (.ok (i.denied "native host process identity was already consumed" (some processId)), c)
    else if fitsInteger now = false ∨ fitsInteger (now + lease) = false then (.error .overflow, c)
    else (.ok (i.accepted ("native host " ++ source.value ++ " process admitted") (some processId)),
      { c with rows := c.rows ++ [admitted i processId source now lease] })

/-- `renew_lease` -/
def renewLease (processId : String) (now : Int) (leaseFor : Interval) (available : Bool) : Outcome :=
  match leaseFor.require "native host process lease is invalid" with
  | .error e => (.error e, c)
  | .ok lease =>
    if available = false then c.unavailable i processId
    else if c.matches_ i = false then c.notAuthoritative i processId
    else if fitsInteger now = false ∨ fitsInteger (now + lease) = false then (.error .overflow, c)
    else if (c.row? processId).any (fun r => r.state = .running) = false then
      (.ok (i.denied "native host process is not active" (some processId)), c)
    else (.ok (i.accepted "native host process lease renewed" (some processId)),
      c.update processId fun r => { r with leaseExpiresAt := now + lease, updatedAt := now })

/-- `finish`, for a terminal state. -/
def finish (processId : String) (state : ProcessState) (now : Int) (available : Bool) : Outcome :=
  if state = .running then (.error (.nativeHost "native host terminal state is invalid"), c)
  else if available = false then c.unavailable i processId
  else if c.matches_ i = false then c.notAuthoritative i processId
  else
    match c.row? processId with
    | none => (.ok (i.denied "native host process is not active" (some processId)), c)
    | some row =>
      if row.state ≠ .running then
        if state = .cancelled ∧ row.state = .cancelled then
          (.ok (i.accepted "native host process is already cancelled" (some processId)), c)
        else (.ok (i.denied "native host process is not active" (some processId)), c)
      else if fitsInteger now = false then (.error .overflow, c)
      else (.ok (i.accepted ("native host process " ++ state.value) (some processId)),
        c.update processId fun r => { r with state := state, updatedAt := now })

/-- `recover_stale` -/
def recoverStale (processId : String) (now : Int) (staleAfter : Interval) (available : Bool) : Outcome :=
  match staleAfter.require "native host stale-child interval is invalid" with
  | .error e => (.error e, c)
  | .ok interval =>
    if available = false then c.unavailable i processId
    else if c.matches_ i = false then c.notAuthoritative i processId
    else
      match c.row? processId with
      | none => (.ok (i.denied "native host process is not an active stale child" (some processId)), c)
      | some row =>
        if row.state ≠ .running then (.ok (i.denied "native host process is not an active stale child" (some processId)), c)
        else if now < row.startedAt + interval ∨ now < row.leaseExpiresAt then
          (.ok (i.denied "native host child has a live lease or is not stale" (some processId)), c)
        else if fitsInteger now = false then (.error .overflow, c)
        else (.ok (i.accepted "native host stale child recovered" (some processId)),
          c.update processId fun r => { r with state := .recovered, updatedAt := now })

end Control

end Roundwright.Native
