/-
The two stores of runtime bindings. The one in memory keeps the canonical text of a binding under the identity of its
record. The one on disk keeps a directory for the record, with the text of the binding and the receipt; every step that
its program takes in the file system is an action of its own. Alone, both are stores of one kind: what they keep is read
as what decoding it gives.
-/
import Roundwright.Lib.Interference
import Roundwright.State.RuntimeCodec

namespace Roundwright.State

open Lib Lib.JsonText

section Code

variable {F : Type} [DecidableEq F] (host : Host) (floats : Floats F) (source : Digest)

/-! ## Records -/

/-- What `persist` takes besides the binding. -/
structure PersistCall where
  candidateSha : Sha
  contextIdentity : Digest
  readyAt : Int
  freshnessUntil : Int

/-- What the receipt was persisted with. -/
def SupervisorRuntimeBindingReceipt.call (r : SupervisorRuntimeBindingReceipt) : PersistCall :=
  ⟨r.candidateSha, r.contextIdentity, r.readyAt, r.freshnessUntil⟩

/-- `_digest_material` -/
def digestMaterial (text : String) : Digest := .sha256 (host.hexdigest text)

/-- `_record` -/
def record (b : RuntimeBinding) (call : PersistCall) : Except String SupervisorRuntimeBindingReceipt :=
  let content := digestMaterial host (b.canonicalMaterial floats)
  let identity := host.digestValue
    (.obj [("source_identity", .digest source), ("candidate_sha", .hex call.candidateSha), ("context_identity", .digest call.contextIdentity), ("resolved_configuration_digest", .digest b.resolvedDigest),
    ("runtime_content_digest", .digest content), ("canonical_material_digest", .digest content), ("ready_at", .num call.readyAt),
    ("freshness_until", .num call.freshnessUntil)])
  demand (SupervisorRuntimeBindingReceipt.make source identity call.candidateSha call.contextIdentity b.resolvedDigest
    content call.readyAt call.freshnessUntil content) "supervisor runtime receipt is invalid"

/-- What both stores demand of the arguments of `persist`, and the receipt that they make of them. -/
def accept (b : RuntimeBinding) (call : PersistCall) : Except String SupervisorRuntimeBindingReceipt := do
  refuse (call.freshnessUntil < call.readyAt) "supervisor runtime persist is invalid"
  record host floats source b call

/-- The evidence time that both stores demand. -/
def inWindow (receipt : SupervisorRuntimeBindingReceipt) (evidenceTime : Int) : Except String Unit :=
  refuse (¬(receipt.readyAt ≤ evidenceTime ∧ evidenceTime ≤ receipt.freshnessUntil)) "supervisor runtime evidence time is invalid"

/-! ## In memory -/

/-- `InMemorySupervisorRuntimeStore` -/
abbrev Memory := Digest → Option String

namespace Memory

def read (receipt : SupervisorRuntimeBindingReceipt) (evidenceTime : Int) (records : Memory) : Except String RuntimeBinding := do
  inWindow receipt evidenceTime
  let material ← demand (records receipt.recordIdentity) "supervisor runtime record is missing"
  let runtime ← RuntimeBinding.fromCanonical host floats material
  let expected ← record host floats source runtime receipt.call
  refuse (expected ≠ receipt) "supervisor runtime receipt drifted"
  return runtime

def persist (b : RuntimeBinding) (call : PersistCall) : Tx String Memory SupervisorRuntimeBindingReceipt := do
  let receipt ← Tx.check (accept host floats source b call)
  let kept ← Tx.query fun records => .ok (records receipt.recordIdentity)
  match kept with
  | some _ =>
    let stored ← Tx.query (read host floats source receipt call.readyAt)
    Tx.check (refuse (stored.same b = false) "supervisor runtime record has drifted")
  | none => Tx.write fun records => .ok (Function.update records receipt.recordIdentity (some (b.canonicalMaterial floats)))
  return receipt

end Memory

/-! ## On disk -/

/-- What a name in a directory stands for. -/
inductive Item where
  | file (text : String)
  | folder
  | link
deriving DecidableEq

/-- What there is at the path of a record: a link, or a directory, of which no check asks what process made it. -/
inductive Entry (π : Type) where
  | link
  | folder (maker : π) (items : List (String × Item))

abbrev Root (π : Type) := Digest → Option (Entry π)

inductive FileStep where
  | look
  | makeDirectory
  | create
  | write
  | replace
  | read

/-- A program on the root of a file store. The environment chooses how much of a text is written first. -/
abbrev Work (π : Type) := Script FileStep String Nat (Root π)

/-- `_RUNTIME_FILE` -/
def runtimeFile : String := "runtime.json"

/-- `_RECEIPT_FILE` -/
def receiptFile : String := "receipt.json"

def temporary (name : String) : String := name ++ ".tmp"

def drop (name : String) (items : List (String × Item)) : List (String × Item) := items.filter fun i => i.1 ≠ name

def put (name : String) (item : Item) (items : List (String × Item)) : List (String × Item) := (name, item) :: drop name items

namespace FileStore

variable {π : Type}

/-- A step in the file system that asks for something. -/
def look {α : Type} (step : FileStep) (f : Root π → Except String α) : Work π α := Script.commit step fun _ => Tx.query f

/-- A step in the directory of a record. -/
def edit (step : FileStep) (identity : Digest) (f : Nat → List (String × Item) → Except String (List (String × Item))) :
    Work π Unit :=
  Script.commit step fun part => Tx.write fun root =>
    match root identity with
    | some (.folder maker items) =>
      (f part items).map fun items => Function.update root identity (some (.folder maker items))
    | _ => .error "supervisor runtime publication failed"

/-- `_safe_path` of the directory of a record. -/
def safePath (root : Root π) (identity : Digest) : Except String Unit :=
  match root identity with
  | some .link => .error "supervisor runtime reparse path is invalid"
  | _ => .ok ()

def itemsOf (root : Root π) (identity : Digest) : List (String × Item) :=
  match root identity with
  | some (.folder _ items) => items
  | _ => []

/-- The checks that come before a temporary file is opened. -/
def noCollision (identity : Digest) (name : String) (root : Root π) : Except String Unit := do
  safePath root identity
  refuse ((itemsOf root identity).lookup name = some .link ∨
    (itemsOf root identity).lookup (temporary name) = some .link) "supervisor runtime reparse path is invalid"
  refuse (((itemsOf root identity).lookup name).isSome ∨ ((itemsOf root identity).lookup (temporary name)).isSome)
    "supervisor runtime collision"

/-- `_publish` -/
def publish (identity : Digest) (name text : String) : Work π Unit := do
  look .look (noCollision identity name)
  edit .create identity fun _ items => do
    refuse ((items.lookup (temporary name)).isSome) "supervisor runtime publication failed"
    return put (temporary name) (.file "") items
  edit .write identity fun part items => .ok (put (temporary name) (.file (String.ofList (text.toList.take part))) items)
  edit .write identity fun _ items => .ok (put (temporary name) (.file text) items)
  look .look fun root => refuse (((itemsOf root identity).lookup name).isSome) "supervisor runtime collision"
  edit .replace identity fun _ items => do
    let item ← demand (items.lookup (temporary name)) "supervisor runtime publication failed"
    return put name item (drop (temporary name) items)

/-- A directory with the two files and nothing else. -/
def complete : Option (Entry π) → Bool
  | some (.folder _ items) =>
    items.all (fun i => i.1 = runtimeFile || i.1 = receiptFile) && items.all (fun i => match i.2 with
      | .file _ => true
      | _ => false) && (items.lookup runtimeFile).isSome && (items.lookup receiptFile).isSome
  | _ => false

/-- The check of `read` that comes before the files. -/
def listing (identity : Digest) (root : Root π) : Except String Unit := do
  safePath root identity
  refuse (complete (root identity) = false) "supervisor runtime record is incomplete"

/-- `_read` of a text -/
def canonicalText (text : String) : Except String String := do
  let parsed ← demand (loads floats text) "supervisor runtime material is invalid"
  refuse (dumps floats parsed ≠ text) "supervisor runtime material is noncanonical"
  return text

/-- `_read` -/
def fileText (identity : Digest) (name : String) (root : Root π) : Except String String :=
  match (itemsOf root identity).lookup name with
  | some (.file text) => canonicalText floats text
  | _ => .error "supervisor runtime material is invalid"

/-- What `read` makes of the two texts. -/
def decode (receipt : SupervisorRuntimeBindingReceipt) (runtime : RuntimeBinding) (receiptText : String) :
    Except String RuntimeBinding := do
  let stored ← SupervisorRuntimeBindingReceipt.fromCanonical floats receiptText
  let expected ← record host floats source runtime receipt.call
  refuse (stored ≠ receipt ∨ expected ≠ receipt) "supervisor runtime receipt drifted"
  return runtime

/-- `read` -/
def read (receipt : SupervisorRuntimeBindingReceipt) (evidenceTime : Int) : Work π RuntimeBinding := do
  Script.check (inWindow receipt evidenceTime)
  look .look (listing receipt.recordIdentity)
  let runtimeText ← look .read (fileText floats receipt.recordIdentity runtimeFile)
  let runtime ← Script.check (RuntimeBinding.fromCanonical host floats runtimeText)
  let receiptText ← look .read (fileText floats receipt.recordIdentity receiptFile)
  Script.check (decode host floats source receipt runtime receiptText)

/-- `directory.mkdir()`; whether there was none. -/
def makeDirectory (p : π) (identity : Digest) : Work π Bool :=
  Script.commit .makeDirectory fun _ root =>
    match root identity with
    | some _ => (.ok false, root)
    | none => (.ok true, Function.update root identity (some (.folder p [])))

/-- `persist`, by a process. -/
def persist (p : π) (b : RuntimeBinding) (call : PersistCall) : Work π SupervisorRuntimeBindingReceipt := do
  let receipt ← Script.check (accept host floats source b call)
  look .look fun root => safePath root receipt.recordIdentity
  let made ← makeDirectory p receipt.recordIdentity
  match made with
  | false =>
    let stored ← read host floats source receipt call.readyAt
    Script.check (refuse (stored.same b = false) "supervisor runtime record has drifted")
    return receipt
  | true =>
    look .look fun root => safePath root receipt.recordIdentity
    publish receipt.recordIdentity runtimeFile (b.canonicalMaterial floats)
    publish receipt.recordIdentity receiptFile (receipt.material floats)
    return receipt

end FileStore

/-! ## Receipts of accepted bindings -/

variable {host floats source}

variable {r : SupervisorRuntimeBindingReceipt}

omit [DecidableEq F] in
/-- A receipt that is accepted says what it was persisted with. -/
theorem accept_eq_ok {b : RuntimeBinding} {call : PersistCall} :
    accept host floats source b call = .ok r ↔ record host floats source b call = .ok r := by
  constructor
  · intro h
    simp only [accept, bind_eq_ok, exists_unit] at h
    exact h.2
  · intro h
    have hmake : SupervisorRuntimeBindingReceipt.make _ _ _ _ _ _ call.readyAt call.freshnessUntil _ = some r := demand_eq_ok.1 h
    have hwindow : ¬ call.freshnessUntil < call.readyAt := by
      rw [SupervisorRuntimeBindingReceipt.make] at hmake
      split at hmake
      · omega
      · cases hmake
    rw [accept, refuse_of_not hwindow]
    exact h

omit [DecidableEq F] in
theorem call_of_record {b : RuntimeBinding} {call : PersistCall} (h : record host floats source b call = .ok r) :
    r.call = call ∧ r.runtimeContentDigest = digestMaterial host (b.canonicalMaterial floats) := by
  have hmake := demand_eq_ok.1 h
  rw [SupervisorRuntimeBindingReceipt.make] at hmake
  split at hmake
  · cases hmake
    exact ⟨rfl, rfl⟩
  · cases hmake

theorem inWindow_eq_ok {time : Int} : inWindow r time = .ok () ↔ r.readyAt ≤ time ∧ time ≤ r.freshnessUntil := by
  simp [inWindow]

end Code

end Roundwright.State
