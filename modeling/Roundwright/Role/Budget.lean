/-
The durable role budget ledger: one SQLite file, one row per ledger key, and the four operations on it.

Every operation opens its own connection, starts a transaction and either commits or raises; a refusal
leaves the transaction open and closing the connection throws it away. The log of what succeeded is a
tally in the sense of `Lib.Tally`, and the persisted row is that tally.
-/
import Roundwright.Identity
import Roundwright.Lib.Table
import Roundwright.Lib.Tally
import Roundwright.Lib.Transaction

namespace Roundwright.Role

open Lib

/-! ## Budgets and usage -/

@[ext] structure RoleBudgetUsage where
  calls : Int
  durationSeconds : Int
  tokens : Int
deriving DecidableEq

namespace RoleBudgetUsage

instance : Add RoleBudgetUsage :=
  ⟨fun a b => ⟨a.calls + b.calls, a.durationSeconds + b.durationSeconds, a.tokens + b.tokens⟩⟩

instance : Zero RoleBudgetUsage := ⟨⟨0, 0, 0⟩⟩

instance : AddMonoid RoleBudgetUsage where
  add_assoc a b c := by
    ext
    · exact Int.add_assoc ..
    · exact Int.add_assoc ..
    · exact Int.add_assoc ..
  zero_add a := by
    ext
    · exact Int.zero_add _
    · exact Int.zero_add _
    · exact Int.zero_add _
  add_zero a := by
    ext
    · exact Int.add_zero _
    · exact Int.add_zero _
    · exact Int.add_zero _
  nsmul := nsmulRec

/-- No component is larger. -/
instance : Preorder RoleBudgetUsage where
  le a b := a.calls ≤ b.calls ∧ a.durationSeconds ≤ b.durationSeconds ∧ a.tokens ≤ b.tokens
  le_refl a := ⟨le_refl _, le_refl _, le_refl _⟩
  le_trans _ _ _ h h' := ⟨h.1.trans h'.1, h.2.1.trans h'.2.1, h.2.2.trans h'.2.2⟩

instance (a b : RoleBudgetUsage) : Decidable (a ≤ b) :=
  inferInstanceAs (Decidable (a.calls ≤ b.calls ∧ a.durationSeconds ≤ b.durationSeconds ∧ a.tokens ≤ b.tokens))

@[simp] theorem add_calls (a b : RoleBudgetUsage) : (a + b).calls = a.calls + b.calls := rfl
@[simp] theorem add_durationSeconds (a b : RoleBudgetUsage) :
    (a + b).durationSeconds = a.durationSeconds + b.durationSeconds := rfl
@[simp] theorem add_tokens (a b : RoleBudgetUsage) : (a + b).tokens = a.tokens + b.tokens := rfl

theorem le_iff {a b : RoleBudgetUsage} :
    a ≤ b ↔ a.calls ≤ b.calls ∧ a.durationSeconds ≤ b.durationSeconds ∧ a.tokens ≤ b.tokens := Iff.rfl

protected theorem add_comm (a b : RoleBudgetUsage) : a + b = b + a := by
  ext
  · exact Int.add_comm ..
  · exact Int.add_comm ..
  · exact Int.add_comm ..

theorem le_add_of_nonneg {a : RoleBudgetUsage} (h : 0 ≤ a) (t : RoleBudgetUsage) : t ≤ a + t := by
  obtain ⟨hc, hd, ht⟩ : 0 ≤ a.calls ∧ 0 ≤ a.durationSeconds ∧ 0 ≤ a.tokens := h
  rw [le_iff]
  simp only [add_calls, add_durationSeconds, add_tokens]
  omega

end RoleBudgetUsage

structure RoleBudget where
  maxCalls : Int
  maxDurationSeconds : Int
  maxTokens : Int
  calls_bound : 1 ≤ maxCalls ∧ maxCalls ≤ 3
  duration_bound : 1 ≤ maxDurationSeconds ∧ maxDurationSeconds ≤ 300
  tokens_bound : 1 ≤ maxTokens ∧ maxTokens ≤ 8000

/-- The usage a budget or an exposure amounts to. -/
def RoleBudget.usage (b : RoleBudget) : RoleBudgetUsage := ⟨b.maxCalls, b.maxDurationSeconds, b.maxTokens⟩

theorem RoleBudget.usage_nonneg (b : RoleBudget) : 0 ≤ b.usage :=
  ⟨by have := b.calls_bound.1; show 0 ≤ b.maxCalls; omega,
    by have := b.duration_bound.1; show 0 ≤ b.maxDurationSeconds; omega,
    by have := b.tokens_bound.1; show 0 ≤ b.maxTokens; omega⟩

/-- `RoleBudget(1, 1, 1)`, the exposure of a reservation that names none. -/
def RoleBudget.one : RoleBudget := ⟨1, 1, 1, by decide, by decide, by decide⟩

/-! ## The file -/

/-- A row of `role_budget_usage`; `usage` is its three counters. -/
structure UsageRow where
  schema : String
  ledgerKey : Digest
  grantDigest : Digest
  bindingDigest : Digest
  usage : RoleBudgetUsage
deriving DecidableEq

def UsageRow.clash (a b : UsageRow) : Bool := a.ledgerKey = b.ledgerKey

/-- The ledger file: its table, or nothing before the table is created. A path without a file and a
database without the table answer every operation alike. -/
abbrev LedgerFile := Option (Table UsageRow.clash)

namespace LedgerFile

def rows (file : LedgerFile) : List UsageRow := (file.map Table.rows).getD []

/-- SELECT … WHERE ledger_key=? -/
def find (file : LedgerFile) (key : Digest) : Option UsageRow := file.rows.find? fun r => r.ledgerKey = key

/-- The persisted usage of a key. -/
def usageOf (file : LedgerFile) (key : Digest) : RoleBudgetUsage := ((file.find key).map UsageRow.usage).getD 0

end LedgerFile

/-- UPDATE of the three counters of a key. -/
def setUsage (t : Table UsageRow.clash) (key : Digest) (usage : RoleBudgetUsage) : Table UsageRow.clash :=
  t.update (fun r => if r.ledgerKey = key then { r with usage } else r) fun a b => by
    unfold UsageRow.clash; split <;> split <;> rfl

/-- INSERT … ON CONFLICT(ledger_key) DO UPDATE of the three counters. -/
def upsertUsage (t : Table UsageRow.clash) (row : UsageRow) : Table UsageRow.clash :=
  if t.rows.any (fun r => r.ledgerKey = row.ledgerKey) then setUsage t row.ledgerKey row.usage else t.insertOrIgnore row

/-! ## The operations -/

/-- What a `DurableRoleBudgetLedger` was constructed with, the path apart. -/
structure DurableRoleBudgetLedger where
  grant : Digest
  binding : Digest
  budget : RoleBudget

/-- The points of an operation at which the file or the database may fail. `connect` stands for all
that comes before the first statement that reads or writes. -/
inductive Statement where
  | connect
  | createTable
  | select
  | write
  | commit
deriving DecidableEq

/-- A statement of an operation in which at most one statement fails. -/
def statement (fault : Option Statement) (point : Statement) (message : String) : Except Error Unit :=
  refuse (fault = some point) (.roleCapability message)

/-- SELECT in a database without the table raises as a failing statement does. -/
def selectUsage (fault : Option Statement) (key : Digest) (message : String) : Tx Error LedgerFile (Option UsageRow) := do
  Tx.check (statement fault .select message)
  Tx.query fun file => do
    refuse (file = none) (.roleCapability message)
    return file.find key

namespace DurableRoleBudgetLedger

def schema : String := "roundwright-role-budget-ledger/v1"

variable (host : Host) (ledger : DurableRoleBudgetLedger)

def key : Digest :=
  host.digestValue (.obj [("schema", .str schema), ("grant", .digest ledger.grant), ("binding", .digest ledger.binding)])

/-- A row is this ledger's: its schema, grant and binding, and no negative counter. -/
def owns (row : UsageRow) : Prop :=
  row.schema = schema ∧ row.grantDigest = ledger.grant ∧ row.bindingDigest = ledger.binding ∧ 0 ≤ row.usage

instance (row : UsageRow) : Decidable (ledger.owns row) := by unfold owns; infer_instance

/-- The usage `consume` starts from. -/
def usedBefore : Option UsageRow → Except Error RoleBudgetUsage
  | none => .ok 0
  | some row => do
    refuse (¬ ledger.owns row) (.roleCapability "role budget persistence is ambiguous")
    return row.usage

def consumeBody (amount : RoleBudgetUsage) (fault : Option Statement) : Tx Error LedgerFile RoleBudgetUsage := do
  let unavailable := "role budget persistence is unavailable"
  Tx.check (statement fault .connect unavailable)
  Tx.check (statement fault .createTable unavailable)
  Tx.write fun file => .ok (some (file.getD .empty))
  let row ← selectUsage fault (ledger.key host) unavailable
  let used ← Tx.check (ledger.usedBefore row)
  let nextUsage := used + amount
  Tx.check (refuse (¬ nextUsage ≤ ledger.budget.usage) (.roleCapability "role budget is exhausted"))
  Tx.check (statement fault .write unavailable)
  Tx.write fun file =>
    .ok (file.map fun t => upsertUsage t ⟨schema, ledger.key host, ledger.grant, ledger.binding, nextUsage⟩)
  Tx.check (statement fault .commit unavailable)
  return nextUsage

def consume (amount : RoleBudgetUsage) (fault : Option Statement) (file : LedgerFile) :
    Except Error RoleBudgetUsage × LedgerFile :=
  if amount.calls < 0 ∨ amount.durationSeconds < 0 ∨ amount.tokens < 0 ∨
      (amount.calls = 0 ∧ amount.durationSeconds = 0 ∧ amount.tokens = 0) then
    (.error (.roleCapability "role budget consumption is invalid"), file)
  else transaction (ledger.consumeBody host amount fault) file

def reserveEffect (exposure : Option RoleBudget) (fault : Option Statement) (file : LedgerFile) :
    Except Error RoleBudgetUsage × LedgerFile :=
  let exposure := exposure.getD .one
  if ¬ exposure.usage ≤ ledger.budget.usage then
    (.error (.roleCapability "role budget exposure exceeds admission"), file)
  else ledger.consume host exposure.usage fault file

def requireReservedBody (exposure : RoleBudget) (fault : Option Statement) : Tx Error LedgerFile RoleBudgetUsage := do
  let unavailable := "role budget reservation is unavailable"
  Tx.check (statement fault .connect unavailable)
  let row ← selectUsage fault (ledger.key host) unavailable
  let row ← Tx.check (demand row (.roleCapability "role budget reservation is ambiguous"))
  Tx.check (refuse (¬ ledger.owns row) (.roleCapability "role budget reservation is ambiguous"))
  Tx.check (refuse (row.usage ≠ exposure.usage) (.roleCapability "role budget reservation has drifted"))
  Tx.check (statement fault .commit unavailable)
  return row.usage

def requireReserved (exposure : RoleBudget) (fault : Option Statement) : LedgerFile → Except Error RoleBudgetUsage × LedgerFile :=
  transaction (ledger.requireReservedBody host exposure fault)

/-- The row a release expects to find. -/
def expectedRow (exposure : RoleBudget) : UsageRow :=
  ⟨schema, ledger.key host, ledger.grant, ledger.binding, exposure.usage⟩

def releaseBody (exposure : RoleBudget) (fault : Option Statement) : Tx Error LedgerFile Unit := do
  let refused := "role budget reservation cannot be released"
  Tx.check (statement fault .connect refused)
  let row ← selectUsage fault (ledger.key host) refused
  Tx.check (refuse (row ≠ some (ledger.expectedRow host exposure)) (.roleCapability refused))
  Tx.check (statement fault .write refused)
  Tx.write fun file => .ok (file.map fun t => t.keep fun r => r.ledgerKey ≠ ledger.key host)
  Tx.check (statement fault .commit refused)

/-- `authorized` says that the caller holds the release seal. -/
def releaseExactReservation (exposure : RoleBudget) (authorized : Bool) (fault : Option Statement) (file : LedgerFile) :
    Except Error Unit × LedgerFile :=
  if authorized then transaction (ledger.releaseBody host exposure fault) file
  else (.error (.roleCapability "role budget reservation release requires durable exclusive authorization"), file)

end DurableRoleBudgetLedger

/-! ## What one operation does to the file -/

namespace LedgerFile

/-- The file after a consumption: the row of the key carries the new usage, in the row that was there or
in a new one. -/
def charged (file : LedgerFile) (row : UsageRow) : LedgerFile := some (upsertUsage (file.getD .empty) row)

theorem find_charged_self (file : LedgerFile) (row : UsageRow) :
    find (charged file row) row.ledgerKey = some { (file.find row.ledgerKey).getD row with usage := row.usage } := by
  have hfind : file.find row.ledgerKey = (file.getD .empty).rows.find? fun r => r.ledgerKey = row.ledgerKey := by
    cases file <;> rfl
  rw [hfind, charged]
  generalize file.getD .empty = t
  show (upsertUsage t row).rows.find? _ = _
  unfold upsertUsage
  split
  · rename_i hany
    obtain ⟨r, hr⟩ : ∃ r, t.rows.find? (fun r => r.ledgerKey = row.ledgerKey) = some r :=
      Option.isSome_iff_exists.1 (by simpa using hany)
    have hkey : r.ledgerKey = row.ledgerKey := by simpa using List.find?_some hr
    rw [setUsage, Table.update_rows, find?_map_key (g := UsageRow.ledgerKey) (fun a => by split <;> rfl), hr]
    simp [hkey]
  · rename_i hany
    have hnone : ∀ r ∈ t.rows, r.ledgerKey ≠ row.ledgerKey := by simpa using hany
    rw [find?_key_none.2 hnone]
    rcases t.insertOrIgnore_cases row with hrows | ⟨⟨r, hr, hclash⟩, -⟩
    · rw [hrows]
      exact find?_append_self hnone rfl
    · exact absurd (by simpa [UsageRow.clash] using hclash) (hnone r hr)

theorem find_charged_other (file : LedgerFile) {row : UsageRow} {key : Digest} (h : row.ledgerKey ≠ key) :
    find (charged file row) key = file.find key := by
  have hfind : file.find key = (file.getD .empty).rows.find? fun r => r.ledgerKey = key := by
    cases file <;> rfl
  rw [hfind, charged]
  generalize file.getD .empty = t
  show (upsertUsage t row).rows.find? _ = _
  unfold upsertUsage
  split
  · rw [setUsage, Table.update_rows, find?_map_key (g := UsageRow.ledgerKey) (fun a => by split <;> rfl)]
    rcases hr : t.rows.find? (fun r => r.ledgerKey = key) with _ | r <;> rw [hr]
    · rfl
    · have hkey : r.ledgerKey = key := by simpa using List.find?_some hr
      have hne : r.ledgerKey ≠ row.ledgerKey := fun he => h (he.symm.trans hkey)
      simp [hne]
  · rcases t.insertOrIgnore_cases row with hrows | ⟨-, hsame⟩
    · rw [hrows]
      exact find?_append_ne h
    · rw [hsame]

/-- The file after a release. -/
def released (file : LedgerFile) (key : Digest) : LedgerFile := file.map fun t => t.keep fun r => r.ledgerKey ≠ key

theorem find_released_self (file : LedgerFile) (key : Digest) : find (released file key) key = none := by
  cases file with
  | none => rfl
  | some t => exact find?_key_none.2 fun r hr => by simpa using (List.mem_filter.1 hr).2

theorem find_released_other (file : LedgerFile) {k key : Digest} (h : key ≠ k) :
    find (released file key) k = file.find k := by
  cases file with
  | none => rfl
  | some t =>
    show (t.rows.filter _).find? _ = t.rows.find? _
    rw [List.find?_filter]
    congr 1
    funext r
    by_cases hk : r.ledgerKey = k
    · simp [hk, Ne.symm h]
    · simp [hk]

end LedgerFile

variable {exposure : RoleBudget}

namespace DurableRoleBudgetLedger

variable {host : Host} {ledger : DurableRoleBudgetLedger} {file file' : LedgerFile} {fault : Option Statement}

theorem selectUsage_ok {key : Digest} {message : String} {row : Option UsageRow}
    (h : selectUsage fault key message file = (.ok row, file')) : row = file.find key ∧ file' = file := by
  simp only [selectUsage, Tx.check_bind, Tx.query_ok, bind_eq_ok, refuse_eq_ok, pure_eq_ok] at h
  obtain ⟨-, -, ⟨-, -, hrow⟩, hfile⟩ := h
  exact ⟨hrow.symm, hfile.symm⟩

theorem usedBefore_ok {row : Option UsageRow} {used : RoleBudgetUsage} (h : ledger.usedBefore row = .ok used) :
    used = (row.map UsageRow.usage).getD 0 := by
  cases row with
  | none => exact (Except.ok.inj h).symm
  | some row =>
    simp only [usedBefore, bind_eq_ok, pure_eq_ok] at h
    obtain ⟨-, -, rfl⟩ := h
    rfl

/-- The row a consumption writes. -/
def chargedRow (host : Host) (ledger : DurableRoleBudgetLedger) (usage : RoleBudgetUsage) : UsageRow :=
  ⟨schema, ledger.key host, ledger.grant, ledger.binding, usage⟩

theorem consume_ok {amount usage : RoleBudgetUsage} (h : ledger.consume host amount fault file = (.ok usage, file')) :
    0 ≤ amount ∧ usage = amount + file.usageOf (ledger.key host) ∧ usage ≤ ledger.budget.usage ∧
      file' = file.charged (chargedRow host ledger usage) := by
  unfold consume at h
  split at h
  · cases (Prod.mk.inj h).1
  · rename_i hvalid
    simp only [not_or, not_lt] at hvalid
    have hb := transaction_ok.1 h
    simp only [consumeBody, Tx.bind_ok, Tx.check_ok, Tx.write_ok, Tx.pure_ok] at hb
    obtain ⟨-, _, ⟨-, rfl⟩, -, _, ⟨-, rfl⟩, -, created, hcreated, row, _, hrow, used, _, ⟨hused, rfl⟩,
      _, _, ⟨hbudget, rfl⟩, -, _, ⟨-, rfl⟩, -, _, hwrite, -, _, ⟨-, rfl⟩, rfl, rfl⟩ := hb
    obtain ⟨rfl, rfl⟩ := selectUsage_ok hrow
    obtain rfl := Except.ok.inj hcreated
    have hfind : LedgerFile.find (some (file.getD .empty)) (ledger.key host) = file.find (ledger.key host) := by
      cases file <;> rfl
    have hsum : used = file.usageOf (ledger.key host) := by
      rw [usedBefore_ok hused, hfind]; rfl
    refine ⟨⟨hvalid.1, hvalid.2.1, hvalid.2.2.1⟩, ?_, not_not.1 (refuse_eq_ok.1 hbudget), (Except.ok.inj hwrite).symm⟩
    rw [hsum]
    exact RoleBudgetUsage.add_comm _ _

theorem reserveEffect_ok {exposure : Option RoleBudget} {usage : RoleBudgetUsage}
    (h : ledger.reserveEffect host exposure fault file = (.ok usage, file')) :
    ledger.consume host (exposure.getD .one).usage fault file = (.ok usage, file') := by
  simp only [reserveEffect] at h
  split at h
  · cases (Prod.mk.inj h).1
  · exact h

theorem requireReserved_ok {usage : RoleBudgetUsage}
    (h : ledger.requireReserved host exposure fault file = (.ok usage, file')) :
    usage = file.usageOf (ledger.key host) ∧ usage = exposure.usage ∧ file' = file := by
  have hb := transaction_ok.1 h
  simp only [requireReservedBody, Tx.bind_ok, Tx.check_ok, Tx.pure_ok] at hb
  obtain ⟨-, _, ⟨-, rfl⟩, _, _, hrow, row, _, ⟨hsome, rfl⟩, -, _, ⟨-, rfl⟩, _, _, ⟨hsame, rfl⟩, -, _, ⟨-, rfl⟩, rfl, rfl⟩ := hb
  obtain ⟨rfl, rfl⟩ := selectUsage_ok hrow
  refine ⟨?_, not_not.1 (refuse_eq_ok.1 hsame), rfl⟩
  rw [LedgerFile.usageOf, demand_eq_ok.1 hsome]
  rfl

theorem releaseExactReservation_ok {authorized : Bool} {u : Unit}
    (h : ledger.releaseExactReservation host exposure authorized fault file = (.ok u, file')) :
    authorized = true ∧ file.find (ledger.key host) = some (ledger.expectedRow host exposure) ∧
      file' = file.released (ledger.key host) := by
  unfold releaseExactReservation at h
  split at h
  · rename_i hseal
    have hb := transaction_ok.1 h
    simp only [releaseBody, Tx.bind_ok, Tx.check_ok, Tx.write_ok] at hb
    obtain ⟨-, _, ⟨-, rfl⟩, row, _, hrow, _, _, ⟨hsame, rfl⟩, -, _, ⟨-, rfl⟩, -, _, hwrite, -, rfl⟩ := hb
    obtain ⟨rfl, rfl⟩ := selectUsage_ok hrow
    exact ⟨hseal, not_not.1 (refuse_eq_ok.1 hsame), (Except.ok.inj hwrite).symm⟩
  · cases (Prod.mk.inj h).1

/-! An operation that raises leaves the file as it was. -/

theorem consume_error {amount : RoleBudgetUsage} {e : Error}
    (h : ledger.consume host amount fault file = (.error e, file')) : file' = file := by
  unfold consume at h
  split at h
  · exact (Prod.mk.inj h).2.symm
  · exact transaction_error h

theorem reserveEffect_error {exposure : Option RoleBudget} {e : Error}
    (h : ledger.reserveEffect host exposure fault file = (.error e, file')) : file' = file := by
  simp only [reserveEffect] at h
  split at h
  · exact (Prod.mk.inj h).2.symm
  · exact consume_error h

theorem releaseExactReservation_error {authorized : Bool} {e : Error}
    (h : ledger.releaseExactReservation host exposure authorized fault file = (.error e, file')) : file' = file := by
  unfold releaseExactReservation at h
  split at h
  · exact transaction_error h
  · exact (Prod.mk.inj h).2.symm

end DurableRoleBudgetLedger

/-! ## Calls and their log -/

inductive Operation where
  | consume (amount : RoleBudgetUsage)
  | reserveEffect (exposure : Option RoleBudget)
  | requireReserved (exposure : RoleBudget)
  | releaseExactReservation (exposure : RoleBudget) (authorized : Bool)

/-- One call on the ledger file by some ledger object, with the statement that fails in it, if one does. -/
structure Call where
  ledger : DurableRoleBudgetLedger
  operation : Operation
  fault : Option Statement

variable {host : Host}

namespace Call

def key (host : Host) (c : Call) : Digest := c.ledger.key host

/-- What the call returns, a release nothing, and the file it leaves. -/
def run (host : Host) (c : Call) (file : LedgerFile) : Except Error (Option RoleBudgetUsage) × LedgerFile :=
  match c.operation with
  | .consume amount => (c.ledger.consume host amount c.fault file).map (·.map some) id
  | .reserveEffect exposure => (c.ledger.reserveEffect host exposure c.fault file).map (·.map some) id
  | .requireReserved exposure => (c.ledger.requireReserved host exposure c.fault file).map (·.map some) id
  | .releaseExactReservation exposure authorized =>
    (c.ledger.releaseExactReservation host exposure authorized c.fault file).map (·.map fun _ => none) id

/-- What the call adds to the log when it succeeds. -/
def entry (host : Host) (c : Call) : List (Tally.Entry Digest RoleBudgetUsage) :=
  match c.operation with
  | .consume amount => [.charge (c.key host) amount]
  | .reserveEffect exposure => [.charge (c.key host) (exposure.getD .one).usage]
  | .requireReserved _ => []
  | .releaseExactReservation _ _ => [.reset (c.key host)]

/-- The call succeeds on the file. -/
def succeeds (host : Host) (c : Call) (file : LedgerFile) : Bool := (c.run host file).1.isOk

/-- Everything a call can do: raise and change nothing, charge its key within the budget, read, or find
exactly the released exposure and remove the row. -/
theorem run_cases (host : Host) (c : Call) (file : LedgerFile) :
    (c.succeeds host file = false ∧ (c.run host file).2 = file) ∨
    (c.succeeds host file = true ∧
      ((∃ amount, 0 ≤ amount ∧ c.entry host = [.charge (c.key host) amount] ∧
          amount + file.usageOf (c.key host) ≤ c.ledger.budget.usage ∧
          (c.run host file).2 = file.charged (c.ledger.chargedRow host (amount + file.usageOf (c.key host)))) ∨
        (c.entry host = [] ∧ (c.run host file).2 = file) ∨
        (∃ exposure, c.operation = .releaseExactReservation exposure true ∧ c.entry host = [.reset (c.key host)] ∧
          file.find (c.key host) = some (c.ledger.expectedRow host exposure) ∧
          (c.run host file).2 = file.released (c.key host)))) := by
  obtain ⟨ledger, operation, fault⟩ := c
  -- each operation fails and leaves the file, or its transaction has gone through
  cases operation with
  | consume amount =>
    rcases h : ledger.consume host amount fault file with ⟨e | usage, file'⟩
    · exact .inl ⟨by simp [succeeds, run, h, Except.map, Except.isOk, Except.toBool],
        by simp [run, h, DurableRoleBudgetLedger.consume_error h]⟩
    · obtain ⟨hpos, rfl, hbudget, rfl⟩ := DurableRoleBudgetLedger.consume_ok h
      exact .inr ⟨by simp [succeeds, run, h, Except.map, Except.isOk, Except.toBool],
        .inl ⟨amount, hpos, rfl, hbudget, by simp [run, h, key]⟩⟩
  | reserveEffect exposure =>
    rcases h : ledger.reserveEffect host exposure fault file with ⟨e | usage, file'⟩
    · exact .inl ⟨by simp [succeeds, run, h, Except.map, Except.isOk, Except.toBool],
        by simp [run, h, DurableRoleBudgetLedger.reserveEffect_error h]⟩
    · obtain ⟨hpos, rfl, hbudget, rfl⟩ :=
        DurableRoleBudgetLedger.consume_ok (DurableRoleBudgetLedger.reserveEffect_ok h)
      exact .inr ⟨by simp [succeeds, run, h, Except.map, Except.isOk, Except.toBool],
        .inl ⟨_, hpos, rfl, hbudget, by simp [run, h, key]⟩⟩
  | requireReserved exposure =>
    rcases h : ledger.requireReserved host exposure fault file with ⟨e | usage, file'⟩
    · exact .inl ⟨by simp [succeeds, run, h, Except.map, Except.isOk, Except.toBool],
        by simp [run, h, transaction_error h]⟩
    · obtain ⟨-, -, rfl⟩ := DurableRoleBudgetLedger.requireReserved_ok h
      exact .inr ⟨by simp [succeeds, run, h, Except.map, Except.isOk, Except.toBool],
        .inr (.inl ⟨rfl, by simp [run, h]⟩)⟩
  | releaseExactReservation exposure authorized =>
    rcases h : ledger.releaseExactReservation host exposure authorized fault file with ⟨e | u, file'⟩
    · exact .inl ⟨by simp [succeeds, run, h, Except.map, Except.isOk, Except.toBool],
        by simp [run, h, DurableRoleBudgetLedger.releaseExactReservation_error h]⟩
    · obtain ⟨rfl, hrow, rfl⟩ := DurableRoleBudgetLedger.releaseExactReservation_ok h
      exact .inr ⟨by simp [succeeds, run, h, Except.map, Except.isOk, Except.toBool],
        .inr (.inr ⟨exposure, rfl, rfl, hrow, by simp [run, h, key]⟩)⟩

/-- A call leaves the rows of all other keys alone. -/
theorem find_other (host : Host) (c : Call) (file : LedgerFile) {k : Digest} (h : c.key host ≠ k) :
    (c.run host file).2.find k = file.find k := by
  rcases c.run_cases host file with ⟨-, hsame⟩ | ⟨-, ⟨_, -, -, -, hfile⟩ | ⟨-, hsame⟩ | ⟨_, -, -, -, hfile⟩⟩
  · rw [hsame]
  · rw [hfile]
    exact LedgerFile.find_charged_other file h
  · rw [hsame]
  · rw [hfile]
    exact LedgerFile.find_released_other file h

/-- A release that succeeds finds exactly the exposure it gives back. -/
theorem usageOf_of_released {c : Call} {file : LedgerFile} {authorized : Bool}
    (hop : c.operation = .releaseExactReservation exposure authorized) (h : c.succeeds host file = true) :
    file.usageOf (c.key host) = exposure.usage := by
  rcases c.run_cases host file with ⟨hfail, -⟩ | ⟨-, ⟨_, -, hentry, -, -⟩ | ⟨hentry, -⟩ | ⟨found, hfound, -, hrow, -⟩⟩
  · rw [hfail] at h
    cases h
  · simp [entry, hop] at hentry
  · simp [entry, hop] at hentry
  · obtain ⟨rfl, -⟩ := Operation.releaseExactReservation.inj (hop.symm.trans hfound)
    rw [LedgerFile.usageOf, hrow]
    rfl

end Call

/-- The ledger file and the log of the consumptions and releases that succeeded on it. -/
structure History where
  log : List (Tally.Entry Digest RoleBudgetUsage)
  file : LedgerFile

namespace History

def after (host : Host) (h : History) (c : Call) : History :=
  ⟨if c.succeeds host h.file then h.log ++ c.entry host else h.log, (c.run host h.file).2⟩

/-- Calls on a fresh ledger file, in the order in which their transactions take the write lock. -/
def run (host : Host) (calls : List Call) : History := calls.foldl (after host) ⟨[], none⟩

theorem run_append (host : Host) (calls more : List Call) : run host (calls ++ more) = more.foldl (after host) (run host calls) :=
  List.foldl_append ..

/-- What holds after the given calls: every row is the tally of its key, which one of the ledgers had
the budget for, and nothing charged is negative. -/
structure Accounted (host : Host) (calls : List Call) (h : History) : Prop where
  tallied : ∀ k, h.file.usageOf k = Tally.tally k h.log
  within : ∀ k, h.file.usageOf k = 0 ∨ ∃ c ∈ calls, c.key host = k ∧ h.file.usageOf k ≤ c.ledger.budget.usage
  charges : ∀ e ∈ h.log, ∀ k amount, e.charged k = some amount → 0 ≤ amount

theorem Accounted.of_same {calls : List Call} {h h' : History} (inv : Accounted host calls h)
    (hlog : h'.log = h.log) (hfile : h'.file = h.file) (c : Call) : Accounted host (calls ++ [c]) h' := by
  refine ⟨fun k => by rw [hlog, hfile]; exact inv.tallied k, fun k => ?_, by rw [hlog]; exact inv.charges⟩
  rw [hfile]
  rcases inv.within k with hzero | ⟨d, hd, hkey, hle⟩
  · exact .inl hzero
  · exact .inr ⟨d, List.mem_append_left _ hd, hkey, hle⟩

/-- A call moves the tally of its key and the row of its key alike. -/
theorem Accounted.after {calls : List Call} {h : History} (inv : Accounted host calls h) (c : Call) :
    Accounted host (calls ++ [c]) (h.after host c) := by
  have hother : ∀ k, c.key host ≠ k → (c.run host h.file).2.usageOf k = h.file.usageOf k := fun k hk => by
    rw [LedgerFile.usageOf, c.find_other host h.file hk]
    rfl
  have hbound : ∀ k, c.key host ≠ k → (c.run host h.file).2.usageOf k = 0 ∨
      ∃ d ∈ calls ++ [c], d.key host = k ∧ (c.run host h.file).2.usageOf k ≤ d.ledger.budget.usage := fun k hk => by
    rw [hother k hk]
    rcases inv.within k with hzero | ⟨d, hd, hkey, hle⟩
    · exact .inl hzero
    · exact .inr ⟨d, List.mem_append_left _ hd, hkey, hle⟩
  -- a call fails, charges its key, is known already, or resets its key
  rcases c.run_cases host h.file with ⟨hfail, hsame⟩ |
    ⟨hok, ⟨amount, hpos, hentry, hle, hfile⟩ | ⟨hentry, hsame⟩ | ⟨exposure, -, hentry, -, hfile⟩⟩
  · exact inv.of_same (by simp [History.after, hfail]) hsame c
  · have hlog : (h.after host c).log = h.log ++ [.charge (c.key host) amount] := by simp [History.after, hok, hentry]
    have hself : (c.run host h.file).2.usageOf (c.key host) = amount + h.file.usageOf (c.key host) := by
      have hfind := LedgerFile.find_charged_self h.file (c.ledger.chargedRow host (amount + h.file.usageOf (c.key host)))
      rw [hfile, LedgerFile.usageOf]
      exact congrArg (fun row => (row.map UsageRow.usage).getD 0) hfind
    refine ⟨fun k => ?_, fun k => ?_, fun e he k a ha => ?_⟩
    · rw [hlog]
      by_cases hk : c.key host = k
      · subst hk
        rw [Tally.tally_charge, ← inv.tallied]
        exact hself
      · rw [Tally.tally_charge_other hk, ← inv.tallied]
        exact hother k hk
    · by_cases hk : c.key host = k
      · subst hk
        exact .inr ⟨c, List.mem_append_right _ (List.mem_singleton_self c), rfl, hself ▸ hle⟩
      · exact hbound k hk
    · rw [hlog, List.mem_append, List.mem_singleton] at he
      rcases he with he | rfl
      · exact inv.charges e he k a ha
      · obtain ⟨-, rfl⟩ : c.key host = k ∧ amount = a := by simpa [Tally.Entry.charged] using ha
        exact hpos
  · exact inv.of_same (by simp [History.after, hok, hentry]) hsame c
  · have hlog : (h.after host c).log = h.log ++ [.reset (c.key host)] := by simp [History.after, hok, hentry]
    have hself : (c.run host h.file).2.usageOf (c.key host) = 0 := by
      rw [hfile, LedgerFile.usageOf, LedgerFile.find_released_self]
      rfl
    refine ⟨fun k => ?_, fun k => ?_, fun e he k a ha => ?_⟩
    · rw [hlog]
      by_cases hk : c.key host = k
      · subst hk
        rw [Tally.tally_reset]
        exact hself
      · rw [Tally.tally_reset_other hk, ← inv.tallied]
        exact hother k hk
    · by_cases hk : c.key host = k
      · exact .inl (hk ▸ hself)
      · exact hbound k hk
    · rw [hlog, List.mem_append, List.mem_singleton] at he
      rcases he with he | rfl
      · exact inv.charges e he k a ha
      · cases ha

theorem accounted_run (host : Host) (calls : List Call) : Accounted host calls (run host calls) := by
  induction calls using List.reverseRecOn with
  | nil => exact ⟨fun _ => rfl, fun _ => .inl rfl, by simp [run]⟩
  | append_singleton calls c ih =>
    rw [run_append]
    exact ih.after c

theorem log_append (host : Host) (h : History) : ∀ more : List Call, ∃ l, (more.foldl (after host) h).log = h.log ++ l
  | [] => ⟨[], (List.append_nil _).symm⟩
  | c :: more => by
    obtain ⟨l, hl⟩ := log_append host (h.after host c) more
    rw [List.foldl_cons, hl]
    unfold after
    split
    · exact ⟨c.entry host ++ l, List.append_assoc ..⟩
    · exact ⟨l, rfl⟩

/-- Until a key is released, what it was charged stays charged. -/
theorem usageOf_mono {calls more : List Call} {k : Digest}
    (hkept : ∀ e ∈ (run host (calls ++ more)).log.drop (run host calls).log.length, e.resets k = false) :
    (run host calls).file.usageOf k ≤ (run host (calls ++ more)).file.usageOf k := by
  obtain ⟨l, hl⟩ := log_append host (run host calls) more
  rw [← run_append] at hl
  rw [(accounted_run host calls).tallied, (accounted_run host (calls ++ more)).tallied, hl]
  rw [hl, List.drop_left] at hkept
  refine Tally.tally_le_append _ hkept fun e he amount ha => ?_
  refine RoleBudgetUsage.le_add_of_nonneg ?_
  exact (accounted_run host (calls ++ more)).charges e (by rw [hl]; exact List.mem_append_right _ he) k amount ha

end History

/-- The ledger after any calls of any ledger objects, where ledgers of one key carry one budget: every
persisted usage is the sum of the consumptions that succeeded since the key was last released and within
the budget; the next call, whatever it is, changes nothing when it fails and no other key's row when it
succeeds; a release succeeds only on exactly its exposure, and what was used beyond an exposure is not
given back by a release of it until some release of the key has succeeded. -/
theorem role_budget_accounted (host : Host) (calls : List Call)
    (hbudget : ∀ c ∈ calls, ∀ d ∈ calls, c.key host = d.key host → c.ledger.budget = d.ledger.budget) :
    let h := History.run host calls
    (∀ k, h.file.usageOf k = Tally.tally k h.log) ∧
    (∀ c ∈ calls, h.file.usageOf (c.key host) ≤ c.ledger.budget.usage) ∧
    (∀ c : Call, (∀ e, (c.run host h.file).1 = .error e → (c.run host h.file).2 = h.file) ∧
      (∀ k, c.key host ≠ k → (c.run host h.file).2.find k = h.file.find k) ∧
      ∀ exposure authorized, c.operation = .releaseExactReservation exposure authorized →
        c.succeeds host h.file = true → h.file.usageOf (c.key host) = exposure.usage) ∧
    ∀ (more : List Call) (c : Call) exposure authorized, c.operation = .releaseExactReservation exposure authorized →
      ¬ h.file.usageOf (c.key host) ≤ exposure.usage →
      (∀ e ∈ (History.run host (calls ++ more)).log.drop h.log.length, e.resets (c.key host) = false) →
      c.succeeds host (History.run host (calls ++ more)).file = false := by
  intro h
  have inv := History.accounted_run host calls
  refine ⟨inv.tallied, fun c hc => ?_, fun c => ⟨fun e he => ?_, fun k hk => c.find_other host h.file hk,
    fun exposure authorized hop hok => Call.usageOf_of_released hop hok⟩, fun more c exposure authorized hop hbeyond hkept => ?_⟩
  · rcases inv.within (c.key host) with hzero | ⟨d, hd, hkey, hle⟩
    · exact hzero ▸ c.ledger.budget.usage_nonneg
    · rw [hbudget c hc d hd hkey.symm]
      exact hle
  · rcases c.run_cases host h.file with ⟨-, hsame⟩ | ⟨hok, -⟩
    · exact hsame
    · rw [Call.succeeds, he] at hok
      cases hok
  · by_contra hok
    rw [Bool.not_eq_false] at hok
    exact hbeyond (Call.usageOf_of_released hop hok ▸ History.usageOf_mono hkept)

/-- Two reservations of one unit: neither is given back by a release of one unit. -/
theorem role_budget_accounted_two_units :
    let budget : RoleBudget := ⟨2, 60, 100, by decide, by decide, by decide⟩
    let ledger : DurableRoleBudgetLedger := ⟨.sha256 (.ofNat 64 1), .sha256 (.ofNat 64 2), budget⟩
    let reserve : Call := ⟨ledger, .reserveEffect none, none⟩
    let release : Call := ⟨ledger, .releaseExactReservation .one true, none⟩
    let file := (History.run .sample [reserve, reserve]).file
    file.usageOf (ledger.key .sample) = ⟨2, 2, 2⟩ ∧ file.usageOf (ledger.key .sample) ≤ budget.usage ∧
      release.succeeds .sample file = false := by
  intro budget ledger reserve release file
  have husage : file.usageOf (ledger.key .sample) = ⟨2, 2, 2⟩ := by decide +kernel
  have h := role_budget_accounted .sample [reserve, reserve] (by simp)
  refine ⟨husage, h.2.1 reserve List.mem_cons_self, h.2.2.2 [] release .one true rfl ?_ (by simp)⟩
  show ¬ file.usageOf (ledger.key .sample) ≤ _
  rw [husage]
  decide

end Roundwright.Role
