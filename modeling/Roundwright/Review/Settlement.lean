/-
How review items are settled in every run: by one command each, for good, and not before. `Effect` is all that a step
can do to the items and the commands; the invariant ties every terminal item to the one command that was consumed for
it.
-/
import Roundwright.Review.Owner
import Roundwright.Review.Limit
import Roundwright.Provider.Machine

namespace Roundwright.Review

open Lib State Recovery Provider Final Relation

/-! ## Interleavings -/

/-- A step of a run. Reviews record their items inside their own transactions; anything that leaves the items and the
commands alone, such as a new seal or a new grant, may come in between. -/
inductive OwnerStep (host : Host) (s s' : OwnerStore) : Prop where
  | record (identity : TaskIdentity) (item : ReviewItem) (lease : Option TransitionLease) (now : Int)
    (ran : s' = (recordReviewItem host identity item lease now s).2)
  | reviewed (identity : TaskIdentity) (item : ReviewItem) (answer : ReviewItemProjection)
    (ran : recordReviewItemConnection identity item s = (.ok answer, s'))
  | queue (identity : TaskIdentity) (c : OwnerCommand) (lease : Option TransitionLease) (now : Int)
    (ran : s' = (queueOwnerCommand host identity c lease now s).2)
  | consume (identity : TaskIdentity) (commandId resultDigest : String) (lease : Option TransitionLease) (now : Int)
    (ran : s' = (consumeOwnerCommand host identity commandId resultDigest lease now s).2)
  | aside (items : s'.items = s.items) (commands : s'.commands = s.commands)

/-! ## What a step can do -/

/-- The item is as it was recorded, and reads as the final gate wants it. -/
structure ItemRecord.Fresh (r : ItemRecord) : Prop where
  disposition : r.disposition = .pending
  verification : r.verification = .pending
  resolved : r.resolvedCommandId = none
  task : isToken r.taskId = true
  wellFormed : r.wellFormed = true

inductive OwnerEffect (s s' : OwnerStore) : Prop where
  | still (items : s'.items = s.items) (commands : s'.commands = s.commands)
  | recorded (r : ItemRecord) (fresh : r.Fresh) (new : ∀ a ∈ s.items.rows, a.semanticKey ≠ r.semanticKey)
    (rows : s'.items.rows = s.items.rows ++ [r]) (commands : s'.commands = s.commands)
  | queued (c : OwnerCommandRow) (pending : c.state = .pending) (rows : s'.commands.rows = s.commands.rows ++ [c])
    (items : s'.items = s.items)
  | consumed (c : OwnerCommandRow) (r : ItemRecord) (digest : String) (command : c ∈ s.commands.rows)
    (pending : c.state = .pending) (item : r ∈ s.items.rows) (target : r.itemId = c.columns.targetItemId)
      (open_ : r.disposition = .pending)
    (items : s'.items.rows = s.items.rows.map (·.settle r.itemId c.commandId c.columns.kind))
    (commands : s'.commands.rows = s.commands.rows.map (·.consume c.commandId digest))

section Effects

variable {host : Host} {identity : TaskIdentity} {s s' : OwnerStore}

theorem ReviewItem.fresh (item : ReviewItem) (owner : String) : (item.record owner).Fresh := by
  obtain ⟨hitem, htask, -, hattempt, hdestination, hcandidate, hdigest, -⟩ := item.valid
  refine ⟨rfl, rfl, rfl, htask, ?_⟩
  simp [ReviewItemRow.wellFormed, ReviewItem.record, hitem, hattempt, hdestination, hcandidate, hdigest]

theorem recordReviewItemConnection_effect {item : ReviewItem} {answer : ReviewItemProjection}
    (h : recordReviewItemConnection identity item s = (.ok answer, s')) : OwnerEffect s s' := by
  simp only [recordReviewItemConnection, Tx.query_bind] at h
  obtain ⟨owner, -, row, hrow, h⟩ := h
  cases row with
  | some row =>
    simp only [Tx.check_bind, Tx.write_bind, Tx.pure_ok, exists_unit] at h
    obtain ⟨-, s₁, hwrite, -, rfl⟩ := h
    obtain rfl := Except.ok.inj hwrite
    exact .still rfl rfl
  | none =>
    simp only [Tx.query_bind] at h
    obtain ⟨semantic, hsemantic, h⟩ := h
    cases semantic with
    | some row =>
      simp only [Tx.check_bind, Tx.write_bind, Tx.pure_ok, exists_unit] at h
      obtain ⟨-, s₁, hwrite, -, rfl⟩ := h
      obtain rfl := Except.ok.inj hwrite
      exact .still rfl rfl
    | none =>
      simp only [Tx.write_bind, Tx.pure_ok, bind_eq_ok, demand_eq_ok, pure_eq_ok] at h
      obtain ⟨s₁, ⟨items, hinsert, provenance, -, rfl⟩, -, rfl⟩ := h
      refine .recorded (item.record owner) (item.fresh owner) (fun a ha hkey => ?_) (Table.insert?_eq_some.1 hinsert).2 rfl
      -- no item with the content was found
      have hnone := List.find?_eq_none.1 (Except.ok.inj hsemantic) a ha
      simp only [decide_eq_true_eq] at hnone
      exact hnone hkey

theorem recordReviewItem_effect (item : ReviewItem) (lease : Option TransitionLease) (now : Int) :
    Tx.Atomic OwnerEffect (recordReviewItem host identity item lease now) := by
  refine .check_bind fun _ _ => .mapError (.transaction fun s a s' h => ?_)
  simp only [Tx.query_bind, exists_unit] at h
  obtain ⟨-, -, h⟩ := h
  exact recordReviewItemConnection_effect h

theorem queueOwnerCommand_effect (c : OwnerCommand) (lease : Option TransitionLease) (now : Int) :
    Tx.Atomic OwnerEffect (queueOwnerCommand host identity c lease now) := by
  refine .check_bind fun _ _ => .transaction fun s a s' h => ?_
  simp only [Tx.query_bind, exists_unit] at h
  obtain ⟨-, -, -, -, row, -, h⟩ := h
  cases row with
  | some row =>
    obtain ⟨-, rfl⟩ := Tx.check_ok.1 h
    exact .still rfl rfl
  | none =>
    simp only [Tx.query_bind, Tx.write_ok, exists_unit, bind_eq_ok, demand_eq_ok, pure_eq_ok] at h
    obtain ⟨-, commands, hinsert, rfl⟩ := h
    exact .queued _ rfl (Table.insert?_eq_some.1 hinsert).2 rfl

theorem consumeOwnerCommand_effect (commandId digest : String) (lease : Option TransitionLease) (now : Int) :
    Tx.Atomic OwnerEffect (consumeOwnerCommand host identity commandId digest lease now) := by
  refine .check_bind fun _ _ => .transaction fun s a s' h => ?_
  simp only [Tx.query_bind, Tx.check_bind, exists_unit, demand_eq_ok] at h
  obtain ⟨-, row, hrow, grant, -, -, -, item, hitem, h⟩ := h
  have hrowid : row.commandId = commandId := by
    have := List.find?_some hrow
    simp only [decide_eq_true_eq] at this
    exact this.1
  have htarget : item.itemId = row.columns.targetItemId := by
    have := List.find?_some hitem
    simp only [decide_eq_true_eq] at this
    exact this.1
  cases hstate : row.state with
  | consumed stored =>
    rw [hstate] at h
    simp only [Tx.check_bind, Tx.pure_ok, exists_unit] at h
    obtain ⟨-, -, rfl⟩ := h
    exact .still rfl rfl
  | pending =>
    rw [hstate] at h
    simp only [Tx.check_bind, Tx.write_bind, Tx.pure_ok, exists_unit, refuse_eq_ok, not_not, bind_eq_ok, demand_eq_ok,
      pure_eq_ok] at h
    obtain ⟨hopen, s₁, ⟨items, hitems, commands, hcommands, rfl⟩, -, rfl⟩ := h
    subst hrowid
    exact .consumed row item digest (List.mem_of_find?_eq_some hrow) hstate (List.mem_of_find?_eq_some hitem) htarget
      hopen (Table.update?_rows hitems) (Table.update?_rows hcommands)

theorem OwnerStep.effect (h : OwnerStep host s s') : OwnerEffect s s' := by
  have hatomic : ∀ {α : Type} {x : Tx Error OwnerStore α}, Tx.Atomic OwnerEffect x → s' = (x s).2 → OwnerEffect s s' := by
    intro α x hx ran
    rcases hx s with hsame | heffect
    · rw [ran, hsame]
      exact .still rfl rfl
    · rw [ran]
      exact heffect
  cases h with
  | record identity item lease now ran => exact hatomic (recordReviewItem_effect item lease now) ran
  | reviewed identity item answer ran => exact recordReviewItemConnection_effect ran
  | queue identity c lease now ran => exact hatomic (queueOwnerCommand_effect c lease now) ran
  | consume identity commandId resultDigest lease now ran =>
    exact hatomic (consumeOwnerCommand_effect commandId resultDigest lease now) ran
  | aside items commands => exact .still items commands

end Effects

/-! ## The invariant -/

/-- The command was consumed for the item, and its kind says what became of it. -/
structure ItemRecord.SettledBy (r : ItemRecord) (c : OwnerCommandRow) : Prop where
  target : c.columns.targetItemId = r.itemId
  consumed : c.state ≠ .pending
  resolved : r.resolvedCommandId = some c.commandId
  disposition : r.disposition = c.columns.kind.disposition
  verification : r.verification = c.columns.kind.verification

structure OwnerStore.Settled (s : OwnerStore) : Prop where
  items : ∀ r ∈ s.items.rows, r.Fresh ∨ ∃ c ∈ s.commands.rows, r.SettledBy c
  commands : ∀ c ∈ s.commands.rows, c.state ≠ .pending → ∃ r ∈ s.items.rows, r.SettledBy c
  semantic : (s.items.rows.map (·.semanticKey)).Nodup

/-- What a run keeps of the rows: terminal items and consumed commands as they are, the others under their identity. -/
structure OwnerKept (s s' : OwnerStore) : Prop where
  items : ∀ r ∈ s.items.rows, ∃ r' ∈ s'.items.rows, r'.itemId = r.itemId ∧ r'.semanticKey = r.semanticKey ∧
    (r.disposition ≠ .pending → r' = r)
  commands : ∀ c ∈ s.commands.rows, ∃ c' ∈ s'.commands.rows, c'.commandId = c.commandId ∧ c'.columns = c.columns ∧
    (c.state ≠ .pending → c' = c)

variable {c : OwnerCommandRow}

section Invariant

variable {host : Host} {s s' s'' : OwnerStore}

@[simp] theorem OwnerCommandKind.disposition_ne (k : OwnerCommandKind) : k.disposition ≠ .pending := by
  cases k <;> simp [disposition]

@[simp] theorem OwnerCommandKind.verification_ne (k : OwnerCommandKind) : k.verification ≠ .pending := by
  cases k <;> simp [verification]

@[simp] theorem ItemRecord.settle_itemId (itemId commandId : String) (k : OwnerCommandKind) (r : ItemRecord) :
    (r.settle itemId commandId k).itemId = r.itemId := by
  unfold settle
  split <;> rfl

@[simp] theorem ItemRecord.settle_semanticKey (itemId commandId : String) (k : OwnerCommandKind) (r : ItemRecord) :
    (r.settle itemId commandId k).semanticKey = r.semanticKey := by
  unfold settle
  split <;> rfl

theorem ItemRecord.settle_terminal {itemId commandId : String} {k : OwnerCommandKind} {r : ItemRecord}
    (h : r.disposition ≠ .pending) :
    r.settle itemId commandId k = r :=
  if_neg fun hboth => h hboth.2

@[simp] theorem OwnerCommandRow.consume_commandId (commandId digest : String) (c : OwnerCommandRow) :
    (c.consume commandId digest).commandId = c.commandId := by
  unfold consume
  split <;> rfl

@[simp] theorem OwnerCommandRow.consume_columns (commandId digest : String) (c : OwnerCommandRow) :
    (c.consume commandId digest).columns = c.columns := by
  unfold consume
  split <;> rfl

theorem OwnerCommandRow.consume_terminal {commandId digest : String} (h : c.state ≠ .pending) :
    c.consume commandId digest = c :=
  if_neg fun hboth => h hboth.2

theorem itemId_isKey : Table.IsKey ItemRecord.clash (·.itemId) := by
  intro a b h
  simp only at h
  simp [ItemRecord.clash, ReviewItemRow.clash, h]

theorem commandId_isKey : Table.IsKey OwnerCommandRow.clash (·.commandId) := by
  intro a b h
  simp only at h
  simp [OwnerCommandRow.clash, h]

theorem idempotencyKey_isKey : Table.IsKey OwnerCommandRow.clash (·.columns.idempotencyKey) := by
  intro a b h
  simp only at h
  simp [OwnerCommandRow.clash, h]

theorem ItemRecord.SettledBy.terminal {r : ItemRecord} (h : r.SettledBy c) : r.disposition ≠ .pending := by
  rw [h.disposition]
  exact c.columns.kind.disposition_ne

/-- The one row that a consumed command settles. -/
theorem settle_settledBy {r : ItemRecord} (digest : String) (hpending : c.state = .pending)
    (htarget : r.itemId = c.columns.targetItemId) (hopen : r.disposition = .pending) :
    (r.settle r.itemId c.commandId c.columns.kind).SettledBy (c.consume c.commandId digest) := by
  have hsettle : r.settle r.itemId c.commandId c.columns.kind = { r with
      disposition := c.columns.kind.disposition, verification := c.columns.kind.verification, resolvedCommandId :=
        some c.commandId } :=
    if_pos ⟨rfl, hopen⟩
  have hconsume : c.consume c.commandId digest = { c with state := .consumed digest } := if_pos ⟨rfl, hpending⟩
  rw [hsettle, hconsume]
  exact ⟨htarget.symm, nofun, rfl, rfl, rfl⟩

theorem OwnerStore.Settled.step (h : s.Settled) (heffect : OwnerEffect s s') : s'.Settled := by
  -- only a consumption settles an item, and it consumes the command that settles it
  cases heffect with
  | still items commands =>
    constructor <;> rw [items] <;> try rw [commands]
    · exact h.items
    · exact h.commands
    · exact h.semantic
  | recorded r fresh new rows commands =>
    constructor
    · intro a ha
      rw [rows, List.mem_append, List.mem_singleton] at ha
      rw [commands]
      rcases ha with ha | rfl
      · exact h.items a ha
      · exact .inl fresh
    · intro c hc hstate
      rw [commands] at hc
      obtain ⟨a, ha, hsettled⟩ := h.commands c hc hstate
      exact ⟨a, by rw [rows]; exact List.mem_append_left _ ha, hsettled⟩
    · rw [rows, List.map_append, List.map_singleton]
      refine h.semantic.append (List.nodup_singleton _) ?_
      intro key hkey hnew
      obtain ⟨a, ha, rfl⟩ := List.mem_map.1 hkey
      exact new a ha (List.mem_singleton.1 hnew)
  | queued c pending rows items =>
    constructor
    · intro a ha
      rw [items] at ha
      rw [rows]
      exact (h.items a ha).imp_right fun ⟨b, hb, hsettled⟩ => ⟨b, List.mem_append_left _ hb, hsettled⟩
    · intro b hb hstate
      rw [rows, List.mem_append, List.mem_singleton] at hb
      rw [items]
      rcases hb with hb | rfl
      · exact h.commands b hb hstate
      · exact absurd pending hstate
    · rw [items]
      exact h.semantic
  | consumed c r digest command pending item target open_ items commands =>
    have hsettled := settle_settledBy digest pending target open_
    have hitem : r.settle r.itemId c.commandId c.columns.kind ∈ s'.items.rows := by
      rw [items]
      exact List.mem_map_of_mem item
    have hcommand : c.consume c.commandId digest ∈ s'.commands.rows := by
      rw [commands]
      exact List.mem_map_of_mem command
    constructor
    · intro a' ha'
      rw [items] at ha'
      obtain ⟨a, ha, rfl⟩ := List.mem_map.1 ha'
      rcases h.items a ha with hfresh | ⟨b, hb, hby⟩
      · by_cases hid : a.itemId = r.itemId
        · obtain rfl := Table.eq_of_key itemId_isKey ha item hid
          exact .inr ⟨_, hcommand, hsettled⟩
        · rw [show a.settle r.itemId c.commandId c.columns.kind = a from if_neg fun hboth => hid hboth.1]
          exact .inl hfresh
      · -- a terminal item keeps its command
        rw [ItemRecord.settle_terminal hby.terminal]
        refine .inr ⟨b, ?_, hby⟩
        rw [commands, ← OwnerCommandRow.consume_terminal hby.consumed]
        exact List.mem_map_of_mem hb
    · intro b' hb' hstate
      rw [commands] at hb'
      obtain ⟨b, hb, rfl⟩ := List.mem_map.1 hb'
      by_cases hid : b.commandId = c.commandId
      · obtain rfl := Table.eq_of_key commandId_isKey hb command hid
        exact ⟨_, hitem, hsettled⟩
      · rw [show b.consume c.commandId digest = b from if_neg fun hboth => hid hboth.1] at hstate ⊢
        obtain ⟨a, ha, hby⟩ := h.commands b hb hstate
        refine ⟨a, ?_, hby⟩
        rw [items, ← ItemRecord.settle_terminal hby.terminal]
        exact List.mem_map_of_mem ha
    · rw [items, List.map_map]
      have hkeys : ItemRecord.semanticKey ∘ ItemRecord.settle r.itemId c.commandId c.columns.kind = ItemRecord.semanticKey := by
        funext a
        exact a.settle_semanticKey ..
      rw [hkeys]
      exact h.semantic

theorem OwnerKept.refl (s : OwnerStore) : OwnerKept s s :=
  ⟨fun r hr => ⟨r, hr, rfl, rfl, fun _ => rfl⟩, fun c hc => ⟨c, hc, rfl, rfl, fun _ => rfl⟩⟩

theorem OwnerKept.trans (h : OwnerKept s s') (h' : OwnerKept s' s'') : OwnerKept s s'' := by
  constructor
  · intro r hr
    obtain ⟨r', hr', hid, hkey, hsame⟩ := h.items r hr
    obtain ⟨r'', hr'', hid', hkey', hsame'⟩ := h'.items r' hr'
    refine ⟨r'', hr'', hid'.trans hid, hkey'.trans hkey, fun hterminal => ?_⟩
    obtain rfl := hsame hterminal
    exact hsame' hterminal
  · intro c hc
    obtain ⟨c', hc', hid, hcolumns, hsame⟩ := h.commands c hc
    obtain ⟨c'', hc'', hid', hcolumns', hsame'⟩ := h'.commands c' hc'
    refine ⟨c'', hc'', hid'.trans hid, hcolumns'.trans hcolumns, fun hterminal => ?_⟩
    obtain rfl := hsame hterminal
    exact hsame' hterminal

theorem OwnerEffect.kept (h : OwnerEffect s s') : OwnerKept s s' := by
  cases h with
  | still items commands =>
    constructor
    · rw [items]
      exact (OwnerKept.refl s).items
    · rw [commands]
      exact (OwnerKept.refl s).commands
  | recorded r fresh new rows commands =>
    constructor
    · rw [rows]
      exact fun a ha => ⟨a, List.mem_append_left _ ha, rfl, rfl, fun _ => rfl⟩
    · rw [commands]
      exact (OwnerKept.refl s).commands
  | queued c pending rows items =>
    constructor
    · rw [items]
      exact (OwnerKept.refl s).items
    · rw [rows]
      exact fun b hb => ⟨b, List.mem_append_left _ hb, rfl, rfl, fun _ => rfl⟩
  | consumed c r digest command pending item target open_ items commands =>
    constructor
    · rw [items]
      exact fun a ha => ⟨_, List.mem_map_of_mem ha, a.settle_itemId .., a.settle_semanticKey .., ItemRecord.settle_terminal⟩
    · rw [commands]
      exact fun b hb => ⟨_, List.mem_map_of_mem hb, b.consume_commandId .., b.consume_columns .., OwnerCommandRow.consume_terminal⟩

theorem settled_run (hitems : s.items.rows = []) (hcommands : s.commands.rows = []) (h : ReflTransGen (OwnerStep host) s s') :
    s'.Settled := by
  refine run_induction (P := OwnerStore.Settled) (fun _ _ hstep hsettled => hsettled.step hstep.effect) h ?_
  constructor
  · rw [hitems]
    exact fun _ hr => absurd hr List.not_mem_nil
  · rw [hcommands]
    exact fun _ hc => absurd hc List.not_mem_nil
  · rw [hitems]
    exact List.nodup_nil

theorem kept_run (h : ReflTransGen (OwnerStep host) s s') : OwnerKept s s' := by
  induction h with
  | refl => exact .refl s
  | tail _ hstep ih => exact ih.trans hstep.effect.kept

end Invariant

/-! ## The final gate -/

/-- The current seal of the task reads as the final gate wants it. -/
def SealReadable (l : Ledger) (taskId candidateSha : String) : Prop :=
  isHex 40 candidateSha = true ∧ ∃ sealed task, l.seal? taskId = some sealed ∧ l.task? taskId = some task ∧
    sealed.candidateSha = candidateSha ∧ isStateIdentity sealed.stateIdentity = true ∧ isToken task.identity.repositoryId = true

theorem unresolvedFinalGateBlockers_pending {l : Ledger} {items : Table ReviewItemRow.clash}
    {taskId candidateSha : String} (htoken : isToken taskId = true)
    (hread : ∀ r ∈ items.rows, r.pendingFollowUp = true → r.wellFormed = true)
    (hpending : ∃ r ∈ items.rows, r.taskId = taskId ∧ r.pendingFollowUp = true) :
    unresolvedFinalGateBlockers l items taskId candidateSha = .ok true ↔ SealReadable l taskId candidateSha := by
  have hrows : (items.rows.filter fun r => r.taskId = taskId ∧ r.pendingFollowUp) ≠ [] := by
    obtain ⟨r, hr, hboth⟩ := hpending
    exact List.ne_nil_of_mem (List.mem_filter.2 ⟨hr, by simpa using hboth⟩)
  have hwell : ¬ ((items.rows.filter fun r => r.taskId = taskId ∧ r.pendingFollowUp).any fun r => r.wellFormed = false) = true := by
    simp only [List.any_eq_true, List.mem_filter, decide_eq_true_eq, not_exists, not_and]
    intro r hr hill
    simp [hread r hr.1 hr.2.2] at hill
  unfold unresolvedFinalGateBlockers SealReadable
  simp only [bind_eq_ok, exists_unit, refuse_eq_ok, demand_eq_ok, pure_eq_ok, htoken, hwell, not_or, not_false_eq_true,
    true_and, Bool.not_eq_false, decide_eq_true_eq, not_not, reduceCtorEq]
  constructor
  · rintro ⟨hsha, sealed, hseal, task, htask, hcurrent, -⟩
    exact ⟨hsha, sealed, task, hseal, htask, hcurrent⟩
  · rintro ⟨hsha, sealed, task, hseal, htask, hcurrent⟩
    exact ⟨hsha, sealed, hseal, task, htask, hcurrent, hrows⟩

/-! ## Every interleaving -/

section Interleavings

variable {host : Host} {start s : OwnerStore}

/-- The items and the commands of a run that has reached `s`, and of every run that goes on from it: an item is pending
until the one command that is consumed for it, and a pending follow-up of an accepted review holds up every seal that
the final gate can read. -/
theorem owner_commands_settle_items (hitems : start.items.rows = []) (hcommands : start.commands.rows = [])
    (hrun : ReflTransGen (OwnerStep host) start s) :
    (∀ r ∈ s.items.rows, (r.disposition = .pending ↔ r.verification = .pending) ∧
      (r.verification = .pending ↔ r.resolvedCommandId = none) ∧
      (r.disposition ≠ .pending → ∃ c ∈ s.commands.rows,
        (∀ c' ∈ s.commands.rows, (c'.columns.targetItemId = r.itemId ∧ c'.state ≠ .pending) ↔ c' = c) ∧
        r.resolvedCommandId = some c.commandId ∧ r.disposition = c.columns.kind.disposition ∧
        r.verification = c.columns.kind.verification)) ∧
    (∀ c ∈ s.commands.rows, ∀ c' ∈ s.commands.rows, c.columns.idempotencyKey = c'.columns.idempotencyKey → c = c') ∧
    (∀ r ∈ s.items.rows, ∀ r' ∈ s.items.rows, r.semanticKey = r'.semanticKey → r = r') ∧
    (∀ s', ReflTransGen (OwnerStep host) s s' → OwnerKept s s') ∧
    ∀ r ∈ s.items.rows, r.pendingFollowUp = true → ∀ candidateSha,
      (unresolvedFinalGateBlockers s.ledger s.finalItems r.taskId candidateSha = .ok true ↔
        SealReadable s.ledger r.taskId candidateSha) ∧
      unresolvedFinalGateBlockers s.ledger s.finalItems r.taskId candidateSha ≠ .ok false := by
  have hsettled := settled_run hitems hcommands hrun
  refine ⟨fun r hr => ?_, fun c hc c' hc' => Table.eq_of_key idempotencyKey_isKey hc hc', fun r hr r' hr' => ?_,
    fun s' => kept_run, fun r hr hpending candidateSha => ?_⟩
  · rcases hsettled.items r hr with hfresh | ⟨c, hc, hby⟩
    · simp [hfresh.disposition, hfresh.verification, hfresh.resolved]
    · refine ⟨by simp [hby.disposition, hby.verification], by simp [hby.verification, hby.resolved], fun _ => ⟨c, hc, ?_,
        hby.resolved, hby.disposition, hby.verification⟩⟩
      intro c' hc'
      constructor
      · rintro ⟨htarget, hconsumed⟩
        -- the item of the other command is this one, and names this command
        obtain ⟨r', hr', hby'⟩ := hsettled.commands c' hc' hconsumed
        obtain rfl := Table.eq_of_key itemId_isKey hr' hr (hby'.target.symm.trans htarget)
        exact Table.eq_of_key commandId_isKey hc' hc (Option.some.inj (hby'.resolved.symm.trans hby.resolved))
      · rintro rfl
        exact ⟨hby.target, hby.consumed⟩
  · exact List.inj_on_of_nodup_map hsettled.semantic hr hr'
  · have hmem : r.toReviewItemRow ∈ s.finalItems.rows := List.mem_map_of_mem hr
    have hfresh : ∀ a ∈ s.items.rows, a.pendingFollowUp = true → a.Fresh := by
      intro a ha hpend
      refine (hsettled.items a ha).resolve_right fun ⟨c, _, hby⟩ => hby.terminal ?_
      simp only [ReviewItemRow.pendingFollowUp, decide_eq_true_eq] at hpend
      exact hpend.2.2.2
    constructor
    · refine unresolvedFinalGateBlockers_pending (hfresh r hr hpending).task ?_ ⟨_, hmem, rfl, hpending⟩
      intro a' ha' hpend
      obtain ⟨a, ha, rfl⟩ := List.mem_map.1 ha'
      exact (hfresh a ha hpend).wellFormed
    · intro hnone
      have hclear := unresolvedFinalGateBlockers_none hnone _ hmem rfl
      rw [hpending] at hclear
      cases hclear

end Interleavings

/-! ## An accepted review with a follow-up -/

namespace Sample

open Provider.Sample (text)

def uuid : String := "00000000-0000-4000-8000-000000000000"

section Repository

variable (repositoryId : String)

def owned : TaskIdentity := { Recovery.Sample.identity with repositoryId }
def ownedLease : TransitionLease := ⟨repositoryId, uuid, "owner", 1, 100⟩

def ownedLedger : Ledger := { Ledger.initial uuid with
  tasks := ⟨[⟨owned repositoryId, .diffReview, none, "/w"⟩], by simp⟩
  branchOwners := Recovery.Sample.ledger.branchOwners
  worktreeOwners := Recovery.Sample.ledger.worktreeOwners
  seals := ⟨[⟨"task", (owned repositoryId).baseSha, candidate, uuid⟩], by simp⟩
  leases := ⟨[ownedLease repositoryId], by simp⟩ }

/-- What the owner may resolve. -/
def grant : OwnerGrantRow :=
  ⟨"grant", "ythdelmar68", .resolveReviewItem, "task", candidate,
    ownerAuthorityDigest .sample "ythdelmar68" .resolveReviewItem "task" candidate⟩

def ownerStart : OwnerStore where
  reviews :=
    { attended.reviews with
      provider := { attended.reviews.provider with ledger := ownedLedger repositoryId }
      diffReviews := ⟨[⟨"task", { review with candidateSha := candidate }, .accepted, some "review", 1⟩], by simp⟩ }
  items := .empty
  provenance := .empty
  grants := ⟨[grant], by simp⟩
  commands := .empty

/-- A blocking follow-up of the review. -/
def followUp : ReviewItem :=
  ⟨"item", "task", "review", candidate, "reviewer", .passFollowUp, .acceptedReview, text 30, "owner", true, 1, by decide +kernel⟩

def ownerRecorded : OwnerStore :=
  (recordReviewItem .sample (owned repositoryId) followUp (some (ownedLease repositoryId)) 10 (ownerStart repositoryId)).2

theorem run_ownerRecorded : ReflTransGen (OwnerStep .sample) (ownerStart repositoryId) (ownerRecorded repositoryId) :=
  .single (.record _ _ _ _ rfl)

/-- The rows of the follow-ups, and what the final gate says of the candidate. -/
def gateView (s : OwnerStore) : List (String × Bool) × Option Bool :=
  (s.items.rows.map fun r => (r.taskId, r.pendingFollowUp),
    (unresolvedFinalGateBlockers s.ledger s.finalItems "task" candidate).toOption)

end Repository

/-- Another follow-up of the review. -/
def another : ReviewItem := { followUp with
  itemId := "another"
  contentDigest := text 31
  valid := by decide +kernel }

def command : OwnerCommand :=
  ⟨"command", "task", .resolveReviewItem, "item", candidate, text 32, "key", "ythdelmar68", "grant", by decide +kernel⟩

/-- Both follow-ups are recorded, and the owner resolves the first. -/
def ownerSettled : OwnerStore :=
  let lease := some (ownedLease "repository")
  let recorded := (recordReviewItem .sample (owned "repository") another lease 11 (ownerRecorded "repository")).2
  let queued := (queueOwnerCommand .sample (owned "repository") command lease 12 recorded).2
  (consumeOwnerCommand .sample (owned "repository") "command" (text 33) lease 13 queued).2

theorem run_ownerSettled : ReflTransGen (OwnerStep .sample) (ownerStart "repository") ownerSettled :=
  (((run_ownerRecorded "repository").tail (.record _ _ _ _ rfl)).tail (.queue _ _ _ _ rfl)).tail (.consume _ _ _ _ _ rfl)

theorem settled_view :
    ownerSettled.items.rows.map (fun r => (r.itemId, r.disposition)) = [("item", .resolved), ("another", .pending)] ∧
    gateView ownerSettled = ([("task", false), ("task", true)], some true) := by
  decide +kernel

/-- The name of the repository is no token of the review lifecycle, though one of the task's. -/
theorem gateView_unreadable : gateView (ownerRecorded "Roundwright") = ([("task", true)], none) := by decide +kernel

theorem exists_followUp {s : OwnerStore} (h : ("task", true) ∈ (gateView s).1) :
    ∃ r ∈ s.items.rows, r.taskId = "task" ∧ r.pendingFollowUp = true := by
  obtain ⟨r, hr, hcolumns⟩ := List.mem_map.1 h
  exact ⟨r, hr, congrArg Prod.fst hcolumns, congrArg Prod.snd hcolumns⟩

end Sample

open Sample in
/-- The item that the owner has resolved has its one command; the other one still holds up the candidate. -/
theorem owner_commands_settle_items_recorded :
    (∃ r ∈ ownerSettled.items.rows, r.itemId = "item" ∧ r.disposition = .resolved ∧
      ∃ c ∈ ownerSettled.commands.rows, r.resolvedCommandId = some c.commandId ∧
        ∀ c' ∈ ownerSettled.commands.rows, (c'.columns.targetItemId = "item" ∧ c'.state ≠ .pending) ↔ c' = c) ∧
    (∃ r ∈ ownerSettled.items.rows, r.taskId = "task" ∧ r.pendingFollowUp = true ∧ r.resolvedCommandId = none) ∧
    ∀ candidateSha, unresolvedFinalGateBlockers ownerSettled.ledger ownerSettled.finalItems "task" candidateSha ≠
      .ok false := by
  obtain ⟨hrows, -, -, -, hgate⟩ := owner_commands_settle_items rfl rfl run_ownerSettled
  refine ⟨?_, ?_⟩
  · have hresolved : ("item", ReviewItemDisposition.resolved) ∈
        ownerSettled.items.rows.map fun r => (r.itemId, r.disposition) := by
      rw [settled_view.1]
      exact List.mem_cons_self
    obtain ⟨r, hr, hcolumns⟩ := List.mem_map.1 hresolved
    obtain ⟨hitem, hdisposition⟩ := Prod.mk.inj hcolumns
    obtain ⟨c, hc, honly, hby, -⟩ := (hrows r hr).2.2 (by rw [hdisposition]; decide)
    rw [hitem] at honly
    exact ⟨r, hr, hitem, hdisposition, c, hc, hby, honly⟩
  · obtain ⟨r, hr, htask, hpending⟩ := exists_followUp (s := ownerSettled) (by
      rw [settled_view.2]
      decide)
    have hopen : r.disposition = .pending := by
      have := hpending
      simp only [ReviewItemRow.pendingFollowUp, decide_eq_true_eq] at this
      exact this.2.2.2
    refine ⟨⟨r, hr, htask, hpending, (hrows r hr).2.1.1 ((hrows r hr).1.1 hopen)⟩, fun candidateSha => ?_⟩
    rw [← htask]
    exact (hgate r hr hpending candidateSha).2

open Sample in
/-- A pending follow-up of a repository that no receipt can name leaves the final gate without an answer. -/
theorem pending_follow_up_unanswered :
    ¬ ∀ (host : Host) (start s : OwnerStore), start.items.rows = [] → start.commands.rows = [] →
      ReflTransGen (OwnerStep host) start s → ∀ r ∈ s.items.rows, r.pendingFollowUp = true →
        ∀ sealed, s.ledger.seal? r.taskId = some sealed →
          unresolvedFinalGateBlockers s.ledger s.finalItems r.taskId sealed.candidateSha = .ok true := by
  intro hclaim
  obtain ⟨r, hr, htask, hpending⟩ := exists_followUp (s := ownerRecorded "Roundwright") (by
    rw [gateView_unreadable]
    decide)
  have hseal : (ownerRecorded "Roundwright").ledger.seal? "task" =
      some ⟨"task", (owned "Roundwright").baseSha, candidate, uuid⟩ := by decide +kernel
  have htrue := hclaim .sample _ _ rfl rfl (run_ownerRecorded "Roundwright") r hr hpending _ (by rw [htask]; exact hseal)
  have hnone : (unresolvedFinalGateBlockers (ownerRecorded "Roundwright").ledger
      (ownerRecorded "Roundwright").finalItems "task" candidate).toOption = none :=
    congrArg Prod.snd gateView_unreadable
  rw [htask] at htrue
  rw [htrue] at hnone
  cases hnone

end Roundwright.Review
