/-
Every run of native hosts on one control database: one child at a time, admitted once, ended once, and every change of a
row under live authority. A call that is denied has left the rows alone, except the one-shot call: its admission stands
when its completion is denied.
-/
import Roundwright.Native.Invariant

namespace Roundwright.Native

open Lib State Handoff

/-! ## Runs -/

/-- Processes that share a world. -/
abbrev NativePool (π : Type) := Lib.Pool π Action Environment World (Except Raised Reply)

/-- A step of the pool, where an action is allowed. -/
def NativeStep {π : Type} [DecidableEq π] (host : Host) (allowed : Action → World → Prop) (pool pool' : NativePool π) : Prop :=
  ∃ event, Pool.Step (program host) allowed pool event pool'

/-- A pool that can be reached from an authority store and a new database. -/
def Reaches {π : Type} [DecidableEq π] (host : Host) (allowed : Action → World → Prop) (authority : Handoff.Store)
    (pool : NativePool π) :
    Prop :=
  Relation.ReflTransGen (NativeStep host allowed) ⟨.initial authority, fun _ => none, []⟩ pool

def AnyAction : Action → World → Prop := fun _ _ => True

variable {π : Type} [DecidableEq π] {host : Host} {allowed : Action → World → Prop} {authority : Handoff.Store} {pool : NativePool π}

/-- A process that is started has an identity that was accepted. -/
def Action.Named : Action → Prop
  | .start _ processId _ _ => isProcessId processId = true
  | _ => True

/-- A move of a call. -/
def CallMoves (host : Host) (l : Action) (w w' : World) : Prop := Moves host l w w' ∧ l.Named

theorem requireProcessId_ok {text process : String} (h : requireProcessId text = .ok process) : process = text ∧
    isProcessId text = true := by
  unfold requireProcessId at h
  split at h
  · cases h
    exact ⟨rfl, by assumption⟩
  · cases h

theorem act_acts {l : Action} (hl : l.Named) : Script.Acts (CallMoves host) (act host l) :=
  Script.acts_commit fun environment w => ⟨(perform_answers environment l w).1, hl⟩

variable {processId : String}

theorem actOn_acts {l : String → Action} (hl : isProcessId processId = true → (l processId).Named) :
    Script.Acts (CallMoves host) (actOn host processId l) := by
  refine Script.acts_check_bind fun process hprocess => ?_
  obtain ⟨rfl, hvalid⟩ := requireProcessId_ok hprocess
  exact act_acts (hl hvalid)

/-- Every action of a call is one of the moves. -/
theorem program_acts (call : Call) : Script.Acts (CallMoves host) (program host call) := by
  -- a call is one action, a one-shot call three
  cases call with
  | installNativeHost object coordinator i now paths => exact act_acts trivial
  | runOnce object processId now => exact actOn_acts fun hvalid => hvalid
  | requestSchedulerWake object processId now =>
    refine Script.acts_check_bind fun process hprocess => ?_
    have hwake : Script.Acts (CallMoves host) (act host (.wake object process now)) := act_acts trivial
    refine hwake.bind fun woken => ?_
    obtain ⟨rfl, hvalid⟩ := requireProcessId_ok hprocess
    split
    · exact act_acts hvalid
    · exact Script.acts_pure _
  | complete object processId now => exact actOn_acts fun _ => trivial
  | cancel object processId now => exact actOn_acts fun _ => trivial
  | renewChildLease object processId now leaseFor => exact actOn_acts fun _ => trivial
  | recoverStaleChild object processId now staleAfter => exact actOn_acts fun _ => trivial
  | executeOneShot object processId now =>
    have hstart : Script.Acts (CallMoves host) (actOn host processId fun process => .start object process .oneShot now) :=
      actOn_acts fun hvalid => hvalid
    refine hstart.bind fun started => ?_
    split
    · have hchild : Script.Acts (CallMoves host) (act host .child) := act_acts trivial
      have hcancel : Script.Acts (CallMoves host) (actOn host processId fun process => .cancel object process now) :=
        actOn_acts fun _ => trivial
      have hcomplete : Script.Acts (CallMoves host) (actOn host processId fun process => .complete object process now) :=
        actOn_acts fun _ => trivial
      refine (hchild.onError ?_).bind fun _ => hcomplete
      exact (hcancel.bind fun _ => Script.acts_pure _).handle fun e => Script.acts_check _
    · exact Script.acts_pure _
  | stop object => exact act_acts trivial
  | authority call => exact act_acts trivial

/-- What the actions of the calls keep holds wherever a pool can be. -/
theorem Reaches.keeps {P : World → Prop} (h : Reaches host allowed authority pool) (hinitial : P (.initial authority))
    (hstep : ∀ l w w', allowed l w → CallMoves host l w w' → P w → P w') : P pool.shared :=
  run_induction (fun w w' ⟨l, hallowed, hmoves⟩ => hstep l w w' hallowed hmoves) (Pool.acting_run program_acts h).2 hinitial

theorem Reaches.law (h : Reaches host allowed authority pool) : Law host pool.shared :=
  h.keeps (.initial authority) fun _ _ _ _ hmoves hlaw => hlaw.moves hmoves.1

/-! ## Denied calls -/

/-- The action admits the process of a one-shot call: its row is new, the others are as they were. -/
def AdmitsOneShot (call : Call) (l : Action) (w w' : World) : Prop :=
  ∃ object processId now row, call = .executeOneShot object processId now ∧ l = .start object processId .oneShot now ∧
    row.processId = processId ∧ row.state = .running ∧ w'.control.rows = w.control.rows ++ [row]

section Denied

variable {actions : List (Action × World × World)} {reply : Reply}

/-- One action and what it answers. -/
theorem trace_act {l : Action} {a : Except Raised Reply} (h : Script.Trace (act host l) actions a) :
    ∃ w w', actions = [(l, w, w')] ∧ Moves host l w w' ∧ (Denied a → w'.control.rows = w.control.rows) := by
  obtain ⟨environment, w, rfl, rfl⟩ := Script.trace_commit h
  exact ⟨w, _, rfl, perform_answers environment l w⟩

theorem trace_actOn {l : String → Action} (h : Script.Trace (actOn host processId l) actions (.ok reply)) :
    ∃ w w', actions = [(l processId, w, w')] ∧ Moves host (l processId) w w' ∧
    (reply.accepted = false → w'.control.rows = w.control.rows) := by
  obtain ⟨process, first, rest, hcheck, hact, rfl⟩ := Script.trace_bind h
  obtain ⟨hprocess, rfl⟩ := Script.trace_check hcheck
  obtain ⟨rfl, -⟩ := requireProcessId_ok hprocess.symm
  obtain ⟨w, w', rfl, hmoves, hdenied⟩ := trace_act hact
  refine ⟨w, w', rfl, hmoves, fun hno => hdenied fun r hr => ?_⟩
  cases hr
  exact hno

/-- What an accepted start has done to the rows. -/
theorem start_moves {w w' : World} {object : Nat} {source : InvocationSource} {now : Clock}
    (h : Moves host (.start object processId source now) w w') :
    w'.control.rows = w.control.rows ∨
      ∃ row : ProcessRow, row.processId = processId ∧ row.state = .running ∧ w'.control.rows = w.control.rows ++ [row] := by
  cases h with
  | still => exact .inl rfl
  | installed => exact .inl rfl
  | memory => exact .inl rfl
  | stopped => exact .inl rfl
  | changed object h h' instant rows found controlled authorized matches_ change =>
    cases change with
    | admitted => exact .inr ⟨_, rfl, rfl, rfl⟩

theorem wake_moves {w w' : World} {object : Nat} {now : Clock} (h : Moves host (.wake object processId now) w w') :
    w'.control.rows = w.control.rows := by
  cases h with
  | changed object h h' instant rows found controlled authorized matches_ change => cases change
  | _ => rfl

theorem child_moves {w w' : World} (h : Moves host .child w w') : w'.control.rows = w.control.rows := by
  cases h with
  | changed object h h' instant rows found controlled authorized matches_ change => cases change
  | _ => rfl

/-- The actions of a call that is denied leave the rows, but for the admission of a one-shot call. -/
theorem denied_leaves_rows {call : Call} (h : Script.Trace (program host call) actions (.ok reply))
    (hdenied : reply.accepted = false) :
    ∀ l w w', (l, w, w') ∈ actions → w'.control.rows = w.control.rows ∨ AdmitsOneShot call l w w' := by
  intro l w w' hmem
  have hact : ∀ {a : Action} {taken : List (Action × World × World)}, Script.Trace (act host a) taken (.ok reply) →
      (l, w, w') ∈ taken → w'.control.rows = w.control.rows := by
    intro a taken htrace hmem
    obtain ⟨v, v', rfl, -, hsame⟩ := trace_act htrace
    cases List.mem_singleton.1 hmem
    refine hsame fun r hr => ?_
    cases hr
    exact hdenied
  have hactOn : ∀ {processId : String} {a : String → Action} {taken : List (Action × World × World)},
      Script.Trace (actOn host processId a) taken (.ok reply) → (l, w, w') ∈ taken → w'.control.rows = w.control.rows := by
    intro processId a taken htrace hmem
    obtain ⟨v, v', rfl, -, hsame⟩ := trace_actOn htrace
    cases List.mem_singleton.1 hmem
    exact hsame hdenied
  -- a call of one action decides by it; a one-shot call may have admitted its process
  cases call with
  | installNativeHost object coordinator i now paths => exact .inl (hact h hmem)
  | runOnce object processId now => exact .inl (hactOn h hmem)
  | requestSchedulerWake object processId now =>
    obtain ⟨process, first, rest, hcheck, hrest, rfl⟩ := Script.trace_bind h
    obtain ⟨-, rfl⟩ := Script.trace_check hcheck
    obtain ⟨woken, first, rest, hwake, hstart, rfl⟩ := Script.trace_bind hrest
    obtain ⟨v, v', rfl, hmoves, -⟩ := trace_act hwake
    rw [List.nil_append] at hmem
    rcases List.mem_append.1 hmem with hmem | hmem
    · cases List.mem_singleton.1 hmem
      exact .inl (wake_moves hmoves)
    · split at hstart
      · exact .inl (hact hstart hmem)
      · cases hstart
        cases hmem
  | complete object processId now => exact .inl (hactOn h hmem)
  | cancel object processId now => exact .inl (hactOn h hmem)
  | renewChildLease object processId now leaseFor => exact .inl (hactOn h hmem)
  | recoverStaleChild object processId now staleAfter => exact .inl (hactOn h hmem)
  | executeOneShot object processId now =>
    obtain ⟨started, first, rest, hstart, hrest, rfl⟩ := Script.trace_bind h
    obtain ⟨v, v', rfl, hmoves, hsame⟩ := trace_actOn hstart
    rcases List.mem_append.1 hmem with hmem | hmem
    · cases List.mem_singleton.1 hmem
      rcases start_moves hmoves with hrows | ⟨row, hid, hrunning, hrows⟩
      · exact .inl hrows
      · exact .inr ⟨object, processId, now, row, rfl, rfl, hid, hrunning, hrows⟩
    · split at hrest
      · -- The child has returned, or the call would have raised.
        obtain ⟨_, first, rest, hchild, hcomplete, rfl⟩ := Script.trace_bind hrest
        obtain ⟨v, v', rfl, hmoves, -⟩ := trace_act (Script.trace_onError hchild)
        rcases List.mem_append.1 hmem with hmem | hmem
        · cases List.mem_singleton.1 hmem
          exact .inl (child_moves hmoves)
        · exact .inl (hactOn hcomplete hmem)
      · cases hrest
        cases hmem
  | stop object => exact .inl (hact h hmem)
  | authority call => exact .inl (hact h hmem)

end Denied

/-! ## The law of a run -/

instance (l : Action) (w : World) : Decidable (AnyAction l w) := inferInstanceAs (Decidable True)

/-- The authority under which a change was made: the receipt of the object was active, claimed by its coordinator and
current, and no handoff was open. -/
structure Entry.Governed (e : Entry) : Prop where
  active : e.authority.isActive e.host.installation.receipt = true
  claimed : e.authority.claimOwnerToken = some e.host.coordinator
  current : receiptCurrent e.host.installation.receipt e.now = true
  unrevoked : e.host.installation.receipt.receiptFingerprint ∉ e.authority.revoked
  closed : e.authority.progress = none

theorem Entry.Lawful.governed {history : List Entry} {e : Entry} (h : e.Lawful host history) : e.Governed := by
  obtain ⟨hclosed, hactive, hclaimed, -⟩ := h.authorized.holder
  obtain ⟨hcurrent, hunrevoked⟩ := h.authorized.current
  exact ⟨hactive, hclaimed, hcurrent, hunrevoked, hclosed⟩

theorem Entry.Lawful.later {history : List Entry} {e : Entry} (h : e.Lawful host history) : Later e.before e.after := by
  obtain ⟨instant, -, hturns⟩ := h.turns
  exact later_of_turns hturns

/-- In every run at most one process is running. The history has every change of the rows; it admits a process once, and
a row that has ended stays as it is. Every change is one of the turns, made by an object that was authorized for the
receipt of the rows: a process is completed or cancelled by the object that has admitted it, and recovered when its
lease has expired and the given interval has passed. And what a denied call has done leaves the rows, but for the
admission of a one-shot call whose completion was denied. -/
theorem one_child_under_authority (run : Reaches host AnyAction authority pool) :
    let w := pool.shared
    ((w.control.rows.map (·.processId)).Nodup ∧ runningCount w.control.rows ≤ 1) ∧
    (Linked Entry.after (fun e => some e.before) (some []) w.history ∧
      (w.history.getLast?.map Entry.after).or (some []) = some w.control.rows) ∧
    (w.history.Pairwise fun e e' => ∀ p, e.Admits p → ¬ e'.Admits p) ∧
    (w.history.Pairwise fun e e' => ∀ p r, rowOf e.after p = some r → r.state ≠ .running →
      rowOf e'.before p = some r ∧ rowOf e'.after p = some r) ∧
    (∀ e ∈ w.history, e.Lawful host w.history ∧ e.Governed) ∧
    ∀ call actions reply, Script.Trace (program host call) actions (.ok reply) → reply.accepted = false →
      ∀ l w w', (l, w, w') ∈ actions → w'.control.rows = w.control.rows ∨ AdmitsOneShot call l w w' := by
  intro w
  have hl : Law host w := run.law
  refine ⟨⟨hl.ids, hl.single⟩, ⟨hl.linked, hl.last⟩, ?_, ?_, fun e he => ⟨hl.lawful e he, (hl.lawful e he).governed⟩, ?_⟩
  · refine hl.order.imp fun hlater p hadmits hagain => ?_
    obtain ⟨r, hr⟩ := Option.ne_none_iff_exists'.1 hadmits.2
    obtain ⟨⟨r', hr'⟩, -⟩ := hlater p r hr
    rw [hagain.1] at hr'
    cases hr'
  · refine hl.order.imp_of_mem fun _ he' hlater p r hr hended => ?_
    have hbefore := (hlater p r hr).2 hended
    exact ⟨hbefore, ((hl.lawful _ he').later p r hbefore).2 hended⟩
  · intro call actions reply htrace hdenied
    exact denied_leaves_rows htrace hdenied

namespace Sample

def receipt : DeploymentAuthorityHandoffReceipt := ⟨Sample.fingerprint 20, Sample.identity 1, 0, 200000000, by decide⟩

def installation : NativeHostInstallation := ⟨Sample.fingerprint 50, Sample.identity 1, receipt, rfl⟩

def environment : Environment := ⟨true, .ok (), false⟩

/-- A call of one process with nothing between its actions. -/
def call (p : Bool) (call : Call) (actions : Nat) : List (Pool.Move Bool Call Environment) :=
  .start p call :: List.replicate actions (.act p environment) ++ [.finish p]

/-- The first coordinator claims the receipt, and two objects are installed with it. -/
def installed : List (Pool.Move Bool Call Environment) :=
  call true (.authority ⟨1, .activateInitial receipt (Sample.verification receipt) (.utc 10)⟩) 1 ++
    call true (.authority ⟨1, .claimOrchestrator receipt (Sample.fingerprint 30).text (.utc 10)⟩) 1 ++
    call true (.installNativeHost 0 1 installation (.utc 10) true) 1 ++
    call false (.installNativeHost 1 1 installation (.utc 10) true) 1

def idle : NativePool Bool := ⟨.initial Sample.start, fun _ => none, []⟩

/-- The pool after some moves. -/
def played (moves : List (Pool.Move Bool Call Environment)) : Option (NativePool Bool) :=
  moves.foldlM (Pool.move (program .sample) AnyAction) idle

/-- A handoff begins while the child of a one-shot call runs. -/
def overtaken : List (Pool.Move Bool Call Environment) :=
  [.start true (.executeOneShot 0 "a" (.utc 20)), .act true environment] ++
    call false (.authority ⟨1, .beginHandoff receipt (Sample.identity 2) (Sample.fingerprint 11).text (.utc 20) none⟩) 1 ++
    [.act true environment, .act true environment, .finish true]

end Sample

open Sample in
/-- One object admits a child and the other recovers it when its lease has expired. -/
theorem one_child_under_authority_recovered :
    ∃ pool : NativePool Bool, Reaches .sample AnyAction start pool ∧
      pool.shared.control.rows.map (fun r => (r.processId, r.state)) = [("a", .recovered), ("b", .running)] ∧
      runningCount pool.shared.control.rows ≤ 1 ∧ ∀ e ∈ pool.shared.history, e.Governed := by
  have hrun : (played (installed ++ call true (.runOnce 0 "a" (.utc 20)) 1 ++
      call false (.recoverStaleChild 1 "a" (.utc 100000000) (.microseconds 50)) 1 ++
      call false (.runOnce 1 "b" (.utc 100000001)) 1)).map
        (fun pool => pool.shared.control.rows.map fun r => (r.processId, r.state)) = some [("a", .recovered), ("b", .running)] := by
    decide +kernel
  obtain ⟨pool, hpool, hrows⟩ := Option.map_eq_some_iff.1 hrun
  have hreaches : Reaches .sample AnyAction start pool := Pool.moves_steps hpool
  obtain ⟨⟨-, hsingle⟩, -, -, -, hlawful, -⟩ := one_child_under_authority hreaches
  exact ⟨pool, hreaches, hrows, hsingle, fun e he => (hlawful e he).2⟩

open Sample in
/-- A one-shot call is denied because a handoff has begun while its child ran; its process is still running. -/
theorem denied_one_shot_leaves_a_row :
    ∃ pool pool' : NativePool Bool, Reaches .sample AnyAction start pool ∧
      Relation.ReflTransGen (NativeStep .sample AnyAction) pool pool' ∧ pool.shared.control.rows = [] ∧
      (∃ began denied, pool'.returned.drop pool.returned.length = [(false, .ok (.authority began)), (true, .ok (.host denied))] ∧
        denied.accepted = false) ∧
      pool'.shared.control.rows.map (fun r => (r.processId, r.state)) = [("a", .running)] := by
  have hbefore : (played installed).map
      (fun pool => (pool.shared.control.rows, pool.returned.length)) = some ([], 4) := by decide +kernel
  obtain ⟨pool, hpool, hstart⟩ := Option.map_eq_some_iff.1 hbefore
  have hafter : (played (installed ++ overtaken)).map
      (fun pool => (pool.returned.drop 4, pool.shared.control.rows.map fun r => (r.processId, r.state))) =
      some ([(false, .ok (.authority ⟨true, "old authority is now non-dispatching pending reconciliation", some (fingerprint 20)⟩)),
        (true, .ok (.host (installation.denied "authority handoff is incomplete; dispatch remains blocked" (some "a"))))],
        [("a", .running)]) := by decide +kernel
  obtain ⟨pool', hpool', hend⟩ := Option.map_eq_some_iff.1 hafter
  obtain ⟨hrows, hlength⟩ := Prod.mk.inj hstart
  obtain ⟨hreturned, hrows'⟩ := Prod.mk.inj hend
  unfold played at hpool hpool'
  rw [List.foldlM_append, hpool] at hpool'
  rw [← hlength] at hreturned
  exact ⟨pool, pool', Pool.moves_steps hpool, Pool.moves_steps hpool', hrows, ⟨_, _, hreturned, rfl⟩, hrows'⟩

end Roundwright.Native
