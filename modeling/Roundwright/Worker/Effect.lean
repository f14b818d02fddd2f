/-
Coding effects happen once. Processes dispatch one attempt in any interleaving of their statements and die anywhere.
`Moves` is all that an action of a process can do to the world; from it come the invariant of the world and, for every
part of the dispatch, what it may rely on. Only the process that has made the dispatch claim gets as far as the effects,
so nobody moves its submissions behind its back, although the UPDATE of a submission looks at no state.
-/
import Roundwright.Worker.Dispatch
import Roundwright.Lib.Interference
import Roundwright.Provider.Advance

namespace Roundwright.Worker

open Lib State Recovery Provider Relation

/-! ## Claims of the provider attempts -/

section Provider

variable {host : Host} {s s' : Recovery.Store} {α β : Type}

theorem map_state (g : α → β) (x : Tx Error Recovery.Store α) (s : Recovery.Store) : ((g <$> x) s).2 = (x s).2 := by
  show ((x >>= fun a => pure (g a)) s).2 = _
  simp only [bind]
  rcases x s with ⟨e | a, s'⟩ <;> rfl

theorem claims_subset {call : Provider.Call} (h : Provider.Effect host s s' call) :
    s.dispatchClaims.rows ⊆ s'.dispatchClaims.rows := by
  have hsame : s'.dispatchClaims = s.dispatchClaims → s.dispatchClaims.rows ⊆ s'.dispatchClaims.rows := by
    intro heq
    rw [heq]
    exact List.Subset.refl _
  cases h with
  | quiet same => exact hsame (congrArg Tables.claims same)
  | claimed row found untouched rows frame =>
    rw [rows]
    exact List.subset_append_left _ _
  | prepared _ _ _ _ _ frame => exact hsame (congrArg Tables.claims frame)
  | opened _ _ _ _ _ frame => exact hsame (congrArg Tables.claims frame)
  | dispatched _ _ _ _ _ frame => exact hsame (congrArg Tables.claims frame)
  | completed _ _ _ frame => exact hsame (congrArg Tables.claims frame)
  | rejected _ _ _ frame => exact hsame (congrArg Tables.claims frame)
  | accepted _ _ _ _ frame => exact hsame (congrArg Tables.claims frame)
  | settled _ _ _ _ _ _ _ _ frame => exact hsame (congrArg Tables.claims frame)
  | recovered _ _ _ _ _ _ _ _ frame => exact hsame (congrArg Tables.claims frame)

/-- A transaction that takes no dispatch claim away. -/
def KeepsClaims (x : Tx Error Recovery.Store α) : Prop :=
  ∀ s attemptId, s.dispatchClaim? attemptId ≠ none → (x s).2.dispatchClaim? attemptId ≠ none

theorem dispatchClaim?_mono (h : s.dispatchClaims.rows ⊆ s'.dispatchClaims.rows) {attemptId : String}
    (hclaim : s.dispatchClaim? attemptId ≠ none) : s'.dispatchClaim? attemptId ≠ none := by
  simp only [Store.dispatchClaim?, ne_eq, List.find?_eq_none, decide_eq_true_eq, not_forall, not_not] at hclaim ⊢
  obtain ⟨r, hr, hid⟩ := hclaim
  exact ⟨r, h hr, hid⟩

theorem keepsClaims_call (call : Provider.Call) : KeepsClaims (call.run host) := by
  intro s attemptId hclaim
  rcases call.effect s with hsame | heffect
  · rw [hsame]
    exact hclaim
  · exact dispatchClaim?_mono (claims_subset heffect) hclaim

theorem KeepsClaims.of_map {g : α → β} {x : Tx Error Recovery.Store α} (h : KeepsClaims (g <$> x)) : KeepsClaims x := by
  intro s attemptId hclaim
  have := h s attemptId hclaim
  rwa [map_state] at this

theorem keepsClaims_query (f : Recovery.Store → Except Error α) : KeepsClaims (Tx.query f) := fun _ _ h => h

theorem keepsClaims_failure (identity : TaskIdentity) (record : FailureRecord) (observed : Int) :
    KeepsClaims (DenialCall.run host (.failure identity record observed)) := by
  have hatomic : Tx.Atomic (fun s s' : Recovery.Store => s'.dispatchClaims = s.dispatchClaims)
      (DenialCall.run host (.failure identity record observed)) := by
    refine .check_bind fun _ _ => .transaction fun s a s' h => ?_
    rw [recordFailure_frame h]
  intro s attemptId hclaim
  rcases hatomic s with hsame | hclaims
  · rw [hsame]
    exact hclaim
  · exact dispatchClaim?_mono (by rw [hclaims]; exact List.Subset.refl _) hclaim

theorem claimWorkerDispatch_ok {identity : TaskIdentity} {c : RecoveryContext} {attemptId : String}
    {lease : Option TransitionLease} {observed : Int} {row : AttemptRow}
    (h : claimWorkerDispatch host identity c attemptId lease observed s = (.ok row, s')) :
    s.dispatchClaim? attemptId = none ∧ s'.dispatchClaim? attemptId ≠ none := by
  simp only [claimWorkerDispatch, claimDispatch, Tx.check_bind, exists_unit] at h
  obtain ⟨-, -, h⟩ := h
  obtain ⟨_, s₁, hclaim, hread⟩ := Tx.bind_ok.1 h
  obtain ⟨-, rfl⟩ := Tx.query_ok.1 hread
  have hclaim := transaction_ok.1 (Tx.mapError_ok.1 hclaim)
  obtain ⟨⟨row, sealed⟩, s₂, hauthorized, hbody⟩ := Tx.bind_ok.1 hclaim
  obtain ⟨hframe, -, -⟩ := authorizeAttempt_ok hauthorized
  simp only [Tx.query_bind, Tx.check_bind, Tx.write_bind, Tx.write_ok, exists_unit, refuse_eq_ok, bind_eq_ok,
    demand_eq_ok, pure_eq_ok, not_not] at hbody
  obtain ⟨-, hfree, -, _, ⟨claims, hinsert, rfl⟩, _, -, hadmission⟩ := hbody
  constructor
  · rw [hframe] at hfree
    exact hfree
  · rw [persistFailureAdmission_frame hadmission]
    simp only [Store.dispatchClaim?, ne_eq, List.find?_eq_none, decide_eq_true_eq, not_forall, not_not]
    refine ⟨⟨attemptId, identity.taskId, row.inputFingerprint⟩, ?_, rfl⟩
    rw [(Table.insert?_eq_some.1 hinsert).2]
    exact List.mem_append_right _ List.mem_cons_self

end Provider

/-! ## What an action can do -/

/-- The submission before the effect was recorded as submitted. -/
def After (p sequence : Nat) (log : List Event) : Prop := ∀ k, sequence = k + 1 → 1 ≤ k → ⟨p, .submitted k⟩ ∈ log

def EffectClaimRow.isOf (taskId attemptId : String) (sequence : Nat) (r : EffectClaimRow) : Prop :=
  r.taskId = taskId ∧ r.implementationAttemptId = attemptId ∧ r.sequence = sequence

/-- The row is there with its intent, and nothing else was recorded of it. -/
def SubmissionRow.isIntent (key : SubmissionKey) (r : SubmissionRow) : Prop := r.key = key ∧ r.state = .intent ∧
    r.nextTurnIdentity = none

def SubmissionKey.isOf (taskId attemptId : String) (key : SubmissionKey) : Prop :=
  key.taskId = taskId ∧ key.implementationAttemptId = attemptId

section Moves

variable (taskId attemptId : String)

inductive Moves (p : Nat) (w : World) : World → Prop where
  | still : Moves p w w
  | provider {store : Recovery.Store}
      (kept : w.provider.dispatchClaim? attemptId ≠ none → store.dispatchClaim? attemptId ≠ none) :
    Moves p w { w with provider := store }
  | dispatched {store : Recovery.Store} (free : w.provider.dispatchClaim? attemptId = none)
    (taken : store.dispatchClaim? attemptId ≠ none) :
    Moves p w { w with provider := store, log := ⟨p, .dispatched⟩ :: w.log }
  | claimed {claims : Table EffectClaimRow.clash} (sequence : Nat) (digest : Digest) (owner : ⟨p, .dispatched⟩ ∈ w.log)
    (free : ∀ r ∈ w.coding.claims.rows, ¬ r.isOf taskId attemptId sequence)
    (rows : claims.rows = w.coding.claims.rows ++ [⟨taskId, attemptId, sequence, digest⟩]) :
    Moves p w { w with coding := { w.coding with claims }, log := ⟨p, .claimed sequence⟩ :: w.log }
  | ran (sequence : Nat) (claimed : ⟨p, .claimed sequence⟩ ∈ w.log) (once : ⟨p, .ran sequence⟩ ∉ w.log)
    (after : After p sequence w.log) :
    Moves p w { w with log := ⟨p, .ran sequence⟩ :: w.log }
  | recorded {events : Table CodingToolEventRecord.clash} : Moves p w { w with coding := { w.coding with events } }
  | intended {submissions : Table SubmissionRow.clash} (key : SubmissionKey) (owner : ⟨p, .dispatched⟩ ∈ w.log)
    (rows : submissions.rows = w.coding.submissions.rows ++ [⟨key, .intent, none⟩]) :
    Moves p w { w with coding := { w.coding with submissions } }
  | settled (key : SubmissionKey) (state : SubmissionState) (next : Option String) (owner : ⟨p, .dispatched⟩ ∈ w.log)
    (own : key.isOf taskId attemptId) (was : ∃ r ∈ w.coding.submissions.rows, r.isIntent key)
    (settles : state = .submitted ∨ state = .uncertain) :
    Moves p w { w with
      coding := w.coding.moveSubmission key state next
      log := if state = .submitted then ⟨p, .submitted key.sequence⟩ :: w.log else w.log }

end Moves

/-! ## The invariant -/

/-- The effects that were claimed, with their processes. -/
def claimedOf (log : List Event) : List (Nat × Nat) :=
  log.filterMap fun e => match e.deed with
    | .claimed sequence => some (e.process, sequence)
    | _ => none

/-- The effects that have run, with their processes. -/
def ranOf (log : List Event) : List (Nat × Nat) :=
  log.filterMap fun e => match e.deed with
    | .ran sequence => some (e.process, sequence)
    | _ => none

theorem mem_claimedOf {log : List Event} {p k : Nat} : (p, k) ∈ claimedOf log ↔ ⟨p, .claimed k⟩ ∈ log := by
  rw [claimedOf, List.mem_filterMap]
  constructor
  · rintro ⟨⟨q, deed⟩, he, h⟩
    cases deed <;> cases h
    exact he
  · intro he
    exact ⟨_, he, rfl⟩

theorem mem_ranOf {log : List Event} {p k : Nat} : (p, k) ∈ ranOf log ↔ ⟨p, .ran k⟩ ∈ log := by
  rw [ranOf, List.mem_filterMap]
  constructor
  · rintro ⟨⟨q, deed⟩, he, h⟩
    cases deed <;> cases h
    exact he
  · intro he
    exact ⟨_, he, rfl⟩

theorem SubmissionRow.key_isKey : Table.IsKey SubmissionRow.clash (·.key) := by
  intro a b h
  simpa [SubmissionRow.clash] using h

structure Inv (taskId attemptId : String) (w : World) : Prop where
  one : ∀ p q, ⟨p, .dispatched⟩ ∈ w.log → ⟨q, .dispatched⟩ ∈ w.log → p = q
  held : ∀ p, ⟨p, .dispatched⟩ ∈ w.log → w.provider.dispatchClaim? attemptId ≠ none
  claims : ∀ p k, ⟨p, .claimed k⟩ ∈ w.log → ∃ r ∈ w.coding.claims.rows, r.isOf taskId attemptId k
  claimedOnce : ((claimedOf w.log).map (·.2)).Nodup
  ran : ∀ p k, ⟨p, .ran k⟩ ∈ w.log → ⟨p, .claimed k⟩ ∈ w.log
  ranOnce : ((ranOf w.log).map (·.2)).Nodup
  submitted : ∀ p k, ⟨p, .submitted k⟩ ∈ w.log →
    ∃ r ∈ w.coding.submissions.rows, r.key.isOf taskId attemptId ∧ r.key.sequence = k ∧ r.state = .submitted

variable {k : Nat} {key : SubmissionKey} {next : Option String}

section Invariant

variable {taskId attemptId : String} {p q : Nat} {w w' : World}

theorem Inv.start (h : w.log = []) : Inv taskId attemptId w := by
  constructor <;> simp [h, claimedOf, ranOf]

theorem Inv.claimer (h : Inv taskId attemptId w) (hp : ⟨p, .claimed k⟩ ∈ w.log) (hq : ⟨q, .claimed k⟩ ∈ w.log) :
    p = q := by
  have := List.inj_on_of_nodup_map h.claimedOnce (mem_claimedOf.2 hp) (mem_claimedOf.2 hq) rfl
  exact (Prod.mk.inj this).1

/-- Everything that a process logs is its own. -/
theorem Moves.log (h : Moves taskId attemptId p w w') : ∃ new, w'.log = new ++ w.log ∧ ∀ e ∈ new, e.process = p := by
  cases h with
  | still => exact ⟨[], rfl, nofun⟩
  | provider kept => exact ⟨[], rfl, nofun⟩
  | recorded => exact ⟨[], rfl, nofun⟩
  | intended key owner rows => exact ⟨[], rfl, nofun⟩
  | dispatched free taken => exact ⟨[⟨p, .dispatched⟩], rfl, by simp⟩
  | claimed k digest owner free rows => exact ⟨[⟨p, .claimed k⟩], rfl, by simp⟩
  | ran k claimed once after => exact ⟨[⟨p, .ran k⟩], rfl, by simp⟩
  | settled key state next owner own was settles =>
    by_cases hstate : state = .submitted
    · exact ⟨[⟨p, .submitted key.sequence⟩], by simp [hstate], by simp⟩
    · exact ⟨[], by simp [hstate], nofun⟩

theorem Moves.kept (h : Moves taskId attemptId p w w') {e : Event} (he : e ∈ w.log) : e ∈ w'.log := by
  obtain ⟨new, hlog, -⟩ := h.log
  rw [hlog]
  exact List.mem_append_right _ he

/-- A deed of a process is done by the process. -/
theorem Moves.foreign (h : Moves taskId attemptId p w w') {e : Event} (he : e ∈ w'.log) (hne : e.process ≠ p) :
    e ∈ w.log := by
  obtain ⟨new, hlog, hown⟩ := h.log
  rw [hlog] at he
  rcases List.mem_append.1 he with he | he
  · exact absurd (hown e he) hne
  · exact he

theorem Moves.claims (h : Moves taskId attemptId p w w') : w.coding.claims.rows ⊆ w'.coding.claims.rows := by
  cases h with
  | claimed k digest owner free rows =>
    show w.coding.claims.rows ⊆ _
    rw [show _ = w.coding.claims.rows ++ _ from rows]
    exact List.subset_append_left _ _
  | _ => exact List.Subset.refl _

/-- What becomes of a submission: it stays, or it goes from its intent to what came of it. -/
def SubmissionRow.Follows (r r' : SubmissionRow) : Prop :=
  r'.key = r.key ∧ (r' = r ∨ (r.state = .intent ∧ r.nextTurnIdentity = none ∧
    (r'.state = .submitted ∨ r'.state = .uncertain)))

/-- The UPDATE looks at no state, but the row with the key is the row of the intent. -/
theorem SubmissionRow.follows_move {submissions : Table SubmissionRow.clash} {r : SubmissionRow}
    {state : SubmissionState} (hr : r ∈ submissions.rows) (was : ∃ r ∈ submissions.rows, r.isIntent key)
    (settles : state = .submitted ∨ state = .uncertain) : r.Follows (r.move key state next) := by
  refine ⟨SubmissionRow.move_key _ _ _ _, ?_⟩
  by_cases hkey : r.key = key
  · obtain ⟨r₀, hr₀, hkey₀, hintent⟩ := was
    obtain rfl := Table.eq_of_key SubmissionRow.key_isKey hr hr₀ (hkey.trans hkey₀.symm)
    refine .inr ⟨hintent.1, hintent.2, ?_⟩
    rw [SubmissionRow.move, if_pos hkey]
    exact settles
  · exact .inl (if_neg hkey)

theorem Moves.submissions (h : Moves taskId attemptId p w w') :
    ∀ r ∈ w.coding.submissions.rows, ∃ r' ∈ w'.coding.submissions.rows, r.Follows r' := by
  intro r hr
  cases h with
  | settled key state next owner own was settles =>
    exact ⟨r.move key state next, List.mem_map_of_mem hr, SubmissionRow.follows_move hr was settles⟩
  | intended key owner rows =>
    refine ⟨r, ?_, rfl, .inl rfl⟩
    show r ∈ _
    rw [show _ = w.coding.submissions.rows ++ _ from rows]
    exact List.mem_append_left _ hr
  | _ => exact ⟨r, hr, rfl, .inl rfl⟩

/-- Where a submission comes from: another one, or its intent is new. -/
theorem Moves.submissions_back (h : Moves taskId attemptId p w w') :
    ∀ r' ∈ w'.coding.submissions.rows, (∃ r ∈ w.coding.submissions.rows, r.Follows r') ∨
      (r'.state = .intent ∧ r'.nextTurnIdentity = none) := by
  intro r' hr'
  cases h with
  | settled key state next owner own was settles =>
    obtain ⟨r, hr, rfl⟩ := List.mem_map.1 (show r' ∈ w.coding.submissions.rows.map _ from hr')
    exact .inl ⟨r, hr, SubmissionRow.follows_move hr was settles⟩
  | intended key owner rows =>
    rw [show _ = w.coding.submissions.rows ++ _ from rows] at hr'
    rcases List.mem_append.1 hr' with hr' | hr'
    · exact .inl ⟨r', hr', rfl, .inl rfl⟩
    · obtain rfl := List.mem_singleton.1 hr'
      exact .inr ⟨rfl, rfl⟩
  | _ => exact .inl ⟨r', hr', rfl, .inl rfl⟩

/-- An event of a kind that the action does not add was there before. -/
theorem Moves.before (h : Moves taskId attemptId p w w') {e : Event} (he : e ∈ w'.log) :
    e ∈ w.log ∨ (e = ⟨p, .dispatched⟩ ∧ w.provider.dispatchClaim? attemptId = none ∧
    w'.provider.dispatchClaim? attemptId ≠ none) ∨
      (∃ k, e = ⟨p, .claimed k⟩ ∧ ∃ r ∈ w'.coding.claims.rows, r.isOf taskId attemptId k) ∨
      (∃ k, e = ⟨p, .ran k⟩ ∧ ⟨p, .claimed k⟩ ∈ w.log) ∨
      (∃ k, e = ⟨p, .submitted k⟩ ∧ ∃ r ∈ w'.coding.submissions.rows, r.key.isOf taskId attemptId ∧ r.key.sequence = k ∧
        r.state = .submitted) := by
  -- an action writes one event at most, and has seen or written the row that stands for it
  cases h with
  | still => exact .inl he
  | provider kept => exact .inl he
  | recorded => exact .inl he
  | intended key owner rows => exact .inl he
  | dispatched free taken =>
    rcases List.mem_cons.1 he with rfl | he
    · exact .inr (.inl ⟨rfl, free, taken⟩)
    · exact .inl he
  | claimed k digest owner free rows =>
    rcases List.mem_cons.1 he with rfl | he
    · refine .inr (.inr (.inl ⟨k, rfl, ⟨taskId, attemptId, k, digest⟩, ?_, rfl, rfl, rfl⟩))
      rw [show _ = w.coding.claims.rows ++ _ from rows]
      exact List.mem_append_right _ List.mem_cons_self
    · exact .inl he
  | ran k claimed once after =>
    rcases List.mem_cons.1 he with rfl | he
    · exact .inr (.inr (.inr (.inl ⟨k, rfl, claimed⟩)))
    · exact .inl he
  | settled key state next owner own was settles =>
    by_cases hstate : state = .submitted
    · subst hstate
      rcases List.mem_cons.1 (show e ∈ ⟨p, .submitted key.sequence⟩ :: w.log from he) with rfl | he
      · obtain ⟨r, hr, hkey, -⟩ := was
        refine .inr (.inr (.inr (.inr ⟨key.sequence, rfl, r.move key .submitted next, List.mem_map_of_mem hr, ?_, ?_, ?_⟩)))
        · rw [SubmissionRow.move_key, hkey]
          exact own
        · rw [SubmissionRow.move_key, hkey]
        · rw [SubmissionRow.move, if_pos hkey]
      · exact .inl he
    · exact .inl (by simpa [hstate] using he)

theorem Inv.step_one (h : Inv taskId attemptId w) (hm : Moves taskId attemptId p w w') :
    ∀ a b, ⟨a, .dispatched⟩ ∈ w'.log → ⟨b, .dispatched⟩ ∈ w'.log → a = b := by
  -- a claim that is made now finds none, so nobody has made one before
  have hnew : ∀ a, ⟨a, .dispatched⟩ ∈ w'.log → ⟨a, .dispatched⟩ ∈ w.log ∨ (a = p ∧ ∀ b, ⟨b, .dispatched⟩ ∉ w.log) := by
    intro a ha
    rcases hm.before ha with ha | ⟨he, hfree, -⟩ | ⟨_, he, -⟩ | ⟨_, he, -⟩ | ⟨_, he, -⟩
    · exact .inl ha
    · exact .inr ⟨congrArg Event.process he, fun b hb => h.held b hb hfree⟩
    all_goals cases he
  intro a b ha hb
  rcases hnew a ha with ha' | ⟨rfl, hnone⟩
  · rcases hnew b hb with hb' | ⟨rfl, hnone⟩
    · exact h.one a b ha' hb'
    · exact absurd ha' (hnone a)
  · rcases hnew b hb with hb' | ⟨rfl, -⟩
    · exact absurd hb' (hnone b)
    · rfl

theorem Inv.step_held (h : Inv taskId attemptId w) (hm : Moves taskId attemptId p w w') :
    ∀ a, ⟨a, .dispatched⟩ ∈ w'.log → w'.provider.dispatchClaim? attemptId ≠ none := by
  intro a ha
  rcases hm.before ha with hbefore | ⟨-, -, htaken⟩ | ⟨_, he, -⟩ | ⟨_, he, -⟩ | ⟨_, he, -⟩
  · cases hm with
    | provider kept => exact kept (h.held a hbefore)
    | dispatched free taken => exact taken
    | _ => exact h.held a hbefore
  · exact htaken
  all_goals cases he

theorem Inv.step_claimedOnce (h : Inv taskId attemptId w) (hm : Moves taskId attemptId p w w') :
    ((claimedOf w'.log).map (·.2)).Nodup := by
  cases hm with
  | claimed k digest owner free rows =>
    show (k :: (claimedOf w.log).map (·.2)).Nodup
    refine List.nodup_cons.2 ⟨fun hk => ?_, h.claimedOnce⟩
    obtain ⟨⟨q, k'⟩, hmem, rfl⟩ := List.mem_map.1 hk
    obtain ⟨r, hr, hof⟩ := h.claims q _ (mem_claimedOf.1 hmem)
    exact free r hr hof
  | settled key state next owner own was settles =>
    show ((claimedOf (if state = .submitted then _ else w.log)).map (·.2)).Nodup
    split
    · exact h.claimedOnce
    · exact h.claimedOnce
  | _ => exact h.claimedOnce

theorem Inv.step_ranOnce (h : Inv taskId attemptId w) (hm : Moves taskId attemptId p w w') :
    ((ranOf w'.log).map (·.2)).Nodup := by
  cases hm with
  | ran k claimed once after =>
    show (k :: (ranOf w.log).map (·.2)).Nodup
    refine List.nodup_cons.2 ⟨fun hk => ?_, h.ranOnce⟩
    obtain ⟨⟨q, k'⟩, hmem, rfl⟩ := List.mem_map.1 hk
    have hran := mem_ranOf.1 hmem
    obtain rfl := h.claimer claimed (h.ran q _ hran)
    exact once hran
  | settled key state next owner own was settles =>
    show ((ranOf (if state = .submitted then _ else w.log)).map (·.2)).Nodup
    split
    · exact h.ranOnce
    · exact h.ranOnce
  | _ => exact h.ranOnce

theorem Moves.submitted (h : Moves taskId attemptId p w w') {r : SubmissionRow} (hr : r ∈ w.coding.submissions.rows)
    (hstate : r.state = .submitted) : r ∈ w'.coding.submissions.rows := by
  obtain ⟨r', hr', -, rfl | ⟨hintent, -⟩⟩ := h.submissions r hr
  · exact hr'
  · rw [hstate] at hintent
    cases hintent

theorem Inv.step (h : Inv taskId attemptId w) (hm : Moves taskId attemptId p w w') : Inv taskId attemptId w' := by
  refine ⟨h.step_one hm, h.step_held hm, fun a k ha => ?_, h.step_claimedOnce hm, fun a k ha => ?_, h.step_ranOnce hm,
    fun a k ha => ?_⟩
  · rcases hm.before ha with ha | ⟨he, -⟩ | ⟨_, he, hrow⟩ | ⟨_, he, -⟩ | ⟨_, he, -⟩
    · obtain ⟨r, hr, hof⟩ := h.claims a k ha
      exact ⟨r, hm.claims hr, hof⟩
    · cases he
    · cases he
      exact hrow
    all_goals cases he
  · rcases hm.before ha with ha | ⟨he, -⟩ | ⟨_, he, -⟩ | ⟨_, he, hclaimed⟩ | ⟨_, he, -⟩
    · exact hm.kept (h.ran a k ha)
    · cases he
    · cases he
    · cases he
      exact hm.kept hclaimed
    · cases he
  · rcases hm.before ha with ha | ⟨he, -⟩ | ⟨_, he, -⟩ | ⟨_, he, -⟩ | ⟨_, he, hrow⟩
    · obtain ⟨r, hr, hof, hk, hstate⟩ := h.submitted a k ha
      exact ⟨r, hm.submitted hr hstate, hof, hk, hstate⟩
    · cases he
    · cases he
    · cases he
    · cases he
      exact hrow

end Invariant

/-! ## Assertions -/

section Assertions

variable (taskId attemptId : String) (p : Nat)

/-- The attempt is dispatched by the process, and an effect may be the next. -/
def Ready (k : Nat) (w : World) : Prop := ⟨p, .dispatched⟩ ∈ w.log ∧ After p k w.log

/-- The effect is claimed by the process and has not run. -/
def Granted (k : Nat) (w : World) : Prop := Ready p k w ∧ ⟨p, .claimed k⟩ ∈ w.log ∧ ⟨p, .ran k⟩ ∉ w.log

/-- The attempt is dispatched by the process, and its submission has its intent. -/
def Intended (key : SubmissionKey) (w : World) : Prop := ⟨p, .dispatched⟩ ∈ w.log ∧ ∃ r ∈ w.coding.submissions.rows,
    r.isIntent key

/-- An assertion that the other processes keep, and that is not about the provider attempts or the records of tools. -/
structure Carried (P : World → Prop) : Prop where
  steady : Script.Steady (Pool.Foreign (Moves taskId attemptId) p) (Inv taskId attemptId) P
  provider : ∀ w store, P w → P { w with provider := store }
  events : ∀ w events, P w → P { w with coding := { w.coding with events } }

/-- A part of the dispatch by the process. -/
def Holds {α : Type} (P : World → Prop) (x : Program α) (A : α → World → Prop) (E : World → Prop) : Prop :=
  Script.Triple (Pool.Foreign (Moves taskId attemptId) p) (Moves taskId attemptId p) (Inv taskId attemptId) P x A E

end Assertions

section Carried

variable {taskId attemptId : String} {p : Nat}

theorem Carried.of {P : World → Prop}
    (h : ∀ q w w', q ≠ p → Inv taskId attemptId w → P w → Moves taskId attemptId q w w' → P w')
    (hprovider : ∀ w store, P w → P { w with provider := store })
    (hevents : ∀ w events, P w → P { w with coding := { w.coding with events } }) : Carried taskId attemptId p P := by
  refine ⟨?_, hprovider, hevents⟩
  rintro w w' ⟨hi, hP⟩ ⟨q, hne, hm⟩
  exact ⟨hi.step hm, h q w w' hne hi hP hm⟩

theorem Carried.true : Carried taskId attemptId p fun _ => True := .of (fun _ _ _ _ _ _ _ => trivial)
    (fun _ _ h => h) fun _ _ h => h

theorem Ready.carried : Carried taskId attemptId p (Ready p k) := by
  refine .of (fun q w w' _ _ h hm => ?_) (fun _ _ h => h) fun _ _ h => h
  exact ⟨hm.kept h.1, fun j hj hpos => hm.kept (h.2 j hj hpos)⟩

theorem Granted.carried : Carried taskId attemptId p (Granted p k) := by
  refine .of (fun q w w' hne _ h hm => ?_) (fun _ _ h => h) fun _ _ h => h
  obtain ⟨⟨hdispatched, hafter⟩, hclaimed, hran⟩ := h
  exact ⟨⟨hm.kept hdispatched, fun j hj hpos => hm.kept (hafter j hj hpos)⟩, hm.kept hclaimed,
    fun hran' => hran (hm.foreign hran' (Ne.symm hne))⟩

/-- Another process that touches submissions would have dispatched the attempt too. -/
theorem Moves.submissions_foreign {q : Nat} {w w' : World} (h : Moves taskId attemptId q w w')
    (hi : Inv taskId attemptId w) (hne : q ≠ p) (howner : ⟨p, .dispatched⟩ ∈ w.log) :
    w'.coding.submissions = w.coding.submissions := by
  cases h with
  | intended key owner rows => exact absurd (hi.one q p owner howner) hne
  | settled key state next owner own was settles => exact absurd (hi.one q p owner howner) hne
  | _ => rfl

theorem Carried.and {P : World → Prop} {c : Prop} (h : Carried taskId attemptId p P) :
    Carried taskId attemptId p fun w => P w ∧ c := by
  refine ⟨?_, fun w store hw => ⟨h.provider w store hw.1, hw.2⟩, fun w events hw => ⟨h.events w events hw.1, hw.2⟩⟩
  rintro w w' ⟨hi, hP, hc⟩ hm
  obtain ⟨hi', hP'⟩ := h.steady w w' ⟨hi, hP⟩ hm
  exact ⟨hi', hP', hc⟩

theorem Carried.logged {e : Event} : Carried taskId attemptId p fun w => e ∈ w.log :=
  .of (fun _ _ _ _ _ h hm => hm.kept h) (fun _ _ h => h) fun _ _ h => h

theorem Intended.carried : Carried taskId attemptId p (Intended p key) := by
  refine .of (fun q w w' hne hi h hm => ?_) (fun _ _ h => h) fun _ _ h => h
  refine ⟨hm.kept h.1, ?_⟩
  rw [hm.submissions_foreign hi hne h.1]
  exact h.2

end Carried

variable {request : NativeWorkerToolRequest}

/-! ## The parts of a dispatch -/

section Parts

variable {taskId attemptId : String} {p : Nat} {α β : Type} {P E : World → Prop} {A : α → World → Prop}
    {B : β → World → Prop}

theorem Holds.bind {x : Program α} {f : α → Program β} (h : Holds taskId attemptId p P x A E)
    (hE : Carried taskId attemptId p E) (hf : ∀ a, Holds taskId attemptId p (A a) (f a) B E) :
    Holds taskId attemptId p P (x >>= f) B E :=
  Script.Triple.bind h hE.steady hf

theorem Holds.check_bind {r : Except Raised α} {f : α → Program β} (hE : Carried taskId attemptId p E)
    (hPE : ∀ w, P w → E w) (hf : ∀ a, r = .ok a → Holds taskId attemptId p P (f a) B E) : Holds taskId attemptId p P
    (Script.check r >>= f) B E :=
  Script.Triple.check_bind hE.steady hPE hf

theorem Holds.check {r : Except Raised α} (hP : Carried taskId attemptId p P) (hE : Carried taskId attemptId p E)
    (hPE : ∀ w, P w → E w) : Holds taskId attemptId p P (Script.check r) (fun _ => P) E :=
  Script.Triple.check (fun _ _ => hP.steady) hE.steady (fun _ _ _ h => h) hPE

theorem Holds.raise {e : Raised} (hE : Carried taskId attemptId p E) (hPE : ∀ w, P w → E w) :
    Holds taskId attemptId p P (Script.check (.error e)) A E :=
  fun w hi hw => .ret hE.steady ⟨hi, hPE w hw⟩

theorem Holds.pure {a : α} (h : Carried taskId attemptId p (A a)) (hPA : ∀ w, P w → A a w) :
    Holds taskId attemptId p P (pure a : Program α) A E :=
  (Script.Triple.pure h.steady).weaken hPA (fun _ _ h => h) fun _ h => h

theorem Holds.mapError {x : Program α} {f : Raised → Raised} (h : Holds taskId attemptId p P x A E)
    (hA : ∀ a, Carried taskId attemptId p (A a)) (hE : Carried taskId attemptId p E) : Holds taskId attemptId p P
    (x.mapError f) A E :=
  Script.Triple.mapError h (fun a => (hA a).steady) hE.steady

/-- A question changes nothing. -/
theorem holds_ask {q : Ask} {answer : Reply → Except Raised α} (hP : Carried taskId attemptId p P)
    (hE : Carried taskId attemptId p E) (hPE : ∀ w, P w → E w) : Holds taskId attemptId p P (ask q answer)
    (fun _ => P) E := by
  refine Script.Triple.commit hP.steady (fun _ => hP.steady) hE.steady fun w i hi hw => ⟨.still, hi, ?_⟩
  dsimp only
  cases answer i with
  | ok a => exact hw
  | error e => exact hPE w hw

theorem holds_admitEffect (hP : Carried taskId attemptId p P) (hE : Carried taskId attemptId p E)
    (hPE : ∀ w, P w → E w) :
    Holds taskId attemptId p P admitEffect (fun _ => P) E :=
  (holds_ask hP hE hPE).bind hE fun _ => (holds_ask hP hE hPE).mapError (fun _ => hP) hE

theorem holds_identityOf {q : Ask} {name : String} (hP : Carried taskId attemptId p P)
    (hE : Carried taskId attemptId p E) (hPE : ∀ w, P w → E w) : Holds taskId attemptId p P (identityOf q name)
    (fun _ => P) E :=
  (holds_ask hP hE hPE).bind hE fun _ => .check_bind hE hPE fun _ _ => .pure hP fun _ h => h

variable {message : String}

/-- A SELECT, and what it says of the store it saw. -/
theorem holds_select {read : CodingStore → α} (hP : Carried taskId attemptId p P)
    (hA : ∀ a, Carried taskId attemptId p (A a)) (hE : Carried taskId attemptId p E) (hPE : ∀ w, P w → E w)
    (h : ∀ w, Inv taskId attemptId w → P w → A (read w.coding) w) : Holds taskId attemptId p P (select message read) A
    E := by
  refine Script.Triple.commit hP.steady (fun a => (hA a).steady) hE.steady fun w i hi hw => ⟨.still, hi, ?_⟩
  cases i.fails with
  | true => exact hPE w hw
  | false => exact h w hi hw

/-- A statement that writes, or fails and changes nothing. -/
theorem holds_write {statement : World → Option World} {Q : World → Prop} (hP : Carried taskId attemptId p P)
    (hQ : Carried taskId attemptId p Q) (hE : Carried taskId attemptId p E) (hPE : ∀ w, P w → E w)
    (h : ∀ w w', Inv taskId attemptId w → P w → statement w = some w' → Moves taskId attemptId p w w' ∧ Q w') :
    Holds taskId attemptId p P (write message statement) (fun _ => Q) E := by
  refine Script.Triple.commit hP.steady (fun _ => hQ.steady) hE.steady fun w i hi hw => ?_
  cases hs : if i.fails then none else statement w with
  | none => exact ⟨.still, hi, hPE w hw⟩
  | some w' =>
    have hstatement : statement w = some w' := by
      split_ifs at hs
      exact hs
    obtain ⟨hm, hQ'⟩ := h w w' hi hw hstatement
    exact ⟨hm, hi.step hm, hQ'⟩

/-- A transaction on the provider attempts that keeps the dispatch claims, with what it logs when it returns. -/
theorem holds_transact_done {x : Tx Error Recovery.Store α} {done : List Event → List Event} {Q : World → Prop}
    (hx : KeepsClaims x) (hP : Carried taskId attemptId p P) (hQ : Carried taskId attemptId p Q)
    (hE : Carried taskId attemptId p E) (hPE : ∀ w, P w → E w) (h : ∀ w a store, P w → x w.provider = (.ok a, store) →
      Moves taskId attemptId p w { w with provider := store, log := done w.log } ∧
        Q { w with provider := store, log := done w.log }) :
    Holds taskId attemptId p P (transact message x done) (fun _ => Q) E := by
  refine Script.Triple.commit hP.steady (fun _ => hQ.steady) hE.steady fun w i hi hw => ?_
  have hm : Moves taskId attemptId p w { w with provider := (x w.provider).2 } := .provider (hx w.provider attemptId)
  have hw' : P { w with provider := (x w.provider).2 } := hP.provider w _ hw
  cases hfails : i.fails with
  | true =>
    simp only [if_true]
    exact ⟨.still, hi, hPE w hw⟩
  | false =>
    rcases hresult : x w.provider with ⟨e | a, store⟩ <;> rw [hresult] at hm hw' <;>
      simp only [Bool.false_eq_true, if_false]
    · exact ⟨hm, hi.step hm, hPE _ hw'⟩
    · -- the commit stands also when its read-back fails
      cases hlate : i.late with
      | true =>
        simp only [if_true]
        exact ⟨hm, hi.step hm, hPE _ hw'⟩
      | false =>
        simp only [Bool.false_eq_true, if_false]
        obtain ⟨hdone, hQ'⟩ := h w a store hw hresult
        exact ⟨hdone, hi.step hdone, hQ'⟩

theorem holds_transact {x : Tx Error Recovery.Store α} (hx : KeepsClaims x) (hP : Carried taskId attemptId p P)
    (hE : Carried taskId attemptId p E) (hPE : ∀ w, P w → E w) :
    Holds taskId attemptId p P (transact message x id) (fun _ => P) E := by
  refine holds_transact_done hx hP hP hE hPE fun w a store hw hresult => ⟨.provider ?_, hP.provider w store hw⟩
  have hkept := hx w.provider attemptId
  rwa [hresult] at hkept

section Store

variable (hP : Carried taskId attemptId p P) (hE : Carried taskId attemptId p E) (hPE : ∀ w, P w → E w)

include hP hE hPE

theorem holds_requireReconciled {acknowledged : List Nat} :
    Holds taskId attemptId p P (requireReconciled taskId attemptId acknowledged) (fun _ => P) E := by
  refine Holds.bind (A := fun _ => P) (Holds.mapError ?_ (fun _ => hP) hE) hE fun _ => .check hP hE hPE
  refine .check_bind hE hPE fun _ _ => ?_
  iterate 3 refine (holds_select hP (fun _ => hP) hE hPE fun _ _ h => h).bind hE fun _ => ?_
  exact .pure hP fun _ h => h

theorem holds_append {record : CodingToolEventRecord} : Holds taskId attemptId p P (append record) (fun _ => P) E := by
  refine (holds_select hP (fun _ => hP) hE hPE fun _ _ h => h).bind hE fun existing => ?_
  cases existing with
  | some stored => exact .check hP hE hPE
  | none =>
    refine holds_write hP hP hE hPE fun w w' _ hw hstatement => ?_
    obtain ⟨events, -, rfl⟩ := Option.map_eq_some_iff.1 hstatement
    exact ⟨.recorded, hP.events w events hw⟩

theorem holds_persistToolEvent {host : Host} {call : Call taskId attemptId} {session turn : String}
    {result : NativeWorkerToolResult} {lifecycle : Lifecycle} :
    Holds taskId attemptId p P (persistToolEvent host call session turn request result lifecycle) (fun _ => P) E :=
  .check_bind hE hPE fun _ _ => (holds_append hP hE hPE).mapError (fun _ => hP) hE

theorem holds_makeResult {r : NativeWorkerToolResult} : Holds taskId attemptId p P (makeResult r) (fun _ => P) E :=
  .check_bind hE hPE fun _ _ => .pure hP fun _ h => h

theorem holds_toolResult {answer : Except ToolFailure ToolRun} :
    Holds taskId attemptId p P (toolResult request answer) (fun _ => P) E := by
  cases answer with
  | ok run =>
    simp only [toolResult]
    split
    · exact (holds_makeResult hP hE hPE).bind hE fun _ => .pure hP fun _ h => h
    · exact (holds_makeResult hP hE hPE).bind hE fun _ => .pure hP fun _ h => h
  | error failure =>
    refine (holds_makeResult hP hE hPE).bind hE fun _ => ?_
    exact Holds.bind (A := fun _ => P) (.check hP hE hPE) hE fun _ => .pure hP fun _ h => h

end Store

theorem holds_claimEffect {digest : Digest} :
    Holds taskId attemptId p (Ready p k) (claimEffect p taskId attemptId k digest)
      (fun claimed w => if claimed = true then Granted p k w else Ready p k w) fun _ => True := by
  refine .check_bind .true (fun _ _ => trivial) fun _ _ => ?_
  refine (holds_select Ready.carried (fun _ => Ready.carried) .true (fun _ _ => trivial) fun _ _ h => h).bind .true
    fun existing => ?_
  cases existing with
  | some stored =>
    refine .check_bind .true (fun _ _ => trivial) fun _ _ => .pure ?_ fun _ h => by simpa using h
    simpa using Ready.carried
  | none =>
    refine Holds.bind (A := fun _ => Granted p k) ?_ .true fun _ => .pure (by simpa using Granted.carried)
      fun _ h => by simpa using h
    refine holds_write Ready.carried Granted.carried .true (fun _ _ => trivial) fun w w' hi hw hstatement => ?_
    obtain ⟨claims, hinsert, rfl⟩ := Option.map_eq_some_iff.1 hstatement
    obtain ⟨hapart, hrows⟩ := Table.insert?_eq_some.1 hinsert
    have hfree : ∀ r ∈ w.coding.claims.rows, ¬ r.isOf taskId attemptId k := by
      intro r hr hof
      have := hapart r hr
      simp only [EffectClaimRow.clash, decide_eq_false_iff_not] at this
      exact this hof
    refine ⟨.claimed k digest hw.1 hfree hrows, ⟨List.mem_cons_of_mem _ hw.1, fun j hj hpos => ?_⟩, List.mem_cons_self,
      fun hran => ?_⟩
    · exact List.mem_cons_of_mem _ (hw.2 j hj hpos)
    · -- an effect that has run was claimed, and its claim would be in the way
      rcases List.mem_cons.1 hran with he | hran
      · cases he
      · obtain ⟨r, hr, hof⟩ := hi.claims p k (hi.ran p k hran)
        exact hfree r hr hof

theorem holds_runTool :
    Holds taskId attemptId p (Granted p request.sequence) (runTool p request) (fun _ => Ready p request.sequence)
    fun _ => True := by
  refine Script.Triple.commit Granted.carried.steady (fun _ => Ready.carried.steady) Carried.true.steady fun w i hi
    hw => ?_
  obtain ⟨hready, hclaimed, honce⟩ := hw
  have hm : Moves taskId attemptId p w { w with log := ⟨p, .ran request.sequence⟩ :: w.log } :=
    .ran _ hclaimed honce hready.2
  refine ⟨hm, hi.step hm, ?_⟩
  dsimp only
  cases i.tool with
  | ok run => exact ⟨hm.kept hready.1, fun j hj hpos => hm.kept (hready.2 j hj hpos)⟩
  | error e => trivial

variable {m : Memory}

/-- A tool request is executed after the submission before it, under a claim of its own. -/
theorem holds_authorizedToolRequest {host : Host} {call : Call taskId attemptId} :
    Holds taskId attemptId p (Ready p request.sequence) (authorizedToolRequest host p call m request)
      (fun _ => Ready p request.sequence) fun _ => True := by
  have hP : Carried taskId attemptId p (Ready p request.sequence) := Ready.carried
  have htrue : ∀ w, Ready p request.sequence w → True := fun _ _ => trivial
  have hexecute : Holds taskId attemptId p (Ready p request.sequence) (executeRequest host p call m request)
      (fun _ => Ready p request.sequence) fun _ => True := by
    refine (holds_ask hP .true htrue).bind .true fun _ => (holds_ask hP .true htrue).bind .true fun _ => ?_
    refine .check_bind .true htrue fun session _ => .check_bind .true htrue fun turn _ => ?_
    refine (holds_requireReconciled hP .true htrue).bind .true fun _ => holds_claimEffect.bind .true fun claimed => ?_
    cases claimed with
    | true =>
      refine Script.Triple.weaken (holds_runTool.bind .true fun answer => ?_) (fun _ h => by simpa using h)
        (fun _ _ h => h) fun _ h => h
      exact (holds_toolResult hP .true htrue).bind .true fun _ => (holds_persistToolEvent hP .true htrue).bind .true
        fun _ => .pure hP fun _ h => h
    | false =>
      refine Script.Triple.weaken ((holds_makeResult hP .true htrue).bind .true fun _ => ?_)
        (fun _ h => by simpa using h) (fun _ _ h => h) fun _ h => h
      exact (holds_persistToolEvent hP .true htrue).bind .true fun _ => .pure hP fun _ h => h
  refine Holds.bind (A := fun _ => Ready p request.sequence) ?_ .true fun granted => ?_
  · refine Script.Triple.handle (F := Ready p request.sequence) ?_ (fun _ => hP.steady) fun e => ?_
    · refine (holds_admitEffect hP hP fun _ h => h).bind hP fun _ => ?_
      exact (holds_ask hP hP fun _ h => h).bind hP fun _ => .pure hP fun _ h => h
    · split
      · exact Holds.pure hP fun _ h => h
      · exact Holds.check hP .true htrue
  · split
    · exact hexecute
    · exact holds_makeResult hP .true htrue

/-! ### Submissions -/

theorem holds_recordSubmission_intent :
    Holds taskId attemptId p (Ready p k) (recordSubmission p key .intent none) (fun _ => Intended p key) fun _ =>
    True := by
  refine .check_bind .true (fun _ _ => trivial) fun _ _ => ?_
  refine Holds.bind (A := fun existing w => ⟨p, .dispatched⟩ ∈ w.log ∧
    (existing = some (.intent, none) → Intended p key w)) ?_ .true fun existing => ?_
  · refine holds_select Ready.carried (fun existing => ?_) .true (fun _ _ => trivial) fun w hi hw =>
      ⟨hw.1, fun hfound => ?_⟩
    · refine .of (fun q w w' hne hi h hm => ⟨hm.kept h.1, fun hfound => ?_⟩) (fun _ _ h => h) fun _ _ h => h
      exact (Intended.carried.steady w w' ⟨hi, h.2 hfound⟩ ⟨q, hne, hm⟩).2
    · obtain ⟨r, hr, hvalue⟩ := Option.map_eq_some_iff.1 hfound
      obtain ⟨hstate, hnext⟩ := Prod.mk.inj hvalue
      exact ⟨hw.1, r, List.mem_of_find?_eq_some hr, by simpa using List.find?_some hr, hstate, hnext⟩
  · cases existing with
    | some value =>
      dsimp only
      by_cases hsame : value = (.intent, none)
      · rw [if_pos hsame]
        exact .pure Intended.carried fun w h => h.2 (congrArg some hsame)
      · rw [if_neg hsame, if_neg fun hmoves => hsame hmoves.1]
        exact .raise .true fun _ _ => trivial
    | none =>
      refine .check_bind .true (fun _ _ => trivial) fun _ _ => ?_
      refine Script.Triple.weaken (holds_write Carried.logged Intended.carried .true (fun _ _ => trivial) ?_)
        (fun _ h => h.1) (fun _ _ h => h) fun _ h => h
      intro w w' hi howner hstatement
      obtain ⟨submissions, hinsert, rfl⟩ := Option.map_eq_some_iff.1 hstatement
      have hrows := (Table.insert?_eq_some.1 hinsert).2
      refine ⟨.intended _ howner hrows, howner, ⟨key, .intent, none⟩, ?_, rfl, rfl, rfl⟩
      show _ ∈ submissions.rows
      rw [hrows]
      exact List.mem_append_right _ List.mem_cons_self

/-- What a submission came to. -/
def Settled (p k : Nat) (state : SubmissionState) (w : World) : Prop :=
  ⟨p, .dispatched⟩ ∈ w.log ∧ (state = .submitted → ⟨p, .submitted k⟩ ∈ w.log)

variable {state : SubmissionState}

theorem Settled.carried : Carried taskId attemptId p (Settled p k state) :=
  .of (fun _ _ _ _ _ h hm => ⟨hm.kept h.1, fun hstate => hm.kept (h.2 hstate)⟩) (fun _ _ h => h) fun _ _ h => h

theorem holds_recordSubmission_settle (hkey : key.isOf taskId attemptId)
    (hstate : state = .submitted ∨ state = .uncertain) :
    Holds taskId attemptId p (Intended p key) (recordSubmission p key state next)
    (fun _ => Settled p key.sequence state)
      fun _ => True := by
  refine .check_bind .true (fun _ _ => trivial) fun _ _ => ?_
  refine Holds.bind (A := fun existing w => Intended p key w ∧ existing = some (.intent, none)) ?_ .true fun existing =>
    ?_
  · refine holds_select Intended.carried (fun _ => Intended.carried.and) .true (fun _ _ => trivial) fun w _ hw =>
      ⟨hw, ?_⟩
    -- the row of the intent is the only row with the key
    obtain ⟨r, hr, hrkey, hrstate, hrnext⟩ := hw.2
    rw [(Table.find?_key SubmissionRow.key_isKey).2 ⟨hr, hrkey⟩, Option.map_some, hrstate, hrnext]
  · refine fun w hi hw => ?_
    obtain ⟨hw, rfl⟩ := hw
    have hother : ¬ ((SubmissionState.intent, (none : Option String)) = (state, next)) := by
      rintro h
      obtain ⟨rfl, -⟩ := Prod.mk.inj h
      rcases hstate with h | h <;> cases h
    dsimp only
    rw [if_neg hother, if_pos ⟨rfl, hstate⟩]
    refine holds_write Intended.carried Settled.carried .true (fun _ _ => trivial) (fun w w' hi hw hstatement => ?_) w
      hi hw
    obtain rfl := Option.some.inj hstatement
    refine ⟨.settled key state next hw.1 hkey hw.2 hstate, ?_, fun hsubmitted => ?_⟩
    · show _ ∈ if state = .submitted then _ else w.log
      split
      · exact List.mem_cons_of_mem _ hw.1
      · exact hw.1
    · show _ ∈ if state = .submitted then _ else w.log
      rw [if_pos hsubmitted]
      exact List.mem_cons_self

/-- The submission that the dispatch remembers has its intent. -/
def Pending (taskId attemptId : String) (p k : Nat) (m : Memory) (w : World) : Prop :=
  ∃ session turn, m.session = some session ∧ m.submissionTurn? k = some turn ∧
    Intended p ⟨taskId, attemptId, session, turn, k⟩ w

theorem Pending.carried : Carried taskId attemptId p (Pending taskId attemptId p k m) := by
  refine .of (fun q w w' hne hi h hm => ?_) (fun _ _ h => h) fun _ _ h => h
  obtain ⟨session, turn, hsession, hturn, h⟩ := h
  exact ⟨session, turn, hsession, hturn, (Intended.carried.steady w w' ⟨hi, h⟩ ⟨q, hne, hm⟩).2⟩

theorem holds_submission_intent {j k : Nat} :
    Holds taskId attemptId p (Ready p j) (submission p taskId attemptId m k .intent none)
    (fun m => Pending taskId attemptId p k m)
      fun _ => True := by
  refine .check_bind .true (fun _ _ => trivial) fun session hsession => ?_
  refine .check_bind .true (fun _ _ => trivial) fun turn hturn => ?_
  refine (holds_recordSubmission_intent.mapError (fun _ => Intended.carried) .true).bind .true fun _ => ?_
  refine .pure Pending.carried fun w hw => ⟨session, turn, demand_eq_ok.1 hsession, ?_, hw⟩
  simp [Memory.submissionTurn?]

theorem holds_submission_settle (hstate : state = .submitted ∨ state = .uncertain) :
    Holds taskId attemptId p (Pending taskId attemptId p k m) (submission p taskId attemptId m k state next)
      (fun _ => Settled p k state) fun _ => True := by
  have hintent : state ≠ .intent := by rintro rfl; rcases hstate with h | h <;> cases h
  refine .check_bind .true (fun _ _ => trivial) fun session hsession => ?_
  refine .check_bind .true (fun _ _ => trivial) fun turn hturn => ?_
  rw [if_neg hintent, demand_eq_ok] at hturn
  rw [demand_eq_ok] at hsession
  refine Holds.bind (A := fun _ => Settled p k state) (Holds.mapError ?_ (fun _ => Settled.carried) .true) .true
    fun _ =>
    .pure Settled.carried fun _ h => h
  refine Script.Triple.weaken (holds_recordSubmission_settle ⟨rfl, rfl⟩ hstate) (fun w hw => ?_)
    (fun _ _ h => h) fun _ h => h
  obtain ⟨session', turn', hsession', hturn', hw⟩ := hw
  obtain rfl := Option.some.inj (hsession.symm.trans hsession')
  obtain rfl := Option.some.inj (hturn.symm.trans hturn')
  exact hw

/-! ### The conversation -/

variable {host : Host} {call : Call taskId attemptId}

theorem keepsClaims_turn (session turn : String) :
    KeepsClaims (recordExternalTurn host call.identity call.recovery attemptId session turn call.lease
    call.observedAt) :=
  (keepsClaims_call (.turn call.identity call.recovery attemptId session turn call.lease call.observedAt)).of_map

theorem holds_submitResult {session : String} {result : NativeWorkerToolResult} :
    Holds taskId attemptId p (Pending taskId attemptId p k m) (submitResult host call m session result)
      (fun next => Pending taskId attemptId p k next.1) (Pending taskId attemptId p k m) := by
  have hP : Carried taskId attemptId p (Pending taskId attemptId p k m) := Pending.carried
  have hself : ∀ w, Pending taskId attemptId p k m w → Pending taskId attemptId p k m w := fun _ h => h
  refine (holds_admitEffect hP hP hself).bind hP fun _ => (holds_ask hP hP hself).bind hP fun _ => ?_
  refine (holds_admitEffect hP hP hself).bind hP fun _ => (holds_identityOf hP hP hself).bind hP fun next => ?_
  refine Holds.bind (A := fun m => Pending taskId attemptId p k m) ?_ hP fun m => .pure Pending.carried fun _ h => h
  refine .check_bind hP hself fun _ _ => (holds_transact (keepsClaims_turn session next) hP hP hself).bind hP fun _ =>
    ?_
  exact (holds_ask hP hP hself).bind hP fun _ => .pure Pending.carried fun _ h => h

/-- After every step of the conversation the next effect has its submission before it. -/
theorem holds_consumeSteps {session : String} {left expected : Nat} :
    Holds taskId attemptId p (Ready p expected) (consumeSteps host p call session left expected m) (fun _ _ => True)
      fun _ => True := by
  induction left generalizing expected m with
  | zero => exact .raise .true fun _ _ => trivial
  | succ left ih =>
    have hP : Carried taskId attemptId p (Ready p expected) := Ready.carried
    have htrue : ∀ w, Ready p expected w → True := fun _ _ => trivial
    refine (holds_admitEffect hP .true htrue).bind .true fun _ => (holds_ask hP .true htrue).bind .true fun step => ?_
    cases step with
    | response response => exact .pure .true htrue
    | request request =>
      refine .check_bind .true htrue fun _ hsequence => ?_
      obtain rfl : request.sequence = expected := by simpa [refuse_eq_ok] using hsequence
      refine holds_authorizedToolRequest.bind .true fun result => .check_bind .true htrue fun _ _ => ?_
      refine (holds_admitEffect hP .true htrue).bind .true fun _ => holds_submission_intent.bind .true fun m => ?_
      refine Holds.bind (A := fun next => Pending taskId attemptId p request.sequence next.1) ?_ .true fun next => ?_
      · refine Script.Triple.onError holds_submitResult (fun _ => Pending.carried.steady) Carried.true.steady ?_
        refine (holds_admitEffect Pending.carried .true fun _ _ => trivial).bind .true fun _ => ?_
        exact (holds_submission_settle (.inr rfl)).bind .true fun _ => .pure .true fun _ _ => trivial
      · refine (holds_admitEffect Pending.carried .true fun _ _ => trivial).bind .true fun _ => ?_
        refine (holds_submission_settle (.inl rfl)).bind .true fun m => Script.Triple.weaken ih (fun w hw => ⟨hw.1, ?_⟩)
          (fun _ _ h => h) fun _ h => h
        intro k hk _
        obtain rfl := Nat.succ.inj hk
        exact hw.2 rfl

/-! ### The dispatch -/

theorem holds_checkpointDispatch :
    Holds taskId attemptId p (fun _ => True) (checkpointDispatch host p call) (fun _ => Ready p 1) fun _ => True := by
  refine Holds.bind (A := fun _ => Ready p 1) ?_ .true fun _ => .pure Ready.carried fun _ h => h
  refine holds_transact_done (KeepsClaims.of_map
    (keepsClaims_call (.claim .worker call.identity call.recovery attemptId call.lease call.observedAt))) .true
      Ready.carried .true (fun _ _ => trivial) fun w row store _ hresult => ?_
  obtain ⟨hfree, htaken⟩ := claimWorkerDispatch_ok hresult
  refine ⟨.dispatched hfree htaken, List.mem_cons_self, fun k hk hpos => ?_⟩
  omega

/-- A `try` whose handler finds nothing to rely on. -/
theorem holds_attempt {x : Program α} {handler : Raised → Program (Except CodexWorkerResult α)}
    {next : α → Program CodexWorkerResult} (hA : ∀ a, Carried taskId attemptId p (A a))
    (hx : Holds taskId attemptId p P x A fun _ => True)
    (hhandler : ∀ e, Holds taskId attemptId p (fun _ => True) (handler e)
      (fun r w => match r with
        | .ok a => A a w
        | .error _ => True) fun _ => True)
    (hnext : ∀ a, Holds taskId attemptId p (A a) (next a) (fun _ _ => True) fun _ => True) :
    Holds taskId attemptId p P (attempt x handler next) (fun _ _ => True) fun _ => True := by
  have hresult : ∀ r : Except CodexWorkerResult α, Carried taskId attemptId p fun w => match r with
      | .ok a => A a w
      | .error _ => True := by
    intro r
    cases r with
    | ok a => exact hA a
    | error _ => exact .true
  refine Holds.bind (A := fun r w => match r with
    | .ok a => A a w
    | .error _ => True) ?_ .true fun r => ?_
  · refine Script.Triple.handle (F := fun _ => True) ?_ (fun r => (hresult r).steady) hhandler
    exact hx.bind .true fun a => .pure (hresult (.ok a)) fun _ h => h
  · cases r with
    | ok a => exact hnext a
    | error result => exact .pure .true fun _ _ => trivial

theorem holds_fallback {session turn : Option String} (e : Raised) :
    Holds taskId attemptId p (fun _ => True) (fallback (α := α) host attemptId session turn e)
      (fun r w => match r with
        | .ok a => A a w
        | .error _ => True) fun _ => True := by
  unfold fallback
  split
  · exact .check_bind .true (fun _ _ => trivial) fun _ _ => .pure .true fun _ _ => trivial
  · exact .raise .true fun _ _ => trivial
  · exact .pure .true fun _ _ => trivial

theorem holds_conversationFallback {session turn : String} (e : Raised) :
    Holds taskId attemptId p (fun _ => True) (conversationFallback (α := α) session turn e)
      (fun r w => match r with
        | .ok a => A a w
        | .error _ => True) fun _ => True := by
  unfold conversationFallback
  split
  · exact .pure .true fun _ _ => trivial
  · exact .pure .true fun _ _ => trivial

theorem holds_adapterDispatch :
    Holds taskId attemptId p (fun _ => True) (adapterDispatch host p call) (fun _ _ => True) fun _ => True := by
  have hP : Carried taskId attemptId p (Ready p 1) := Ready.carried
  have htrue : ∀ w, Ready p 1 w → True := fun _ _ => trivial
  refine ((holds_admitEffect .true .true fun _ _ => trivial).mapError (fun _ => .true) .true).bind .true fun _ => ?_
  refine holds_attempt (A := fun _ => Ready p 1) (fun _ => hP) ?_ holds_fallback fun session => ?_
  · refine (holds_admitEffect .true .true fun _ _ => trivial).bind .true fun _ => holds_checkpointDispatch.bind .true
      fun _ => ?_
    exact holds_identityOf hP .true htrue
  split
  · exact .pure .true htrue
  refine holds_attempt (A := fun _ => Ready p 1) (fun _ => hP) ?_ holds_fallback fun m => ?_
  · refine (holds_admitEffect hP .true htrue).bind .true fun _ => ?_
    refine (holds_transact (KeepsClaims.of_map (keepsClaims_call (.session call.identity call.recovery attemptId session call.lease
      call.observedAt))) hP .true htrue).bind .true fun _ => ?_
    exact (holds_ask hP .true htrue).bind .true fun _ => .pure hP fun _ h => h
  refine holds_attempt (A := fun _ => Ready p 1) (fun _ => hP) ?_ holds_fallback fun turn => ?_
  · exact (holds_admitEffect hP .true htrue).bind .true fun _ => holds_identityOf hP .true htrue
  refine holds_attempt (A := fun _ => Ready p 1) (fun _ => hP) ?_ holds_fallback fun m => ?_
  · refine (holds_admitEffect hP .true htrue).bind .true fun _ => .check_bind .true htrue fun _ _ => ?_
    refine (holds_transact (keepsClaims_turn session turn) hP .true htrue).bind .true fun _ => ?_
    exact (holds_ask hP .true htrue).bind .true fun _ => .pure hP fun _ h => h
  refine holds_attempt (A := fun _ _ => True) (fun _ => .true) ?_ holds_conversationFallback fun _ =>
    .pure .true fun _ _ => trivial
  refine holds_consumeSteps.bind .true fun response => ?_
  exact (holds_identityOf .true .true fun _ _ => trivial).bind .true fun _ => .pure .true fun _ _ => trivial

theorem holds_recordTerminalFailure {result : CodexWorkerResult} :
    Holds taskId attemptId p (fun _ => True) (recordTerminalFailure host call result) (fun _ _ => True) fun _ =>
    True := by
  have htrue : ∀ w : World, True → True := fun _ h => h
  refine .check_bind .true htrue fun _ _ => .check_bind .true htrue fun _ _ => .check_bind .true htrue fun record _ =>
    ?_
  refine (holds_transact (keepsClaims_failure call.identity record call.observedAt) .true .true htrue).bind .true
    fun digest => ?_
  refine (holds_transact (keepsClaims_query _) .true .true htrue).bind .true fun _ => .check_bind .true htrue fun _ _ =>
    ?_
  refine (holds_transact (KeepsClaims.of_map (keepsClaims_call (.recover call.identity call.recovery ⟨attemptId, none, 1⟩ call.lease
    call.observedAt))) .true .true htrue).bind .true fun _ => ?_
  exact .check .true .true htrue

theorem holds_dispatch :
    Holds taskId attemptId p (fun _ => True) (dispatch host p call) (fun _ _ => True) fun _ => True := by
  have htrue : ∀ w : World, True → True := fun _ h => h
  refine ((holds_ask .true .true htrue).mapError (fun _ => .true) .true).bind .true fun _ => .check_bind .true htrue
    fun _ _ => ?_
  refine (holds_ask .true .true htrue).bind .true fun _ => (holds_ask .true .true htrue).bind .true fun _ => ?_
  refine ((holds_ask .true .true htrue).mapError (fun _ => .true) .true).bind .true fun _ => ?_
  refine (holds_requireReconciled .true .true htrue).bind .true fun _ => holds_adapterDispatch.bind .true fun result =>
    ?_
  split
  · exact holds_recordTerminalFailure.bind .true fun _ => .pure .true fun _ _ => trivial
  · exact .pure .true fun _ _ => trivial

end Parts

/-! ## A dispatch after a claim -/

section Late

variable {taskId attemptId : String} {p : Nat} {α : Type} {rely : World → World → Prop} {P : World → Prop}

/-- An effect of the attempt was claimed. -/
def Claimed (taskId attemptId : String) (w : World) : Prop :=
  ∃ r ∈ w.coding.claims.rows, r.taskId = taskId ∧ r.implementationAttemptId = attemptId

theorem Claimed.stable : Proc.Stable (Pool.Foreign (Moves taskId attemptId) p) (Claimed taskId attemptId) := by
  rintro w w' ⟨r, hr, hof⟩ ⟨q, -, hm⟩
  exact ⟨r, hm.claims hr, hof⟩

/-- A part that changes nothing. -/
def Quiet (rely : World → World → Prop) (P : World → Prop) (x : Program α) (A : α → World → Prop) : Prop :=
  Script.Triple rely (fun s t => t = s) (fun _ => True) P x A fun _ => True

theorem quiet_ask {q : Ask} {answer : Reply → Except Raised α} (hP : Proc.Stable rely P) : Quiet rely P
    (ask q answer) fun _ => P := by
  have hsteady : Script.Steady rely (fun _ => True) P := fun s t hs ht => ⟨trivial, hP s t hs.2 ht⟩
  refine Script.Triple.commit hsteady (fun _ => hsteady) (fun _ _ h _ => h) fun w i _ hw => ⟨rfl, trivial, ?_⟩
  dsimp only
  cases answer i with
  | ok a => exact hw
  | error e => trivial

theorem quiet_select {message : String} {read : CodingStore → α} {A : α → World → Prop} (hP : Proc.Stable rely P)
    (hA : ∀ a, Proc.Stable rely (A a)) (h : ∀ w, P w → A (read w.coding) w) : Quiet rely P (select message read) A := by
  refine Script.Triple.commit (fun s t hs ht => ⟨trivial, hP s t hs.2 ht⟩)
    (fun a s t hs ht => ⟨trivial, hA a s t hs.2 ht⟩) (fun _ _ h _ => h) fun w i _ hw => ⟨rfl, trivial, ?_⟩
  cases i.fails with
  | true => trivial
  | false => exact h w hw

variable {host : Host} {call : Call taskId attemptId}

/-- With a claim of the attempt in the store, a dispatch ends at the check for unresolved effects. -/
theorem quiet_dispatch (hstable : Proc.Stable rely (Claimed taskId attemptId)) :
    Quiet rely (Claimed taskId attemptId) (dispatch host p call) fun _ _ => False := by
  have hE : Script.Steady rely (fun _ => True) fun _ : World => True := fun _ _ h _ => h
  have hP : Script.Steady rely (fun _ => True) (Claimed taskId attemptId) :=
    fun s t hs ht => ⟨trivial, hstable s t hs.2 ht⟩
  refine Script.Triple.bind (Script.Triple.mapError (quiet_ask hstable) (fun _ => hP) hE) hE fun _ => ?_
  refine Script.Triple.check_bind hE (fun _ _ => trivial) fun _ _ => ?_
  refine Script.Triple.bind (quiet_ask hstable) hE fun _ => Script.Triple.bind (quiet_ask hstable) hE fun _ => ?_
  refine Script.Triple.bind (Script.Triple.mapError (quiet_ask hstable) (fun _ => hP) hE) hE fun _ => ?_
  refine Script.Triple.bind (A := fun _ _ => False) ?_ hE fun _ => fun _ _ h => h.elim
  refine Script.Triple.bind (A := fun unresolved _ => unresolved = true)
    (Script.Triple.mapError ?_ (fun _ _ _ h _ => h) hE) hE fun unresolved => ?_
  · refine Script.Triple.check_bind hE (fun _ _ => trivial) fun _ _ => ?_
    refine Script.Triple.bind (quiet_select hstable (fun _ => hstable) fun _ h => h) hE fun submissions => ?_
    -- the claims that are read have a member, and nothing is acknowledged yet
    refine Script.Triple.bind (quiet_select (A := fun claims _ => ∃ k, k ∈ claims) hstable (fun _ _ _ h _ => h) fun w
      hw => ?_) hE fun claims => ?_
    · obtain ⟨r, hr, hof⟩ := hw
      exact ⟨r.sequence, List.mem_map_of_mem (List.mem_filter.2 ⟨hr, by simpa using hof⟩)⟩
    · refine Script.Triple.bind (quiet_select (A := fun _ _ => ∃ k, k ∈ claims) (fun _ _ h _ => h)
        (fun _ _ _ h _ => h) fun _ h => h) hE fun legacy => ?_
      refine Script.Triple.weaken (Script.Triple.pure (A := fun unresolved _ => unresolved = true) fun _ _ h _ => h) ?_
        (fun _ _ h => h) fun _ h => h
      rintro w ⟨k, hk⟩
      have hany : claims.any (· ∉ ([] : List Nat)) = true := List.any_eq_true.2 ⟨k, hk, by simp⟩
      rw [hany, Bool.or_true]
  · rintro w - rfl
    exact .ret (fun _ _ h _ => h) ⟨trivial, trivial⟩

end Late

/-! ## Every run -/

section Run

variable {host : Host} {taskId attemptId : String}

/-- The processes of one attempt. -/
abbrev Processes := Pool Nat Ask Reply World (Except Raised CodexWorkerResult)

/-- The turns of processes that dispatch an attempt. -/
abbrev Turns (host : Host) (taskId attemptId : String) : Processes → Processes → Prop :=
  Pool.Turn fun p (call : Call taskId attemptId) => dispatch host p call

theorem safe_dispatch (p : Nat) (call : Call taskId attemptId) (w : World) (hi : Inv taskId attemptId w) :
    Proc.Safe (Pool.Foreign (Moves taskId attemptId) p) (Moves taskId attemptId p) (fun _ _ => True)
    (dispatch host p call) w :=
  (holds_dispatch w hi trivial).mono fun _ _ _ => trivial

variable {start pool : Processes}

theorem run_invariant (hlog : start.shared.log = []) (hidle : ∀ p, start.running p = none)
    (hrun : ReflTransGen (Turns host taskId attemptId) start pool) :
    Inv taskId attemptId pool.shared ∧ Pool.AllSafe (Moves taskId attemptId) (fun _ _ => True) pool := by
  refine Pool.allSafe_run safe_dispatch (fun p s t hi hm => hi.step hm) hrun (.start hlog) fun p prog hprog => ?_
  rw [hidle p] at hprog
  cases hprog

/-- A turn that adds the run of an effect finds the submission before it. -/
theorem Moves.ran_after {w w' : World} {p q k : Nat} (h : Moves taskId attemptId q w w')
    (hran : ⟨p, .ran (k + 1)⟩ ∈ w'.log) (hpos : 1 ≤ k) : ⟨p, .ran (k + 1)⟩ ∈ w.log ∨ ⟨p, .submitted k⟩ ∈ w.log := by
  cases h with
  | ran sequence claimed once after =>
    rcases List.mem_cons.1 hran with he | hran
    · cases he
      exact .inr (after k rfl hpos)
    · exact .inl hran
  | dispatched free taken =>
    rcases List.mem_cons.1 hran with he | hran
    · cases he
    · exact .inl hran
  | claimed sequence digest owner free rows =>
    rcases List.mem_cons.1 hran with he | hran
    · cases he
    · exact .inl hran
  | settled key state next owner own was settles =>
    have hran : ⟨p, .ran (k + 1)⟩ ∈ if state = .submitted then ⟨q, .submitted key.sequence⟩ :: w.log else w.log := hran
    split at hran
    · rcases List.mem_cons.1 hran with he | hran
      · cases he
      · exact .inl hran
    · exact .inl hran
  | _ => exact .inl hran

/-- Local coding effects happen once. In every run of processes that dispatch one attempt, whatever is in the stores at
its start: every effect is claimed once and runs once; an effect runs after the submission before it is recorded as
submitted; a submission goes from its intent to submitted or uncertain and stays; and a dispatch that starts after a
claim changes nothing and raises. -/
theorem coding_effects_once (hlog : start.shared.log = []) (hidle : ∀ p, start.running p = none)
    (hrun : ReflTransGen (Turns host taskId attemptId) start pool) :
    ((claimedOf pool.shared.log).map (·.2)).Nodup ∧ ((ranOf pool.shared.log).map (·.2)).Nodup ∧
    (∀ p k, ⟨p, .ran k⟩ ∈ pool.shared.log → ⟨p, .claimed k⟩ ∈ pool.shared.log) ∧
    (∀ next, Turns host taskId attemptId pool next →
      (∀ p k, 1 ≤ k → ⟨p, .ran (k + 1)⟩ ∈ next.shared.log → ⟨p, .ran (k + 1)⟩ ∉ pool.shared.log →
        ⟨p, .submitted k⟩ ∈ pool.shared.log ∧ ∃ r ∈ pool.shared.coding.submissions.rows, r.key.isOf taskId attemptId ∧
          r.key.sequence = k ∧ r.state = .submitted) ∧
      (∀ r ∈ pool.shared.coding.submissions.rows, ∃ r' ∈ next.shared.coding.submissions.rows, r.Follows r') ∧
      ∀ r' ∈ next.shared.coding.submissions.rows, (∃ r ∈ pool.shared.coding.submissions.rows, r.Follows r') ∨
        (r'.state = .intent ∧ r'.nextTurnIdentity = none)) ∧
    ∀ p later, pool.running p = none → Claimed taskId attemptId pool.shared →
      ReflTransGen (Turns host taskId attemptId) pool later →
      (∃ new, later.shared.log = new ++ pool.shared.log ∧ ∀ e ∈ new, e.process ≠ p) ∧
      ∃ returned, later.returned = pool.returned ++ returned ∧ ∀ a, (p, a) ∈ returned → ∃ e, a = .error e := by
  obtain ⟨hi, hsafe⟩ := run_invariant hlog hidle hrun
  -- the invariant gives what holds in every state, one turn and the late dispatch are left
  refine ⟨hi.claimedOnce, hi.ranOnce, hi.ran, fun next hturn => ?_, fun p later hp hclaimed hlater => ?_⟩
  · have hm : ∃ q, Moves taskId attemptId q pool.shared next.shared := by
      rcases hturn.shared hsafe with hsame | ⟨q, hm⟩
      · exact ⟨0, by rw [hsame]; exact .still⟩
      · exact ⟨q, hm⟩
    obtain ⟨q, hm⟩ := hm
    refine ⟨fun p k hpos hran hnew => ?_, hm.submissions, hm.submissions_back⟩
    have hsubmitted := (hm.ran_after hran hpos).resolve_left hnew
    exact ⟨hsubmitted, hi.submitted p k hsubmitted⟩
  · have hquiet : ∀ (call : Call taskId attemptId) (w : World), Claimed taskId attemptId w →
        Proc.Safe (Pool.Foreign (Moves taskId attemptId) p) (fun s t => t = s) (fun a _ => ∃ e, a = .error e)
          (dispatch host p call) w := by
      intro call w hw
      refine (quiet_dispatch Claimed.stable w trivial hw).mono fun r _ hr => ?_
      cases r with
      | ok a => exact hr.2.elim
      | error e => exact ⟨e, rfl⟩
    obtain ⟨hmoved, hreturned, -⟩ := Pool.quiet_run safe_dispatch (fun p s t hi hm => hi.step hm) Claimed.stable hquiet
      hlater hi hsafe hp hclaimed
    exact ⟨foreign_log hmoved, hreturned⟩
where
  foreign_log {p : Nat} {w w' : World} (h : ReflTransGen (Pool.Foreign (Moves taskId attemptId) p) w w') :
      ∃ new, w'.log = new ++ w.log ∧ ∀ e ∈ new, e.process ≠ p := by
    induction h with
    | refl => exact ⟨[], rfl, nofun⟩
    | tail _ hstep ih =>
      obtain ⟨new, hlog, hnew⟩ := ih
      obtain ⟨q, hne, hm⟩ := hstep
      obtain ⟨more, hmore, hown⟩ := hm.log
      refine ⟨more ++ new, by rw [hmore, hlog, List.append_assoc], fun e he => ?_⟩
      rcases List.mem_append.1 he with he | he
      · rw [hown e he]
        exact hne
      · exact hnew e he

end Run

namespace Sample

def call : Call "task" "attempt" :=
  ⟨.implementation, Provider.Sample.digest 1, none, .ofNat 40 1, Provider.Sample.identity, Provider.Sample.worker,
    some Provider.Sample.lease, 10⟩

/-- The backend asks for one file, and answers in the same turn when it has got it. -/
def environment (q : Ask) (submitted : Nat) : Reply × Nat :=
  ({ check := .ok ()
     identity := .ok (if q matches .openSession then "session" else "first")
     step := .ok (if submitted = 0 then .request ⟨1, .workspaceRead, some "README.md", none, none⟩
       else .response (.accepted (some ([("action", .str "implementation")], 27))))
     tool := .ok (.ok ⟨.allowed, { ToolEvidence.none with afterDigest := some (Provider.Sample.digest 1) }, some "text", true⟩)
     fails := false
     late := false },
    if q matches .submit _ then submitted + 1 else submitted)

/-- The first process has started its dispatch of the prepared attempt. -/
def started : Processes where
  shared := ⟨Provider.Sample.prepared.1, .empty, []⟩
  running := Function.update (fun _ => none) 1 (some (dispatch .sample 1 call))
  returned := []

/-- Its answer, and what it leaves behind. -/
def answer : Except Raised CodexWorkerResult × World × Nat :=
  Proc.respond environment (dispatch .sample 1 call) started.shared 0

def left : Processes where
  shared := answer.2.1
  running := Function.update started.running 1 none
  returned := [(1, answer.1)]

theorem running_started : started.running 1 = some (dispatch .sample 1 call) := by
  rfl

theorem turns_left : ReflTransGen (Turns .sample "task" "attempt") { started with running := fun _ => none } left := by
  unfold left answer
  have hstart : Turns .sample "task" "attempt" { started with running := fun _ => none } started := .start 1 call rfl
  have hturns : ReflTransGen (Turns .sample "task" "attempt") started _ := Pool.turns_respond environment running_started 0
  exact hturns.head hstart

theorem course : left.shared.log = [⟨1, .submitted 1⟩, ⟨1, .ran 1⟩, ⟨1, .claimed 1⟩, ⟨1, .dispatched⟩] ∧
    (left.shared.coding.claims.rows.map fun r => (r.taskId, r.implementationAttemptId)) = [("task", "attempt")] ∧
    (left.shared.coding.submissions.rows.map fun r => (r.key.sequence, r.state)) = [(1, .submitted)] := by
  decide +kernel

end Sample

/-- The effect of the first process is claimed, run and submitted; a second dispatch of the attempt raises, whatever the
others do. -/
theorem coding_effects_once_restarted :
    Sample.left.shared.log = [⟨1, .submitted 1⟩, ⟨1, .ran 1⟩, ⟨1, .claimed 1⟩, ⟨1, .dispatched⟩] ∧
    ((ranOf Sample.left.shared.log).map (·.2)).Nodup ∧
    ∀ later, ReflTransGen (Turns .sample "task" "attempt") Sample.left later → ∀ a, (2, a) ∈ later.returned →
    ∃ e, a = .error e := by
  obtain ⟨hlog, hrows, -⟩ := Sample.course
  obtain ⟨-, hran, -, -, hlate⟩ := coding_effects_once rfl (fun _ => rfl) Sample.turns_left
  refine ⟨hlog, hran, fun later hlater a ha => ?_⟩
  have hclaimed : Claimed "task" "attempt" Sample.left.shared := by
    have hmem : ("task", "attempt") ∈ Sample.left.shared.coding.claims.rows.map fun r =>
      (r.taskId, r.implementationAttemptId) := by
      rw [hrows]
      exact List.mem_cons_self
    obtain ⟨r, hr, hcolumns⟩ := List.mem_map.1 hmem
    exact ⟨r, hr, Prod.mk.inj hcolumns⟩
  obtain ⟨-, returned, hreturned, herror⟩ := hlate 2 later (by simp [Sample.left, Sample.started]) hclaimed hlater
  rw [hreturned] at ha
  rcases List.mem_append.1 ha with ha | ha
  · cases (Prod.mk.inj (List.mem_singleton.1 ha)).1
  · exact herror a ha

end Roundwright.Worker
