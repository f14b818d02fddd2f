/-
Attempts only advance. In every interleaving of the provider operations, by any number of clients, the session
and the turn of an attempt are written once, the turn only under a session checkpoint; its dispatch is
claimed at most once, before its session; it never comes back to a state it was prepared or dispatched
in; and what was recorded of its output stays.

The order `Advances` between the rows of an attempt is kept by every effect of a call, on rows that are
`Sound`; a run keeps it by transitivity.
-/
import Roundwright.Provider.Machine

namespace Roundwright.Provider

open Lib State Recovery

variable {host : Host} {s s' : Store}

/-! ## The order of the rows of an attempt -/

/-- A column that is written once. -/
def WrittenOnce (old new : Option String) : Prop := old = none ∨ new = old

theorem WrittenOnce.trans {a b c : Option String} (h : WrittenOnce a b) (h' : WrittenOnce b c) : WrittenOnce a c := by
  rcases h with h | rfl
  · exact .inl h
  · exact h'

/-- `b` is a later row of the attempt of `a`. -/
structure Advances (a b : AttemptRow) : Prop where
  role : b.role = a.role
  inputFingerprint : b.inputFingerprint = a.inputFingerprint
  session : WrittenOnce a.sessionIdentity b.sessionIdentity
  turn : WrittenOnce a.externalTurnIdentity b.externalTurnIdentity
  pointer : WrittenOnce a.outputPointer b.outputPointer
  evidence : WrittenOnce a.completionEvidenceFingerprint b.completionEvidenceFingerprint
  prepared : b.state = .prepared → a.state = .prepared
  dispatched : b.state = .dispatched → a.state = .prepared ∨ a.state = .dispatched

namespace Advances

theorem refl (a : AttemptRow) : Advances a a :=
  ⟨rfl, rfl, .inr rfl, .inr rfl, .inr rfl, .inr rfl, id, .inr⟩

theorem trans {a b c : AttemptRow} (h : Advances a b) (h' : Advances b c) : Advances a c where
  role := h'.role.trans h.role
  inputFingerprint := h'.inputFingerprint.trans h.inputFingerprint
  session := h.session.trans h'.session
  turn := h.turn.trans h'.turn
  pointer := h.pointer.trans h'.pointer
  evidence := h.evidence.trans h'.evidence
  prepared := fun hc => h.prepared (h'.prepared hc)
  dispatched := fun hc => (h'.dispatched hc).elim (fun hb => .inl (h.prepared hb)) h.dispatched

end Advances

/-- What holds of every row: before its turn ends an attempt has no output, and output leaves it in one of four
states. -/
structure Sound (row : AttemptRow) : Prop where
  prepared : row.state = .prepared → row.externalTurnIdentity = none ∧ row.outputPointer = none ∧
    row.completionEvidenceFingerprint = none
  dispatched : row.state = .dispatched → row.externalTurnIdentity ≠ none ∧ row.outputPointer = none ∧
    row.completionEvidenceFingerprint = none
  output : row.outputPointer ≠ none → row.externalTurnIdentity ≠ none ∧
    (row.state = .completed ∨ row.state = .accepted ∨ row.state = .ambiguous ∨ row.state = .invalidated)
  evidence : row.completionEvidenceFingerprint ≠ none → row.outputPointer ≠ none

/-- A checkpoint of the session of an attempt. -/
def Checkpointed (s : Store) (row : AttemptRow) : Prop :=
  ∃ r ∈ s.sessionCheckpoints.rows, r.attemptId = row.attemptId ∧ row.sessionIdentity = some r.sessionIdentity

/-- The step of one row: it advances, stays sound, and gets a turn only under a checkpoint of its session. -/
structure RowStep (s : Store) (a b : AttemptRow) : Prop where
  advances : Advances a b
  sound : Sound b
  turn : a.externalTurnIdentity = none → b.externalTurnIdentity ≠ none → Checkpointed s b

theorem RowStep.refl {a : AttemptRow} (h : Sound a) : RowStep s a a :=
  ⟨.refl a, h, fun hnone hsome => absurd hnone hsome⟩

/-! ## The states a recovery moves to -/

/-- The states a decision may move an attempt to. -/
def MovesTo (row : AttemptRow) : AttemptState → Prop
  | .completed => row.state = .ambiguous ∧ row.completionEvidenceFingerprint ≠ none
  | .ambiguous | .invalidated => True
  | .blocked => row.externalTurnIdentity = none ∨ row.state = .prepared ∨ row.state = .dispatched
  | .prepared | .dispatched | .accepted => False

theorem abandonmentState_movesTo (row : AttemptRow) : MovesTo row (abandonmentState row) := by
  unfold abandonmentState
  split
  · trivial
  · rename_i h
    exact .inl (not_not.1 h)

variable {row : AttemptRow} {state : AttemptState}

variable {d : RecoveryDecision}

theorem staleDecision_movesTo {observed : Int} (h : staleDecision row observed = some d)
    (hstate : row.state = .prepared ∨ row.state = .dispatched) (hnext : d.next = some state) :
    MovesTo row state := by
  unfold staleDecision at h
  split at h
  · split at h
    · cases h
      cases hnext
      exact .inr hstate
    · cases h
      cases hnext
      trivial
    · cases h
    · cases h
  · cases h

theorem evidenceDecision_movesTo {verified : Bool} (hevidence : row.completionEvidenceFingerprint ≠ none)
    (hnext : (evidenceDecision row verified).next = some state) : MovesTo row state := by
  unfold evidenceDecision at hnext
  split at hnext
  · dsimp only at hnext
    split at hnext
    · cases hnext
      exact ⟨‹_›, hevidence⟩
    · cases hnext
  · dsimp only at hnext
    split at hnext
    · cases hnext
      trivial
    · cases hnext

variable {maxAttempts observed : Int}

theorem preparedDecision_movesTo (hstate : row.state = .prepared)
    (hnext : (preparedDecision s row maxAttempts observed).next = some state) : MovesTo row state := by
  unfold preparedDecision at hnext
  split at hnext
  · cases hstale : staleDecision row observed with
    | none =>
      rw [hstale] at hnext
      cases hnext
    | some d =>
      rw [hstale] at hnext
      exact staleDecision_movesTo hstale (.inl hstate) hnext
  · split at hnext
    · cases hnext
      exact .inr (.inl hstate)
    · cases hnext

theorem stored_next {o : Option Outcome} {fallback d : RecoveryDecision}
    (h : (o.map Outcome.decision).getD fallback = d) (hfallback : fallback.next = none) : d.next = none := by
  cases o with
  | none => rw [← h]; exact hfallback
  | some o => rw [← h]; rfl

theorem recoveryOutcome_movesTo {verified : Option String}
    (h : recoveryOutcome s row verified maxAttempts observed = .ok d) (hnext : d.next = some state) :
    MovesTo row state := by
  unfold recoveryOutcome at h
  -- in every state the next one is later, or there is none
  cases hstate : row.state with
  | accepted =>
    simp only [hstate] at h
    split at h <;> cases h <;> cases hnext
    trivial
  | completed =>
    simp only [hstate] at h
    split at h
    · cases h
      exact evidenceDecision_movesTo ‹_› hnext
    · cases h
  | ambiguous =>
    simp only [hstate] at h
    split at h
    · cases h
      exact evidenceDecision_movesTo ‹_› hnext
    · rw [stored_next (Except.ok.inj h) rfl] at hnext
      cases hnext
  | blocked =>
    simp only [hstate, demand_eq_ok, Option.map_eq_some_iff] at h
    obtain ⟨o, -, rfl⟩ := h
    cases hnext
  | invalidated =>
    simp only [hstate] at h
    rw [stored_next (Except.ok.inj h) rfl] at hnext
    cases hnext
  | prepared =>
    simp only [hstate] at h
    cases h
    exact preparedDecision_movesTo hstate hnext
  | dispatched =>
    simp only [hstate, Except.ok.injEq] at h
    cases hstale : staleDecision row observed with
    | none =>
      rw [hstale] at h
      subst h
      cases hnext
      trivial
    | some d' =>
      rw [hstale] at h
      subst h
      exact staleDecision_movesTo hstale (.inr hstate) hnext

theorem recoveryDecision_movesTo {identity : TaskIdentity} {c : RecoveryContext} {verified : Option String}
    (h : recoveryDecision host s identity c row verified maxAttempts observed = .ok d) (hnext : d.next = some state) :
    MovesTo row state := by
  unfold recoveryDecision at h
  split at h
  · simp only [matchedDecision, bind_eq_ok] at h
    obtain ⟨-, -, sealed, -, -, -, -, -, h⟩ := h
    split at h
    · cases h
      cases hnext
      exact abandonmentState_movesTo row
    · exact recoveryOutcome_movesTo h hnext
  · cases h
    cases hnext
    exact abandonmentState_movesTo row

/-! ## One step -/

/-- A row that moves to another state, with or without its accepted review. -/
theorem RowStep.restate {review : Option String} (h : Sound row) (hmoves : MovesTo row state) :
    RowStep s row { row with state, acceptedReviewIdentity := review } where
  advances := by
    refine ⟨rfl, rfl, .inr rfl, .inr rfl, .inr rfl, .inr rfl, ?_, ?_⟩ <;> rintro rfl <;> exact hmoves.elim
  sound := by
    refine ⟨?_, ?_, fun hpointer => ?_, h.evidence⟩
    · rintro rfl
      exact hmoves.elim
    · rintro rfl
      exact hmoves.elim
    · obtain ⟨hturn, -⟩ := h.output hpointer
      refine ⟨hturn, ?_⟩
      cases state with
      | prepared => exact hmoves.elim
      | dispatched => exact hmoves.elim
      | accepted => exact hmoves.elim
      | completed => exact .inl rfl
      | ambiguous => exact .inr (.inr (.inl rfl))
      | invalidated => exact .inr (.inr (.inr rfl))
      | blocked =>
        -- an attempt with output has its turn, so nothing blocks it any more
        rcases hmoves with hnone | hprepared | hdispatched
        · exact absurd hnone hturn
        · exact absurd (h.prepared hprepared).2.1 hpointer
        · exact absurd (h.dispatched hdispatched).2.1 hpointer
  turn := fun hnone hsome => absurd hnone hsome

theorem RowStep.recovered {next : Option AttemptState} (h : Sound row) (hmoves : ∀ state, next = some state → MovesTo row state) :
    RowStep s row { row.revalidated with state := next.getD row.revalidated.state } := by
  unfold AttemptRow.revalidated
  split
  · refine .restate h ?_
    cases next with
    | none => trivial
    | some state => exact hmoves state rfl
  · cases next with
    | none => exact .refl h
    | some state => exact .restate h (hmoves state rfl)

theorem RowStep.opened {session : String} (h : Sound row)
    (was : row.sessionIdentity = none ∨ row.sessionIdentity = some session) : RowStep s row
    { row with sessionIdentity := some session } where
  advances := ⟨rfl, rfl, was.imp_right Eq.symm, .inr rfl, .inr rfl, .inr rfl, id, .inr⟩
  sound := ⟨h.prepared, h.dispatched, h.output, h.evidence⟩
  turn := fun hnone hsome => absurd hnone hsome

theorem RowStep.dispatched {session turn : String} (h : Sound row) (hstate : row.state = .prepared)
    (hsession : row.sessionIdentity = some session)
    (hcheckpoint : ∃ r ∈ s.sessionCheckpoints.rows, r.attemptId = row.attemptId ∧ r.sessionIdentity = session) :
    RowStep s row { row with externalTurnIdentity := some turn, state := .dispatched } := by
  obtain ⟨hturn, hpointer, hevidence⟩ := h.prepared hstate
  refine ⟨⟨rfl, rfl, .inr rfl, .inl hturn, .inr rfl, .inr rfl, nofun, fun _ => .inl hstate⟩,
    ⟨nofun, fun _ => ⟨nofun, hpointer, hevidence⟩, fun h => absurd hpointer h, fun h => absurd hevidence h⟩, fun _ _ => ?_⟩
  obtain ⟨r, hr, hid, rfl⟩ := hcheckpoint
  exact ⟨r, hr, hid, hsession⟩

/-- The output of a dispatched turn, verified or not. -/
theorem RowStep.output {pointer : String} {evidence : Option String} (h : Sound row) (hstate : row.state = .dispatched)
    (houtput : (state = .completed ∧ evidence ≠ none) ∨ (state = .ambiguous ∧ evidence = row.completionEvidenceFingerprint)) :
    RowStep s row { row with outputPointer := some pointer, completionEvidenceFingerprint := evidence, state } := by
  obtain ⟨hturn, hpointer, hevidence⟩ := h.dispatched hstate
  refine ⟨⟨rfl, rfl, .inr rfl, .inr rfl, .inl hpointer, .inl hevidence, ?_, ?_⟩,
    ⟨?_, ?_, fun _ => ⟨hturn, ?_⟩, fun _ => nofun⟩, fun hnone hsome => absurd hnone hsome⟩
  all_goals rcases houtput with ⟨rfl, -⟩ | ⟨rfl, -⟩
  all_goals simp

theorem RowStep.accepted {review : String} (h : Sound row) :
    RowStep s row { row with acceptedReviewIdentity := some review, state := .accepted } := by
  refine ⟨⟨rfl, rfl, .inr rfl, .inr rfl, .inr rfl, .inr rfl, nofun, nofun⟩,
    ⟨nofun, nofun, fun hpointer => ?_, h.evidence⟩, fun hnone hsome => absurd hnone hsome⟩
  obtain ⟨hturn, -⟩ := h.output hpointer
  exact ⟨hturn, .inr (.inl rfl)⟩

/-- One attempt takes its step and the others none. -/
theorem Moved.kept {row row' : AttemptRow} (h : Moved s s' row row') (hstep : RowStep s row row')
    (hsound : ∀ r ∈ s.providerAttempts.rows, Sound r) {attemptId : String} {a : AttemptRow}
    (ha : s.providerAttempt? attemptId = some a) : ∃ b, s'.providerAttempt? attemptId = some b ∧ RowStep s a b := by
  by_cases hid : attemptId = row.attemptId
  · subst hid
    rw [h.found] at ha
    cases ha
    exact ⟨row', h.attempt?, hstep⟩
  · refine ⟨a, ?_, .refl (hsound a (providerAttempt?_eq_some.1 ha).1)⟩
    rw [h.attempt?_other hid]
    exact ha

/-- What one step of a run does to the attempts, the checkpoints and the claims. -/
structure Evolves (s s' : Store) : Prop where
  kept : ∀ attemptId a, s.providerAttempt? attemptId = some a → ∃ b, s'.providerAttempt? attemptId = some b ∧ RowStep s a b
  new : ∀ attemptId b, s.providerAttempt? attemptId = none → s'.providerAttempt? attemptId = some b →
    Sound b ∧ b.externalTurnIdentity = none
  sessions : ∃ new, s'.sessionCheckpoints.rows = s.sessionCheckpoints.rows ++ new
  claims : ∃ new, s'.dispatchClaims.rows = s.dispatchClaims.rows ++ new ∧ ∀ r ∈ new, ∃ a,
    s.providerAttempt? r.attemptId = some a ∧ a.state = .prepared ∧ a.sessionIdentity = none

theorem sessions_kept (h : s'.sessionCheckpoints = s.sessionCheckpoints) :
    ∃ new, s'.sessionCheckpoints.rows = s.sessionCheckpoints.rows ++ new :=
  ⟨[], by rw [h, List.append_nil]⟩

theorem Evolves.aside (hsound : ∀ r ∈ s.providerAttempts.rows, Sound r)
    (hattempts : s'.providerAttempts = s.providerAttempts) (hsessions : s'.sessionCheckpoints = s.sessionCheckpoints)
    (hclaims : s'.dispatchClaims = s.dispatchClaims) : Evolves s s' := by
  have hsame : ∀ attemptId, s'.providerAttempt? attemptId = s.providerAttempt? attemptId := by
    intro attemptId
    unfold Store.providerAttempt?
    rw [hattempts]
  refine ⟨fun attemptId a ha => ⟨a, ?_, .refl (hsound a (providerAttempt?_eq_some.1 ha).1)⟩, fun attemptId b hnone hb =>
    ?_, sessions_kept hsessions, ⟨[], by rw [hclaims, List.append_nil], nofun⟩⟩
  · rw [hsame]
    exact ha
  · rw [hsame, hnone] at hb
    cases hb

/-- An effect that moves one attempt and claims nothing. -/
theorem Evolves.of_moved {row row' : AttemptRow} (hsound : ∀ r ∈ s.providerAttempts.rows, Sound r)
    (h : Moved s s' row row') (hstep : RowStep s row row')
    (hsessions : ∃ new, s'.sessionCheckpoints.rows = s.sessionCheckpoints.rows ++ new)
    (hclaims : s'.dispatchClaims = s.dispatchClaims) : Evolves s s' := by
  refine ⟨fun attemptId a ha => h.kept hstep hsound ha, fun attemptId b hnone hb => ?_, hsessions,
    ⟨[], by rw [hclaims, List.append_nil], nofun⟩⟩
  have hne : attemptId ≠ row.attemptId := by
    rintro rfl
    rw [h.found] at hnone
    cases hnone
  rw [h.attempt?_other hne, hnone] at hb
  cases hb

theorem preparedRow_sound (taskId : String) (number : Nat) (request : PrepareRequest) (p : Preparation) :
    Sound (preparedRow taskId number request p) :=
  ⟨fun _ => ⟨rfl, rfl, rfl⟩, nofun, fun h => absurd rfl h, fun h => absurd rfl h⟩

theorem Effect.evolves {call : Call} (h : Effect host s s' call) (hsound : ∀ r ∈ s.providerAttempts.rows, Sound r) :
    Evolves s s' := by
  have hrow : ∀ {row row' : AttemptRow}, Moved s s' row row' → Sound row := fun hm =>
    hsound _ (providerAttempt?_eq_some.1 hm.found).1
  -- at most one row moves, along the order of the states
  cases h with
  | quiet same =>
    exact .aside hsound (congrArg Tables.attempts same) (congrArg Tables.sessions same) (congrArg Tables.claims same)
  | @prepared identity c request lease observed number p absent wellFormed rows frame =>
    have hclaims : s'.dispatchClaims = s.dispatchClaims := congrArg Tables.claims frame
    have hsessions : s'.sessionCheckpoints = s.sessionCheckpoints := congrArg Tables.sessions frame
    refine ⟨fun attemptId a ha => ⟨a, ?_, .refl (hsound a (providerAttempt?_eq_some.1 ha).1)⟩,
      fun attemptId b hnone hb => ?_, sessions_kept hsessions, ⟨[], by rw [hclaims, List.append_nil], nofun⟩⟩
    · unfold Store.providerAttempt?
      rw [rows]
      exact find?_append_some ha
    · obtain ⟨hmem, hid⟩ := providerAttempt?_eq_some.1 hb
      rw [rows, List.mem_append, List.mem_singleton] at hmem
      rcases hmem with hold | rfl
      · rw [providerAttempt?_eq_some.2 ⟨hold, hid⟩] at hnone
        cases hnone
      · exact ⟨preparedRow_sound _ _ _ _, rfl⟩
  | @claimed role identity c attemptId lease observed row found untouched rows frame =>
    have hattempts : s'.providerAttempts = s.providerAttempts := congrArg Tables.attempts frame
    have hsessions : s'.sessionCheckpoints = s.sessionCheckpoints := congrArg Tables.sessions frame
    have haside : Evolves s { s' with dispatchClaims := s.dispatchClaims } := .aside hsound hattempts hsessions rfl
    simp only [AttemptRow.untouched, decide_eq_true_eq] at untouched
    refine ⟨haside.kept, haside.new, haside.sessions, ⟨_, rows, fun r hr => ?_⟩⟩
    rw [List.mem_singleton] at hr
    subst hr
    exact ⟨row, found, untouched.1, untouched.2.1⟩
  | opened row state was moved rows frame =>
    exact .of_moved hsound moved (.opened (hrow moved) was) rows (congrArg Tables.claims frame)
  | dispatched row state opened checkpointed moved frame =>
    exact .of_moved hsound moved (.dispatched (hrow moved) state opened checkpointed)
      (sessions_kept (congrArg Tables.sessions frame))
      (congrArg Tables.claims frame)
  | completed row state moved frame =>
    exact .of_moved hsound moved (.output (hrow moved) state (.inl ⟨rfl, nofun⟩))
      (sessions_kept (congrArg Tables.sessions frame))
      (congrArg Tables.claims frame)
  | rejected row state moved frame =>
    exact .of_moved hsound moved (.output (hrow moved) state (.inr ⟨rfl, rfl⟩))
      (sessions_kept (congrArg Tables.sessions frame))
      (congrArg Tables.claims frame)
  | accepted row role state moved frame =>
    exact .of_moved hsound moved (.accepted (hrow moved))
      (sessions_kept (congrArg Tables.sessions frame))
      (congrArg Tables.claims frame)
  | settled row state outcome role unaccepted settles moved persisted frame =>
    refine .of_moved hsound moved (.restate (hrow moved) ?_)
      (sessions_kept (congrArg Tables.sessions frame))
      (congrArg Tables.claims frame)
    rcases settles with rfl | ⟨rfl, hunsettled⟩
    · trivial
    · exact .inr hunsettled
  | recovered row d task attempt decision moved persisted ended frame =>
    exact .of_moved hsound moved (.recovered (hrow moved) fun state => recoveryDecision_movesTo decision)
      (sessions_kept (congrArg Tables.sessions frame))
      (congrArg Tables.claims frame)

/-! ## Interleavings -/

/-- A step of a run: a call, or anything that leaves the attempts, their checkpoints and their claims alone. -/
inductive Step (host : Host) (s s' : Store) : Prop where
  | call (call : Call) (ran : s' = (call.run host s).2)
  | aside (attempts : s'.providerAttempts = s.providerAttempts)
    (sessions : s'.sessionCheckpoints = s.sessionCheckpoints) (claims : s'.dispatchClaims = s.dispatchClaims)

/-- Any interleaving of the steps of any number of clients. -/
def Run (host : Host) : Store → Store → Prop := Relation.ReflTransGen (Step host)

/-- A database without attempts. -/
structure Clean (s : Store) : Prop where
  attempts : s.providerAttempts.rows = []
  sessions : s.sessionCheckpoints.rows = []
  claims : s.dispatchClaims.rows = []

/-- Every row is sound, and every turn has a checkpoint of its session. -/
structure Kept (s : Store) : Prop where
  sound : ∀ r ∈ s.providerAttempts.rows, Sound r
  turns : ∀ r ∈ s.providerAttempts.rows, r.externalTurnIdentity ≠ none → Checkpointed s r

theorem Clean.kept (h : Clean s) : Kept s := by
  have hnone : ∀ r, r ∉ s.providerAttempts.rows := fun r => by rw [h.attempts]; exact List.not_mem_nil
  exact ⟨fun r hr => absurd hr (hnone r), fun r hr => absurd hr (hnone r)⟩

theorem Step.evolves (h : Step host s s') (hk : Kept s) : Evolves s s' := by
  cases h with
  | call call ran =>
    rcases call.effect s with hsame | heffect
    · rw [ran, hsame]
      exact .aside hk.sound rfl rfl rfl
    · rw [ran]
      exact heffect.evolves hk.sound
  | aside attempts sessions claims => exact .aside hk.sound attempts sessions claims

/-- The checkpoint of a session stays, and the session does not change. -/
theorem Checkpointed.mono {a b : AttemptRow} (h : Checkpointed s a) (hid : b.attemptId = a.attemptId)
    (hsession : WrittenOnce a.sessionIdentity b.sessionIdentity)
    (hsessions : ∃ new, s'.sessionCheckpoints.rows = s.sessionCheckpoints.rows ++ new) : Checkpointed s' b := by
  obtain ⟨r, hr, hrid, hrsession⟩ := h
  obtain ⟨new, hnew⟩ := hsessions
  refine ⟨r, by rw [hnew]; exact List.mem_append_left _ hr, hrid.trans hid.symm, ?_⟩
  rcases hsession with hnone | hsame
  · rw [hrsession] at hnone
    cases hnone
  · rw [hsame, hrsession]

theorem Step.kept (h : Step host s s') (hk : Kept s) : Kept s' := by
  have he := h.evolves hk
  have hstep : ∀ b ∈ s'.providerAttempts.rows, Sound b ∧ (b.externalTurnIdentity ≠ none → Checkpointed s' b) := by
    intro b hb
    have hfound := providerAttempt?_eq_some.2 ⟨hb, rfl⟩
    cases hbefore : s.providerAttempt? b.attemptId with
    | none =>
      obtain ⟨hsound, hturn⟩ := he.new _ b hbefore hfound
      exact ⟨hsound, fun h => absurd hturn h⟩
    | some a =>
      obtain ⟨b', hb', hrow⟩ := he.kept _ a hbefore
      rw [hfound] at hb'
      cases hb'
      obtain ⟨hmem, hid⟩ := providerAttempt?_eq_some.1 hbefore
      refine ⟨hrow.sound, fun hturn => ?_⟩
      by_cases hnone : a.externalTurnIdentity = none
      · exact (hrow.turn hnone hturn).mono rfl (.inr rfl) he.sessions
      · exact (hk.turns a hmem hnone).mono hid.symm hrow.advances.session he.sessions
  exact ⟨fun b hb => (hstep b hb).1, fun b hb => (hstep b hb).2⟩

theorem Run.kept (h : Run host s s') (hk : Kept s) : Kept s' := run_induction (fun _ _ hstep => hstep.kept) h hk

theorem Run.advances (h : Run host s s') (hk : Kept s) :
    (∀ attemptId a, s.providerAttempt? attemptId = some a → ∃ b, s'.providerAttempt? attemptId = some b ∧ Advances a b) ∧
      s.dispatchClaims.rows ⊆ s'.dispatchClaims.rows := by
  refine run_relates (R := fun s s' => (∀ attemptId a, s.providerAttempt? attemptId = some a →
    ∃ b, s'.providerAttempt? attemptId = some b ∧ Advances a b) ∧ s.dispatchClaims.rows ⊆ s'.dispatchClaims.rows)
    (fun _ _ hstep => hstep.kept) (fun s s' hstep hk => ⟨fun attemptId a ha => ?_, ?_⟩)
    (fun s => ⟨fun attemptId a ha => ⟨a, ha, .refl a⟩, List.Subset.refl _⟩)
      (fun s₁ s₂ s₃ h h' => ⟨fun attemptId a ha => ?_, ?_⟩) h hk
  · obtain ⟨b, hb, hrow⟩ := (hstep.evolves hk).kept attemptId a ha
    exact ⟨b, hb, hrow.advances⟩
  · obtain ⟨new, hnew, -⟩ := (hstep.evolves hk).claims
    rw [hnew]
    exact List.subset_append_left _ _
  · obtain ⟨b, hb, hab⟩ := h.1 attemptId a ha
    obtain ⟨d, hd, hbd⟩ := h'.1 attemptId b hb
    exact ⟨d, hd, hab.trans hbd⟩
  · exact List.Subset.trans h.2 h'.2

theorem ClaimRow.attemptId_key : Table.IsKey ClaimRow.clash (·.attemptId) := by
  intro a b h
  simp [ClaimRow.clash, show a.attemptId = b.attemptId from h]

/-- The machine of an attempt. From a database without attempts let any steps lead to `s`, any more to `t`, and let
one more lead to `u`. Between `s` and `t` the attempt advances: its session, turn, output pointer and completion
evidence are kept once they are there, and it has not come back to a state it had left prepared or dispatched.
In the last step a turn appears only where the checkpoint of the same session was there before, and a claim only
where the attempt was prepared without a session and nobody had claimed it; a claim is never taken back. An
attempt with output is completed, accepted, ambiguous or invalidated. -/
theorem provider_attempt_advances {start s t u : Store} (clean : Clean start) (before : Run host start s)
    (between : Run host s t) (last : Step host t u) (attemptId : String) :
    (∀ a, s.providerAttempt? attemptId = some a → ∃ b, t.providerAttempt? attemptId = some b ∧ Advances a b) ∧
    (∀ b, u.providerAttempt? attemptId = some b → b.externalTurnIdentity ≠ none →
      (∀ a, t.providerAttempt? attemptId = some a → a.externalTurnIdentity = none) → Checkpointed t b) ∧
    (∀ r ∈ u.dispatchClaims.rows, r.attemptId = attemptId → r ∉ t.dispatchClaims.rows →
      (∀ r' ∈ t.dispatchClaims.rows, r'.attemptId ≠ attemptId) ∧
      ∃ a, t.providerAttempt? attemptId = some a ∧ a.state = .prepared ∧ a.sessionIdentity = none) ∧
    s.dispatchClaims.rows ⊆ t.dispatchClaims.rows ∧
    (∀ r ∈ t.dispatchClaims.rows, ∀ r' ∈ t.dispatchClaims.rows, r.attemptId = r'.attemptId → r = r') ∧
    (∀ b, t.providerAttempt? attemptId = some b → b.outputPointer ≠ none →
      b.state = .completed ∨ b.state = .accepted ∨ b.state = .ambiguous ∨ b.state = .invalidated) := by
  have hs : Kept s := before.kept clean.kept
  have ht : Kept t := between.kept hs
  have he := last.evolves ht
  obtain ⟨hadvances, hclaims⟩ := between.advances hs
  refine ⟨hadvances attemptId, fun b hb hturn hfresh => ?_, fun r hr hid hnew => ?_, hclaims,
    fun r hr r' hr' h => Table.eq_of_key ClaimRow.attemptId_key hr hr' h, fun b hb hpointer => ?_⟩
  · cases hbefore : t.providerAttempt? attemptId with
    | none => exact absurd (he.new _ b hbefore hb).2 hturn
    | some a =>
      obtain ⟨b', hb', hrow⟩ := he.kept _ a hbefore
      rw [hb] at hb'
      cases hb'
      exact hrow.turn (hfresh a hbefore) hturn
  · obtain ⟨new, hrows, hprepared⟩ := he.claims
    have hin : r ∈ new := by
      rw [hrows, List.mem_append] at hr
      exact hr.resolve_left hnew
    refine ⟨fun r' hr' hid' => hnew ?_, hid ▸ hprepared r hin⟩
    have hkept : r' ∈ u.dispatchClaims.rows := by rw [hrows]; exact List.mem_append_left _ hr'
    rw [Table.eq_of_key ClaimRow.attemptId_key hr hkept (hid.trans hid'.symm)]
    exact hr'
  · exact ((ht.sound b (providerAttempt?_eq_some.1 hb).1).output hpointer).2

namespace Sample

theorem clean_start : Clean start := ⟨rfl, rfl, rfl⟩

theorem run_opened : Run .sample start opened.1 := .tail (.single (.call _ prepared.2)) (.call _ opened.2)

theorem run_dispatched : Run .sample opened.1 dispatched.1 := .single (.call _ dispatched.2)

end Sample

open Sample in
theorem provider_attempt_advances_dispatched :
    (opened.1.providerAttempt? "attempt").map (·.sessionIdentity) = some (some "session") ∧
      (∀ a, opened.1.providerAttempt? "attempt" = some a →
        ∃ b, dispatched.1.providerAttempt? "attempt" = some b ∧ Advances a b) := by
  refine ⟨course.1, ?_⟩
  have last : Step .sample dispatched.1 completed.1 := .call _ completed.2
  exact (provider_attempt_advances clean_start run_opened run_dispatched last "attempt").1

end Roundwright.Provider
