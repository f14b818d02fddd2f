/-
A mutation is dispatched at most once. Over every run of broker calls and restarts on one journal file,
with whatever the adapter, the transport, the clock and the disk answer and wherever a call dies, the owner
transport is called at most once for a journal key, by a call that found the key free and stored an
`EXECUTION_STARTED` entry for it itself.

The invariant is that what was dispatched has an entry that started: an entry only moves on, so its key is
never free again.
-/
import Roundwright.GitHub.BrokerServes

namespace Roundwright.GitHub

open Lib

variable {host : Host}

/-! ## What a step does to an entry -/

/-- One step on the entry of a key. -/
inductive EntryMove : Option MutationJournalEntry → Option MutationJournalEntry → Prop
  | same (entry : Option MutationJournalEntry) : EntryMove entry entry
  | claimed {entry : MutationJournalEntry} (lifecycle : entry.lifecycle = .claimed) (preState : entry.preState = none)
      (createdResource : entry.createdResource = none) : EntryMove none (some entry)
  | moved {prior entry : MutationJournalEntry} (allowed : prior.lifecycle.allows entry.lifecycle = true)
      (evidence : entry.evidence = prior.evidence)
      (preState : entry.preState = prior.preState ∨ prior.preState = none)
      (createdResource : entry.createdResource = prior.createdResource ∨ prior.createdResource = none) :
      EntryMove (some prior) (some entry)

/-- What stays of an entry over any number of steps. -/
structure EntryKept (prior entry : MutationJournalEntry) : Prop where
  lifecycle : Relation.ReflTransGen (fun a b : JournalLifecycle => a.allows b = true) prior.lifecycle entry.lifecycle
  evidence : entry.evidence = prior.evidence
  preState : ∀ p, prior.preState = some p → entry.preState = some p
  createdResource : ∀ l, prior.createdResource = some l → entry.createdResource = some l
  terminal : prior.lifecycle = .verified ∨ prior.lifecycle = .denied ∨ prior.lifecycle = .failed → entry = prior

theorem EntryKept.refl (entry : MutationJournalEntry) : EntryKept entry entry :=
  ⟨.refl, rfl, fun _ h => h, fun _ h => h, fun _ => rfl⟩

theorem EntryKept.trans {a b c : MutationJournalEntry} (hab : EntryKept a b) (hbc : EntryKept b c) : EntryKept a c where
  lifecycle := hab.lifecycle.trans hbc.lifecycle
  evidence := hbc.evidence.trans hab.evidence
  preState p h := hbc.preState p (hab.preState p h)
  createdResource l h := hbc.createdResource l (hab.createdResource l h)
  terminal h := by
    have hsame := hab.terminal h
    rw [hbc.terminal (by rw [hsame]; exact h), hsame]

/-- Nothing follows a verified, denied or failed entry. -/
theorem JournalLifecycle.terminal_allows {a b : JournalLifecycle} (h : a = .verified ∨ a = .denied ∨ a = .failed) :
    a.allows b = false := by
  rcases h with rfl | rfl | rfl <;> rfl

theorem EntryMove.kept {prior : MutationJournalEntry} {entry : Option MutationJournalEntry} (h : EntryMove (some prior) entry) :
    ∃ next, entry = some next ∧ EntryKept prior next := by
  cases h with
  | same => exact ⟨prior, rfl, .refl prior⟩
  | @moved _ next allowed evidence preState createdResource =>
    refine ⟨next, rfl, .single allowed, evidence, fun p hp => ?_, fun l hl => ?_, fun ht => ?_⟩
    · rcases preState with heq | hnone
      · rw [heq, hp]
      · rw [hnone] at hp
        cases hp
    · rcases createdResource with heq | hnone
      · rw [heq, hl]
      · rw [hnone] at hl
        cases hl
    · rw [JournalLifecycle.terminal_allows ht] at allowed
      cases allowed

/-- The states from the start of the execution on. -/
def JournalLifecycle.started : JournalLifecycle → Bool
  | .executionStarted | .transportAccepted | .appliedAwaitingVerification | .ambiguous | .verified => true
  | .claimed | .prestateCaptured | .denied | .failed => false

theorem JournalLifecycle.started_of_allows {a b : JournalLifecycle} (h : a.allows b = true) (ha : a.started = true) :
    b.started = true := by
  revert h ha
  cases a <;> cases b <;> decide

theorem EntryMove.started {prior : MutationJournalEntry} {entry : Option MutationJournalEntry}
    (h : EntryMove (some prior) entry) (hp : prior.lifecycle.started = true) : ∃ next, entry = some next ∧
    next.lifecycle.started = true := by
  cases h with
  | same => exact ⟨prior, rfl, hp⟩
  | @moved _ next allowed => exact ⟨next, rfl, JournalLifecycle.started_of_allows allowed hp⟩

/-! ## What a step does to the journal and the transport -/

/-- One step of a call that began in the world `start`, as far as the journal and the owner transport are
concerned. -/
structure DispatchStep (call : BrokerCall) (start w w' : World host) : Prop where
  elsewhere : ∀ key, key ≠ call.key host → w'.file.get key = w.file.get key
  entry : EntryMove (w.file.get (call.key host)) (w'.file.get (call.key host))
  dispatched : w'.requests = w.requests ∨ ∃ request entry, w'.requests = w.requests ++ [request] ∧
    request.journalIdentity = call.key host ∧ (∀ r ∈ w.requests, r.journalIdentity ≠ call.key host) ∧
    start.file.get (call.key host) = none ∧
    w.file.get (call.key host) = some entry ∧ entry.lifecycle = .executionStarted ∧ entry.preState ≠ none

variable {call : BrokerCall} {entry : MutationJournalEntry}

theorem EntryChange.entryMove {reads : List GitHubReadResult} {prior : Option MutationJournalEntry}
    (h : EntryChange host call reads prior entry) : EntryMove prior (some entry) := by
  cases h with
  | claim bundle => exact .claimed rfl rfl rfl
  | move moved located receipt =>
    exact .moved moved.allowed moved.evidence (moved.preState.imp id And.left) located

theorem CallStep.dispatchStep {start w w' : World host} {i : Answer} (h : CallStep call start i w w') :
    DispatchStep call start w w' := by
  cases h with
  | idle => exact ⟨fun _ _ => rfl, .same _, .inl rfl⟩
  | observe result source => exact ⟨fun _ _ => rfl, .same _, .inl rfl⟩
  | submit => exact ⟨fun _ _ => rfl, .same _, .inl rfl⟩
  | remember receipt known => exact ⟨fun _ _ => rfl, .same _, .inl rfl⟩
  | forget => exact ⟨fun _ _ => rfl, .same _, .inl rfl⟩
  | dispatch request entry ofKey fresh stored started captured first =>
    exact ⟨fun _ _ => rfl, .same _, .inr ⟨request, entry, rfl, ofKey, first, fresh, stored, started, captured⟩⟩
  | file file step =>
    rcases step.get_eq with hsame | ⟨⟨entry, hget, hchange⟩, hother⟩
    · refine ⟨fun key _ => hsame key, ?_, .inl rfl⟩
      change EntryMove _ (file.get (call.key host))
      rw [hsame]
      exact .same _
    · refine ⟨hother, ?_, .inl rfl⟩
      change EntryMove _ (file.get (call.key host))
      rw [hget]
      exact hchange.entryMove

/-! ## Runs -/

/-- Everything that was dispatched has an entry that started, and no key was dispatched twice. -/
structure Once (w : World host) : Prop where
  distinct : (w.requests.map OwnerMutationRequest.journalIdentity).Nodup
  started : ∀ r ∈ w.requests, ∃ entry, w.file.get r.journalIdentity = some entry ∧ entry.lifecycle.started = true

theorem Once.initial (file : JournalFile host) : Once (.initial file) := ⟨.nil, fun _ h => by cases h⟩

variable {w : World host}

theorem Once.undispatched (h : Once w) (call : BrokerCall) : Undispatched call w := by
  intro hnone r hr hkey
  obtain ⟨entry, hget, -⟩ := h.started r hr
  rw [hkey, hnone] at hget
  cases hget

theorem Once.step {start w w' : World host} (h : Once w) (hs : DispatchStep call start w w') : Once w' := by
  -- whatever entry had started has still started
  have hkept : ∀ key entry, w.file.get key = some entry → entry.lifecycle.started = true →
      ∃ next, w'.file.get key = some next ∧ next.lifecycle.started = true := by
    intro key entry hget hstarted
    by_cases hkey : key = call.key host
    · subst hkey
      have hmove := hs.entry
      rw [hget] at hmove
      exact hmove.started hstarted
    · exact ⟨entry, (hs.elsewhere key hkey).trans hget, hstarted⟩
  rcases hs.dispatched with hsame | ⟨request, entry, happend, hkey, hfirst, -, hstored, hlife, -⟩
  · refine ⟨hsame ▸ h.distinct, fun r hr => ?_⟩
    obtain ⟨entry, hget, hstarted⟩ := h.started r (hsame ▸ hr)
    exact hkept _ entry hget hstarted
  · refine ⟨?_, fun r hr => ?_⟩
    · rw [happend, List.map_append, List.nodup_append]
      refine ⟨h.distinct, by simp, fun a ha b hb => ?_⟩
      obtain ⟨r, hr, rfl⟩ := List.mem_map.1 ha
      obtain rfl : b = request.journalIdentity := by simpa using hb
      rw [hkey]
      exact hfirst r hr
    · rw [happend, List.mem_append, List.mem_singleton] at hr
      rcases hr with hold | rfl
      · obtain ⟨entry, hget, hstarted⟩ := h.started r hold
        exact hkept _ entry hget hstarted
      · rw [hkey]
        exact hkept _ entry hstored (by rw [hlife]; rfl)

/-- The call of an event. -/
def BrokerEvent.call? : BrokerEvent → Option BrokerCall
  | .submit call _ => some call
  | .reconcile call _ => some call
  | .restart => none

/-- The answers the call of an event gets. -/
def BrokerEvent.answers : BrokerEvent → List Answer
  | .submit _ answers => answers
  | .reconcile _ answers => answers
  | .restart => []

/-- The worlds an event goes through. -/
def World.through (w : World host) : BrokerEvent → List (World host)
  | .submit call answers => call.submit.states answers w
  | .reconcile call answers => call.reconcile.states answers w
  | .restart => [w]

theorem Once.through (h : Once w) {event : BrokerEvent} (hcall : event.call? = some call) :
    (w.through event).IsChain (Proc.OneOf (CallStep call w) event.answers) := by
  cases event with
  | submit c answers =>
    obtain rfl : c = call := Option.some.inj hcall
    exact (submit_serves (h.undispatched c)).chain answers
  | reconcile c answers =>
    obtain rfl : c = call := Option.some.inj hcall
    exact reconcile_serves.chain answers
  | restart => cases hcall

theorem Once.steps {start w w' : World host} (h : Once w) {answers : List Answer}
    (hs : Relation.ReflTransGen (Proc.OneOf (CallStep call start) answers) w w') : Once w' := by
  induction hs with
  | refl => exact h
  | tail _ hs ih =>
    obtain ⟨i, -, hs⟩ := hs
    exact ih.step hs.dispatchStep

theorem kept_steps {start w w' : World host} {answers : List Answer}
    (hs : Relation.ReflTransGen (Proc.OneOf (CallStep call start) answers) w w') {key : Digest}
    (hget : w.file.get key = some entry) :
    ∃ next, w'.file.get key = some next ∧ EntryKept entry next := by
  induction hs with
  | refl => exact ⟨entry, hget, .refl entry⟩
  | tail _ hs ih =>
    obtain ⟨next, hnext, hkept⟩ := ih
    obtain ⟨i, -, hs⟩ := hs
    have hd := hs.dispatchStep
    by_cases hkey : key = call.key host
    · subst hkey
      have hmove := hd.entry
      rw [hnext] at hmove
      obtain ⟨last, hlast, hmoved⟩ := hmove.kept
      exact ⟨last, hlast, hkept.trans hmoved⟩
    · exact ⟨next, (hd.elsewhere key hkey).trans hnext, hkept⟩

/-- A call takes its steps, and a restart only forgets. -/
theorem Once.after (h : Once w) (event : BrokerEvent) : (∃ call, event.call? = some call ∧
      Relation.ReflTransGen (Proc.OneOf (CallStep call w) event.answers) w (w.after event)) ∨
      w.after event = { w with completed := fun _ => none } := by
  cases event with
  | submit call answers => exact .inl ⟨call, rfl, (submit_serves (h.undispatched call)).steps answers⟩
  | reconcile call answers => exact .inl ⟨call, rfl, reconcile_serves.steps answers⟩
  | restart => exact .inr rfl

theorem Once.event (h : Once w) (event : BrokerEvent) : Once (w.after event) := by
  rcases h.after event with ⟨call, -, hsteps⟩ | hrestart
  · exact h.steps hsteps
  · rw [hrestart]
    exact ⟨h.distinct, h.started⟩

theorem Once.run (h : Once w) (events : List BrokerEvent) : Once (w.run events) := by
  induction events generalizing w with
  | nil => exact h
  | cons event events ih => exact ih (h.event event)

/-- An entry that is stored is kept over a run. -/
theorem Once.kept (h : Once w) (events : List BrokerEvent) {key : Digest}
    (hget : w.file.get key = some entry) : ∃ next, (w.run events).file.get key = some next ∧ EntryKept entry next := by
  induction events generalizing w entry with
  | nil => exact ⟨entry, hget, .refl entry⟩
  | cons event events ih =>
    have hafter : ∃ next, (w.after event).file.get key = some next ∧ EntryKept entry next := by
      rcases h.after event with ⟨call, -, hsteps⟩ | hrestart
      · exact kept_steps hsteps hget
      · rw [hrestart]
        exact ⟨entry, hget, .refl entry⟩
    obtain ⟨next, hnext, hkept⟩ := hafter
    obtain ⟨last, hlast, hmoved⟩ := ih (h.event event) hnext
    exact ⟨last, hlast, hkept.trans hmoved⟩

theorem World.run_append (w : World host) (before after : List BrokerEvent) :
    w.run (before ++ after) = (w.run before).run after := List.foldl_append ..

/-- In every run of broker calls and restarts on one journal file: the owner transport is called at most
once for a journal key; every step of every call leaves the entries of the other keys, moves its own entry
along the transition relation with its evidence fixed and its pre-state and locator written once, and calls
the transport only where the call began without an entry and has stored one that started with a captured
pre-state; and what is stored at any time of the run is kept to its end, a verified, denied or failed entry
unchanged. -/
theorem mutation_dispatched_once (file : JournalFile host) (events : List BrokerEvent) :
    (∀ key, (((World.initial file).run events).requests.map OwnerMutationRequest.journalIdentity).count key ≤ 1) ∧
    (∀ before event after, events = before ++ event :: after → ∀ call, event.call? = some call →
      (((World.initial file).run before).through event).IsChain (DispatchStep call ((World.initial file).run before))) ∧
    ∀ before after, events = before ++ after → ∀ key entry, ((World.initial file).run before).file.get key = some entry →
      ∃ next, ((World.initial file).run events).file.get key = some next ∧ EntryKept entry next := by
  have honce := Once.initial file
  refine ⟨fun key => ?_, ?_, ?_⟩
  · exact List.nodup_iff_count_le_one.1 (honce.run events).distinct key
  · rintro before event after - call hcall
    exact ((honce.run before).through hcall).imp fun _ _ hs => by
      obtain ⟨i, -, hs⟩ := hs
      exact hs.dispatchStep
  · rintro before after rfl key entry hget
    rw [World.run_append]
    exact (honce.run before).kept after hget

namespace BrokerSample

def pullRequest (draft : Bool) : GitHubReadResult :=
  ⟨⟨.pullRequest, repository, some 7, none, some "head"⟩, .ok (.pullRequest
    ⟨repository, repository, repository, "pull", 7, .open, "main", "base", "task", "head", draft, none⟩)⟩

def markReady : BrokerCall where
  broker := ⟨true, some ⟨health, false⟩, true, false⟩
  authority := authority
  intent := ⟨repository, "ready", .markReady 7 "head"⟩
  context := context .markReady "head" "base"
  payload := some ⟨.markReady, [], rfl, fun _ h => by cases h⟩
  suppliesSemantics := false

/-- The transport fails after the dispatch; a restarted broker submits again and finds the effect. -/
def retried : List BrokerEvent :=
  [.submit markReady (answers 40 (pullRequest true)), .restart, .submit markReady (answers 40 (pullRequest false))]

end BrokerSample

open BrokerSample in
/-- A submission whose transport failed and its repetition after a restart: one dispatch, and the entry is
verified. -/
theorem mutation_dispatched_once_retried :
    ((World.initial file).run retried).requests.length = 1 ∧
      (((World.initial file).run retried).file.get (markReady.key Host.sample)).map (·.lifecycle) = some .verified ∧
      ∀ key, (((World.initial file).run retried).requests.map OwnerMutationRequest.journalIdentity).count key ≤ 1 :=
  ⟨by decide +kernel, by decide +kernel, (mutation_dispatched_once file retried).1⟩

end Roundwright.GitHub
