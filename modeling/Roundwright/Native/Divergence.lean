/-
Host memory against the control database. An object comes to rest only by its own accepted transition, and the database
accepts one only for a process that is running. A peer that recovers the process therefore leaves the object running for
good; where no peer does, the process of every object runs in the database and the object can complete it.
-/
import Roundwright.Native.Exclusion

namespace Roundwright.Native

open Lib State Handoff

variable {π : Type} [DecidableEq π] {host : Host} {allowed : Action → World → Prop} {authority : Handoff.Store}
  {pool : NativePool π} {l : Action} {w w' : World} {object : Nat} {h : NativeHost} {processId : String}

/-! ## What is held -/

/-- The process of every object on the database has a row in one of these states. -/
def Held (states : ProcessState → Prop) (w : World) : Prop :=
  ∀ object h p, w.hosts object = some h → h.controlled = true → h.activeProcessId = some p →
    ∃ r, rowOf w.control.rows p = some r ∧ states r.state

/-- Nobody recovers a process that another object holds. -/
def RecoversOwn (l : Action) (w : World) : Prop :=
  ∀ object p now staleAfter, l = .recoverStaleChild object p now staleAfter →
    ∀ o h, w.hosts o = some h → h.controlled = true → h.activeProcessId = some p → o = object

variable {states : ProcessState → Prop}

theorem Held.setHost (hheld : Held states w)
    (hh : h.controlled = true → ∀ p, h.activeProcessId = some p → ∃ r, rowOf w.control.rows p = some r ∧ states r.state) :
    Held states (w.setHost object h) := by
  intro o k p hk hcontrolled hactive
  have hk : Function.update w.hosts object (some h) o = some k := hk
  by_cases ho : o = object
  · subst ho
    obtain rfl : h = k := by simpa using hk
    exact hh hcontrolled p hactive
  · exact hheld o k p (by simpa [ho] using hk) hcontrolled hactive

variable {p : String}

/-- A process that is held by another object than the one that acts. -/
theorem Change.held_other (hl : Law host w) (hheld : Held states w) (hrecovers : states .recovered ∨ RecoversOwn l w)
    {h' : NativeHost} {instant : Instant} {rows : List ProcessRow} (hw : w.hosts object = some h)
    (hcontrolled : h.controlled = true) (hc : Change object h instant w.control.rows l h' rows) {o : Nat}
    {k : NativeHost} (ho : o ≠ object) (hk : w.hosts o = some k) (hkc : k.controlled = true)
    (hp : k.activeProcessId = some p) : ∃ r, rowOf rows p = some r ∧ states r.state := by
  obtain ⟨r, hr, hstate⟩ := hheld o k p hk hkc hp
  have hlaw := hl.hosts object h hw hcontrolled
  have hother := hl.hosts o k hk hkc
  have hown : ¬ AdmittedBy w.history object p := fun hadmitted =>
    ho (hl.admitted_once (hother.consumed p (hother.active p hp)) hadmitted)
  have hturn := hc.turn hlaw.active hlaw.consumed p
  rw [hr] at hturn
  generalize rowOf rows p = row at hturn
  cases hturn with
  | kept => exact ⟨r, rfl, hstate⟩
  | renewed _ lease positive running own => exact absurd own hown
  | completed _ running own => exact absurd own hown
  | cancelled _ running own => exact absurd own hown
  | recovered _ interval positive running stale expired =>
    rcases hrecovers with hrecovered | hno
    · exact ⟨_, rfl, hrecovered⟩
    · exact absurd (hno object p _ _ rfl o k hk hkc hp) ho

/-- The process that is held by the object that acts. -/
theorem Change.held_self (hl : Law host w) (hheld : Held states w) (hrunning : states .running) {h' : NativeHost}
    {instant : Instant} {rows : List ProcessRow} (hw : w.hosts object = some h) (hcontrolled : h.controlled = true)
    (hc : Change object h instant w.control.rows l h' rows) (hp : h'.activeProcessId = some p) :
    ∃ r, rowOf rows p = some r ∧ states r.state := by
  have hlaw := hl.hosts object h hw hcontrolled
  -- what the object still holds was admitted or renewed, or is another row than the recovered one
  cases hc with
  | admitted q source lease positive idle free fresh =>
    obtain rfl : q = p := Option.some.inj hp
    refine ⟨Control.admitted h.installation q source (sinceEpoch instant) lease, ?_, hrunning⟩
    rw [rowOf_append fresh]
    exact if_pos rfl
  | renewed row lease positive found running active =>
    rw [active] at hp
    cases hp
    refine ⟨{ row with leaseExpiresAt := sinceEpoch instant + lease, updatedAt := sinceEpoch instant }, ?_, ?_⟩
    · rw [rowOf_updated (by intro r; rfl), if_pos rfl, found]
      rfl
    · show states row.state
      rw [running]
      exact hrunning
  | completed => cases hp
  | cancelled => cases hp
  | cancelledAgain row found running idle consumed =>
    have hactive : h.activeProcessId = none := hlaw.running.2 (by rw [idle]; decide)
    rw [hactive] at hp
    cases hp
  | settled => cases hp
  | recovered row interval positive found running stale expired =>
    split_ifs at hp with hactive
    · cases hp
    · have hne : p ≠ row.processId := by
        rintro rfl
        exact hactive hp
      obtain ⟨r, hr, hstate⟩ := hheld object h p hw hcontrolled hp
      refine ⟨r, ?_, hstate⟩
      rw [rowOf_updated (by intro r; rfl), if_neg hne]
      exact hr

theorem Held.moves (hheld : Held states w) (hl : Law host w) (hrunning : states .running)
    (hrecovers : states .recovered ∨ RecoversOwn l w) (hm : Moves host l w w') : Held states w' := by
  cases hm with
  | still => exact hheld
  | authority call => exact hheld
  | installed object coordinator i free metadata =>
    refine Held.setHost (w := { w with control := { w.control with metadata := some i.metadata } }) hheld fun _ p hp => ?_
    cases hp
  | memory object h bare uncontrolled =>
    refine hheld.setHost fun hcontrolled => ?_
    rw [uncontrolled] at hcontrolled
    cases hcontrolled
  | stopped object h found idle =>
    exact hheld.setHost fun hcontrolled p hp => hheld object h p found hcontrolled hp
  | changed object h h' instant rows found controlled authorized matches_ change =>
    intro o k p hk hkc hp
    have hk : Function.update w.hosts object (some h') o = some k := hk
    by_cases ho : o = object
    · subst ho
      obtain rfl : h' = k := by simpa using hk
      exact change.held_self hl hheld hrunning found controlled hp
    · exact change.held_other hl hheld hrecovers found controlled ho (by simpa [ho] using hk) hkc hp

/-- An object on the database has admitted only processes whose identity was accepted. -/
def AllNamed (w : World) : Prop :=
  ∀ object h, w.hosts object = some h → h.controlled = true → ∀ p ∈ h.consumedProcessIds, isProcessId p = true

theorem AllNamed.setHost (hall : AllNamed w) (hh : h.controlled = true → ∀ p ∈ h.consumedProcessIds, isProcessId p = true) :
    AllNamed (w.setHost object h) := by
  intro o k hk hcontrolled
  have hk : Function.update w.hosts object (some h) o = some k := hk
  by_cases ho : o = object
  · subst ho
    obtain rfl : h = k := by simpa using hk
    exact hh hcontrolled
  · exact hall o k (by simpa [ho] using hk) hcontrolled

theorem AllNamed.moves (hall : AllNamed w) (hm : CallMoves host l w w') : AllNamed w' := by
  obtain ⟨hm, hnamed⟩ := hm
  cases hm with
  | still => exact hall
  | authority call => exact hall
  | installed object coordinator i free metadata =>
    have hall' : AllNamed { w with control := { w.control with metadata := some i.metadata } } := hall
    exact hall'.setHost fun _ p hp => absurd hp List.not_mem_nil
  | memory object h bare uncontrolled =>
    refine hall.setHost fun hcontrolled => ?_
    rw [uncontrolled] at hcontrolled
    cases hcontrolled
  | stopped object h found idle => exact hall.setHost fun hcontrolled => hall object h found hcontrolled
  | changed object h h' instant rows found controlled authorized matches_ change =>
    have hold := hall object h found controlled
    have hall' : AllNamed (w.commit object h l (.utc instant) { w.control with rows := rows }) := hall
    refine hall'.setHost fun _ p hp => ?_
    cases change with
    | admitted q source lease positive idle free fresh =>
      rcases List.mem_cons.1 hp with rfl | hp
      · exact hnamed
      · exact hold p hp
    | recovered row interval positive found running stale expired =>
      split_ifs at hp
      · exact hold p hp
      · exact hold p hp
    | _ => exact hold p hp

/-! ## Coming to rest -/

/-- The calls that can bring an object to rest. -/
def Call.releases (object : Nat) : Call → Prop
  | .complete o _ _ => o = object
  | .cancel o _ _ => o = object
  | .recoverStaleChild o _ _ _ => o = object
  | _ => False

/-- Some of these calls returns the object to idle. -/
def Releases (host : Host) (w : World) (object : Nat) : Prop :=
  ∃ (call : Call) (environment : Environment) (h : NativeHost), call.releases object ∧
    (Proc.run (program host call) [environment] w).2.hosts object = some h ∧ h.state = .idle

/-- A call of one action, alone. -/
theorem actOn_run (a : String → Action) (environment : Environment) :
    (Proc.run (actOn host processId a) [environment] w).2 =
      if isProcessId processId = true then (perform host environment (a processId) w).2 else w := by
  unfold actOn requireProcessId
  split_ifs <;> rfl

/-- Every instant can be stored. -/
theorem fitsInteger_sinceEpoch (instant : Instant) : fitsInteger (sinceEpoch instant) = true := by
  have := instant.isLt
  unfold fitsInteger sinceEpoch
  rw [decide_eq_true_eq]
  omega

/-- The object completes the process that it holds. -/
theorem complete_returns (hl : Law host w) (hw : w.hosts object = some h) (hcontrolled : h.controlled = true)
    (hactive : h.activeProcessId = some p) {row : ProcessRow} (found : rowOf w.control.rows p = some row)
    (running : row.state = .running) {now : Instant} (hauthorized : h.Authorized host w.authority (.utc now))
    (worktree : Except String Unit) (raises : Bool) :
    (perform host ⟨true, worktree, raises⟩ (.complete object p (.utc now)) w).2.hosts object = some h.rest := by
  have hlaw := hl.hosts object h hw hcontrolled
  have hrunning : h.state = .running := by
    by_contra hno
    rw [hlaw.running.2 hno] at hactive
    cases hactive
  have hmatches : w.control.matches_ h.installation = true := by
    unfold Control.matches_
    rw [hlaw.metadata]
    exact decide_eq_true rfl
  have hrow : w.control.row? p = some row := found
  -- every check on the way passes, so the row is completed
  have hfinish : w.control.finish h.installation p .completed (sinceEpoch now) true =
      (.ok (h.installation.accepted ("native host process " ++ ProcessState.completed.value) (some p)),
        w.control.update p fun r => { r with state := .completed, updatedAt := sinceEpoch now }) := by
    unfold Control.finish
    simp [hmatches, hrow, running, fitsInteger_sinceEpoch]
  obtain ⟨d, hd, haccepted⟩ := hauthorized
  have hcomplete : (h.complete host object p (.utc now) true w).2.hosts object = some h.rest := by
    unfold NativeHost.complete NativeHost.runAuthorizedTransition NativeHost.durable
    simp only [timestamp, hrunning, hactive, hd, haccepted, hcontrolled, hfinish, if_true]
    simp [NativeHostInstallation.accepted, World.setHost]
  have hobject : onObject object (fun h => h.complete host object p (.utc now) true) w = h.complete host object p
    (.utc now) true w := by
    unfold onObject
    rw [hw]
  show ((Reply.host <$> onObject object fun h => h.complete host object p (.utc now) true) w).2.hosts object = some h.rest
  rw [reply_run, hobject]
  exact hcomplete

/-- An object whose process has been recovered is not moved by anybody. -/
theorem stuck_moves (hl : Law host w) (hw : w.hosts object = some h) (hcontrolled : h.controlled = true)
    (hactive : h.activeProcessId = some p) {row : ProcessRow} (found : rowOf w.control.rows p = some row)
    (recovered : row.state = .recovered) (hm : Moves host l w w') :
    w'.hosts object = some h ∧ rowOf w'.control.rows p = some row := by
  have hlaw := hl.hosts object h hw hcontrolled
  have hrunning : h.state = .running := by
    by_contra hno
    rw [hlaw.running.2 hno] at hactive
    cases hactive
  cases hm with
  | still => exact ⟨hw, found⟩
  | authority call => exact ⟨hw, found⟩
  | installed o coordinator i free metadata =>
    have hne : object ≠ o := by
      rintro rfl
      rw [hw] at free
      cases free
    exact ⟨by simpa [World.setHost, hne] using hw, found⟩
  | memory o k bare uncontrolled =>
    have hne : object ≠ o := by
      rintro rfl
      rw [bare h hw] at hcontrolled
      cases hcontrolled
    exact ⟨by simpa [World.setHost, hne] using hw, found⟩
  | stopped o k hk idle =>
    have hne : object ≠ o := by
      rintro rfl
      rw [hw] at hk
      cases hk
      exact idle hrunning
    exact ⟨by simpa [World.setHost, hne] using hw, found⟩
  | changed o k k' instant rows hk controlled authorized matches_ change =>
    have hlater := later_of_turns (change.turn (hl.hosts o k hk controlled).active (hl.hosts o k hk controlled).consumed)
    refine ⟨?_, (hlater p row found).2 (by rw [recovered]; decide)⟩
    by_cases hne : object = o
    · subst hne
      obtain rfl : h = k := Option.some.inj (hw.symm.trans hk)
      -- Whatever the object does goes through its own process, whose row has ended.
      have hno : ∀ {r : ProcessRow} {state : ProcessState}, h.activeProcessId = some r.processId →
          rowOf w.control.rows r.processId = some r → r.state = state → state = .recovered := by
        intro r state hr hfound hstate
        rw [hactive] at hr
        obtain rfl := Option.some.inj hr
        obtain rfl := Option.some.inj (found.symm.trans hfound)
        rw [← hstate]
        exact recovered
      have hsame : k' = h := by
        cases change with
        | admitted q source lease positive idle =>
          rw [hrunning] at idle
          cases idle
        | renewed => rfl
        | completed r hfound running active => cases hno active hfound running
        | cancelled r hfound running active => cases hno active hfound running
        | cancelledAgain => rfl
        | settled r hfound ended active => cases hno active hfound ended
        | recovered r interval positive hfound running =>
          split_ifs with active
          · cases hno active hfound running
          · rfl
      rw [hsame]
      simp [World.setHost]
    · simpa [World.setHost, hne] using hw

/-! ## Runs -/

theorem Reaches.held (run : Reaches host allowed authority pool) (hrunning : states .running)
    (hrecovers : ∀ l w, allowed l w → states .recovered ∨ RecoversOwn l w) : Held states pool.shared := by
  have hboth : Law host pool.shared ∧ Held states pool.shared := by
    refine run.keeps (P := fun w => Law host w ∧ Held states w) ⟨.initial authority, fun _ _ _ hno => nomatch hno⟩
      fun l w w' hallowed hmoves hkeep => ?_
    exact ⟨hkeep.1.moves hmoves.1, hkeep.2.moves hkeep.1 hrunning (hrecovers l w hallowed) hmoves.1⟩
  exact hboth.2

theorem Reaches.allNamed (run : Reaches host allowed authority pool) : AllNamed pool.shared :=
  run.keeps (fun _ _ hno => nomatch hno) fun _ _ _ _ hmoves hall => hall.moves hmoves

/-- An object whose process is running can complete it. -/
theorem Reaches.releases (run : Reaches host allowed authority pool) (hw : pool.shared.hosts object = some h)
    (hcontrolled : h.controlled = true) (hactive : h.activeProcessId = some p) {row : ProcessRow}
    (found : rowOf pool.shared.control.rows p = some row) (running : row.state = .running) {now : Instant}
    (hauthorized : h.Authorized host pool.shared.authority (.utc now)) :
    Releases host pool.shared object := by
  have hnamed := run.allNamed object h hw hcontrolled p ((run.law.hosts object h hw hcontrolled).active p hactive)
  refine ⟨.complete object p (.utc now), ⟨true, .ok (), false⟩, h.rest, rfl, ?_, rfl⟩
  show (Proc.run (actOn host p fun process => .complete object process (.utc now)) [_] pool.shared).2.hosts object = _
  rw [actOn_run, if_pos hnamed]
  exact complete_returns run.law hw hcontrolled hactive found running hauthorized _ _

/-- A process that an object holds and that is not running has been recovered. -/
theorem Reaches.recovered_of_held (run : Reaches host allowed authority pool) (hw : pool.shared.hosts object = some h)
    (hcontrolled : h.controlled = true) (hactive : h.activeProcessId = some p)
    (hno : ∀ r, rowOf pool.shared.control.rows p = some r → r.state ≠ .running) :
    ∃ row, rowOf pool.shared.control.rows p = some row ∧ row.state = .recovered := by
  have hheld : Held (fun s => s = .running ∨ s = .recovered) pool.shared := run.held (.inl rfl) fun _ _ _ => .inl (.inr rfl)
  obtain ⟨row, found, hrunning | hrecovered⟩ := hheld object h p hw hcontrolled hactive
  · exact absurd hrunning (hno row found)
  · exact ⟨row, found, hrecovered⟩

theorem Reaches.not_releases (run : Reaches host allowed authority pool) (hw : pool.shared.hosts object = some h)
    (hcontrolled : h.controlled = true) (hactive : h.activeProcessId = some p)
    (hno : ∀ r, rowOf pool.shared.control.rows p = some r → r.state ≠ .running) : ¬ Releases host pool.shared object := by
  obtain ⟨row, found, hrecovered⟩ := run.recovered_of_held hw hcontrolled hactive hno
  have hrunning : h.state = .running := by
    by_contra hstate
    rw [(run.law.hosts object h hw hcontrolled).running.2 hstate] at hactive
    cases hactive
  rintro ⟨call, environment, k, hcall, hk, hidle⟩
  have hone : ∀ (q : String) (a : String → Action), (Proc.run (actOn host q a) [environment] pool.shared).2.hosts
    object = some h := by
    intro q a
    rw [actOn_run]
    split_ifs
    · exact (stuck_moves run.law hw hcontrolled hactive found hrecovered (perform_answers environment (a q) pool.shared).1).1
    · exact hw
  have hsame : (Proc.run (program host call) [environment] pool.shared).2.hosts object = some h := by
    cases call with
    | complete o q now => exact hone q _
    | cancel o q now => exact hone q _
    | recoverStaleChild o q now staleAfter => exact hone q _
    | _ => cases hcall
  rw [hsame] at hk
  cases hk
  rw [hrunning] at hidle
  cases hidle

theorem Reaches.stuck (run : Reaches host allowed authority pool) (hw : pool.shared.hosts object = some h)
    (hcontrolled : h.controlled = true) (hactive : h.activeProcessId = some p)
    (hno : ∀ r, rowOf pool.shared.control.rows p = some r → r.state ≠ .running) {pool' : NativePool π}
    (further : Relation.ReflTransGen (NativeStep host allowed) pool pool') : pool'.shared.hosts object = some h := by
  obtain ⟨row, found, hrecovered⟩ := run.recovered_of_held hw hcontrolled hactive hno
  have hkept : pool'.shared.hosts object = some h ∧ rowOf pool'.shared.control.rows p = some row := by
    induction further with
    | refl => exact ⟨hw, found⟩
    | @tail middle last hsteps hstep ih =>
      have hreached : Reaches host allowed authority middle := run.trans hsteps
      obtain ⟨event, hstep⟩ := hstep
      obtain ⟨-, hsame | ⟨l, -, hmoves, -⟩⟩ := Pool.acting_step program_acts (Pool.acting_run program_acts hreached).1 hstep
      · rw [hsame]
        exact ih
      · exact stuck_moves hreached.law ih.1 hcontrolled hactive ih.2 hrecovered hmoves
  exact hkept.1

/-- In every run an object whose coordinator is authorized can come to rest exactly as long as its process is running in
the database; else it holds the process for good. Where nobody recovers a process that another object holds, the process
of every object is running, and the object can complete it. -/
theorem host_released_unless_recovered_by_peer (object : Nat) (h : NativeHost) (p : String)
    (hcontrolled : h.controlled = true) (hactive : h.activeProcessId = some p) (hw : pool.shared.hosts object = some h) :
    (Reaches host AnyAction authority pool →
      ((∃ now, h.Authorized host pool.shared.authority (.utc now)) →
        (Releases host pool.shared object ↔ ∃ r, rowOf pool.shared.control.rows p = some r ∧ r.state = .running)) ∧
      ((∀ r, rowOf pool.shared.control.rows p = some r → r.state ≠ .running) →
        ∀ pool', Relation.ReflTransGen (NativeStep host AnyAction) pool pool' → pool'.shared.hosts object = some h)) ∧
    (Reaches host RecoversOwn authority pool →
      (∃ r, rowOf pool.shared.control.rows p = some r ∧ r.state = .running) ∧
      ((∃ now, h.Authorized host pool.shared.authority (.utc now)) → Releases host pool.shared object)) := by
  constructor
  · intro run
    refine ⟨fun ⟨now, hauthorized⟩ => ⟨fun hreleases => ?_, fun ⟨r, found, running⟩ => ?_⟩, fun hno pool' further => ?_⟩
    · by_contra hno
      exact run.not_releases hw hcontrolled hactive (fun r found running => hno ⟨r, found, running⟩) hreleases
    · exact run.releases hw hcontrolled hactive found running hauthorized
    · exact run.stuck hw hcontrolled hactive hno further
  · intro run
    have hheld : Held (fun s => s = .running) pool.shared := run.held rfl fun _ _ hown => .inr hown
    obtain ⟨r, found, running⟩ := hheld object h p hw hcontrolled hactive
    exact ⟨⟨r, found, running⟩, fun ⟨now, hauthorized⟩ => run.releases hw hcontrolled hactive found running hauthorized⟩

namespace Sample

/-- One object admits a child and its peer recovers it. -/
def recoveredByPeer : List (Pool.Move Bool Call Environment) :=
  installed ++ call true (.runOnce 0 "a" (.utc 20)) 1 ++
    call false (.recoverStaleChild 1 "a" (.utc 100000000) (.microseconds 50)) 1

/-- An object with what it holds, and what its row and its authority are. -/
def view (pool : NativePool Bool) : Option NativeHost × Option ProcessState × Except Error HandoffDecision :=
  (pool.shared.hosts 0, (rowOf pool.shared.control.rows "a").map (·.state),
    (authorize .sample 1 installation.identity installation.receipt (.utc 100000000) pool.shared.authority).1)

/-- The first object while it holds its child. -/
def holder : NativeHost := ⟨1, installation, true, .running, some "a", ["a"]⟩

end Sample

open Sample in
/-- The object that has admitted a child and whose peers have done nothing can complete it. -/
theorem host_released_unless_recovered_by_peer_alone :
    ∃ pool : NativePool Bool, Reaches .sample AnyAction start pool ∧ pool.shared.hosts 0 = some holder ∧
      Releases .sample pool.shared 0 := by
  have hrun : (played (installed ++ call true (.runOnce 0 "a" (.utc 20)) 1)).map view =
      some (some holder, some .running, .ok ⟨true, "one exact authority receipt is current", some (fingerprint 20)⟩) := by
    decide +kernel
  obtain ⟨pool, hpool, hview⟩ := Option.map_eq_some_iff.1 hrun
  obtain ⟨hhost, hrest⟩ := Prod.mk.inj hview
  obtain ⟨hrow, hauthorized⟩ := Prod.mk.inj hrest
  obtain ⟨row, found, running⟩ := Option.map_eq_some_iff.1 hrow
  have hreaches : Reaches .sample AnyAction start pool := Pool.moves_steps hpool
  obtain ⟨hany, -⟩ := host_released_unless_recovered_by_peer 0 holder "a" rfl rfl hhost
  exact ⟨pool, hreaches, hhost, ((hany hreaches).1 ⟨100000000, _, hauthorized, rfl⟩).2 ⟨row, found, running⟩⟩

open Sample in
/-- A peer has recovered the child of an object; the receipt is authorized, and no call returns the object to idle. -/
theorem host_stuck_after_peer_recovery :
    ¬ ∀ pool : NativePool Bool, Reaches .sample AnyAction start pool → ∀ object h p, pool.shared.hosts object = some h →
      h.controlled = true → h.activeProcessId = some p → (∃ now, h.Authorized .sample pool.shared.authority (.utc now)) →
      (∀ r, rowOf pool.shared.control.rows p = some r → r.state ≠ .running) → Releases .sample pool.shared object := by
  intro hclaim
  have hrun : (played recoveredByPeer).map view =
      some (some holder, some .recovered, .ok ⟨true, "one exact authority receipt is current", some (fingerprint 20)⟩) := by
    decide +kernel
  obtain ⟨pool, hpool, hview⟩ := Option.map_eq_some_iff.1 hrun
  obtain ⟨hhost, hrest⟩ := Prod.mk.inj hview
  obtain ⟨hrow, hauthorized⟩ := Prod.mk.inj hrest
  obtain ⟨row, found, recovered⟩ := Option.map_eq_some_iff.1 hrow
  have hreaches : Reaches .sample AnyAction start pool := Pool.moves_steps hpool
  have hno : ∀ r, rowOf pool.shared.control.rows "a" = some r → r.state ≠ .running := by
    intro r hr
    obtain rfl := Option.some.inj (found.symm.trans hr)
    rw [recovered]
    decide
  exact hreaches.not_releases hhost rfl rfl hno
    (hclaim pool hreaches 0 holder "a" hhost rfl rfl ⟨100000000, _, hauthorized, rfl⟩ hno)

end Roundwright.Native
