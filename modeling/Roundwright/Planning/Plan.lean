/-
Plans: what a Worker returns from a planning turn, the normal form every plan is kept in, and the digest of that form.
-/
import Roundwright.Lib.Frames
import Roundwright.State.Routing
import Mathlib.Data.String.Basic

namespace Roundwright.Planning

open Lib State

/-! ## Texts -/

/-- `_require_token` -/
def requireToken (value name : String) : Except Error Unit :=
  refuse (isLeaseToken value = false) (.workerPlanning (name ++ " is invalid"))

/-- `_require_fingerprint` -/
def requireFingerprint (value name : String) : Except Error Unit :=
  refuse (isHex 64 value = false) (.workerPlanning (name ++ " is invalid"))

/-- `_PID`, on a text in lower case. -/
def isPid (lowered : List Char) : Bool :=
  let digits (text : List Char) : Bool := text ≠ [] && text.all Char.isDigit
  match lowered with
  | 'p' :: 'i' :: 'd' :: rest => digits rest || (rest.head?.any (· ∈ ['-', '_', ':']) && digits rest.tail)
  | text => digits text

/-- `_require_worker_thread` -/
def requireWorkerThread (value : String) : Except Error Unit := do
  requireToken value "Worker thread identity"
  let lowered := value.toList.map Char.toLower
  refuse (isPid lowered ∨ String.ofList lowered ∈ ["pending", "placeholder", "unknown", "none", "null"] ∨
    "pending-".toList <+: lowered) (.workerPlanning "Worker thread identity cannot be a PID or pending placeholder")
  refuse (value.toList.any Char.isAlpha = false) (.workerPlanning "Worker thread identity is invalid")

/-- `_items`: the distinct normalized texts in order. -/
def items (allowEmpty : Bool) (values : List String) (name : String) : Except Error (List String) := do
  let texts ← values.mapM fun value => planText value name
  let normalized := sortBy id texts.dedup
  refuse (normalized = [] ∧ allowEmpty = false) (.workerPlanning (name ++ " must not be empty"))
  return normalized

/-- `_OWNER_BLOCKER` -/
def isOwnerBlocker (blocker : String) : Bool :=
  match (blocker.toList.map Char.toLower).splitAt 5 with
  | (start, rest) => start = "owner".toList && (rest = [] || (rest.head?.any (· ∈ ['-', '_', ':']) && rest.tail ≠ [] && '\n' ∉ rest))

/-! ## Plans -/

/-- `WorkerPlan` -/
structure WorkerPlan where
  taskSummary : String
  nonGoals : List String
  expectedFiles : List String
  acceptanceCriteria : List String
  testPlan : List String
  risks : List String
  recoveryNotes : List String
  trueBlockers : List String
deriving DecidableEq

namespace WorkerPlan

def normalized (p : WorkerPlan) : Except Error WorkerPlan := do
  let taskSummary ← planText p.taskSummary "task summary"
  let nonGoals ← items true p.nonGoals "non-goals"
  let expectedFiles ← items true p.expectedFiles "expected files"
  let acceptanceCriteria ← items false p.acceptanceCriteria "acceptance criteria"
  let testPlan ← items false p.testPlan "test plan"
  let risks ← items true p.risks "risks"
  let recoveryNotes ← items true p.recoveryNotes "recovery notes"
  let trueBlockers ← items true p.trueBlockers "true blockers"
  return ⟨taskSummary, nonGoals, expectedFiles, acceptanceCriteria, testPlan, risks, recoveryNotes, trueBlockers⟩

/-- `_plan_payload` -/
def payload (p : WorkerPlan) : Json :=
  let texts (l : List String) : Json := .arr (l.map .str)
  .obj [("acceptance_criteria", texts p.acceptanceCriteria), ("expected_files", texts p.expectedFiles),
    ("non_goals", texts p.nonGoals), ("recovery_notes", texts p.recoveryNotes), ("risks", texts p.risks),
      ("task_summary", .str p.taskSummary),
    ("test_plan", texts p.testPlan), ("true_blockers", texts p.trueBlockers)]

/-- `digest`, of a plan in its normal form. -/
def digest (host : Host) (p : WorkerPlan) : String := (host.digestJson p.payload).text

/-- `_has_owner_blocker` -/
def hasOwnerBlocker (p : WorkerPlan) : Bool := p.trueBlockers.any isOwnerBlocker

end WorkerPlan

/-- `WorkerPlanOutput` -/
structure WorkerPlanOutput where
  planAttemptId : String
  providerAttemptId : String
  workerThreadIdentity : String
  externalTurnIdentity : String
  inputDigest : String
  sourceDigest : String
  plan : WorkerPlan

def WorkerPlanOutput.normalized (o : WorkerPlanOutput) : Except Error WorkerPlanOutput := do
  requireToken o.planAttemptId "plan attempt identity"
  requireToken o.providerAttemptId "provider attempt identity"
  requireWorkerThread o.workerThreadIdentity
  requireToken o.externalTurnIdentity "external turn identity"
  requireFingerprint o.inputDigest "plan input digest"
  requireFingerprint o.sourceDigest "plan source digest"
  let plan ← o.plan.normalized
  return { o with plan }

/-! ## The normal form is normal -/

/-- The words of a text. -/
def words (value : String) : List (List Char) := (value.toList.splitOnP isSpace).filter (· ≠ [])

theorem collapseSpaces_eq (value : String) : collapseSpaces value = String.ofList ([' '].intercalate (words value)) := by
  have hfilter : ∀ l : List (List Char), ((l.map String.ofList).filter (· ≠ "")).map String.toList = l.filter (· ≠ []) := by
    intro l
    induction l with
    | nil => rfl
    | cons word l ih =>
      rw [List.map_cons]
      by_cases hword : word = []
      · rw [hword, List.filter_cons_of_neg (by simp), List.filter_cons_of_neg (by simp), ih]
      · rw [List.filter_cons_of_pos (by simpa using hword), List.filter_cons_of_pos (by simpa using hword),
          List.map_cons, ih, String.toList_ofList]
  unfold collapseSpaces words
  rw [String.splitToList_of_valid, ← String.toList_inj, String.toList_intercalate, hfilter]
  exact String.toList_ofList.symm

theorem word_of_mem {value : String} {word : List Char} (h : word ∈ words value) : word ≠ [] ∧ ∀ c ∈ word, isSpace c = false := by
  unfold words at h
  rw [List.mem_filter] at h
  exact ⟨of_decide_eq_true h.2, fun c hc => not_of_mem_piece h.1 hc⟩

/-- A collapsed text has the same words. -/
theorem collapseSpaces_idem (value : String) : collapseSpaces (collapseSpaces value) = collapseSpaces value := by
  rw [collapseSpaces_eq (collapseSpaces value), collapseSpaces_eq value]
  by_cases hne : words value = []
  · rw [hne]
    decide +kernel
  · have hwords : words (String.ofList ([' '].intercalate (words value))) = words value := by
      unfold words
      rw [String.toList_ofList, ← words, splitOnP_intercalate (by decide) hne fun word hword => (word_of_mem hword).2]
      exact List.filter_eq_self.2 fun word hword => decide_eq_true (word_of_mem hword).1
    rw [hwords]

theorem planText_idem {value text name : String} (h : planText value name = .ok text) (name' : String) :
    planText text name' = .ok text := by
  unfold planText at h ⊢
  obtain ⟨_, hshape, htext⟩ := bind_eq_ok.1 h
  rw [refuse_eq_ok] at hshape
  obtain rfl := pure_eq_ok.1 htext
  rw [collapseSpaces_idem]
  exact bind_eq_ok.2 ⟨(), refuse_eq_ok.2 hshape, rfl⟩

theorem mapM_fixed {ε α : Type} {f : α → Except ε α} : ∀ {l : List α}, (∀ a ∈ l, f a = .ok a) → l.mapM f = .ok l
  | [], _ => rfl
  | a :: l, h => by
    rw [List.forall_mem_cons] at h
    rw [List.mapM_cons, h.1, ok_bind, mapM_fixed h.2]
    rfl

theorem items_idem {allowEmpty : Bool} {values texts : List String} {name : String}
    (h : items allowEmpty values name = .ok texts) (name' : String) : items allowEmpty texts name' = .ok texts := by
  unfold items at h ⊢
  obtain ⟨read, hread, h⟩ := bind_eq_ok.1 h
  obtain ⟨_, hempty, htexts⟩ := bind_eq_ok.1 h
  rw [refuse_eq_ok] at hempty
  obtain rfl := pure_eq_ok.1 htexts
  have hfixed : (sortBy id read.dedup).mapM (fun value => planText value name') = .ok (sortBy id read.dedup) := by
    refine mapM_fixed fun text htext => ?_
    obtain ⟨value, _, hvalue⟩ := (mem_of_mapM_ok hread).1 text (List.mem_dedup.1 (mem_sortBy.1 htext))
    exact planText_idem hvalue name'
  have hnodup : (sortBy id read.dedup).Nodup := (sortBy_perm id read.dedup).nodup_iff.2 read.nodup_dedup
  rw [hfixed, ok_bind, hnodup.dedup, sortBy_eq_self (sortBy_pairwise id read.dedup)]
  exact bind_eq_ok.2 ⟨(), refuse_eq_ok.2 hempty, rfl⟩

theorem WorkerPlan.normalized_idem {p q : WorkerPlan} (h : p.normalized = .ok q) : q.normalized = .ok q := by
  unfold WorkerPlan.normalized at h ⊢
  obtain ⟨taskSummary, hsummary, h⟩ := bind_eq_ok.1 h
  obtain ⟨nonGoals, hgoals, h⟩ := bind_eq_ok.1 h
  obtain ⟨expectedFiles, hfiles, h⟩ := bind_eq_ok.1 h
  obtain ⟨acceptanceCriteria, hcriteria, h⟩ := bind_eq_ok.1 h
  obtain ⟨testPlan, htests, h⟩ := bind_eq_ok.1 h
  obtain ⟨risks, hrisks, h⟩ := bind_eq_ok.1 h
  obtain ⟨recoveryNotes, hnotes, h⟩ := bind_eq_ok.1 h
  obtain ⟨trueBlockers, hblockers, h⟩ := bind_eq_ok.1 h
  obtain rfl := pure_eq_ok.1 h
  rw [planText_idem hsummary, ok_bind, items_idem hgoals, ok_bind, items_idem hfiles, ok_bind, items_idem hcriteria,
    ok_bind, items_idem htests, ok_bind, items_idem hrisks, ok_bind, items_idem hnotes, ok_bind, items_idem hblockers, ok_bind]
  rfl

end Roundwright.Planning
