/-
The retry lineage of a task. `Lineage l` is the abstract statement: the attempts, oldest first, form
one chain by `supersedes_attempt_id`, and every attempt but the last has ended. A store whose tasks
all have a lineage, whose successor rows are the links of its attempts and whose attempts read back
passes `_verify_task_lineage` for every task.
-/
import Roundwright.Dependency.Effect
import Roundwright.Lib.Chain

namespace Roundwright.Dependency

open Lib State

/-! ## The abstract lineage -/

/-- One chain in order, of which only the last attempt may still be prepared. -/
structure Lineage (l : List AttemptRow) : Prop where
  linked : Linked AttemptRow.attemptId AttemptRow.supersedesAttemptId none l
  ended : ∀ a ∈ l.dropLast, a.state ≠ .prepared

namespace Lineage

theorem nil : Lineage [] := ⟨trivial, by simp⟩

variable {l : List AttemptRow}

theorem append {r : AttemptRow} (h : Lineage l) (hall : ∀ a ∈ l, a.state ≠ .prepared)
    (hr : r.supersedesAttemptId = l.getLast?.map (·.attemptId)) : Lineage (l ++ [r]) := by
  refine ⟨linked_append_singleton.2 ⟨h.linked, by rw [hr, Option.or_none]⟩, ?_⟩
  rw [List.dropLast_concat]
  exact hall

theorem settle (h : Lineage l) (id : Token) {state : AttemptState} (hs : state ≠ .prepared) :
    Lineage (l.map (AttemptRow.settle id state)) := by
  refine ⟨h.linked.map (fun a => ?_) (fun a => ?_), ?_⟩
  · unfold AttemptRow.settle; split <;> rfl
  · unfold AttemptRow.settle; split <;> rfl
  · rw [← List.map_dropLast]
    intro a ha
    obtain ⟨b, hb, rfl⟩ := List.mem_map.1 ha
    unfold AttemptRow.settle
    split
    · exact hs
    · exact h.ended b hb

theorem superseded_ended (h : Lineage l) {b : AttemptRow} (hb : b ∈ l) {p : Token} (hp : b.supersedesAttemptId = some p) :
    ∃ a ∈ l, a.attemptId = p ∧ a.state ≠ .prepared := by
  have hmem := h.linked.followed_iff.1 ⟨b, hb, hp⟩
  rw [← List.map_dropLast, List.mem_map] at hmem
  obtain ⟨a, ha, rfl⟩ := hmem
  exact ⟨a, (List.dropLast_sublist _).subset ha, rfl, h.ended a ha⟩

theorem prepared_length (h : Lineage l) : (l.filter fun r => r.state = .prepared).length ≤ 1 := by
  rcases List.eq_nil_or_concat l with rfl | ⟨init, last, rfl⟩
  · simp
  · have hinit : init.filter (fun r => r.state = .prepared) = [] := by
      refine List.filter_eq_nil_iff.2 fun a ha => ?_
      have := h.ended a (by simpa using ha)
      simpa using this
    rw [List.concat_eq_append, List.filter_append, hinit, List.nil_append]
    exact List.length_filter_le _ [last]

/-- The one attempt that supersedes nothing. -/
theorem root {a : AttemptRow} {rest : List AttemptRow} (h : Lineage (a :: rest))
    (hid : ((a :: rest).map (·.attemptId)).Nodup) :
    ((a :: rest).filter fun r => r.supersedesAttemptId = none) = [a] := by
  have hnodup := h.linked.parents_nodup hid
  have ha : a.supersedesAttemptId = none := h.linked.1
  rw [List.map_cons, List.nodup_cons, ha] at hnodup
  have hrest : rest.filter (fun r => r.supersedesAttemptId = none) = [] := by
    refine List.filter_eq_nil_iff.2 fun b hb hnone => hnodup.1 ?_
    rw [← of_decide_eq_true hnone]
    exact List.mem_map_of_mem hb
  rw [List.filter_cons_of_pos (by simpa using ha), hrest]

end Lineage

/-! ## The loops of `_verify_task_lineage` -/

/-- The link of an attempt to the one it supersedes. -/
def lineagePair (r : AttemptRow) : Option (Token × Token) := r.supersedesAttemptId.map (·, r.attemptId)

theorem filterMap_lineagePair_fst (l : List AttemptRow) :
    (l.filterMap lineagePair).map (·.1) = l.filterMap (·.supersedesAttemptId) := by
  rw [List.map_filterMap]
  refine List.filterMap_congr fun r _ => ?_
  cases h : r.supersedesAttemptId <;> simp [lineagePair, h]

theorem mem_lineagePairs {l : List AttemptRow} {p c : Token} :
    (p, c) ∈ l.filterMap lineagePair ↔ ∃ r ∈ l, r.supersedesAttemptId = some p ∧ r.attemptId = c := by
  simp only [List.mem_filterMap, lineagePair, Option.map_eq_some_iff, Prod.mk.injEq]
  constructor
  · rintro ⟨r, hr, q, hq, rfl, hc⟩
    exact ⟨r, hr, hq, hc⟩
  · rintro ⟨r, hr, hp, hc⟩
    exact ⟨r, hr, p, hp, rfl, hc⟩

/-- The loop collects one pair for each attempt with a predecessor. -/
theorem lineagePairs_ok {attempts : List AttemptRow} : ∀ {rest : List AttemptRow} {pairs : List (Token × Token)},
    (∀ a ∈ rest, ∀ p, a.supersedesAttemptId = some p →
      ∃ prior, attempts.find? (fun r => r.attemptId = p) = some prior ∧ prior.state ≠ .prepared) →
    ((pairs ++ rest.filterMap lineagePair).map (·.1)).Nodup →
    lineagePairs attempts rest pairs = .ok (pairs ++ rest.filterMap lineagePair)
  | [], pairs, _, _ => by simp [lineagePairs]
  | a :: rest, pairs, hprior, hnodup => by
    unfold lineagePairs
    cases hsup : a.supersedesAttemptId with
    | none =>
      have hpair : lineagePair a = none := by simp [lineagePair, hsup]
      rw [List.filterMap_cons_none hpair] at hnodup ⊢
      exact lineagePairs_ok (fun b hb => hprior b (List.mem_cons_of_mem _ hb)) hnodup
    | some p =>
      have hpair : lineagePair a = some (p, a.attemptId) := by simp [lineagePair, hsup]
      rw [List.filterMap_cons_some hpair, List.append_cons] at hnodup ⊢
      obtain ⟨prior, hfind, hstate⟩ := hprior a List.mem_cons_self p hsup
      have hnew : p ∉ pairs.map (·.1) := fun hmem => by
        rw [List.map_append, List.map_append] at hnodup
        have := (List.nodup_append.1 (List.nodup_append.1 hnodup).1).2.2 p hmem p (by simp)
        exact this rfl
      simp only [hfind, demand, ok_bind]
      rw [refuse_of_not (by rw [not_or]; exact ⟨hstate, hnew⟩), ok_bind]
      exact lineagePairs_ok (fun b hb => hprior b (List.mem_cons_of_mem _ hb)) hnodup

/-- The loop keeps the rows whose attempts belong to the task, when no row crosses tasks. -/
theorem taskSuccessors_ok {s : Store} {taskId : Token} : ∀ {rows : List SuccessorRow},
    (∀ r ∈ rows, (s.attempt? r.predecessor).map (·.taskId) = (s.attempt? r.successor).map (·.taskId)) →
    taskSuccessors s taskId rows =
      .ok ((rows.filter fun r => (s.attempt? r.successor).map (·.taskId) = some taskId).map
        fun r => (r.predecessor, r.successor))
  | [], _ => rfl
  | r :: rest, h => by
    have ih := @taskSuccessors_ok s taskId rest fun q hq => h q (List.mem_cons_of_mem _ hq)
    have hr := h r List.mem_cons_self
    unfold taskSuccessors
    by_cases ht : (s.attempt? r.successor).map (·.taskId) = some taskId
    · rw [List.filter_cons_of_pos (by exact decide_eq_true ht), List.map_cons]
      simp only [hr, ht, ih, refuse, ne_eq, not_true, and_self, or_self, if_false, ok_bind]
      rfl
    · rw [List.filter_cons_of_neg (by simpa only [decide_eq_true_eq] using ht)]
      simp only [hr, ht, ih, ne_eq, not_false_eq_true, and_self, if_true]

/-- The walk visits a chain in order. -/
theorem walkLineage_linked {pairs : List (Token × Token)} : ∀ {rest : List AttemptRow} {p : Option Token}
    {a : AttemptRow} {visited : List Token} {fuel : Nat},
    Linked AttemptRow.attemptId AttemptRow.supersedesAttemptId p (a :: rest) →
    (visited ++ (a :: rest).map (·.attemptId)).Nodup → rest.length < fuel →
    (∀ b ∈ rest, ∀ k, b.supersedesAttemptId = some k → pairs.find? (fun q => q.1 = k) = some (k, b.attemptId)) →
    (∀ k, ((a :: rest).map (·.attemptId)).getLast? = some k → pairs.find? (fun q => q.1 = k) = none) →
    walkLineage pairs fuel a.attemptId visited = visited ++ (a :: rest).map (·.attemptId)
  | _, _, _, _, 0, _, _, hfuel, _, _ => absurd hfuel (Nat.not_lt_zero _)
  | [], _, a, visited, fuel + 1, _, hnodup, _, _, hlast => by
    have hnew : a.attemptId ∉ visited := fun hmem => (List.nodup_append.1 hnodup).2.2 _ hmem _ (by simp) rfl
    simp only [walkLineage, if_neg hnew, hlast a.attemptId (by simp), List.map_cons, List.map_nil]
  | b :: rest, _, a, visited, fuel + 1, hlink, hnodup, hfuel, hnext, hlast => by
    have hnew : a.attemptId ∉ visited := fun hmem => (List.nodup_append.1 hnodup).2.2 _ hmem _ (by simp) rfl
    have hfind := hnext b List.mem_cons_self a.attemptId hlink.2.1
    rw [List.map_cons, List.append_cons] at hnodup
    have ih := @walkLineage_linked pairs _ _ _ _ fuel hlink.2 hnodup (by simpa using hfuel)
      (fun c hc => hnext c (List.mem_cons_of_mem _ hc)) (fun k hk => hlast k (by simpa using hk))
    simp only [walkLineage, if_neg hnew, hfind, ih]
    simp

/-! ## The verification -/

/-- The tuple order of pairs follows their first parts. -/
theorem pairKey_lt {p q : Token × Token} (h : p.1 < q.1) : pairKey p < pairKey q := List.Lex.rel h

section Chain

variable {l m : List AttemptRow}

/-- The links of a chain have distinct predecessors. -/
theorem Lineage.pairs_nodup (h : Lineage l) (hid : (l.map (·.attemptId)).Nodup) (hp : m.Perm l) :
    ((m.filterMap lineagePair).map (·.1)).Nodup := by
  have hparents : (m.map (·.supersedesAttemptId)).Nodup :=
    (hp.map _).nodup_iff.2 (h.linked.parents_nodup hid)
  have hid' : m.filterMap (·.supersedesAttemptId) = (m.map (·.supersedesAttemptId)).filterMap id := by
    rw [List.filterMap_map]; rfl
  rw [filterMap_lineagePair_fst, hid']
  exact hparents.filterMap fun a b c ha hb => by simp_all

/-- The pairs of a chain, in whatever order its attempts are listed. -/
theorem Lineage.pairs_ok (h : Lineage l) (hid : (l.map (·.attemptId)).Nodup) (hp : m.Perm l) :
    lineagePairs m m [] = .ok (m.filterMap lineagePair) := by
  have hids : (m.map (·.attemptId)).Nodup := (hp.map _).nodup_iff.2 hid
  have hpairs := @lineagePairs_ok m m [] (fun b hb p hsup => by
    obtain ⟨prior, hprior, hpid, hstate⟩ := h.superseded_ended (hp.mem_iff.1 hb) hsup
    exact ⟨prior, (find?_of_nodup hids).2 ⟨hp.mem_iff.2 hprior, hpid⟩, hstate⟩)
    (by rw [List.nil_append]; exact h.pairs_nodup hid hp)
  rw [hpairs, List.nil_append]

/-- The walk from the root of a chain visits it in order. -/
theorem Lineage.walk {a : AttemptRow} {rest : List AttemptRow} (h : Lineage (a :: rest))
    (hid : ((a :: rest).map (·.attemptId)).Nodup) (hp : m.Perm (a :: rest)) :
    walkLineage (m.filterMap lineagePair) (m.length + 1) a.attemptId [] = (a :: rest).map (·.attemptId) := by
  have hpairs := h.pairs_nodup hid hp
  have hmem : ∀ p c, (p, c) ∈ m.filterMap lineagePair ↔
      ∃ r ∈ a :: rest, r.supersedesAttemptId = some p ∧ r.attemptId = c := fun p c => by
    rw [(hp.filterMap lineagePair).mem_iff, mem_lineagePairs]
  refine (@walkLineage_linked _ _ _ _ [] _ h.linked hid ?_ ?_ ?_).trans rfl
  · rw [hp.length_eq, List.length_cons]; omega
  · intro b hb k hk
    exact (find?_of_nodup (g := fun q : Token × Token => q.1) hpairs).2
      ⟨(hmem _ _).2 ⟨b, List.mem_cons_of_mem _ hb, hk, rfl⟩, rfl⟩
  · -- nobody follows the last attempt
    intro k hk
    rw [find?_key_none (g := fun q : Token × Token => q.1)]
    rintro ⟨p, c⟩ hq rfl
    obtain ⟨r, hr, hsup, -⟩ := (hmem _ _).1 hq
    have hdrop := h.linked.followed_iff.1 ⟨r, hr, hsup⟩
    have hne : (a :: rest).map (·.attemptId) ≠ [] := by simp
    rw [← List.dropLast_append_getLast hne, List.nodup_append] at hid
    rw [List.getLast?_eq_some_getLast hne, Option.some.injEq] at hk
    exact hid.2.2 _ hdrop _ (List.mem_singleton.2 rfl) hk.symm

end Chain

section Verify

variable {s : Store}

theorem attemptIds_nodup (taskId : Token) : ((s.attemptsOf taskId).map (·.attemptId)).Nodup :=
  (s.attempts.keys_nodup fun a b h => by simp [AttemptRow.clash, h]).sublist (List.filter_sublist.map _)

theorem successor_tasks (hchain : ∀ t, Lineage (s.attemptsOf t))
    (hsucc : s.successors.rows = s.attempts.rows.filterMap successorRow) {r : SuccessorRow} (hr : r ∈ s.successors.rows) :
    (s.attempt? r.predecessor).map (·.taskId) = (s.attempt? r.successor).map (·.taskId) := by
  rw [hsucc, List.mem_filterMap] at hr
  obtain ⟨a, ha, hrow⟩ := hr
  simp only [successorRow, Option.map_eq_some_iff] at hrow
  obtain ⟨p, hp, rfl⟩ := hrow
  obtain ⟨b, hb, hbid⟩ := (hchain a.taskId).linked.parent_mem (Store.mem_attemptsOf.2 ⟨ha, rfl⟩) hp
  obtain ⟨hbmem, hbtask⟩ := Store.mem_attemptsOf.1 hb
  rw [Store.attempt?_eq_some.2 ⟨hbmem, hbid⟩, Store.attempt?_eq_some.2 ⟨ha, rfl⟩]
  simp [hbtask]

theorem task_successors (hsucc : s.successors.rows = s.attempts.rows.filterMap successorRow) (taskId : Token) :
    (s.successors.rows.filter fun r => (s.attempt? r.successor).map (·.taskId) = some taskId).map
      (fun r => (r.predecessor, r.successor)) = (s.attemptsOf taskId).filterMap lineagePair := by
  rw [hsucc, Store.attemptsOf, List.filter_filterMap, List.map_filterMap, List.filterMap_filter]
  refine List.filterMap_congr fun a ha => ?_
  cases hsup : a.supersedesAttemptId with
  | none => simp [successorRow, lineagePair, hsup]
  | some p =>
    have hfind : s.attempt? a.attemptId = some a := Store.attempt?_eq_some.2 ⟨ha, rfl⟩
    by_cases ht : a.taskId = taskId
    · simp [successorRow, lineagePair, hsup, hfind, ht]
    · simp [successorRow, hsup, hfind, ht]

/-- The successor rows in order are the links in order. -/
theorem successors_sorted (hsucc : s.successors.rows = s.attempts.rows.filterMap successorRow) (taskId : Token) :
    ((sortBy (·.predecessor) s.successors.rows).filter
        fun r => (s.attempt? r.successor).map (·.taskId) = some taskId).map (fun r => (r.predecessor, r.successor)) =
      sortBy pairKey ((sortBy (·.attemptId) (s.attemptsOf taskId)).filterMap lineagePair) := by
  have hkeys : (s.successors.rows.map (·.predecessor)).Nodup :=
    s.successors.keys_nodup fun a b h => by simp [SuccessorRow.clash, h]
  have hstrict := (sortBy_strict hkeys).filter fun r => (s.attempt? r.successor).map (·.taskId) = some taskId
  have hsorted : (((sortBy (·.predecessor) s.successors.rows).filter
      fun r => (s.attempt? r.successor).map (·.taskId) = some taskId).map (fun r => (r.predecessor, r.successor))).Pairwise
      fun p q => pairKey p < pairKey q :=
    List.pairwise_map.2 (hstrict.imp fun h => pairKey_lt h)
  refine eq_of_perm_of_keys (g := pairKey) ?_ (hsorted.imp le_of_lt) (sortBy_pairwise _ _)
    (List.pairwise_map.2 (hsorted.imp ne_of_lt))
  refine ((((sortBy_perm (·.predecessor) s.successors.rows).filter _).map _).trans ?_).trans (sortBy_perm pairKey _).symm
  rw [task_successors hsucc]
  exact ((sortBy_perm (·.attemptId) (s.attemptsOf taskId)).filterMap _).symm

/-- The verification passes for a task whose attempts can be listed as a lineage, with its links as the successor
rows. -/
theorem verifyTaskLineage_of_lineage {host : Host} {taskId : Token} {l : List AttemptRow}
    (hl : (s.attemptsOf taskId).Perm l) (hlin : Lineage l)
    (hclaims : taskSuccessors s taskId (sortBy (·.predecessor) s.successors.rows) =
      .ok (sortBy pairKey ((sortBy (·.attemptId) (s.attemptsOf taskId)).filterMap lineagePair)))
    (hread : ∀ r ∈ l, ∃ x, readAttempt host s r.attemptId = .ok x) : verifyTaskLineage host s taskId = .ok () := by
  have hids : (l.map (·.attemptId)).Nodup := (hl.map _).nodup_iff.1 (attemptIds_nodup taskId)
  have hperm := (sortBy_perm (·.attemptId) (s.attemptsOf taskId)).trans hl
  dsimp only [verifyTaskLineage]
  generalize sortBy (·.attemptId) (s.attemptsOf taskId) = m at hperm hclaims ⊢
  split
  · rfl
  · rename_i hne
    obtain ⟨a, rest, rfl⟩ : ∃ a rest, l = a :: rest :=
      List.exists_cons_of_ne_nil fun hnil => hne (by rw [hnil] at hperm; exact hperm.eq_nil)
    have hroot : m.filter (fun r => r.supersedesAttemptId = none) = [a] := by
      have hfilter := hperm.filter fun r => r.supersedesAttemptId = none
      rwa [hlin.root hids, List.perm_singleton] at hfilter
    have hcover : (∀ id ∈ (a :: rest).map (·.attemptId), id ∈ m.map (·.attemptId)) ∧
        ∀ r ∈ m, r.attemptId ∈ (a :: rest).map (·.attemptId) :=
      ⟨fun id hid => (hperm.map _).mem_iff.2 hid, fun r hr => List.mem_map_of_mem (hperm.mem_iff.1 hr)⟩
    have hone : ¬ 1 < (m.filter fun r => r.state = .prepared).length := by
      rw [(hperm.filter _).length_eq]
      exact Nat.not_lt.2 hlin.prepared_length
    simp only [hroot, hlin.pairs_ok hids hperm, hclaims, ok_bind, hlin.walk hids hperm]
    rw [refuse_of_not (by simp), ok_bind, refuse_of_not (by rw [not_or, not_not]; exact ⟨hcover, hone⟩), ok_bind]
    refine readAttempts_ok.2 fun id hid => ?_
    obtain ⟨r, hr, rfl⟩ := List.mem_map.1 hid
    exact hread r hr

theorem verifyTaskLineage_ok {host : Host} (hchain : ∀ t, Lineage (s.attemptsOf t))
    (hsucc : s.successors.rows = s.attempts.rows.filterMap successorRow)
    (hread : ∀ r ∈ s.attempts.rows, ∃ x, readAttempt host s r.attemptId = .ok x) (taskId : Token) :
    verifyTaskLineage host s taskId = .ok () := by
  have hclaims := @taskSuccessors_ok s taskId (sortBy (·.predecessor) s.successors.rows)
    fun r hr => successor_tasks hchain hsucc (mem_sortBy.1 hr)
  rw [successors_sorted hsucc] at hclaims
  exact verifyTaskLineage_of_lineage (.refl _) (hchain taskId) hclaims fun r hr => hread r (Store.mem_attemptsOf.1 hr).1

end Verify

end Roundwright.Dependency
