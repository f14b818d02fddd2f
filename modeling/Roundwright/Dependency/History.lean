/-
`_verify_task_lineage` over arbitrary tables. It accepts exactly the linear histories: the attempts of the task can be
listed so that each supersedes the one before it and all but the last have ended, and the successor rows that touch the
task are the steps of the list.
-/
import Roundwright.Dependency.Invariant

namespace Roundwright.Dependency

open Lib

/-! ## The loops, read back -/

theorem nodup_append_singleton {α : Type} {l : List α} {a : α} (hl : l.Nodup) (ha : a ∉ l) : (l ++ [a]).Nodup := by
  rw [← List.concat_eq_append]
  exact hl.concat ha

/-- What the loop over the attempts has checked. -/
theorem lineagePairs_spec {attempts : List AttemptRow} : ∀ {rest : List AttemptRow} {pairs expected : List (Token × Token)},
    lineagePairs attempts rest pairs = .ok expected →
    expected = pairs ++ rest.filterMap lineagePair ∧
    (∀ a ∈ rest, ∀ p, a.supersedesAttemptId = some p → ∃ prior ∈ attempts, prior.attemptId = p ∧ prior.state ≠ .prepared) ∧
    ((pairs.map (·.1)).Nodup → (expected.map (·.1)).Nodup)
  | [], pairs, expected, h => by
    obtain rfl := Except.ok.inj h
    exact ⟨by simp, by simp, fun h => h⟩
  | a :: rest, pairs, expected, h => by
    unfold lineagePairs at h
    cases hsup : a.supersedesAttemptId with
    | none =>
      rw [hsup] at h
      obtain ⟨hexpected, hprior, hnodup⟩ := lineagePairs_spec h
      refine ⟨?_, fun b hb p hp => ?_, hnodup⟩
      · have hpair : lineagePair a = none := by simp [lineagePair, hsup]
        rw [hexpected, List.filterMap_cons_none hpair]
      · rcases List.mem_cons.1 hb with rfl | hb
        · rw [hsup] at hp
          cases hp
        · exact hprior b hb p hp
    | some predecessor =>
      rw [hsup] at h
      simp only [bind_eq_ok, exists_unit, demand_eq_ok, refuse_eq_ok, not_or] at h
      obtain ⟨prior, hfind, ⟨hstate, hnew⟩, h⟩ := h
      obtain ⟨hexpected, hprior, hnodup⟩ := lineagePairs_spec h
      refine ⟨?_, fun b hb p hp => ?_, fun hpairs => hnodup ?_⟩
      · have hpair : lineagePair a = some (predecessor, a.attemptId) := by simp [lineagePair, hsup]
        rw [hexpected, List.filterMap_cons_some hpair, List.append_assoc]
        rfl
      · rcases List.mem_cons.1 hb with rfl | hb
        · rw [hsup] at hp
          obtain rfl := Option.some.inj hp
          exact ⟨prior, List.mem_of_find?_eq_some hfind, by simpa using List.find?_some hfind, hstate⟩
        · exact hprior b hb p hp
      · rw [List.map_append, List.map_singleton]
        exact nodup_append_singleton hpairs hnew

/-- The successor row touches the task. -/
def Touches (s : Store) (taskId : Token) (r : SuccessorRow) : Prop :=
  (s.attempt? r.predecessor).map (·.taskId) = some taskId ∨ (s.attempt? r.successor).map (·.taskId) = some taskId

variable {taskId : Token}

/-- The loop over the successor rows keeps those that touch the task, all of them with both ends. -/
theorem taskSuccessors_spec {s : Store} : ∀ {rows : List SuccessorRow} {claims : List (Token × Token)},
    taskSuccessors s taskId rows = .ok claims →
    ∀ p q, (p, q) ∈ claims ↔ ⟨p, q⟩ ∈ rows ∧ Touches s taskId ⟨p, q⟩ := by
  intro rows
  induction rows with
  | nil =>
    intro claims h p q
    obtain rfl := Except.ok.inj h
    simp
  | cons r rest ih =>
    intro claims h p q
    unfold taskSuccessors at h
    dsimp only at h
    split at h
    · rename_i hother
      rw [ih h p q, List.mem_cons]
      constructor
      · rintro ⟨hmem, ht⟩
        exact ⟨.inr hmem, ht⟩
      · rintro ⟨hmem, ht⟩
        refine ⟨hmem.resolve_left fun heq => ?_, ht⟩
        rw [heq, Touches] at ht
        exact ht.elim hother.1 hother.2
    · simp only [bind_eq_ok, exists_unit, refuse_eq_ok, not_or, not_not, pure_eq_ok] at h
      obtain ⟨⟨hp, hq⟩, more, hmore, rfl⟩ := h
      rw [List.mem_cons, List.mem_cons, ih hmore p q]
      constructor
      · rintro (heq | ⟨hmem, ht⟩)
        · obtain ⟨rfl, rfl⟩ := Prod.mk.inj heq
          exact ⟨.inl rfl, .inl hp⟩
        · exact ⟨.inr hmem, ht⟩
      · rintro ⟨rfl | hmem, ht⟩
        · exact .inl rfl
        · exact .inr ⟨hmem, ht⟩

/-- The loop passes when every row that touches the task has both ends in it. -/
theorem taskSuccessors_total {s : Store} {taskId : Token} : ∀ {rows : List SuccessorRow},
    (∀ r ∈ rows, Touches s taskId r →
      (s.attempt? r.predecessor).map (·.taskId) = some taskId ∧ (s.attempt? r.successor).map (·.taskId) = some taskId) →
    ∃ claims, taskSuccessors s taskId rows = .ok claims ∧ claims.Sublist (rows.map fun r => (r.predecessor, r.successor))
  | [], _ => ⟨[], rfl, .refl _⟩
  | r :: rest, h => by
    obtain ⟨claims, hclaims, hsub⟩ := @taskSuccessors_total s taskId rest fun a ha => h a (List.mem_cons_of_mem r ha)
    unfold taskSuccessors
    dsimp only
    split
    · exact ⟨claims, hclaims, hsub.cons _⟩
    · rename_i htouch
      have hboth := h r List.mem_cons_self (by rw [Touches]; exact Decidable.or_iff_not_not_and_not.2 htouch)
      refine ⟨(r.predecessor, r.successor) :: claims, ?_, hsub.cons_cons _⟩
      simp [hboth, hclaims, refuse]

/-! ## The walk -/

/-- The walk never takes an attempt twice and follows the pairs. -/
theorem walkLineage_spec {pairs : List (Token × Token)} : ∀ {fuel : Nat} {current : Token} {visited : List Token},
    visited.Nodup → (visited ++ [current]).IsChain (fun a b => (a, b) ∈ pairs) →
    (walkLineage pairs fuel current visited).Nodup ∧ (walkLineage pairs fuel current visited).IsChain (fun a b => (a, b) ∈ pairs) ∧
      visited <+: walkLineage pairs fuel current visited
  | 0, current, visited, hnodup, hchain => ⟨hnodup, ( List.IsChain.prefix hchain (List.prefix_append _ _)), List.prefix_rfl⟩
  | fuel + 1, current, visited, hnodup, hchain => by
    unfold walkLineage
    split
    · exact ⟨hnodup, ( List.IsChain.prefix hchain (List.prefix_append _ _)), List.prefix_rfl⟩
    · rename_i hnew
      have hnodup' := nodup_append_singleton hnodup hnew
      cases hfind : pairs.find? (fun p => p.1 = current) with
      | none => exact ⟨hnodup', hchain, List.prefix_append _ _⟩
      | some next =>
        have hmem := List.mem_of_find?_eq_some hfind
        have hkey : next.1 = current := by simpa using List.find?_some hfind
        have hstep : (visited ++ [current] ++ [next.2]).IsChain fun a b => (a, b) ∈ pairs := by
          refine hchain.append (.singleton _) fun x hx y hy => ?_
          simp only [List.getLast?_append, List.getLast?_singleton, Option.some_or, Option.mem_some] at hx
          simp only [List.head?_cons, Option.mem_some] at hy
          rw [← hx, ← hy, ← hkey]
          exact hmem
        obtain ⟨h₁, h₂, h₃⟩ := @walkLineage_spec pairs fuel _ _ hnodup' hstep
        exact ⟨h₁, h₂, (List.prefix_append _ _).trans h₃⟩

theorem walkLineage_head (pairs : List (Token × Token)) (fuel : Nat) (current : Token) :
    (walkLineage pairs (fuel + 1) current []).head? = some current := by
  unfold walkLineage
  rw [if_neg (by simp)]
  cases hfind : pairs.find? (fun p => p.1 = current) with
  | none => rfl
  | some next =>
    have hkey : next.1 = current := by simpa using List.find?_some hfind
    have hstep : ([current] ++ [next.2]).IsChain fun a b => (a, b) ∈ pairs :=
      List.isChain_pair.2 (hkey ▸ List.mem_of_find?_eq_some hfind)
    obtain ⟨rest, hrest⟩ := (@walkLineage_spec pairs fuel _ _ (List.nodup_singleton current) hstep).2.2
    dsimp only [List.nil_append]
    rw [← hrest]
    rfl

/-- The walk ends by itself: beyond one step for each pair, fuel makes no difference. -/
theorem walkLineage_fuel {pairs : List (Token × Token)} : ∀ {fuel more : Nat} {current : Token} {visited : List Token},
    visited.Nodup → (∀ a ∈ visited, a ∈ pairs.map (·.1)) → pairs.length + 1 ≤ fuel + visited.length → fuel ≤ more →
    walkLineage pairs more current visited = walkLineage pairs fuel current visited
  | 0, more, current, visited, hnodup, hkeys, hfuel, _ => by
    have hlength := (List.subperm_of_subset hnodup hkeys).length_le
    rw [List.length_map] at hlength
    omega
  | fuel + 1, 0, _, _, _, _, _, hmore => absurd hmore (by omega)
  | fuel + 1, more + 1, current, visited, hnodup, hkeys, hfuel, hmore => by
    unfold walkLineage
    split
    · rfl
    · rename_i hnew
      cases hfind : pairs.find? (fun p => p.1 = current) with
      | none => rfl
      | some next =>
        have hkey : current ∈ pairs.map (·.1) := by
          have hcurrent : next.1 = current := by simpa using List.find?_some hfind
          exact hcurrent ▸ List.mem_map_of_mem (List.mem_of_find?_eq_some hfind)
        refine walkLineage_fuel (nodup_append_singleton hnodup hnew) (fun a ha => ?_)
          (by rw [List.length_append, List.length_singleton]; omega) (by omega)
        rcases List.mem_append.1 ha with ha | ha
        · exact hkeys a ha
        · rw [List.mem_singleton.1 ha]
          exact hkey

/-! ## Linear histories -/

theorem mem_lineagePairs_line {l : List AttemptRow} (hroot : ∀ a, l.head? = some a → a.supersedesAttemptId = none)
    (hlinked : ∀ a b, [a, b] <:+: l → b.supersedesAttemptId = some a.attemptId) {p q : Token} :
    (p, q) ∈ l.filterMap lineagePair ↔ ∃ a b, [a, b] <:+: l ∧ a.attemptId = p ∧ b.attemptId = q := by
  rw [mem_lineagePairs]
  constructor
  · rintro ⟨b, hb, hsup, rfl⟩
    obtain ⟨before, rest, rfl⟩ := List.append_of_mem hb
    rcases List.eq_nil_or_concat before with rfl | ⟨init, a, rfl⟩
    · -- the first attempt supersedes none
      rw [hroot b rfl] at hsup
      cases hsup
    · have hadjacent : [a, b] <:+: init.concat a ++ b :: rest := ⟨init, rest, by simp⟩
      exact ⟨a, b, hadjacent, Option.some.inj ((hlinked a b hadjacent).symm.trans hsup), rfl⟩
  · rintro ⟨a, b, hadjacent, rfl, rfl⟩
    exact ⟨b, hadjacent.subset (by simp), hlinked a b hadjacent, rfl⟩

/-- The attempts of the task in a line: the first supersedes none, each other one the one before it, all but the last
have ended, and the successor rows that touch the task are the steps of the line. -/
structure LinearHistory (s : Store) (taskId : Token) (l : List AttemptRow) : Prop where
  attempts : l.Perm (s.attemptsOf taskId)
  root : ∀ a ∈ l, a.supersedesAttemptId = none ↔ l.head? = some a
  linked : ∀ a b, [a, b] <:+: l → b.supersedesAttemptId = some a.attemptId
  ended : ∀ a ∈ l.dropLast, a.state ≠ .prepared
  prepared : (l.filter fun a => a.state = .prepared).length ≤ 1
  successors : ∀ p q, (⟨p, q⟩ ∈ s.successors.rows ∧ Touches s taskId ⟨p, q⟩) ↔
    ∃ a b, [a, b] <:+: l ∧ a.attemptId = p ∧ b.attemptId = q

theorem LinearHistory.lineage {s : Store} {l : List AttemptRow} (h : LinearHistory s taskId l) : Lineage l := by
  refine ⟨?_, h.ended⟩
  -- the chain from its first attempt on
  have hlinked : ∀ (rest : List AttemptRow) (a : AttemptRow), a :: rest <:+ l →
      Linked AttemptRow.attemptId AttemptRow.supersedesAttemptId (some a.attemptId) rest := by
    intro rest
    induction rest with
    | nil => intro _ _; trivial
    | cons b rest ih =>
      intro a hsuffix
      obtain ⟨before, rfl⟩ := hsuffix
      refine ⟨h.linked a b ⟨before, rest, by simp⟩, ih b ⟨before ++ [a], by simp⟩⟩
  cases l with
  | nil => trivial
  | cons a rest => exact ⟨(h.root a List.mem_cons_self).2 rfl, hlinked rest a (List.suffix_refl _)⟩

/-! ## What is accepted is linear -/

/-- Ids of rows are the ids of a list of these rows. -/
theorem exists_rows {m : List AttemptRow} : ∀ {ids : List Token}, (∀ id ∈ ids, id ∈ m.map (·.attemptId)) →
    ∃ l : List AttemptRow, l.map (·.attemptId) = ids ∧ ∀ a ∈ l, a ∈ m
  | [], _ => ⟨[], rfl, by simp⟩
  | id :: ids, h => by
    obtain ⟨l, hl, hmem⟩ := exists_rows fun k hk => h k (List.mem_cons_of_mem id hk)
    obtain ⟨a, ha, rfl⟩ := List.mem_map.1 (h id List.mem_cons_self)
    refine ⟨a :: l, by rw [List.map_cons, hl], fun b hb => ?_⟩
    rcases List.mem_cons.1 hb with rfl | hb
    · exact ha
    · exact hmem b hb

section Accepted

variable {s : Store} {taskId : Token} {m : List AttemptRow} {root : AttemptRow}

theorem linearHistory_of_walk (hm : m.Perm (s.attemptsOf taskId))
    (hroot : (m.filter fun r => r.supersedesAttemptId = none) = [root])
    (hprior : ∀ a ∈ m, ∀ p, a.supersedesAttemptId = some p → ∃ prior ∈ m, prior.attemptId = p ∧ prior.state ≠ .prepared)
    (hclaims : ∀ p q, (p, q) ∈ m.filterMap lineagePair ↔ ⟨p, q⟩ ∈ s.successors.rows ∧ Touches s taskId ⟨p, q⟩)
    {visited : List Token} (hnodup : visited.Nodup)
    (hchain : visited.IsChain fun a b => (a, b) ∈ m.filterMap lineagePair) (hhead : visited.head? = some root.attemptId)
    (hcover : ∀ id ∈ visited, id ∈ m.map (·.attemptId)) (hall : ∀ a ∈ m, a.attemptId ∈ visited)
    (hone : (m.filter fun r => r.state = .prepared).length ≤ 1) :
    ∃ l, LinearHistory s taskId l := by
  have hids : (m.map (·.attemptId)).Nodup := (hm.map _).nodup_iff.2 (attemptIds_nodup taskId)
  have hsame : ∀ {a b : AttemptRow}, a ∈ m → b ∈ m → a.attemptId = b.attemptId → a = b :=
    fun ha hb h => List.inj_on_of_nodup_map hids ha hb h
  obtain ⟨l, hl, hmem⟩ := exists_rows hcover
  -- the walk takes every id once, so the line is the rows in another order
  have hperm : l.Perm m := by
    refine (List.perm_ext_iff_of_nodup (List.Nodup.of_map _ (hl ▸ hnodup)) (List.Nodup.of_map _ hids)).2 fun a =>
      ⟨hmem a, fun ha => ?_⟩
    obtain ⟨b, hb, hid⟩ := List.mem_map.1 (hl ▸ hall a ha)
    exact hsame (hmem b hb) ha hid ▸ hb
  have hlinked : l.IsChain fun a b => (a.attemptId, b.attemptId) ∈ m.filterMap lineagePair := by
    rw [← hl, List.isChain_map] at hchain
    exact hchain
  have hnext : ∀ {a b : AttemptRow}, (a.attemptId, b.attemptId) ∈ m.filterMap lineagePair → b ∈ m →
      b.supersedesAttemptId = some a.attemptId := by
    intro a b hpair hb
    obtain ⟨r, hr, hsup, hid⟩ := mem_lineagePairs.1 hpair
    exact hsame hr hb hid ▸ hsup
  have hrootmem : root ∈ m ∧ root.supersedesAttemptId = none := by
    have hmem : root ∈ m.filter fun r => r.supersedesAttemptId = none := hroot ▸ List.mem_singleton.2 rfl
    simpa using List.mem_filter.1 hmem
  have hfirst : l.head? = some root := by
    cases l with
    | nil =>
      rw [← hl] at hhead
      cases hhead
    | cons a rest =>
      rw [← hl] at hhead
      rw [List.head?_cons, hsame (hmem a List.mem_cons_self) hrootmem.1 (Option.some.inj hhead)]
  refine ⟨l, hperm.trans hm, fun a ha => ?_, fun a b hadjacent => ?_, fun a ha => ?_, ?_, fun p q => ?_⟩
  · rw [hfirst, Option.some.injEq]
    constructor
    · intro hnone
      have hfilter : a ∈ m.filter fun r => r.supersedesAttemptId = none := List.mem_filter.2 ⟨hmem a ha, by simpa using hnone⟩
      rw [hroot] at hfilter
      exact (List.mem_singleton.1 hfilter).symm
    · rintro rfl
      exact hrootmem.2
  · exact hnext (List.isChain_pair.1 ( List.IsChain.infix hlinked hadjacent)) (hmem b (hadjacent.subset (by simp)))
  · -- an attempt before the last is superseded by the next
    obtain ⟨before, after, hsplit⟩ := List.append_of_mem ha
    have hne : l ≠ [] := by
      rintro rfl
      cases ha
    have hwhole := List.dropLast_append_getLast hne
    rw [hsplit] at hwhole
    obtain ⟨b, rest, hrest⟩ : ∃ b rest, after ++ [l.getLast hne] = b :: rest := List.exists_cons_of_ne_nil (by simp)
    have hadjacent : [a, b] <:+: l := ⟨before, rest, by rw [← hwhole]; simp [← hrest]⟩
    have hb := hmem b (hadjacent.subset (by simp))
    have hsup := hnext (List.isChain_pair.1 ( List.IsChain.infix hlinked hadjacent)) hb
    obtain ⟨prior, hprior, hid, hstate⟩ := hprior b hb _ hsup
    exact hsame hprior (hmem a (hadjacent.subset (by simp))) hid ▸ hstate
  · rw [(hperm.filter _).length_eq]
    exact hone
  · rw [← hclaims, ← (hperm.filterMap lineagePair).mem_iff]
    refine mem_lineagePairs_line (fun a ha => ?_) fun a b hadjacent => ?_
    · rw [hfirst] at ha
      exact Option.some.inj ha ▸ hrootmem.2
    · exact hnext (List.isChain_pair.1 ( List.IsChain.infix hlinked hadjacent)) (hmem b (hadjacent.subset (by simp)))

end Accepted

theorem linearHistory_of_verify {host : Host} {s : Store}
    (h : verifyTaskLineage host s taskId = .ok ()) (hne : s.attemptsOf taskId ≠ []) : ∃ l, LinearHistory s taskId l := by
  have hperm := sortBy_perm (·.attemptId) (s.attemptsOf taskId)
  dsimp only [verifyTaskLineage] at h
  generalize sortBy (·.attemptId) (s.attemptsOf taskId) = m at hperm h
  split at h
  · rename_i hnil
    rw [hnil] at hperm
    exact absurd hperm.symm.eq_nil hne
  · split at h
    · rename_i root hroot
      simp only [bind_eq_ok, exists_unit, refuse_eq_ok, not_or, not_not, not_lt] at h
      obtain ⟨expected, hexpected, claims, hclaims, hsorted, ⟨⟨hcover, hall⟩, hone⟩, -⟩ := h
      obtain ⟨hpairs, hprior, -⟩ := lineagePairs_spec hexpected
      rw [List.nil_append] at hpairs
      have hwalk := @walkLineage_spec expected (m.length + 1) root.attemptId [] List.nodup_nil (.singleton _)
      have hhead := walkLineage_head expected m.length root.attemptId
      subst hpairs
      refine linearHistory_of_walk hperm hroot hprior (fun p q => ?_) hwalk.1 hwalk.2.1 hhead hcover hall hone
      have hspec := taskSuccessors_spec hclaims p q
      rw [hsorted, mem_sortBy] at hspec
      rw [hspec, mem_sortBy]
    · cases h

/-! ## What is linear is accepted -/

namespace LinearHistory

variable {s : Store} {taskId : Token} {l : List AttemptRow}

/-- A row that touches the task has both ends in it. -/
theorem both_ends (h : LinearHistory s taskId l) {r : SuccessorRow} (hr : r ∈ s.successors.rows) (ht : Touches s taskId r) :
    (s.attempt? r.predecessor).map (·.taskId) = some taskId ∧ (s.attempt? r.successor).map (·.taskId) = some taskId := by
  obtain ⟨a, b, hadjacent, ha, hb⟩ := (h.successors r.predecessor r.successor).1 ⟨hr, ht⟩
  have hend : ∀ c ∈ [a, b], (s.attempt? c.attemptId).map (·.taskId) = some taskId := by
    intro c hc
    obtain ⟨hrow, htask⟩ := Store.mem_attemptsOf.1 (h.attempts.mem_iff.1 (hadjacent.subset hc))
    rw [Store.attempt?_eq_some.2 ⟨hrow, rfl⟩, Option.map_some, htask]
  rw [← ha, ← hb]
  exact ⟨hend a (by simp), hend b (by simp)⟩

/-- The successor rows of the task, in order, are the links of its attempts in order. -/
theorem taskSuccessors_eq (h : LinearHistory s taskId l) : taskSuccessors s taskId (sortBy (·.predecessor) s.successors.rows) =
    .ok (sortBy pairKey ((sortBy (·.attemptId) (s.attemptsOf taskId)).filterMap lineagePair)) := by
  obtain ⟨claims, hclaims, hsub⟩ := @taskSuccessors_total s taskId (sortBy (·.predecessor) s.successors.rows)
    fun r hr ht => h.both_ends (mem_sortBy.1 hr) ht
  have hkeys : (s.successors.rows.map (·.predecessor)).Nodup :=
    s.successors.keys_nodup fun a b hab => by simp [SuccessorRow.clash, hab]
  have hrows : ((sortBy (·.predecessor) s.successors.rows).map fun r => (r.predecessor, r.successor)).Pairwise
      fun p q => pairKey p < pairKey q := List.pairwise_map.2 ((sortBy_strict hkeys).imp fun hlt => pairKey_lt hlt)
  have hsorted := hrows.sublist hsub
  have hperm := (sortBy_perm (·.attemptId) (s.attemptsOf taskId)).trans h.attempts.symm
  have hids : (l.map (·.attemptId)).Nodup := (h.attempts.map _).nodup_iff.2 (attemptIds_nodup taskId)
  have hpairs : claims.Perm ((sortBy (·.attemptId) (s.attemptsOf taskId)).filterMap lineagePair) := by
    refine (List.perm_ext_iff_of_nodup (hsorted.imp fun hlt heq => absurd (heq ▸ hlt) (lt_irrefl _))
      (List.Nodup.of_map _ (h.lineage.pairs_nodup hids hperm))).2 fun pair => ?_
    obtain ⟨p, q⟩ := pair
    rw [taskSuccessors_spec hclaims p q, mem_sortBy, h.successors, (hperm.filterMap lineagePair).mem_iff]
    exact (mem_lineagePairs_line (fun a ha => (h.root a (List.mem_of_mem_head? ha)).2 ha) h.linked).symm
  rw [hclaims]
  refine congrArg Except.ok (eq_of_perm_of_keys (g := pairKey) (hpairs.trans (sortBy_perm pairKey _).symm)
    (hsorted.imp le_of_lt) (sortBy_pairwise _ _) (List.pairwise_map.2 (hsorted.imp ne_of_lt)))

theorem verifies (h : LinearHistory s taskId l) {host : Host}
    (hread : ∀ r ∈ s.attemptsOf taskId, ∃ x, readAttempt host s r.attemptId = .ok x) : verifyTaskLineage host s taskId = .ok () :=
  verifyTaskLineage_of_lineage h.attempts.symm h.lineage h.taskSuccessors_eq fun r hr => hread r (h.attempts.mem_iff.1 hr)

end LinearHistory

/-- A task without attempts passes; what is accepted beyond that are the linear histories, and the walk never needs more
than one step for each attempt and one more, whatever the pairs. -/
theorem verify_task_lineage_exact (host : Host) (s : Store) (taskId : Token)
    (hread : ∀ r ∈ s.attempts.rows, ∃ x, readAttempt host s r.attemptId = .ok x) :
    (verifyTaskLineage host s taskId = .ok () ↔ s.attemptsOf taskId = [] ∨ ∃ l, LinearHistory s taskId l) ∧
    ∀ attempts expected, lineagePairs attempts attempts [] = .ok expected → ∀ root more, attempts.length + 1 ≤ more →
      walkLineage expected more root [] = walkLineage expected (attempts.length + 1) root [] := by
  refine ⟨⟨fun h => ?_, ?_⟩, fun attempts expected hexpected root more hmore => ?_⟩
  · by_cases hnil : s.attemptsOf taskId = []
    · exact .inl hnil
    · exact .inr (linearHistory_of_verify h hnil)
  · rintro (hnil | ⟨l, hl⟩)
    · dsimp only [verifyTaskLineage]
      rw [if_pos (by rw [hnil]; rfl)]
    · exact hl.verifies fun r hr => hread r (Store.mem_attemptsOf.1 hr).1
  · have hpairs := (lineagePairs_spec hexpected).1
    have hlength : expected.length ≤ attempts.length := by
      rw [hpairs, List.nil_append]
      exact List.length_filterMap_le _ _
    exact walkLineage_fuel List.nodup_nil (by simp) (by rw [List.length_nil]; omega) hmore

open Sample in
theorem verify_task_lineage_exact_retried : (retried.attemptsOf main.task).length = 2 ∧
    ∃ l, LinearHistory retried main.task l := by
  have hwf : WF .sample retried := (reachable 1 _).wf
  have hlength : (retried.attemptsOf main.task).length = 2 := by decide +kernel
  refine ⟨hlength, ((verify_task_lineage_exact .sample retried main.task hwf.reads).1.1
    (hwf.verifies main.task)).resolve_left fun hnil => ?_⟩
  rw [hnil] at hlength
  cases hlength

end Roundwright.Dependency
