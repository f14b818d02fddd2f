/-
What the validator settles and what it leaves to the next graph. The search for a cycle is exact, in whatever order the
members and their successors are taken. The members of the other tasks the validator never looks at: a proposal that it
accepts is refused by the next graph exactly when another task holds one of its members, or when edges that stay already
carry its id.
-/
import Roundwright.Dependency.GraphStore

namespace Roundwright.Dependency

open Lib Relation

/-! ## Cycles -/

/-- The arc of an edge, from its subject to its object. -/
def DependsOn (edges : List GraphEdge) (a b : Token) : Prop := ∃ e ∈ edges, e.subjectMemberId = a ∧ e.objectMemberId = b

/-- An order in which `adjacency` and its sets are gone through. -/
structure Traversal (edges : List GraphEdge) where
  nodes : List Token
  next : Token → List Token
  mem_nodes : ∀ {a}, a ∈ nodes ↔ ∃ e ∈ edges, a = e.subjectMemberId ∨ a = e.objectMemberId
  mem_next : ∀ {a b}, b ∈ next a ↔ DependsOn edges a b

variable {edges : List GraphEdge}

theorem edge_iff_dependsOn {a b : Token} : Edge (edges.map (·.pair)) a b ↔ DependsOn edges a b := by
  simp only [Edge, List.mem_map, GraphEdge.pair, Prod.mk.injEq, DependsOn]

theorem Traversal.search_eq_true (t : Traversal edges) :
    search t.next t.nodes = true ↔ ∃ a, TransGen (DependsOn edges) a a := by
  have hedge : Edge (edges.map (·.pair)) = DependsOn edges := by
    funext a b
    exact propext edge_iff_dependsOn
  rw [← hedge]
  refine Lib.search_eq_true (fun {a b} => t.mem_next.trans edge_iff_dependsOn.symm) fun h => ?_
  obtain ⟨e, he, rfl, rfl⟩ := edge_iff_dependsOn.1 h
  exact ⟨t.mem_nodes.2 ⟨e, he, .inl rfl⟩, t.mem_nodes.2 ⟨e, he, .inr rfl⟩⟩

/-- The order of the edges themselves. -/
def edgeOrder (edges : List GraphEdge) : Traversal edges where
  nodes := endpoints (edges.map (·.pair))
  next := adjacent (edges.map (·.pair))
  mem_nodes := by simp [mem_endpoints, GraphEdge.pair]
  mem_next := mem_adjacent.trans edge_iff_dependsOn

/-- `_has_cycle` answers whether there is a directed cycle, whatever the order of its sets. -/
theorem has_cycle_exact (edges : List GraphEdge) :
    (hasCycleEdges edges = true ↔ ∃ a, TransGen (DependsOn edges) a a) ∧
    ∀ t : Traversal edges, search t.next t.nodes = hasCycleEdges edges := by
  have hexact : hasCycleEdges edges = true ↔ ∃ a, TransGen (DependsOn edges) a a := (edgeOrder edges).search_eq_true
  refine ⟨hexact, fun t => ?_⟩
  rw [Bool.eq_iff_iff, t.search_eq_true, hexact]

/-! ## Members of other tasks -/

/-- No other task holds a member of the subset, and no edge that stays carries the id of the proposal. -/
structure Unclaimed (g : GraphSnapshot) (subset : AffectedSubset) (proposalId : Token) : Prop where
  members : ∀ m ∈ g.members, m.taskId ≠ subset.taskId → m.memberId ∉ subset.members.map (·.memberId)
  proposals : ∀ e ∈ g.edges, e.subjectMemberId ∉ g.idsOf subset.taskId → e.objectMemberId ∉ g.idsOf subset.taskId →
    e.proposalId ≠ proposalId

theorem Unclaimed.empty (subset : AffectedSubset) (proposalId : Token) : Unclaimed .empty subset proposalId := by
  constructor
  · intro m hm
    cases hm
  · intro e he
    cases he

/-- A graph is what it is made of, when ids and proposals are distinct. -/
theorem GraphSnapshot.new_ok_iff {version : Option (Token × DependencyGraphBinding)} {members : List GraphMember}
    {proposalIds : List Token} :
    (∃ s, GraphSnapshot.new version members edges proposalIds = .ok s) ↔ (members.map (·.memberId)).Nodup ∧ proposalIds.Nodup := by
  unfold GraphSnapshot.new
  constructor
  · rintro ⟨s, h⟩
    split at h
    · rename_i hnodup
      exact hnodup
    · cases h
  · intro h
    exact ⟨_, dif_pos h⟩

theorem replacementBaseline_exists (active : GraphSnapshot) (subset : AffectedSubset) (binding : DependencyGraphBinding) :
    ∃ prior, replacementBaseline active subset binding = .ok prior := by
  unfold replacementBaseline
  split
  · exact ⟨_, rfl⟩
  · refine GraphSnapshot.new_ok_iff.2 ⟨active.memberIds.sublist (List.filter_sublist.map _), ?_⟩
    exact (sortBy_perm id _).nodup_iff.2 (List.nodup_dedup _)

/-- The next graph is refused for nothing but a member or a proposal that is there already. -/
theorem nextSnapshot_ok_iff {active : GraphSnapshot} {subset : AffectedSubset} {proposalId : Token}
    {binding : DependencyGraphBinding} :
    (∃ built, nextSnapshot active subset edges proposalId binding = .ok built) ↔
    Unclaimed (active.under binding) subset proposalId := by
  obtain ⟨prior, hprior⟩ := replacementBaseline_exists active subset binding
  obtain ⟨hmembers, hedges, hids⟩ := replacementBaseline_ok hprior
  have hnone := GraphSnapshot.idsOf_kept hmembers
  simp only [nextSnapshot, hprior, ok_bind, hnone, List.not_mem_nil, not_false_eq_true, decide_true, List.filter_true]
  rw [GraphSnapshot.new_ok_iff, ((sortBy_perm _ _).map _).nodup_iff, (sortBy_perm id _).nodup_iff, List.map_append,
    List.nodup_append, List.nodup_append, hmembers, hids]
  have hown : (subset.members.map fun m : AffectedMember => (⟨subset.taskId, subset.snapshotId, m⟩ : GraphMember)).map
      (·.memberId) = subset.members.map (·.memberId) := by
    rw [List.map_map]
    rfl
  constructor
  · rintro ⟨⟨-, -, hdisjoint⟩, -, -, hnew⟩
    refine ⟨fun m hm htask hid => ?_, fun e he hs ho hid => ?_⟩
    · have hkept := GraphSnapshot.mem_keptMembers.2 ⟨hm, htask⟩
      exact hdisjoint _ (List.mem_map_of_mem hkept) _ (hown ▸ hid) rfl
    · refine hnew e.proposalId ?_ proposalId (List.mem_singleton.2 rfl) hid
      rw [mem_sortBy, List.mem_dedup]
      exact List.mem_map_of_mem (GraphSnapshot.mem_keptEdges.2 ⟨he, hs, ho⟩)
  · rintro ⟨hfree, hproposals⟩
    refine ⟨⟨(active.under binding).memberIds.sublist (List.filter_sublist.map _), hown ▸ subset.memberIds_nodup, ?_⟩,
      (sortBy_perm id _).nodup_iff.2 (List.nodup_dedup _), List.nodup_singleton _, ?_⟩
    · intro a ha b hb hab
      obtain ⟨m, hm, rfl⟩ := List.mem_map.1 ha
      obtain ⟨hm, htask⟩ := GraphSnapshot.mem_keptMembers.1 hm
      rw [hown] at hb
      exact hfree m hm htask (hab ▸ hb)
    · intro a ha b hb hab
      rw [mem_sortBy, List.mem_dedup] at ha
      obtain ⟨e, he, rfl⟩ := List.mem_map.1 ha
      obtain ⟨he, hs, ho⟩ := GraphSnapshot.mem_keptEdges.1 he
      exact hproposals e he hs ho (hab.trans (List.mem_singleton.1 hb))

/-- An accepted validation leads to a next graph exactly when, under the binding, nothing of it is claimed already. -/
theorem accepted_activatable_iff (host : Host) (proposal : DependencyProposal) (subset : AffectedSubset)
    (binding : DependencyGraphBinding) (active : GraphSnapshot) (provenance : List TrustedEdgeProvenance) (v : GraphValidation) :
    validate host proposal subset binding active provenance = .ok v → v.decision = .accepted →
    ((∃ built, nextSnapshot active subset v.edges proposal.proposalId binding = .ok built) ↔
      (active.binding = some binding → Unclaimed active subset proposal.proposalId)) := by
  intro _ _
  rw [nextSnapshot_ok_iff]
  by_cases hbinding : active.binding = some binding
  · rw [GraphSnapshot.under_of_eq hbinding]
    exact ⟨fun h _ => h, fun h => h hbinding⟩
  · rw [GraphSnapshot.under_of_ne hbinding]
    exact ⟨fun _ h => absurd h hbinding, fun _ => .empty _ _⟩

namespace Sample

/-- An active graph in which the other task holds one member. -/
def holding (m : AffectedMember) : GraphSnapshot where
  version := some (v1, graphBinding 1)
  members := [⟨other.task, n2, m⟩]
  edges := []
  proposalIds := []
  memberIds := List.nodup_singleton _
  proposals := List.nodup_nil

/-- The provenance of the main proposal. -/
def provenance : List TrustedEdgeProvenance :=
  ((TrustedEdgeProvenance.ofRelation .sample (subset main 1 n1) (graphBinding 1) (relation main)).toOption).toList

theorem validate_holding : ∀ m ∈ [main.first, other.first],
    ((validate .sample (proposal main p1 a1) (subset main 1 n1) (graphBinding 1) (holding m) provenance).toOption.map (·.decision)) =
      some .accepted := by
  decide +kernel

end Sample

open Sample in
theorem accepted_activatable_other :
    ∃ v, validate .sample (proposal main p1 a1) (subset main 1 n1) (graphBinding 1)
        (holding other.first) provenance = .ok v ∧ v.decision = .accepted ∧
      ∃ built, nextSnapshot (holding other.first) (subset main 1 n1) v.edges p1
        (graphBinding 1) = .ok built := by
  have haccepted := validate_holding other.first (by simp)
  cases hv : validate .sample (proposal main p1 a1) (subset main 1 n1) (graphBinding 1)
      (holding other.first) provenance with
  | error e =>
    rw [hv] at haccepted
    cases haccepted
  | ok v =>
    rw [hv] at haccepted
    have hdecision : v.decision = .accepted := Option.some.inj haccepted
    refine ⟨v, rfl, hdecision, (accepted_activatable_iff _ _ _ _ _ _ v hv hdecision).2 fun _ => ⟨?_, ?_⟩⟩
    · intro m hm _
      rw [List.mem_singleton.1 hm]
      decide
    · intro e he
      cases he

open Sample in
/-- A member that another task holds: the proposal is accepted, and there is no next graph. -/
theorem accepted_member_held_elsewhere :
    ∃ v, validate .sample (proposal main p1 a1) (subset main 1 n1) (graphBinding 1)
        (holding main.first) provenance = .ok v ∧ v.decision = .accepted ∧
      nextSnapshot (holding main.first) (subset main 1 n1) v.edges p1 (graphBinding 1) =
        .error (.dependencyGraph "dependency graph snapshot is invalid") := by
  have haccepted := validate_holding main.first (by simp)
  cases hv : validate .sample (proposal main p1 a1) (subset main 1 n1) (graphBinding 1)
      (holding main.first) provenance with
  | error e =>
    rw [hv] at haccepted
    cases haccepted
  | ok v =>
    rw [hv] at haccepted
    refine ⟨v, rfl, Option.some.inj haccepted, ?_⟩
    have hclaimed : ¬ ∃ built, nextSnapshot (holding main.first) (subset main 1 n1) v.edges p1
        (graphBinding 1) = .ok built := by
      rw [nextSnapshot_ok_iff, GraphSnapshot.under_of_eq rfl]
      intro h
      exact h.members _ List.mem_cons_self (by decide) (by decide)
    obtain ⟨prior, hprior⟩ := replacementBaseline_exists (holding main.first) (subset main 1 n1)
      (graphBinding 1)
    simp only [nextSnapshot, hprior, ok_bind, GraphSnapshot.new] at hclaimed ⊢
    split
    · rename_i hnodup
      rw [dif_pos hnodup] at hclaimed
      exact absurd ⟨_, rfl⟩ hclaimed
    · rfl

end Roundwright.Dependency
