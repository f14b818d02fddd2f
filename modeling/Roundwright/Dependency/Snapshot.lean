/-
What an accepted validation guarantees about the next graph. The validator and the replacement of one
task's part look at the active graph only through the part that stays (`baseline`); an accepted
proposal adds edges between the members of its own subset, under pairs that are new, without closing
a cycle. The next graph is then canonical: in order, with distinct pairs, and listing exactly the
proposals its edges come from.
-/
import Roundwright.Dependency.Graph

namespace Roundwright.Dependency

open Lib

/-! ## The active graph, seen through a binding -/

/-- The graph an activation under a binding starts from: another binding starts over. -/
def GraphSnapshot.under (active : GraphSnapshot) (binding : DependencyGraphBinding) : GraphSnapshot :=
  if active.binding = some binding then active else .empty

variable {active : GraphSnapshot}

variable {binding : DependencyGraphBinding}

theorem GraphSnapshot.under_of_ne (h : active.binding ≠ some binding) : active.under binding = .empty := if_neg h

theorem GraphSnapshot.under_of_eq (h : active.binding = some binding) : active.under binding = active := if_pos h

theorem replacementBaseline_under (active : GraphSnapshot) (subset : AffectedSubset) (binding : DependencyGraphBinding) :
    replacementBaseline (active.under binding) subset binding = replacementBaseline active subset binding := by
  by_cases h : active.binding = some binding
  · rw [GraphSnapshot.under_of_eq h]
  · rw [GraphSnapshot.under_of_ne h, replacementBaseline, replacementBaseline, if_pos h,
      if_pos (by simp [GraphSnapshot.binding, GraphSnapshot.empty])]

theorem validate_under (host : Host) (proposal : DependencyProposal) (subset : AffectedSubset)
    (binding : DependencyGraphBinding) (active : GraphSnapshot) (provenance : List TrustedEdgeProvenance) :
    validate host proposal subset binding (active.under binding) provenance =
      validate host proposal subset binding active provenance := by
  have hbase : ∀ g : GraphSnapshot, replacementBaseline
      (if g.binding ≠ none ∧ g.binding ≠ some binding then .empty else g) subset binding = replacementBaseline g subset binding := by
    intro g
    split
    · rename_i h
      rw [← replacementBaseline_under g, GraphSnapshot.under_of_ne h.2]
    · rfl
  simp only [validate, hbase, replacementBaseline_under]

theorem nextSnapshot_under (active : GraphSnapshot) (subset : AffectedSubset) (edges : List GraphEdge)
    (proposalId : Token) (binding : DependencyGraphBinding) :
    nextSnapshot (active.under binding) subset edges proposalId binding =
      nextSnapshot active subset edges proposalId binding := by
  simp only [nextSnapshot, replacementBaseline_under]

/-! ## The part that stays -/

attribute [local instance] lawfulBEq_token in
/-- Members and edges of a graph that replacing a task keeps. -/
def GraphSnapshot.keptMembers (g : GraphSnapshot) (taskId : Token) : List GraphMember :=
  g.members.filter fun m => m.memberId ∉ g.idsOf taskId

attribute [local instance] lawfulBEq_token in
def GraphSnapshot.keptEdges (g : GraphSnapshot) (taskId : Token) : List GraphEdge :=
  g.edges.filter fun e => e.subjectMemberId ∉ g.idsOf taskId ∧ e.objectMemberId ∉ g.idsOf taskId

variable {subset : AffectedSubset}

variable {prior : GraphSnapshot}

theorem replacementBaseline_ok (h : replacementBaseline active subset binding = .ok prior) :
    prior.members = (active.under binding).keptMembers subset.taskId ∧
    prior.edges = (active.under binding).keptEdges subset.taskId ∧
    prior.proposalIds = sortBy id (((active.under binding).keptEdges subset.taskId).map (·.proposalId)).dedup := by
  by_cases hb : active.binding = some binding
  · rw [replacementBaseline, if_neg (not_not.2 hb), GraphSnapshot.new_eq_ok] at h
    rw [GraphSnapshot.under_of_eq hb]
    exact ⟨h.2.1, h.2.2.1, h.2.2.2⟩
  · rw [replacementBaseline, if_pos hb] at h
    obtain rfl := Except.ok.inj h
    rw [GraphSnapshot.under_of_ne hb]
    exact ⟨rfl, rfl, rfl⟩

variable {g : GraphSnapshot}

theorem GraphSnapshot.mem_idsOf {taskId id : Token} :
    id ∈ g.idsOf taskId ↔ ∃ m ∈ g.members, m.taskId = taskId ∧ m.memberId = id := by
  simp only [idsOf, List.mem_map, List.mem_filter, decide_eq_true_eq, and_assoc]

variable {taskId : Token}

theorem GraphSnapshot.mem_keptMembers {m : GraphMember} :
    m ∈ g.keptMembers taskId ↔ m ∈ g.members ∧ m.taskId ≠ taskId := by
  rw [keptMembers, List.mem_filter, decide_eq_true_eq]
  refine and_congr_right fun hm => not_congr ?_
  rw [mem_idsOf]
  constructor
  · rintro ⟨m', hm', ht, hid⟩
    rw [← List.inj_on_of_nodup_map g.memberIds hm' hm hid]
    exact ht
  · intro ht
    exact ⟨m, hm, ht, rfl⟩

variable {e : GraphEdge}

theorem GraphSnapshot.mem_keptEdges :
    e ∈ g.keptEdges taskId ↔
      e ∈ g.edges ∧ e.subjectMemberId ∉ g.idsOf taskId ∧ e.objectMemberId ∉ g.idsOf taskId := by
  simp [keptEdges]

/-- No kept member belongs to the task, so a second replacement takes nothing away. -/
theorem GraphSnapshot.idsOf_kept {g prior : GraphSnapshot} (h : prior.members = g.keptMembers taskId) :
    prior.idsOf taskId = [] := by
  rw [idsOf, h]
  have hnone : (g.keptMembers taskId).filter (fun m => m.taskId = taskId) = [] := by
    refine List.filter_eq_nil_iff.2 fun m hm => ?_
    have := (mem_keptMembers.1 hm).2
    simpa using this
  rw [hnone]; rfl

/-! ## The canonical edges of a proposal -/

variable {provenance : List TrustedEdgeProvenance}

variable {host : Host}

theorem canonicalEdge_ok {proposalId : Token} {e : ProposedEdge} {g : GraphEdge}
    (h : canonicalEdge host proposalId subset binding provenance e = .ok g) :
    g.pair = e.canonicalPair ∧ g.proposalId = proposalId := by
  unfold canonicalEdge at h
  split at h
  · cases h
  · split at h
    · cases h
    · split at h
      · cases h
      · split at h
        · obtain rfl := Except.ok.inj h
          exact ⟨rfl, rfl⟩
        · cases h

theorem ProposedEdge.canonicalPair_mem (e : ProposedEdge) (id : Token) :
    id = e.canonicalPair.1 ∨ id = e.canonicalPair.2 ↔ id = e.subjectMemberId ∨ id = e.objectMemberId := by
  unfold canonicalPair
  cases e.direction with
  | dependsOn => exact Iff.rfl
  | blocks => exact or_comm

/-- What the canonical edges of a proposal are made of. -/
structure CanonicalEdges (proposal : DependencyProposal) (edges : List GraphEdge) : Prop where
  proposalIds : ∀ g ∈ edges, g.proposalId = proposal.proposalId
  nonempty : edges ≠ []
  endpoints : ∀ id, id ∈ proposedMembers proposal ↔ ∃ g ∈ edges, id = g.subjectMemberId ∨ id = g.objectMemberId

variable {proposal : DependencyProposal}

variable {edges : List GraphEdge}

theorem canonicalEdges_of_mapM
    (h : proposal.edges.mapM (canonicalEdge host proposal.proposalId subset binding provenance) = .ok edges) :
    CanonicalEdges proposal edges := by
  obtain ⟨hback, hforth⟩ := mem_of_mapM_ok h
  refine ⟨fun g hg => ?_, fun hnil => ?_, fun id => ?_⟩
  · obtain ⟨e, -, he⟩ := hback g hg
    exact (canonicalEdge_ok he).2
  · obtain ⟨e, he⟩ := List.exists_mem_of_ne_nil _ proposal.nonempty
    obtain ⟨g, hg, -⟩ := hforth e he
    rw [hnil] at hg
    cases hg
  · simp only [proposedMembers, List.mem_flatMap, List.mem_cons, List.not_mem_nil, or_false]
    constructor
    · rintro ⟨e, he, hid⟩
      obtain ⟨g, hg, heg⟩ := hforth e he
      rw [← e.canonicalPair_mem, ← (canonicalEdge_ok heg).1] at hid
      exact ⟨g, hg, hid⟩
    · rintro ⟨g, hg, hid⟩
      obtain ⟨e, he, heg⟩ := hback g hg
      refine ⟨e, he, ?_⟩
      rw [← e.canonicalPair_mem, ← (canonicalEdge_ok heg).1]
      exact hid

theorem CanonicalEdges.perm {edges edges' : List GraphEdge} (h : CanonicalEdges proposal edges) (hp : edges'.Perm edges) :
    CanonicalEdges proposal edges' := by
  refine ⟨fun g hg => h.proposalIds g (hp.mem_iff.1 hg), fun hnil => h.nonempty ?_, fun id => ?_⟩
  · rw [hnil] at hp
    exact hp.symm.eq_nil
  · rw [h.endpoints]
    simp only [hp.mem_iff]

/-! ## An accepted validation -/

/-- What the validator has established when it accepts, over the edges that stay. -/
structure Validated (proposal : DependencyProposal) (subset : AffectedSubset) (binding : DependencyGraphBinding)
    (kept : List GraphEdge) (v : GraphValidation) : Prop where
  bound : binding.requireSubset subset = .ok ()
  covers : CoversSubset proposal subset
  canonical : CanonicalEdges proposal v.edges
  sorted : v.edges.Pairwise fun a b => a.orderKey ≤ b.orderKey
  distinct : (v.edges.map (·.pair)).Nodup
  fresh : ∀ p ∈ v.edges.map (·.pair), p ∉ kept.map (·.pair)
  acyclic : Acyclic ((kept ++ v.edges).map (·.pair))
  reason : v.reasonCode = ⟨"graph-valid", by decide⟩

theorem validateCanonical_accepted {canonical : List GraphEdge}
    (h : (validateCanonical prior canonical).decision = .accepted) :
    ¬ PairsConflict (canonical.map (·.pair)) prior.edges ∧ hasCycleEdges (prior.edges ++ canonical) = false ∧
    validateCanonical prior canonical = ⟨.accepted, ⟨"graph-valid", by decide⟩, sortBy (·.orderKey) canonical⟩ := by
  unfold validateCanonical at h ⊢
  split at h
  · cases h
  · rename_i hpairs
    split at h
    · cases h
    · rename_i hcycle
      rw [if_neg hpairs, if_neg hcycle]
      exact ⟨hpairs, by simpa using hcycle, rfl⟩

theorem validateOver_accepted
    (h : (validateOver host proposal subset binding prior provenance).decision = .accepted) :
    ∃ canonical, proposal.edges.mapM (canonicalEdge host proposal.proposalId subset binding provenance) = .ok canonical ∧
      validateOver host proposal subset binding prior provenance = validateCanonical prior canonical := by
  dsimp only [validateOver] at h ⊢
  split at h
  · cases h
  · rename_i h₁
    split at h
    · cases h
    · rename_i h₂
      split at h
      · cases h
      · rename_i h₃
        split at h
        · cases h
        · rename_i h₄
          split at h
          · cases h
          · rename_i h₅
            rw [if_neg h₁, if_neg h₂, if_neg h₃, if_neg h₄, if_neg h₅]
            split at h
            · cases h
            · rename_i canonical hcanonical
              exact ⟨canonical, hcanonical, rfl⟩

variable {v : GraphValidation}

theorem validate_accepted
    (h : validate host proposal subset binding active provenance = .ok v) (hacc : v.decision = .accepted) :
    Validated proposal subset binding ((active.under binding).keptEdges subset.taskId) v := by
  rw [← validate_under, validate, bind_eq_ok] at h
  obtain ⟨⟨⟩, hbound, h⟩ := h
  dsimp only at h
  split at h
  · rename_i hcovers
    rw [bind_eq_ok] at h
    obtain ⟨prior, hprior, h⟩ := h
    obtain rfl := pure_eq_ok.1 h
    have hedges : prior.edges = (active.under binding).keptEdges subset.taskId := by
      have hbase : replacementBaseline (active.under binding) subset binding = .ok prior := by
        rw [← hprior]
        split
        · rename_i hne
          rw [← replacementBaseline_under (active.under binding), GraphSnapshot.under_of_ne hne.2]
        · rfl
      rw [replacementBaseline_under] at hbase
      exact (replacementBaseline_ok hbase).2.1
    obtain ⟨canonical, hcanonical, heq⟩ := validateOver_accepted hacc
    rw [heq] at hacc
    obtain ⟨hpairs, hcycle, hval⟩ := validateCanonical_accepted hacc
    rw [heq, hval]
    rw [hedges] at hpairs hcycle
    have hperm := sortBy_perm (·.orderKey) canonical
    have hmem : ∀ p, p ∈ (sortBy (·.orderKey) canonical).map (·.pair) ↔ p ∈ canonical.map (·.pair) := fun p =>
      (hperm.map _).mem_iff
    simp only [PairsConflict, not_or, not_not, not_exists, not_and] at hpairs
    refine ⟨hbound, hcovers, (canonicalEdges_of_mapM hcanonical).perm hperm, sortBy_pairwise _ _,
      (hperm.map _).nodup_iff.2 hpairs.1, fun p hp => hpairs.2 p ((hmem p).1 hp), ?_, rfl⟩
    rw [hasCycleEdges, hasCycle_eq_false] at hcycle
    refine (acyclic_congr fun p => ?_).1 hcycle
    rw [List.map_append, List.map_append, List.mem_append, List.mem_append, hmem]
  · obtain rfl := pure_eq_ok.1 h
    cases hacc

/-! ## The next graph -/

/-- The members of a subset as members of the graph. -/
def AffectedSubset.graphMembers (subset : AffectedSubset) : List GraphMember :=
  subset.members.map fun m => ⟨subset.taskId, subset.snapshotId, m⟩

variable {built : GraphSnapshot}

theorem nextSnapshot_ok {proposalId : Token}
    (h : nextSnapshot active subset edges proposalId binding = .ok built) :
    built.version = none ∧
    built.members = sortBy (·.memberId) ((active.under binding).keptMembers subset.taskId ++ subset.graphMembers) ∧
    built.edges = sortBy (·.orderKey) ((active.under binding).keptEdges subset.taskId ++ edges) ∧
    built.proposalIds = sortBy id
      (sortBy id (((active.under binding).keptEdges subset.taskId).map (·.proposalId)).dedup ++ [proposalId]) := by
  simp only [nextSnapshot, bind_eq_ok, GraphSnapshot.new_eq_ok] at h
  obtain ⟨prior, hprior, hversion, hmembers, hedges, hids⟩ := h
  obtain ⟨hpm, hpe, hpi⟩ := replacementBaseline_ok hprior
  have hnone := GraphSnapshot.idsOf_kept hpm
  refine ⟨hversion, ?_, by rw [hedges, hpe], by rw [hids, hpi]⟩
  rw [hmembers, hnone, hpm]
  simp [AffectedSubset.graphMembers]

/-- A graph as the store lists it: sorted, with distinct pairs, no cycle, and the proposals of its edges. -/
structure Canonical (g : GraphSnapshot) : Prop where
  members : g.members.Pairwise fun a b => a.memberId ≤ b.memberId
  edges : g.edges.Pairwise fun a b => a.orderKey ≤ b.orderKey
  pairs : (g.edges.map (·.pair)).Nodup
  proposalIds : g.proposalIds = sortBy id (g.edges.map (·.proposalId)).dedup
  acyclic : Acyclic (g.edges.map (·.pair))

theorem Canonical.empty : Canonical .empty :=
  ⟨.nil, .nil, List.nodup_nil, rfl, hasCycle_eq_false.1 (by decide)⟩

/-- Sorted lists without repetition over the same items are the same list. -/
theorem sortBy_id_eq {l m : List Token} (hl : l.Nodup) (hm : m.Nodup) (h : ∀ t, t ∈ l ↔ t ∈ m) :
    sortBy id l = sortBy id m :=
  sortBy_congr ((List.perm_ext_iff_of_nodup hl hm).2 h) (by simpa using hl)

theorem nextSnapshot_canonical (hactive : Canonical (active.under binding))
    (hv : Validated proposal subset binding ((active.under binding).keptEdges subset.taskId) v)
    (h : nextSnapshot active subset v.edges proposal.proposalId binding = .ok built) : Canonical built := by
  obtain ⟨-, hmembers, hedges, hids⟩ := nextSnapshot_ok h
  have hperm : built.edges.Perm ((active.under binding).keptEdges subset.taskId ++ v.edges) := by
    rw [hedges]; exact sortBy_perm _ _
  have hkept : (((active.under binding).keptEdges subset.taskId).map (·.pair)).Nodup :=
    hactive.pairs.sublist (List.filter_sublist.map _)
  refine ⟨by rw [hmembers]; exact sortBy_pairwise _ _, by rw [hedges]; exact sortBy_pairwise _ _, ?_, ?_, ?_⟩
  · rw [(hperm.map _).nodup_iff, List.map_append]
    exact List.nodup_append.2 ⟨hkept, hv.distinct, fun p hp q hq hpq => hv.fresh q hq (hpq ▸ hp)⟩
  · have hnodup := built.proposals
    rw [hids] at hnodup ⊢
    refine sortBy_id_eq ((sortBy_perm id _).nodup_iff.1 hnodup) (List.nodup_dedup _) fun t => ?_
    obtain ⟨g, hg⟩ := List.exists_mem_of_ne_nil _ hv.canonical.nonempty
    simp only [List.mem_append, mem_sortBy, List.mem_dedup, List.mem_map, List.mem_singleton, hperm.mem_iff]
    constructor
    · rintro (⟨e, he, rfl⟩ | rfl)
      · exact ⟨e, .inl he, rfl⟩
      · exact ⟨g, .inr hg, hv.canonical.proposalIds g hg⟩
    · rintro ⟨e, he | he, rfl⟩
      · exact .inl ⟨e, he, rfl⟩
      · exact .inr (hv.canonical.proposalIds e he)
  · exact (acyclic_congr fun p => ((hperm.map _).mem_iff).symm).1 hv.acyclic

theorem GraphEdge.pair_of_orderKey {a b : GraphEdge} (h : a.orderKey = b.orderKey) : a.pair = b.pair := by
  simp only [orderKey, List.cons.injEq] at h
  exact Prod.ext (Subtype.ext h.1) (Subtype.ext h.2.1)

theorem orderKeys_nodup (h : (edges.map (·.pair)).Nodup) : (edges.map (·.orderKey)).Nodup :=
  List.pairwise_map.2 ((List.pairwise_map.1 h).imp fun hne heq => hne (GraphEdge.pair_of_orderKey heq))

/-- The edges of the next graph that name the new proposal are the accepted ones. -/
theorem nextSnapshot_newEdges (hbuilt : Canonical built)
    (hv : Validated proposal subset binding ((active.under binding).keptEdges subset.taskId) v)
    (h : nextSnapshot active subset v.edges proposal.proposalId binding = .ok built) :
    built.edges.filter (fun e => e.proposalId = proposal.proposalId) = v.edges := by
  obtain ⟨-, -, hedges, hids⟩ := nextSnapshot_ok h
  -- the new proposal is not among the proposals that stay
  have hkept : ∀ e ∈ (active.under binding).keptEdges subset.taskId, e.proposalId ≠ proposal.proposalId := by
    intro e he heq
    have hnodup := built.proposals
    rw [hids, (sortBy_perm id _).nodup_iff, List.nodup_append] at hnodup
    refine hnodup.2.2 e.proposalId ?_ proposal.proposalId (by simp) heq
    rw [mem_sortBy, List.mem_dedup]
    exact List.mem_map_of_mem he
  have hperm : (built.edges.filter fun e => e.proposalId = proposal.proposalId).Perm v.edges := by
    rw [hedges]
    refine ((sortBy_perm _ _).filter _).trans ?_
    rw [filter_append_all (fun e he => decide_eq_false (hkept e he))
      fun e he => decide_eq_true (hv.canonical.proposalIds e he)]
  refine eq_of_perm_of_keys (g := GraphEdge.orderKey) hperm (hbuilt.edges.filter _) hv.sorted ?_
  exact orderKeys_nodup (hbuilt.pairs.sublist (List.filter_sublist.map _))

/-! ## Who owns what -/

/-- A member id belongs to one task. -/
theorem GraphSnapshot.idsOf_unique {a b id : Token} (ha : id ∈ g.idsOf a) (hb : id ∈ g.idsOf b) : a = b := by
  obtain ⟨m, hm, rfl, hid⟩ := mem_idsOf.1 ha
  obtain ⟨m', hm', rfl, hid'⟩ := mem_idsOf.1 hb
  rw [List.inj_on_of_nodup_map g.memberIds hm hm' (hid.trans hid'.symm)]

/-- Each task's part of a graph comes from one stored proposal over exactly the members of the task. -/
structure Coherent (stored : DependencyProposal → Prop) (g : GraphSnapshot) : Prop where
  owned : ∀ e ∈ g.edges, ∃ taskId, e.subjectMemberId ∈ g.idsOf taskId ∧ e.objectMemberId ∈ g.idsOf taskId
  parts : ∀ m ∈ g.members, ∃ p, stored p ∧ (∀ id, id ∈ proposedMembers p ↔ id ∈ g.idsOf m.taskId) ∧
    ∀ e ∈ g.edges, e.subjectMemberId ∈ g.idsOf m.taskId → e.proposalId = p.proposalId

theorem Coherent.empty (stored : DependencyProposal → Prop) : Coherent stored .empty :=
    ⟨by simp [GraphSnapshot.empty], by simp [GraphSnapshot.empty]⟩

section Next

variable {active : GraphSnapshot} {proposal : DependencyProposal} {subset : AffectedSubset}
  {binding : DependencyGraphBinding} {v : GraphValidation} {built : GraphSnapshot}

variable {edges : List GraphEdge} {proposalId : Token}

section

variable (h : nextSnapshot active subset edges proposalId binding = .ok built)

include h

theorem nextSnapshot_mem_members {m : GraphMember} :
    m ∈ built.members ↔ (m ∈ (active.under binding).members ∧ m.taskId ≠ subset.taskId) ∨ m ∈ subset.graphMembers := by
  rw [(nextSnapshot_ok h).2.1, mem_sortBy, List.mem_append, GraphSnapshot.mem_keptMembers]

theorem nextSnapshot_mem_edges : e ∈ built.edges ↔ e ∈ (active.under binding).keptEdges subset.taskId ∨ e ∈ edges := by
  rw [(nextSnapshot_ok h).2.2.1, mem_sortBy, List.mem_append]

/-- The replaced task holds the members of the new subset. -/
theorem nextSnapshot_idsOf_self {id : Token} : id ∈ built.idsOf subset.taskId ↔ id ∈ subset.members.map (·.memberId) := by
  simp only [GraphSnapshot.mem_idsOf, nextSnapshot_mem_members h, AffectedSubset.graphMembers, List.mem_map]
  constructor
  · rintro ⟨m, (⟨-, hne⟩ | ⟨a, ha, rfl⟩), ht, hid⟩
    · exact absurd ht hne
    · exact ⟨a, ha, hid⟩
  · rintro ⟨a, ha, rfl⟩
    exact ⟨_, .inr ⟨a, ha, rfl⟩, rfl, rfl⟩

/-- Every other task holds what it held. -/
theorem nextSnapshot_idsOf_other (hne : taskId ≠ subset.taskId) {id : Token} :
    id ∈ built.idsOf taskId ↔ id ∈ (active.under binding).idsOf taskId := by
  simp only [GraphSnapshot.mem_idsOf, nextSnapshot_mem_members h, AffectedSubset.graphMembers, List.mem_map]
  constructor
  · rintro ⟨m, (⟨hm, -⟩ | ⟨a, -, rfl⟩), ht, hid⟩
    · exact ⟨m, hm, ht, hid⟩
    · exact absurd ht.symm hne
  · rintro ⟨m, hm, rfl, hid⟩
    exact ⟨m, .inl ⟨hm, hne⟩, rfl, hid⟩

end

/-- The new edges lie between the members of the subset. -/
theorem Validated.endpoints {kept : List GraphEdge} (hv : Validated proposal subset binding kept v)
    (he : e ∈ v.edges) : e.subjectMemberId ∈ subset.members.map (·.memberId) ∧
      e.objectMemberId ∈ subset.members.map (·.memberId) :=
  ⟨hv.covers.1 _ ((hv.canonical.endpoints _).2 ⟨e, he, .inl rfl⟩),
    hv.covers.1 _ ((hv.canonical.endpoints _).2 ⟨e, he, .inr rfl⟩)⟩

/-- A kept edge belongs to another task than the replaced one, before and after. -/
theorem keptEdge_owner {stored : DependencyProposal → Prop} (hactive : Coherent stored (active.under binding))
    (h : nextSnapshot active subset edges proposalId binding = .ok built)
    (he : e ∈ (active.under binding).keptEdges subset.taskId) :
    ∃ taskId, taskId ≠ subset.taskId ∧ e.subjectMemberId ∈ built.idsOf taskId ∧ e.objectMemberId ∈ built.idsOf taskId ∧
      e.subjectMemberId ∈ (active.under binding).idsOf taskId := by
  obtain ⟨hmem, hsub, -⟩ := GraphSnapshot.mem_keptEdges.1 he
  obtain ⟨taskId, hs, ho⟩ := hactive.owned e hmem
  have hne : taskId ≠ subset.taskId := fun heq => hsub (heq ▸ hs)
  exact ⟨taskId, hne, (nextSnapshot_idsOf_other h hne).2 hs, (nextSnapshot_idsOf_other h hne).2 ho, hs⟩

/-- Replacing one task's part keeps the graph coherent. -/
theorem nextSnapshot_coherent {stored : DependencyProposal → Prop} (hactive : Coherent stored (active.under binding))
    (hp : stored proposal) (hv : Validated proposal subset binding ((active.under binding).keptEdges subset.taskId) v)
    (h : nextSnapshot active subset v.edges proposal.proposalId binding = .ok built) : Coherent stored built := by
  -- an edge is kept with both its ends, or new between members of the subset
  refine ⟨fun e he => ?_, fun m hm => ?_⟩
  · rcases (nextSnapshot_mem_edges h).1 he with he | he
    · obtain ⟨taskId, -, hs, ho, -⟩ := keptEdge_owner hactive h he
      exact ⟨taskId, hs, ho⟩
    · exact ⟨subset.taskId, (nextSnapshot_idsOf_self h).2 (hv.endpoints he).1,
        (nextSnapshot_idsOf_self h).2 (hv.endpoints he).2⟩
  · by_cases ht : m.taskId = subset.taskId
    · -- the replaced task: the new proposal, over exactly the subset
      refine ⟨proposal, hp, fun id => ?_, fun e he hs => ?_⟩
      · rw [ht, nextSnapshot_idsOf_self h]
        exact ⟨hv.covers.1 id, hv.covers.2 id⟩
      · rcases (nextSnapshot_mem_edges h).1 he with he | he
        · obtain ⟨taskId, hne, hs', -, -⟩ := keptEdge_owner hactive h he
          exact absurd (GraphSnapshot.idsOf_unique hs' (ht ▸ hs)) hne
        · exact hv.canonical.proposalIds e he
    · -- another task: its members, edges and proposal are the old ones
      have hold : m ∈ (active.under binding).members := by
        rcases (nextSnapshot_mem_members h).1 hm with ⟨hold, -⟩ | hnew
        · exact hold
        · obtain ⟨a, -, rfl⟩ := List.mem_map.1 hnew
          exact absurd rfl ht
      obtain ⟨p, hstored, hids, hedges⟩ := hactive.parts m hold
      refine ⟨p, hstored, fun id => by rw [nextSnapshot_idsOf_other h ht]; exact hids id, fun e he hs => ?_⟩
      rcases (nextSnapshot_mem_edges h).1 he with he | he
      · exact hedges e (GraphSnapshot.mem_keptEdges.1 he).1 ((nextSnapshot_idsOf_other h ht).1 hs)
      · have hself := (nextSnapshot_idsOf_self h).2 (hv.endpoints he).1
        exact absurd (GraphSnapshot.idsOf_unique hs hself) ht

end Next

end Roundwright.Dependency
