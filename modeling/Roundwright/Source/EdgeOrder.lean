/-
The order of the edges. The selection goes over the edges once and reads, for an item, the blockers its dependencies
have so far; what an edge adds is known (`EdgeAdds`), and so is what comes of all edges, apart from the one blocker that
tells whether a dependency is blocked. Whether that one shows depends on the order, unless a dependency is blocked for
other reasons than its own edges.
-/
import Roundwright.Source.Selection
import Roundwright.Lib.Stable

namespace Roundwright.Source

open Lib Dependency

/-! ## Blockers one by one -/

variable {blockers : Blockers}

theorem mem_add {opaqueId id : Digest} {reason b : Blocker} :
    b ∈ blockers.add opaqueId reason id ↔ b ∈ blockers id ∨ (id = opaqueId ∧ b = reason) := by
  unfold Blockers.add
  by_cases h : id = opaqueId
  · rw [if_pos h, List.mem_insert_iff, or_comm]
    simp [h]
  · simp [h]

/-- No blocker is twice in a set. -/
def Blockers.Nodup (blockers : Blockers) : Prop := ∀ id, (blockers id).Nodup

theorem Blockers.Nodup.add (h : blockers.Nodup) (opaqueId : Digest) (reason : Blocker) :
    (blockers.add opaqueId reason).Nodup := by
  intro id
  unfold Blockers.add
  split
  · exact (h id).insert
  · exact h id

theorem Blockers.Nodup.addIf (h : blockers.Nodup) (p : Prop) [Decidable p] (opaqueId : Digest)
    (reason : Blocker) :
    (if p then blockers.add opaqueId reason else blockers).Nodup := by
  split
  · exact h.add opaqueId reason
  · exact h

/-- What every step of a pass keeps, the pass keeps. -/
theorem foldl_keeps {α β : Type} {P : β → Prop} {step : β → α → β} (h : ∀ b x, P b → P (step b x)) (l : List α) {b : β}
    (hb : P b) :
    P (l.foldl step b) := by
  induction l generalizing b with
  | nil => exact hb
  | cons x l ih => exact ih (h b x hb)

/-- A blocker that no step adds is not there after a pass, if it was not there before. -/
def Lacks (b : Blocker) (blockers : Blockers) : Prop := ∀ id, b ∉ blockers id

theorem Lacks.add {b reason : Blocker} (h : Lacks b blockers) (hne : b ≠ reason) (opaqueId : Digest) :
    Lacks b (blockers.add opaqueId reason) := by
  intro id hmem
  rcases mem_add.1 hmem with hmem | ⟨-, heq⟩
  · exact h id hmem
  · exact hne heq

theorem Lacks.addIf {b reason : Blocker} (h : Lacks b blockers) (hne : b ≠ reason) (p : Prop)
    [Decidable p] (opaqueId : Digest) : Lacks b (if p then blockers.add opaqueId reason else blockers) := by
  split
  · exact h.add hne opaqueId
  · exact h

/-! ## One edge -/

section Edges

variable {inventory : SourceInventory}

/-- What a step of an edge adds, by the dependencies. -/
def Shows (dependencies : List NormalizedItem) (blockers : Blockers) (b : Blocker) : Prop :=
  (dependencies = [] ∧ b = .dependencyOutsideInventory) ∨
    (dependencies ≠ [] ∧ (b = .dependencyNotComplete ∨ (b = .dependencyBlocked ∧ ∃ d ∈ dependencies, blockers d.opaqueId ≠ [])))

/-- What an edge adds to the blockers of the items of its subject. -/
def EdgeAdds (inventory : SourceInventory) (blockers : Blockers) (edge : Token × Token) (b : Blocker) (id : Digest) : Prop :=
  (∃ item ∈ inventory.byMember edge.1, id = item.opaqueId) ∧ Shows (inventory.byMember edge.2) blockers b

variable {id : Digest} {b : Blocker}

theorem mem_blockDependent {dependencies : List NormalizedItem} {item : NormalizedItem} :
    b ∈ blockDependent dependencies blockers item id ↔ b ∈ blockers id ∨
    (id = item.opaqueId ∧ Shows dependencies blockers b) := by
  unfold blockDependent Shows
  by_cases hnone : dependencies = []
  · simp [hnone, mem_add]
  · by_cases hany : ∃ d ∈ dependencies, blockers d.opaqueId ≠ []
    · simp only [hnone, List.any_eq_true, decide_eq_true_eq, if_false, if_pos hany, mem_add]
      tauto
    · simp only [hnone, List.any_eq_true, decide_eq_true_eq, if_false, mem_add, hany, and_false, or_false]
      tauto

theorem blockDependent_other {dependencies : List NormalizedItem} {item : NormalizedItem}
    (h : id ≠ item.opaqueId) : blockDependent dependencies blockers item id = blockers id := by
  unfold blockDependent
  split
  · exact if_neg h
  · refine (if_neg h).trans ?_
    split
    · exact if_neg h
    · rfl

theorem mem_foldl_blockDependent {dependencies l : List NormalizedItem}
    (hapart : ∀ item ∈ l, ∀ d ∈ dependencies, d.opaqueId ≠ item.opaqueId) :
    b ∈ l.foldl (blockDependent dependencies) blockers id ↔
      b ∈ blockers id ∨ ((∃ item ∈ l, id = item.opaqueId) ∧ Shows dependencies blockers b) := by
  induction l generalizing blockers with
  | nil => simp
  | cons item l ih =>
    rw [List.forall_mem_cons] at hapart
    -- a step leaves the blockers of the dependencies as they are
    have hshows : Shows dependencies (blockDependent dependencies blockers item) b ↔ Shows dependencies blockers b := by
      unfold Shows
      refine or_congr_right (and_congr_right fun _ => or_congr_right (and_congr_right fun _ => exists_congr fun d => ?_))
      exact and_congr_right fun hd => by rw [blockDependent_other (hapart.1 d hd)]
    rw [List.foldl_cons, ih hapart.2, mem_blockDependent, hshows]
    simp only [List.mem_cons, exists_eq_or_imp]
    tauto

theorem opaqueId_ne {a b : Token} (h : a ≠ b) {item dep : NormalizedItem} (hitem : item ∈ inventory.byMember a)
    (hdep : dep ∈ inventory.byMember b) : dep.opaqueId ≠ item.opaqueId := by
  intro hid
  obtain ⟨hitem, ha⟩ := SourceInventory.mem_byMember.1 hitem
  obtain ⟨hdep, hb⟩ := SourceInventory.mem_byMember.1 hdep
  exact h (by rw [← ha, ← hb, SourceInventory.eq_of_opaqueId hdep hitem hid])

theorem mem_blockEdge {edge : Token × Token} (h : edge.1 ≠ edge.2) :
    b ∈ blockEdge inventory blockers edge id ↔ b ∈ blockers id ∨ EdgeAdds inventory blockers edge b id :=
  mem_foldl_blockDependent fun _ hitem _ hdep => opaqueId_ne h hitem hdep

theorem foldl_blockDependent_other {dependencies l : List NormalizedItem}
    (h : ∀ item ∈ l, id ≠ item.opaqueId) : l.foldl (blockDependent dependencies) blockers id = blockers id := by
  induction l generalizing blockers with
  | nil => rfl
  | cons item l ih =>
    rw [List.forall_mem_cons] at h
    rw [List.foldl_cons, ih h.2, blockDependent_other h.1]

theorem blockEdge_other {edge : Token × Token}
    (h : ∀ item ∈ inventory.byMember edge.1, id ≠ item.opaqueId) : blockEdge inventory blockers edge id = blockers id :=
  foldl_blockDependent_other h

/-! ## All edges -/

theorem EdgeAdds.mono {blockers blockers' : Blockers} (hle : ∀ id b, b ∈ blockers id → b ∈ blockers' id)
    {edge : Token × Token} (h : EdgeAdds inventory blockers edge b id) : EdgeAdds inventory blockers' edge b id := by
  obtain ⟨hsubject, hnone | ⟨hsome, hnot | ⟨hb, d, hd, hblocked⟩⟩⟩ := h
  · exact ⟨hsubject, .inl hnone⟩
  · exact ⟨hsubject, .inr ⟨hsome, .inl hnot⟩⟩
  · obtain ⟨c, hc⟩ := List.exists_mem_of_ne_nil _ hblocked
    exact ⟨hsubject, .inr ⟨hsome, .inr ⟨hb, d, hd, List.ne_nil_of_mem (hle _ _ hc)⟩⟩⟩

variable {edges : List (Token × Token)}

theorem mem_edges_of_mem (hne : ∀ e ∈ edges, e.1 ≠ e.2) {blockers : Blockers} (h : b ∈ blockers id) :
    b ∈ edges.foldl (blockEdge inventory) blockers id := by
  induction edges generalizing blockers with
  | nil => exact h
  | cons e edges ih =>
    rw [List.forall_mem_cons] at hne
    exact ih hne.2 ((mem_blockEdge hne.1).2 (.inl h))

/-- What an edge adds to what was there before all edges, is there after them. -/
theorem mem_edges_of_adds (hne : ∀ e ∈ edges, e.1 ≠ e.2) {blockers : Blockers} {e : Token × Token} (he : e ∈ edges)
    (h : EdgeAdds inventory blockers e b id) : b ∈ edges.foldl (blockEdge inventory) blockers id := by
  induction edges generalizing blockers with
  | nil => cases he
  | cons e' edges ih =>
    rw [List.forall_mem_cons] at hne
    rcases List.mem_cons.1 he with rfl | he
    · exact mem_edges_of_mem hne.2 ((mem_blockEdge hne.1).2 (.inr h))
    · exact ih hne.2 he (h.mono fun _ _ hmem => (mem_blockEdge hne.1).2 (.inl hmem))

/-- What is there after all edges was there before, or an edge adds it to what is there after them. -/
theorem adds_of_mem_edges (hne : ∀ e ∈ edges, e.1 ≠ e.2) {blockers : Blockers}
    (h : b ∈ edges.foldl (blockEdge inventory) blockers id) :
    b ∈ blockers id ∨ ∃ e ∈ edges, EdgeAdds inventory (edges.foldl (blockEdge inventory) blockers) e b id := by
  induction edges generalizing blockers with
  | nil => exact .inl h
  | cons e edges ih =>
    rw [List.forall_mem_cons] at hne
    rcases ih hne.2 h with hmem | ⟨e', he', hadds⟩
    · rcases (mem_blockEdge hne.1).1 hmem with hmem | hadds
      · exact .inl hmem
      · refine .inr ⟨e, List.mem_cons_self, hadds.mono fun _ _ hmem => ?_⟩
        exact mem_edges_of_mem hne.2 ((mem_blockEdge hne.1).2 (.inl hmem))
    · exact .inr ⟨e', List.mem_cons_of_mem _ he', hadds⟩

/-- Apart from one blocker, what the edges add does not depend on what was there. -/
theorem mem_edges_iff (hne : ∀ e ∈ edges, e.1 ≠ e.2) {blockers : Blockers} (hb : b ≠ .dependencyBlocked) :
    b ∈ edges.foldl (blockEdge inventory) blockers id ↔ b ∈ blockers id ∨ ∃ e ∈ edges, EdgeAdds inventory .none e b id := by
  constructor
  · intro h
    rcases adds_of_mem_edges hne h with hmem | ⟨e, he, hsubject, hnone | ⟨hsome, hnot | ⟨hblocked, -⟩⟩⟩
    · exact .inl hmem
    · exact .inr ⟨e, he, hsubject, .inl hnone⟩
    · exact .inr ⟨e, he, hsubject, .inr ⟨hsome, .inl hnot⟩⟩
    · exact absurd hblocked hb
  · rintro (hmem | ⟨e, he, hadds⟩)
    · exact mem_edges_of_mem hne hmem
    · exact mem_edges_of_adds hne he (hadds.mono fun id b hmem => absurd hmem List.not_mem_nil)

/-- Edges of other subjects leave an item as it is. -/
theorem foldl_blockEdge_other {item : NormalizedItem} (hitem : item ∈ inventory.items)
    (h : ∀ e ∈ edges, e.1 ≠ item.memberId) {blockers : Blockers} : edges.foldl (blockEdge inventory) blockers
    item.opaqueId = blockers item.opaqueId := by
  induction edges generalizing blockers with
  | nil => rfl
  | cons e edges ih =>
    rw [List.forall_mem_cons] at h
    rw [List.foldl_cons, ih h.2]
    refine blockEdge_other fun other hother hid => ?_
    exact opaqueId_ne h.1 hother (SourceInventory.mem_byMember.2 ⟨hitem, rfl⟩) hid

/-- When the edges of an item come first and its dependencies are not blocked before them, none of them is seen
blocked. -/
theorem unblocked_of_first {item : NormalizedItem} (hne : ∀ e ∈ edges, e.1 ≠ e.2)
    (hfirst : ∀ e ∈ edges, e.1 = item.memberId)
    (hfree : ∀ e ∈ edges, ∀ d ∈ inventory.byMember e.2, blockers d.opaqueId = [])
    (hnot : .dependencyBlocked ∉ blockers item.opaqueId) :
    .dependencyBlocked ∉ edges.foldl (blockEdge inventory) blockers item.opaqueId := by
  induction edges generalizing blockers with
  | nil => exact hnot
  | cons e edges ih =>
    rw [List.forall_mem_cons] at hne hfirst hfree
    refine ih hne.2 hfirst.2 (fun e' he' d hd => ?_) fun hmem => ?_
    · rw [blockEdge_other fun other hother hid => ?_]
      · exact hfree.2 e' he' d hd
      · rw [hfirst.1, ← hfirst.2 e' he'] at hother
        exact opaqueId_ne (hne.2 e' he') hother hd hid
    · rcases (mem_blockEdge hne.1).1 hmem with hmem | ⟨-, ⟨-, heq⟩ | ⟨-, heq | ⟨-, d, hd, hblocked⟩⟩⟩
      · exact hnot hmem
      · cases heq
      · cases heq
      · exact hblocked (hfree.1 d hd)

end Edges

/-! ## The passes before the edges -/

/-- What is blocked before the edges, under a graph of the inventory's own binding. -/
def baseBlockers (inventory : SourceInventory) (graph : GraphSnapshot) (pending : Bool) : Blockers :=
  inventory.items.foldl (blockUnmatched graph) (inventory.items.foldl (blockItem inventory pending) .none)

section Selection

variable {host : Host} {inventory : SourceInventory} {g g' : GraphSnapshot} {pending : Bool} {item : NormalizedItem}

theorem collectBlockers_current (h : g.binding = some (inventory.binding.graphBinding host)) :
    collectBlockers inventory host (some g) pending =
      ((g.edges.map (·.pair)).foldl (blockEdge inventory) (baseBlockers inventory g pending), some (g.graphDigest host)) := by
  have hbound : ¬ (some (inventory.binding.graphBinding host) = none) := Option.some_ne_none _
  simp only [collectBlockers, joinGraph, h, ne_eq, not_true_eq_false, if_false, Option.any_some, hbound, decide_false,
    Bool.false_eq_true, and_false]
  rfl

/-- A graph of another binding is only there: its members and edges are not looked at. -/
theorem collectBlockers_stale (hbinding : g'.binding = g.binding) (h : g.binding ≠ some (inventory.binding.graphBinding host)) :
    collectBlockers inventory host (some g') pending = collectBlockers inventory host (some g) pending := by
  simp only [collectBlockers, joinGraph, hbinding, h, ne_eq, not_false_eq_true, if_true, Option.any_some]

theorem nodup_blockItem (blockers : Blockers) (item : NormalizedItem) (h : blockers.Nodup) :
    (blockItem inventory pending blockers item).Nodup :=
  ((h.addIf _ _ _).addIf _ _ _).addIf _ _ _

theorem nodup_blockEdge (blockers : Blockers) (edge : Token × Token) (h : blockers.Nodup) :
    (blockEdge inventory blockers edge).Nodup := by
  refine foldl_keeps (fun blockers item h => ?_) _ h
  unfold blockDependent
  split
  · exact h.add _ _
  · exact (h.addIf _ _ _).add _ _

theorem nodup_baseBlockers : (baseBlockers inventory g pending).Nodup := by
  refine foldl_keeps (P := Blockers.Nodup) (fun blockers item h => h.addIf _ _ _) _ ?_
  exact foldl_keeps (P := Blockers.Nodup) nodup_blockItem _ fun _ => List.nodup_nil

theorem lacks_blockItem (blockers : Blockers) (item : NormalizedItem) (h : Lacks .dependencyBlocked blockers) :
    Lacks .dependencyBlocked (blockItem inventory pending blockers item) :=
  ((h.addIf (by decide) _ _).addIf (by decide) _ _).addIf (by decide) _ _

theorem lacks_items : Lacks .dependencyBlocked (inventory.items.foldl (blockItem inventory pending) .none) :=
  foldl_keeps (P := Lacks .dependencyBlocked) lacks_blockItem _ fun _ => List.not_mem_nil

theorem lacks_baseBlockers : Lacks .dependencyBlocked (baseBlockers inventory g pending) :=
  foldl_keeps (P := Lacks .dependencyBlocked) (fun _ _ h => h.addIf (by decide) _ _) _ lacks_items

theorem lacks_blockAll (h : Lacks .dependencyBlocked blockers) :
    Lacks .dependencyBlocked (blockAll inventory .currentGraphUnavailable blockers) :=
  foldl_keeps (P := Lacks .dependencyBlocked) (fun _ item h => h.add (by decide) _) _ h

theorem lacks_stale (h : g.binding ≠ some (inventory.binding.graphBinding host)) :
    Lacks .dependencyBlocked (collectBlockers inventory host (some g) pending).1 := by
  simp only [collectBlockers, joinGraph, h, ne_eq, not_false_eq_true, if_true, List.foldl_nil]
  split
  · exact lacks_blockAll (lacks_blockAll lacks_items)
  · exact lacks_blockAll lacks_items

/-- The graph without its edges. -/
def withoutEdges (g : GraphSnapshot) : GraphSnapshot := { g with edges := [] }

/-- Before the edges an item is blocked exactly when it would not be runnable without them. -/
theorem baseBlockers_eq_nil (h : g.binding = some (inventory.binding.graphBinding host)) (hitem : item ∈ inventory.items) :
    baseBlockers inventory g pending item.opaqueId = [] ↔ IsRunnable host inventory (some (withoutEdges g)) pending item := by
  rw [← collectBlockers_eq_nil hitem, collectBlockers_current (g := withoutEdges g) h]
  rfl

theorem pair_ne (g : GraphSnapshot) : ∀ e ∈ g.edges.map (·.pair), e.1 ≠ e.2 := by
  intro e he
  obtain ⟨edge, -, rfl⟩ := List.mem_map.1 he
  exact edge.distinct

/-- The blockers of the decisions, for a graph of the inventory's own binding. -/
abbrev finalBlockers (inventory : SourceInventory) (g : GraphSnapshot) (pending : Bool) : Blockers :=
  (g.edges.map (·.pair)).foldl (blockEdge inventory) (baseBlockers inventory g pending)

theorem finalBlockers_eq_nil (h : g.binding = some (inventory.binding.graphBinding host)) (hitem : item ∈ inventory.items) :
    finalBlockers inventory g pending item.opaqueId = [] ↔ IsRunnable host inventory (some g) pending item := by
  rw [← collectBlockers_eq_nil hitem, collectBlockers_current h]

/-- One member directly depends on another. -/
def DependsOn (g : GraphSnapshot) (subject object : Token) : Prop :=
  ∃ edge ∈ g.edges, edge.subjectMemberId = subject ∧ edge.objectMemberId = object

theorem dependsOn_iff {a b : Token} : DependsOn g a b ↔ (a, b) ∈ g.edges.map (·.pair) := by
  simp only [DependsOn, List.mem_map, GraphEdge.pair, Prod.mk.injEq]

/-- An item that is not runnable is blocked before the edges, or has an edge of its own. -/
theorem not_runnable_iff : ¬ IsRunnable host inventory (some g) pending item ↔
    ¬ IsRunnable host inventory (some (withoutEdges g)) pending item ∨ ∃ object, DependsOn g item.memberId object := by
  unfold IsRunnable GraphAllows withoutEdges
  simp only [List.not_mem_nil, false_implies, implies_true, and_true]
  have hbinding : GraphSnapshot.binding { g with edges := [] } = g.binding := rfl
  rw [hbinding]
  have hedges : (∃ object, DependsOn g item.memberId object) ↔ ¬ ∀ edge ∈ g.edges, edge.subjectMemberId ≠ item.memberId := by
    push Not
    constructor
    · rintro ⟨_, edge, hedge, hsubject, -⟩
      exact ⟨edge, hedge, hsubject⟩
    · rintro ⟨edge, hedge, hsubject⟩
      exact ⟨_, edge, hedge, hsubject, rfl⟩
  rw [hedges, ← not_and_or]
  simp only [and_assoc]

/-- An item is seen depending on a blocked item only if one of its dependencies is not runnable. -/
theorem blocked_sound (h : g.binding = some (inventory.binding.graphBinding host)) (hitem : item ∈ inventory.items)
    (hblocked : .dependencyBlocked ∈ finalBlockers inventory g pending item.opaqueId) :
    ∃ dep ∈ inventory.items, DependsOn g item.memberId dep.memberId ∧ ¬ IsRunnable host inventory (some g) pending dep := by
  rcases adds_of_mem_edges (pair_ne g) hblocked with hmem | ⟨e, he, ⟨other, hother, hid⟩, hshows⟩
  · exact absurd hmem (lacks_baseBlockers _)
  · obtain ⟨edge, hedge, rfl⟩ := List.mem_map.1 he
    obtain ⟨hother, hmember⟩ := SourceInventory.mem_byMember.1 hother
    obtain rfl := SourceInventory.eq_of_opaqueId hitem hother hid
    rcases hshows with ⟨-, heq⟩ | ⟨-, heq | ⟨-, dep, hdep, hnonempty⟩⟩
    · cases heq
    · cases heq
    · obtain ⟨hdep, hobject⟩ := SourceInventory.mem_byMember.1 hdep
      refine ⟨dep, hdep, ⟨edge, hedge, hmember.symm, hobject.symm⟩, fun hrunnable => hnonempty ?_⟩
      exact (finalBlockers_eq_nil h hdep).2 hrunnable

/-- A dependency that is blocked for other reasons than its edges is always seen. -/
theorem blocked_complete (h : g.binding = some (inventory.binding.graphBinding host)) (hitem : item ∈ inventory.items)
    {dep : NormalizedItem} (hdep : dep ∈ inventory.items) (hdepends : DependsOn g item.memberId dep.memberId)
    (hbase : ¬ IsRunnable host inventory (some (withoutEdges g)) pending dep) :
    .dependencyBlocked ∈ finalBlockers inventory g pending item.opaqueId := by
  have hmem : dep ∈ inventory.byMember dep.memberId := SourceInventory.mem_byMember.2 ⟨hdep, rfl⟩
  have hsubject : item ∈ inventory.byMember item.memberId := SourceInventory.mem_byMember.2 ⟨hitem, rfl⟩
  refine mem_edges_of_adds (pair_ne g) (dependsOn_iff.1 hdepends)
    ⟨⟨item, hsubject, rfl⟩, .inr ⟨List.ne_nil_of_mem hmem, .inr ⟨rfl, ?_⟩⟩⟩
  exact ⟨dep, hmem, fun hnil => hbase ((baseBlockers_eq_nil h hdep).1 hnil)⟩

/-! ## Graphs of one digest -/

/-- What the digest of a graph is taken of. -/
def graphPayload (g : GraphSnapshot) : Json := .obj [
  ("members", .arr ((sortBy (·.memberId) g.members).map (·.payload))),
  ("edges", .arr ((sortBy (fun e => e.orderKey ++ [e.proposalId.val]) g.edges).map (·.payload)))]

theorem graphDigest_eq (host : Host) (g : GraphSnapshot) : g.graphDigest host = host.digestValue (graphPayload g) := rfl

/-- Another graph with the same binding and the same digest, where the digest does not collide on the two. -/
structure SameDigest (host : Host) (g g' : GraphSnapshot) : Prop where
  binding : g'.binding = g.binding
  digest : g'.graphDigest host = g.graphDigest host
  free : host.digestValue (graphPayload g') = host.digestValue (graphPayload g) → graphPayload g' = graphPayload g

theorem SameDigest.refl (host : Host) (g : GraphSnapshot) : SameDigest host g g := ⟨rfl, rfl, fun _ => rfl⟩

theorem mem_of_payload {α κ : Type} [LinearOrder κ] {key : α → κ} {payload : α → Json} {l l' : List α}
    (h : (sortBy key l').map payload = (sortBy key l).map payload) {a : α} (ha : a ∈ l) : ∃ a' ∈ l', payload a' = payload a := by
  have hmem : payload a ∈ (sortBy key l').map payload := by
    rw [h]
    exact List.mem_map_of_mem (mem_sortBy.2 ha)
  obtain ⟨a', ha', heq⟩ := List.mem_map.1 hmem
  exact ⟨a', mem_sortBy.1 ha', heq⟩

theorem pair_of_payload {e e' : GraphEdge} (h : e'.payload = e.payload) : e'.pair = e.pair := by
  simp only [GraphEdge.payload, Json.obj.injEq, List.cons.injEq, Prod.mk.injEq, Json.str.injEq, true_and] at h
  exact Prod.ext (Subtype.ext h.1) (Subtype.ext h.2.1)

theorem member_of_payload {m m' : GraphMember} (h : m'.payload = m.payload) :
    m'.memberId = m.memberId ∧ m'.member.contentDigest = m.member.contentDigest := by
  simp only [GraphMember.payload, AffectedMember.payload, Json.obj.injEq, List.cons.injEq, Prod.mk.injEq,
    Json.str.injEq, Json.digest.injEq, true_and] at h
  exact ⟨Subtype.ext h.2.2.1, h.2.2.2.2.1⟩

theorem SameDigest.same (h : SameDigest host g g') :
    (∀ e, e ∈ g'.edges.map (·.pair) ↔ e ∈ g.edges.map (·.pair)) ∧
    ∀ memberId, graphMember? g' memberId = graphMember? g memberId := by
  have hpayload := h.free h.digest
  simp only [graphPayload, Json.obj.injEq, List.cons.injEq, Prod.mk.injEq, Json.arr.injEq, true_and, and_true] at hpayload
  obtain ⟨hmembers, hedges⟩ := hpayload
  constructor
  · intro e
    constructor
    · intro he
      obtain ⟨edge, hedge, rfl⟩ := List.mem_map.1 he
      obtain ⟨edge', hedge', heq⟩ := mem_of_payload hedges.symm hedge
      exact List.mem_map.2 ⟨edge', hedge', pair_of_payload heq⟩
    · intro he
      obtain ⟨edge, hedge, rfl⟩ := List.mem_map.1 he
      obtain ⟨edge', hedge', heq⟩ := mem_of_payload hedges hedge
      exact List.mem_map.2 ⟨edge', hedge', pair_of_payload heq⟩
  · intro memberId
    ext digest
    rw [graphMember?_eq_some, graphMember?_eq_some]
    constructor
    · rintro ⟨m, hm, hid, hdigest⟩
      obtain ⟨m', hm', heq⟩ := mem_of_payload hmembers.symm hm
      obtain ⟨hid', hdigest'⟩ := member_of_payload heq
      exact ⟨m', hm', hid'.trans hid, hdigest'.trans hdigest⟩
    · rintro ⟨m, hm, hid, hdigest⟩
      obtain ⟨m', hm', heq⟩ := mem_of_payload hmembers hm
      obtain ⟨hid', hdigest'⟩ := member_of_payload heq
      exact ⟨m', hm', hid'.trans hid, hdigest'.trans hdigest⟩

theorem SameDigest.dependsOn (h : SameDigest host g g') {a b : Token} : DependsOn g' a b ↔ DependsOn g a b := by
  rw [dependsOn_iff, dependsOn_iff, h.same.1]

theorem SameDigest.baseBlockers_eq (h : SameDigest host g g') :
    baseBlockers inventory g' pending = baseBlockers inventory g pending := by
  have hpass : blockUnmatched g' = blockUnmatched g := by
    funext blockers item
    unfold blockUnmatched
    rw [h.same.2]
  unfold baseBlockers
  rw [hpass]

theorem SameDigest.withoutEdges (h : SameDigest host g g') : IsRunnable host inventory (some (Source.withoutEdges g'))
    pending item ↔
    IsRunnable host inventory (some (Source.withoutEdges g)) pending item := by
  have hmembers : (∃ m ∈ g'.members, m.memberId = item.memberId ∧ m.member.contentDigest = item.contentDigest) ↔
      ∃ m ∈ g.members, m.memberId = item.memberId ∧ m.member.contentDigest = item.contentDigest := by
    rw [← graphMember?_eq_some, ← graphMember?_eq_some, h.same.2]
  have hbinding : (Source.withoutEdges g').binding = (Source.withoutEdges g).binding := h.binding
  unfold IsRunnable GraphAllows
  simp only [hbinding]
  exact and_congr_right fun _ => and_congr_right fun _ => and_congr_right fun _ => and_congr_right fun _ =>
    and_congr_left fun _ => hmembers

/-! ## What the evidence says of the dependencies -/

/-- The evidence of every item tells whether an item of the inventory that it directly depends on is not runnable. -/
def CarriesExactly (host : Host) (inventory : SourceInventory) (g : GraphSnapshot) (pending : Bool) : Prop :=
  let selection := selectRunnableWork inventory host (some g) pending
  ∀ item ∈ inventory.items, ∀ d ∈ selection.decisions, d.opaqueId = item.opaqueId →
    (.dependencyBlocked ∈ d.blockers ↔
      ∃ dep ∈ inventory.items, DependsOn g item.memberId dep.memberId ∧ dep.opaqueId ∉ selection.runnableIds)

/-- Under the inventory's own graph: an item with a dependency that has dependencies of its own, also has one that would
be blocked without any edge. Under another graph: no item depends on one of the inventory. -/
def DependenciesShow (host : Host) (inventory : SourceInventory) (g : GraphSnapshot) (pending : Bool) : Prop :=
  if g.binding = some (inventory.binding.graphBinding host) then
    ∀ item ∈ inventory.items, ∀ dep ∈ inventory.items, DependsOn g item.memberId dep.memberId →
      (∃ object, DependsOn g dep.memberId object) → ∃ dep' ∈ inventory.items, DependsOn g item.memberId dep'.memberId ∧
        ¬ IsRunnable host inventory (some { g with edges := [] }) pending dep'
  else ∀ item ∈ inventory.items, ∀ dep ∈ inventory.items, ¬ DependsOn g item.memberId dep.memberId

theorem mem_decision_blockers {d : SelectionDecision}
    (hd : d ∈ (selectRunnableWork inventory host (some g) pending).decisions) (hid : d.opaqueId = item.opaqueId) {b : Blocker} :
    b ∈ d.blockers ↔ b ∈ (collectBlockers inventory host (some g) pending).1 item.opaqueId := by
  rw [selectRunnableWork_decisions] at hd
  obtain ⟨opaqueId, -, rfl⟩ := List.mem_map.1 hd
  obtain rfl : opaqueId = item.opaqueId := hid
  exact mem_sortBy

theorem exists_decision (hitem : item ∈ inventory.items) :
    ∃ d ∈ (selectRunnableWork inventory host (some g) pending).decisions, d.opaqueId = item.opaqueId := by
  rw [selectRunnableWork_decisions]
  exact ⟨_, List.mem_map_of_mem (mem_sortBy.2 (List.mem_map_of_mem hitem)), rfl⟩

theorem carriesExactly_iff : CarriesExactly host inventory g pending ↔ ∀ item ∈ inventory.items,
    (.dependencyBlocked ∈ (collectBlockers inventory host (some g) pending).1 item.opaqueId ↔
      ∃ dep ∈ inventory.items, DependsOn g item.memberId dep.memberId ∧ ¬ IsRunnable host inventory (some g) pending dep) := by
  have hruns : ∀ item, (∃ dep ∈ inventory.items, DependsOn g item dep.memberId ∧
        dep.opaqueId ∉ (selectRunnableWork inventory host (some g) pending).runnableIds) ↔
      ∃ dep ∈ inventory.items, DependsOn g item dep.memberId ∧ ¬ IsRunnable host inventory (some g) pending dep := by
    refine fun item => exists_congr fun dep => and_congr_right fun hdep => and_congr_right fun _ => ?_
    rw [mem_runnableIds hdep]
  unfold CarriesExactly
  simp only [hruns]
  constructor
  · intro h item hitem
    obtain ⟨d, hd, hid⟩ := exists_decision hitem
    rw [← mem_decision_blockers hd hid]
    exact h item hitem d hd hid
  · intro h item hitem d hd hid
    rw [mem_decision_blockers hd hid]
    exact h item hitem

theorem DependenciesShow.carriesExactly (hshow : DependenciesShow host inventory g pending) :
    CarriesExactly host inventory g pending := by
  rw [carriesExactly_iff]
  intro item hitem
  unfold DependenciesShow at hshow
  by_cases h : g.binding = some (inventory.binding.graphBinding host)
  · rw [if_pos h] at hshow
    rw [collectBlockers_current h]
    constructor
    · exact blocked_sound h hitem
    · rintro ⟨dep, hdep, hdepends, hblocked⟩
      rcases not_runnable_iff.1 hblocked with hbase | hedges
      · exact blocked_complete h hitem hdep hdepends hbase
      · obtain ⟨dep', hdep', hdepends', hbase⟩ := hshow item hitem dep hdep hdepends hedges
        exact blocked_complete h hitem hdep' hdepends' hbase
  · rw [if_neg h] at hshow
    constructor
    · intro hblocked
      exact absurd hblocked (lacks_stale h _)
    · rintro ⟨dep, hdep, hdepends, -⟩
      exact absurd hdepends (hshow item hitem dep hdep)

theorem SameDigest.dependenciesShow (h : SameDigest host g g') :
    DependenciesShow host inventory g' pending ↔ DependenciesShow host inventory g pending := by
  have hwithout : ∀ dep, IsRunnable host inventory (some { g' with edges := [] }) pending dep ↔
      IsRunnable host inventory (some { g with edges := [] }) pending dep := fun dep => h.withoutEdges
  unfold DependenciesShow
  rw [h.binding]
  simp only [h.dependsOn, hwithout]

theorem decisionOf_congr {blockers blockers' : Blockers} (hn : blockers.Nodup) (hn' : blockers'.Nodup) {id : Digest}
    (h : ∀ b, b ∈ blockers id ↔ b ∈ blockers' id) : decisionOf blockers id = decisionOf blockers' id := by
  have hperm : (blockers id).Perm (blockers' id) := (List.perm_ext_iff_of_nodup (hn id) (hn' id)).2 h
  have hvalue : Function.Injective Blocker.value := by
    intro a b hab
    cases a <;> cases b <;> first | rfl | exact absurd hab (by decide)
  unfold decisionOf
  rw [sortBy_congr hperm ((hn id).map hvalue)]
  have hnil : blockers id = [] ↔ blockers' id = [] := ⟨fun hn => (hn ▸ hperm).nil_eq.symm, fun hn => (hn ▸ hperm).eq_nil⟩
  simp only [hnil]

/-- The selection depends on the blockers of the items only. -/
theorem selectRunnableWork_congr {graph graph' : Option GraphSnapshot}
    (hdigest : (collectBlockers inventory host graph' pending).2 = (collectBlockers inventory host graph pending).2)
    (h : ∀ item ∈ inventory.items, decisionOf (collectBlockers inventory host graph' pending).1 item.opaqueId =
      decisionOf (collectBlockers inventory host graph pending).1 item.opaqueId) :
    selectRunnableWork inventory host graph' pending = selectRunnableWork inventory host graph pending := by
  have hids : ∀ id ∈ inventory.items.map (·.opaqueId), decisionOf (collectBlockers inventory host graph' pending).1 id =
      decisionOf (collectBlockers inventory host graph pending).1 id := by
    intro id hid
    obtain ⟨item, hitem, rfl⟩ := List.mem_map.1 hid
    exact h item hitem
  have hrunnable : ∀ id ∈ inventory.items.map (·.opaqueId), (collectBlockers inventory host graph' pending).1 id = [] ↔
      (collectBlockers inventory host graph pending).1 id = [] := by
    intro id hid
    rw [← decisionOf_state, ← @decisionOf_state (collectBlockers inventory host graph pending).1, hids id hid]
  unfold selectRunnableWork
  refine RunnableSelection.mk.injEq .. ▸ ⟨rfl, hdigest, ?_, ?_⟩
  · exact List.map_congr_left fun id hid => hids id (mem_sortBy.1 hid)
  · congr 1
    refine List.filter_congr fun id hid => ?_
    rw [decide_eq_decide]
    exact hrunnable id hid

theorem DependenciesShow.select_eq (hshow : DependenciesShow host inventory g pending) (h : SameDigest host g g') :
    selectRunnableWork inventory host (some g') pending = selectRunnableWork inventory host (some g) pending := by
  by_cases hbinding : g.binding = some (inventory.binding.graphBinding host)
  · have hbinding' : g'.binding = some (inventory.binding.graphBinding host) := h.binding.trans hbinding
    have hexact := carriesExactly_iff.1 hshow.carriesExactly
    have hexact' := carriesExactly_iff.1 ((h.dependenciesShow.2 hshow).carriesExactly)
    refine selectRunnableWork_congr ?_ fun item hitem => ?_
    · rw [collectBlockers_current hbinding, collectBlockers_current hbinding', h.digest]
    · have hblocked := hexact item hitem
      have hblocked' := hexact' item hitem
      rw [collectBlockers_current hbinding] at hblocked ⊢
      rw [collectBlockers_current hbinding'] at hblocked' ⊢
      refine decisionOf_congr ?_ ?_ fun b => ?_
      · exact foldl_keeps (P := Blockers.Nodup) nodup_blockEdge _ nodup_baseBlockers
      · exact foldl_keeps (P := Blockers.Nodup) nodup_blockEdge _ nodup_baseBlockers
      · by_cases hb : b = .dependencyBlocked
        · rw [hb, hblocked, hblocked']
          refine exists_congr fun dep => and_congr_right fun _ => and_congr h.dependsOn ?_
          rw [not_runnable_iff, not_runnable_iff (g := g), h.withoutEdges]
          simp only [h.dependsOn]
        · rw [mem_edges_iff (pair_ne g') hb, mem_edges_iff (pair_ne g) hb, h.baseBlockers_eq]
          simp only [h.same.1]
  · refine selectRunnableWork_congr ?_ fun item _ => ?_
    · rw [collectBlockers_stale h.binding hbinding]
    · rw [collectBlockers_stale h.binding hbinding]

/-- The graph with the edges of one member first. -/
def edgesFirst (g : GraphSnapshot) (memberId : Token) : GraphSnapshot :=
  { g with edges := (g.edges.filter fun e => e.subjectMemberId = memberId) ++ g.edges.filter fun e => !decide (e.subjectMemberId = memberId) }

theorem sameDigest_edgesFirst (host : Host) (g : GraphSnapshot) (memberId : Token) : SameDigest host g (edgesFirst g memberId) := by
  have hpayload : graphPayload (edgesFirst g memberId) = graphPayload g := by
    unfold graphPayload edgesFirst
    dsimp only
    rw [sortBy_partition (fun e : GraphEdge => decide (e.subjectMemberId = memberId))]
    intro a b hab
    have hsubject : a.subjectMemberId = b.subjectMemberId := Subtype.ext (List.cons.inj hab).1
    rw [hsubject]
  exact ⟨rfl, by rw [graphDigest_eq, graphDigest_eq, hpayload], fun _ => hpayload⟩

theorem not_blocked_edgesFirst (h : g.binding = some (inventory.binding.graphBinding host))
    (hitem : item ∈ inventory.items) (hfree : ∀ dep ∈ inventory.items, DependsOn g item.memberId dep.memberId →
      IsRunnable host inventory (some (withoutEdges g)) pending dep) :
    .dependencyBlocked ∉ finalBlockers inventory (edgesFirst g item.memberId) pending item.opaqueId := by
  have hsame := sameDigest_edgesFirst host g item.memberId
  rw [finalBlockers, hsame.baseBlockers_eq]
  simp only [edgesFirst, List.map_append, List.foldl_append]
  rw [foldl_blockEdge_other hitem]
  · refine unblocked_of_first (fun e he => ?_) (fun e he => ?_) (fun e he d hd => ?_) (lacks_baseBlockers _)
    · obtain ⟨edge, -, rfl⟩ := List.mem_map.1 he
      exact edge.distinct
    · obtain ⟨edge, hedge, rfl⟩ := List.mem_map.1 he
      rw [List.mem_filter, decide_eq_true_eq] at hedge
      exact hedge.2
    · obtain ⟨edge, hedge, rfl⟩ := List.mem_map.1 he
      rw [List.mem_filter, decide_eq_true_eq] at hedge
      obtain ⟨hd, hobject⟩ := SourceInventory.mem_byMember.1 hd
      exact (baseBlockers_eq_nil h hd).2 (hfree d hd ⟨edge, hedge.1, hedge.2, hobject.symm⟩)
  · intro e he
    obtain ⟨edge, hedge, rfl⟩ := List.mem_map.1 he
    have hother := (List.mem_filter.1 hedge).2
    rw [Bool.not_eq_true', decide_eq_false_iff_not] at hother
    exact hother

end Selection

/-- Over the graphs of one binding and one digest, the selection is one and the evidence of each item tells exactly
whether one of its dependencies is not runnable, if and only if the dependencies show. -/
theorem selection_by_digest_exact (host : Host) (inventory : SourceInventory) (g : GraphSnapshot) (pending : Bool) :
    (∀ g', SameDigest host g g' →
      selectRunnableWork inventory host (some g') pending = selectRunnableWork inventory host (some g) pending ∧
        CarriesExactly host inventory g' pending) ↔
    DependenciesShow host inventory g pending := by
  constructor
  · intro hall
    unfold DependenciesShow
    by_cases h : g.binding = some (inventory.binding.graphBinding host)
    · rw [if_pos h]
      intro item hitem dep hdep hdepends hedges
      by_contra hnone
      push Not at hnone
      -- the order in which the edges of the item come first
      have hsame := sameDigest_edgesFirst host g item.memberId
      have hexact := carriesExactly_iff.1 (hall _ hsame).2 item hitem
      rw [collectBlockers_current (hsame.binding.trans h)] at hexact
      refine not_blocked_edgesFirst h hitem hnone
        (hexact.2 ⟨dep, hdep, hsame.dependsOn.2 hdepends, not_runnable_iff.2 (.inr ?_)⟩)
      obtain ⟨object, hobject⟩ := hedges
      exact ⟨object, hsame.dependsOn.2 hobject⟩
    · rw [if_neg h]
      intro item hitem dep hdep hdepends
      have hexact := carriesExactly_iff.1 (hall g (.refl host g)).2 item hitem
      refine lacks_stale h _ (hexact.2 ⟨dep, hdep, hdepends, ?_⟩)
      rintro ⟨-, -, -, hbinding, -⟩
      exact h hbinding
  · intro hshow g' hsame
    exact ⟨hshow.select_eq hsame, ((hsame.dependenciesShow.2 hshow).carriesExactly)⟩

namespace Sample

def digest (n : Nat) : Digest := .sha256 (.ofNat 64 n)

def member (name : String) (h : isToken name = true := by decide) : Token := ⟨name, h⟩

def source : ConfiguredSource := ⟨.taskFeed, ⟨"source", by decide⟩, 1, 10, by decide, by decide⟩

def binding : SourceIngestionBinding := ⟨.ofNat 40 1, digest 1, digest 2, [source], by decide, by decide⟩

def item (n : Nat) (memberId : Token) : NormalizedItem :=
  ⟨digest n, memberId, digest n, digest n, [⟨"source", by decide⟩], false, by decide, by simp⟩

/-- Three items of one source. -/
def inventory : SourceInventory where
  binding := binding
  sourceContentDigests := [(⟨"source", by decide⟩, digest 9)]
  items := [item 3 (member "a"), item 4 (member "b"), item 5 (member "c")]
  sources := by decide
  opaqueIds := by decide +kernel

def edge (subject object : Token) (h : subject ≠ object) : GraphEdge :=
  ⟨subject, object, .explicit, member "proposal", digest 6, h, EdgeKind.explicit_ne⟩

def graph (edges : List GraphEdge) : GraphSnapshot where
  version := some (member "version", binding.graphBinding .sample)
  members := [(member "a", 3), (member "b", 4), (member "c", 5)].map fun m =>
    ⟨member "task", member "snapshot", ⟨m.1, digest 7, digest m.2⟩⟩
  edges := edges
  proposalIds := []
  memberIds := by decide
  proposals := .nil

def ab : GraphEdge := edge (member "a") (member "b") (by decide)
def bc : GraphEdge := edge (member "b") (member "c") (by decide)

end Sample

open Sample in
/-- Two orders of the edges of a chain: one digest, and two selections. In the first order the first item does not show
that the second is blocked. -/
theorem chain_selected_twice :
    (graph [ab, bc]).graphDigest .sample = (graph [bc, ab]).graphDigest .sample ∧
    (selectRunnableWork inventory .sample (some (graph [ab, bc])) false).decisions.map (·.blockers) =
      [[.dependencyNotComplete], [.dependencyNotComplete], []] ∧
    (selectRunnableWork inventory .sample (some (graph [bc, ab])) false).decisions.map (·.blockers) =
      [[.dependencyBlocked, .dependencyNotComplete], [.dependencyNotComplete], []] := by
  refine ⟨by decide +kernel, by decide +kernel, by decide +kernel⟩

end Roundwright.Source
