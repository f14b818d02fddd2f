/-
Configured sources: the inventory of a scan and the selection of runnable work from it. The selection collects blockers
for every item in several passes, over the items, the members of the graph and its edges; an item is runnable when no
pass blocked it. Every pass is described by what it blocks (`Blocks`), whatever was blocked before, so the passes
compose.
-/
import Roundwright.Dependency.Graph

namespace Roundwright.Source

open Lib Dependency

/-- In a list without repetitions, an element is alone exactly when the list has one element. -/
theorem Nodup.length_of_mem {α : Type} {l : List α} (h : l.Nodup) {a : α} (ha : a ∈ l) : ¬ 1 < l.length ↔ ∀ b ∈ l, b = a := by
  constructor
  · intro hlength b hb
    obtain ⟨c, rfl⟩ := List.length_eq_one_iff.1 (Nat.le_antisymm (not_lt.1 hlength) (List.length_pos_of_mem ha))
    rw [List.mem_singleton.1 hb, List.mem_singleton.1 ha]
  · intro hall
    have hle := (List.subperm_of_subset h fun b hb => List.mem_singleton.2 (hall b hb)).length_le
    rw [List.length_singleton] at hle
    omega

/-! ## Inventories -/

/-- `_PUBLIC_ID`: as a token, with at most 255 tail characters. -/
def isPublicId (text : String) : Bool :=
  headTail Char.isLower (fun c => c.isLower || c.isDigit || c ∈ ['.', '_', '/', '-']) 255 text

abbrev PublicId := { text : String // isPublicId text = true }

inductive SourceType where
  | issueList | taskFeed
deriving DecidableEq

def SourceType.value : SourceType → String
  | .issueList => "issue-list"
  | .taskFeed => "task-feed"

/-- One exact source selected by trusted configuration, never a pattern. -/
structure ConfiguredSource where
  sourceType : SourceType
  publicIdentity : PublicId
  maxPages : Nat
  maxItems : Nat
  pages : 1 ≤ maxPages ∧ maxPages ≤ 1000
  items : 1 ≤ maxItems ∧ maxItems ≤ 100000
deriving DecidableEq

def ConfiguredSource.payload (s : ConfiguredSource) : Json :=
  .obj [("source_type", .str s.sourceType.value), ("public_identity", .str s.publicIdentity),
    ("max_pages", .num s.maxPages), ("max_items", .num s.maxItems)]

structure SourceIngestionBinding where
  candidateSha : Sha
  policyDigest : Digest
  configurationDigest : Digest
  configuredSources : List ConfiguredSource
  nonempty : configuredSources ≠ []
  identities : (configuredSources.map (·.publicIdentity)).Nodup

namespace SourceIngestionBinding

def sourceSetDigest (host : Host) (b : SourceIngestionBinding) : Digest :=
  host.digestValue (.obj [("sources", .arr ((sortBy (·.publicIdentity) b.configuredSources).map (·.payload)))])

/-- `DependencyGraphBinding(candidate_sha, policy_digest, configuration_digest)`: the validator is the current one by
default. -/
def graphBinding (host : Host) (b : SourceIngestionBinding) : DependencyGraphBinding :=
  ⟨b.candidateSha, b.policyDigest, b.configurationDigest, validatorDigest host⟩

end SourceIngestionBinding

structure NormalizedItem where
  opaqueId : Digest
  memberId : Token
  contentDigest : Digest
  mechanicalIdentityDigest : Digest
  sourceIdentities : List PublicId
  ambiguous : Bool
  nonempty : sourceIdentities ≠ []
  sorted : sourceIdentities.Pairwise (· ≤ ·)
deriving DecidableEq

def NormalizedItem.payload (i : NormalizedItem) : Json :=
  .obj [("opaque_id", .digest i.opaqueId), ("member_id", .str i.memberId), ("content_digest", .digest i.contentDigest),
    ("mechanical_identity_digest", .digest i.mechanicalIdentityDigest),
    ("source_identities", .arr (i.sourceIdentities.map fun s => .str s.val)), ("ambiguous", .bool i.ambiguous)]

structure SourceInventory where
  binding : SourceIngestionBinding
  sourceContentDigests : List (PublicId × Digest)
  items : List NormalizedItem
  sources : sourceContentDigests.map (·.1) = sortBy id (binding.configuredSources.map (·.publicIdentity))
  opaqueIds : (items.map (·.opaqueId)).Nodup

variable {i : SourceInventory}

namespace SourceInventory

def payload (host : Host) (i : SourceInventory) : Json :=
  .obj [("schema", .str "roundwright-configured-source-inventory/v1"),
    ("profile", .str "roundwright-shadow-profile/configured-source-ingestion/v1"),
      ("candidate_sha", .hex i.binding.candidateSha), ("policy_digest", .digest i.binding.policyDigest),
    ("configuration_digest", .digest i.binding.configurationDigest), ("source_set_digest", .digest (i.binding.sourceSetDigest host)),
    ("source_content_digests", .arr (i.sourceContentDigests.map fun o =>
      .obj [("public_identity", .str o.1), ("content_digest", .digest o.2)])),
    ("items", .arr (i.items.map (·.payload)))]

def inventoryDigest (host : Host) (i : SourceInventory) : Digest := host.digestValue (i.payload host)

/-- The items of one member. -/
def byMember (i : SourceInventory) (memberId : Token) : List NormalizedItem := i.items.filter fun item => item.memberId = memberId

theorem eq_of_opaqueId {a b : NormalizedItem} (ha : a ∈ i.items) (hb : b ∈ i.items)
    (h : a.opaqueId = b.opaqueId) : a = b := List.inj_on_of_nodup_map i.opaqueIds ha hb h

theorem mem_byMember {memberId : Token} {item : NormalizedItem} :
    item ∈ i.byMember memberId ↔ item ∈ i.items ∧ item.memberId = memberId := by
  simp [byMember]

/-- The items of a member are several exactly when an item of it has another beside it. -/
theorem byMember_length {item : NormalizedItem} (hitem : item ∈ i.items) :
    ¬ 1 < (i.byMember item.memberId).length ↔ ∀ other ∈ i.items, other.memberId = item.memberId → other = item := by
  have hmem : item ∈ i.byMember item.memberId := mem_byMember.2 ⟨hitem, rfl⟩
  have hiff : (∀ other ∈ i.items, other.memberId = item.memberId → other = item) ↔
      ∀ other ∈ i.byMember item.memberId, other = item := by
    simp only [mem_byMember, and_imp]
  rw [hiff]
  exact Nodup.length_of_mem ((i.opaqueIds.of_map _).filter _) hmem

end SourceInventory

/-! ## Selection -/

inductive Blocker where
  | ambiguousDeduplication | memberIdentityAmbiguous | ownerItemUnresolved | currentGraphUnavailable | graphMemberUnavailable
  | dependencyOutsideInventory | dependencyBlocked | dependencyNotComplete
deriving DecidableEq

def Blocker.value : Blocker → String
  | .ambiguousDeduplication => "ambiguous-deduplication"
  | .memberIdentityAmbiguous => "member-identity-ambiguous"
  | .ownerItemUnresolved => "owner-item-unresolved"
  | .currentGraphUnavailable => "current-graph-unavailable"
  | .graphMemberUnavailable => "graph-member-unavailable"
  | .dependencyOutsideInventory => "dependency-outside-inventory"
  | .dependencyBlocked => "dependency-blocked"
  | .dependencyNotComplete => "dependency-not-complete"

/-- The set of blockers of every opaque id. -/
abbrev Blockers := Digest → List Blocker

namespace Blockers

def none : Blockers := fun _ => []

def add (blockers : Blockers) (opaqueId : Digest) (reason : Blocker) : Blockers :=
  fun id => if id = opaqueId then (blockers id).insert reason else blockers id

end Blockers

inductive SelectionState where
  | runnable | blocked
deriving DecidableEq

structure SelectionDecision where
  opaqueId : Digest
  state : SelectionState
  blockers : List Blocker

structure RunnableSelection where
  inventoryDigest : Digest
  graphDigest : Option Digest
  decisions : List SelectionDecision
  runnableIds : List Digest

section Passes

variable (inventory : SourceInventory)

/-- What an item is blocked for by itself and by the owner. -/
def blockItem (ownerBlockersPending : Bool) (blockers : Blockers) (item : NormalizedItem) : Blockers :=
  let blockers := if item.ambiguous then blockers.add item.opaqueId .ambiguousDeduplication else blockers
  let blockers :=
    if 1 < (inventory.byMember item.memberId).length then blockers.add item.opaqueId .memberIdentityAmbiguous else blockers
  if ownerBlockersPending then blockers.add item.opaqueId .ownerItemUnresolved else blockers

/-- `for opaque_id in blockers: blockers[opaque_id].add(reason)` -/
def blockAll (reason : Blocker) (blockers : Blockers) : Blockers :=
  inventory.items.foldl (fun blockers item => blockers.add item.opaqueId reason) blockers

/-- `graph_members.get(member_id)` -/
def graphMember? (graph : GraphSnapshot) (memberId : Token) : Option Digest :=
  (graph.members.find? fun m => m.memberId = memberId).map (·.member.contentDigest)

def blockUnmatched (graph : GraphSnapshot) (blockers : Blockers) (item : NormalizedItem) : Blockers :=
  if graphMember? graph item.memberId ≠ some item.contentDigest then blockers.add item.opaqueId .graphMemberUnavailable else blockers

/-- The blockers an edge gives to one item of its subject, with the items of its object. -/
def blockDependent (dependencies : List NormalizedItem) (blockers : Blockers) (item : NormalizedItem) : Blockers :=
  if dependencies = [] then blockers.add item.opaqueId .dependencyOutsideInventory
  else
    let blockers :=
      if dependencies.any fun d => blockers d.opaqueId ≠ [] then blockers.add item.opaqueId .dependencyBlocked else blockers
    blockers.add item.opaqueId .dependencyNotComplete

def blockEdge (blockers : Blockers) (edge : Token × Token) : Blockers :=
  (inventory.byMember edge.1).foldl (blockDependent (inventory.byMember edge.2)) blockers

/-- What the graph, or its absence, does before its edges are looked at: the blockers, the digest of the graph and the
edges. -/
def joinGraph (host : Host) (graph : Option GraphSnapshot) (blockers : Blockers) :
    Blockers × Option Digest × List (Token × Token) :=
  match graph with
  | some graph =>
    if graph.binding ≠ some (inventory.binding.graphBinding host) then
      (blockAll inventory .currentGraphUnavailable blockers, none, [])
    else (inventory.items.foldl (blockUnmatched graph) blockers, some (graph.graphDigest host), graph.edges.map (·.pair))
  | none =>
    if 1 < inventory.binding.configuredSources.length then (blockAll inventory .currentGraphUnavailable blockers, none, [])
    else (blockers, none, [])

/-- The blockers after all passes, with the digest of the graph. -/
def collectBlockers (host : Host) (graph : Option GraphSnapshot) (ownerBlockersPending : Bool) : Blockers × Option Digest :=
  let blockers := inventory.items.foldl (blockItem inventory ownerBlockersPending) .none
  let (blockers, graphDigest, edges) := joinGraph inventory host graph blockers
  let blockers :=
    if 1 < inventory.binding.configuredSources.length ∧ graph.any (·.binding = none) then
      blockAll inventory .currentGraphUnavailable blockers
    else blockers
  (edges.foldl (blockEdge inventory) blockers, graphDigest)

/-- The decision about the item of an id. -/
def decisionOf (blockers : Blockers) (opaqueId : Digest) : SelectionDecision :=
  ⟨opaqueId, if blockers opaqueId = [] then .runnable else .blocked, sortBy (·.value) (blockers opaqueId)⟩

/-- `select_runnable_work` -/
def selectRunnableWork (host : Host) (graph : Option GraphSnapshot) (ownerBlockersPending : Bool) : RunnableSelection :=
  let (blockers, graphDigest) := collectBlockers inventory host graph ownerBlockersPending
  let ids := inventory.items.map (·.opaqueId)
  { inventoryDigest := inventory.inventoryDigest host
    graphDigest := graphDigest
    decisions := (sortBy id ids).map (decisionOf blockers)
    runnableIds := sortBy id (ids.filter fun opaqueId => blockers opaqueId = []) }

end Passes

/-! ## What the passes block -/

/-- A pass that blocks exactly the ids of `B`, whatever was blocked before. -/
def Blocks (pass : Blockers → Blockers) (B : Digest → Prop) : Prop :=
  ∀ blockers id, pass blockers id = [] ↔ blockers id = [] ∧ ¬ B id

theorem Blocks.add (opaqueId : Digest) (reason : Blocker) : Blocks (·.add opaqueId reason) (· = opaqueId) := by
  intro blockers id
  by_cases h : id = opaqueId
  · have hne : (blockers id).insert reason ≠ [] := List.ne_nil_of_mem List.mem_insert_self
    simp [Blockers.add, h, h ▸ hne]
  · simp [Blockers.add, h]

theorem Blocks.skip : Blocks (fun b => b) fun _ => False := by
  intro blockers id
  simp

theorem Blocks.comp {f g : Blockers → Blockers} {B C : Digest → Prop} (hf : Blocks f B) (hg : Blocks g C) :
    Blocks (fun b => g (f b)) fun id => B id ∨ C id := by
  intro blockers id
  rw [hg, hf, not_or, and_assoc]

/-- A pass over a list blocks what one of its steps blocks. -/
theorem Blocks.foldl {α : Type} {step : Blockers → α → Blockers} {B : α → Digest → Prop} {l : List α}
    (h : ∀ x ∈ l, Blocks (step · x) (B x)) : Blocks (fun b => l.foldl step b) fun id => ∃ x ∈ l, B x id := by
  induction l with
  | nil =>
    intro blockers id
    simp
  | cons x l ih =>
    intro blockers id
    have hrest := ih (fun y hy => h y (List.mem_cons_of_mem _ hy)) (step blockers x) id
    simp only [List.foldl_cons] at hrest ⊢
    rw [hrest, h x List.mem_cons_self blockers id]
    simp only [List.mem_cons, exists_eq_or_imp, not_or, and_assoc]

/-- A step that blocks an item under a condition. -/
theorem Blocks.addIf (p : Prop) [Decidable p] (opaqueId : Digest) (reason : Blocker) :
    Blocks (fun b => if p then b.add opaqueId reason else b) fun id => p ∧ id = opaqueId := by
  by_cases hp : p
  · simpa [hp] using Blocks.add opaqueId reason
  · simpa [hp] using Blocks.skip

section Passes

variable (inventory : SourceInventory)

theorem blocks_blockItem (ownerBlockersPending : Bool) (item : NormalizedItem) :
    Blocks (blockItem inventory ownerBlockersPending · item) fun id =>
      (item.ambiguous = true ∨ 1 < (inventory.byMember item.memberId).length ∨ ownerBlockersPending = true) ∧
        id = item.opaqueId := by
  have h := ((Blocks.addIf (item.ambiguous = true) item.opaqueId .ambiguousDeduplication).comp
    (Blocks.addIf (1 < (inventory.byMember item.memberId).length) item.opaqueId .memberIdentityAmbiguous)).comp
    (Blocks.addIf (ownerBlockersPending = true) item.opaqueId .ownerItemUnresolved)
  intro blockers id
  refine (h blockers id).trans (and_congr_right fun _ => not_congr ?_)
  beta_reduce
  rw [← or_and_right, ← or_and_right, or_assoc]

theorem blocks_blockAll (reason : Blocker) :
    Blocks (blockAll inventory reason) fun id => ∃ item ∈ inventory.items, id = item.opaqueId :=
  Blocks.foldl fun item _ => Blocks.add item.opaqueId reason

theorem blocks_blockUnmatched (graph : GraphSnapshot) (item : NormalizedItem) :
    Blocks (blockUnmatched graph · item) fun id => graphMember? graph item.memberId ≠ some item.contentDigest ∧ id = item.opaqueId :=
  Blocks.addIf _ item.opaqueId .graphMemberUnavailable

/-- An edge blocks the items of its subject, whatever is known of its object. -/
theorem blocks_blockDependent (dependencies : List NormalizedItem) (item : NormalizedItem) :
    Blocks (blockDependent dependencies · item) (· = item.opaqueId) := by
  intro blockers id
  unfold blockDependent
  split
  · exact Blocks.add item.opaqueId _ blockers id
  · refine (Blocks.add item.opaqueId _ _ id).trans ?_
    split
    · rw [Blocks.add item.opaqueId _ blockers id, and_assoc, and_self]
    · rfl

theorem blocks_blockEdge (edge : Token × Token) :
    Blocks (blockEdge inventory · edge) fun id => ∃ item ∈ inventory.byMember edge.1, id = item.opaqueId :=
  Blocks.foldl fun item _ => blocks_blockDependent _ item

end Passes

theorem graphMember?_eq_some {graph : GraphSnapshot} {memberId : Token} {digest : Digest} :
    graphMember? graph memberId = some digest ↔ ∃ m ∈ graph.members, m.memberId = memberId ∧ m.member.contentDigest = digest := by
  rw [graphMember?, Option.map_eq_some_iff]
  refine exists_congr fun m => ?_
  rw [find?_of_nodup graph.memberIds, and_assoc]

/-! ## Runnable items -/

/-- What keeps the graph, or its absence, from blocking an item. -/
def GraphAllows (host : Host) (inventory : SourceInventory) (graph : Option GraphSnapshot) (item : NormalizedItem) : Prop :=
  match graph with
  | none => inventory.binding.configuredSources.length = 1
  | some graph =>
    graph.binding = some (inventory.binding.graphBinding host) ∧
    (∃ m ∈ graph.members, m.memberId = item.memberId ∧ m.member.contentDigest = item.contentDigest) ∧
    ∀ edge ∈ graph.edges, edge.subjectMemberId ≠ item.memberId

/-- The items that are ready to be worked on. -/
def IsRunnable (host : Host) (inventory : SourceInventory) (graph : Option GraphSnapshot) (ownerBlockersPending : Bool)
    (item : NormalizedItem) : Prop :=
  ownerBlockersPending = false ∧ item.ambiguous = false ∧
    (∀ other ∈ inventory.items, other.memberId = item.memberId → other = item) ∧ GraphAllows host inventory graph item

section Runnable

variable {host : Host} {inventory : SourceInventory} {graph : Option GraphSnapshot} {pending : Bool} {item : NormalizedItem}

/-- A pass that gives each item its own blockers, seen at one item. -/
theorem exists_opaqueId_iff (hitem : item ∈ inventory.items) {p : NormalizedItem → Prop} :
    (∃ other ∈ inventory.items, p other ∧ item.opaqueId = other.opaqueId) ↔ p item := by
  constructor
  · rintro ⟨other, hother, hp, hid⟩
    rwa [SourceInventory.eq_of_opaqueId hitem hother hid]
  · intro hp
    exact ⟨item, hitem, hp, rfl⟩

theorem configuredSources_length (inventory : SourceInventory) :
    ¬ 1 < inventory.binding.configuredSources.length ↔ inventory.binding.configuredSources.length = 1 := by
  have := List.length_pos_iff.2 inventory.binding.nonempty
  omega

/-- The edges block the items of their subjects. -/
theorem exists_subject_iff (hitem : item ∈ inventory.items) {edges : List GraphEdge} :
    (∃ edge ∈ edges.map (·.pair), ∃ other ∈ inventory.byMember edge.1, item.opaqueId = other.opaqueId) ↔
      ∃ edge ∈ edges, edge.subjectMemberId = item.memberId := by
  constructor
  · rintro ⟨_, hedge, other, hother, hid⟩
    obtain ⟨edge, hmem, rfl⟩ := List.mem_map.1 hedge
    obtain ⟨hother, hsubject⟩ := SourceInventory.mem_byMember.1 hother
    obtain rfl := SourceInventory.eq_of_opaqueId hitem hother hid
    exact ⟨edge, hmem, hsubject.symm⟩
  · rintro ⟨edge, hedge, hsubject⟩
    exact ⟨edge.pair, List.mem_map_of_mem hedge, item, SourceInventory.mem_byMember.2 ⟨hitem, hsubject.symm⟩, rfl⟩

/-- The passes leave an item without blockers exactly when it is runnable. -/
theorem collectBlockers_eq_nil (hitem : item ∈ inventory.items) :
    (collectBlockers inventory host graph pending).1 item.opaqueId = [] ↔ IsRunnable host inventory graph pending item := by
  have hitems : inventory.items.foldl (blockItem inventory pending) .none item.opaqueId = [] ↔
      pending = false ∧ item.ambiguous = false ∧ ∀ other ∈ inventory.items, other.memberId = item.memberId → other = item := by
    rw [Blocks.foldl (fun other _ => blocks_blockItem inventory pending other) .none item.opaqueId]
    beta_reduce
    rw [exists_opaqueId_iff hitem, ← SourceInventory.byMember_length hitem]
    simp only [Blockers.none, true_and, not_or, Bool.not_eq_true]
    tauto
  have hall : ∀ reason blockers, ¬ blockAll inventory reason blockers item.opaqueId = [] := by
    intro reason blockers hnil
    exact ((blocks_blockAll inventory reason blockers item.opaqueId).1 hnil).2 ⟨item, hitem, rfl⟩
  unfold collectBlockers IsRunnable GraphAllows
  -- without a graph one configured source is needed, with one its binding
  cases graph with
  | none =>
    simp only [joinGraph, Option.any_none, Bool.false_eq_true, and_false, if_false]
    by_cases hmany : 1 < inventory.binding.configuredSources.length
    · simp only [hmany, if_true, List.foldl_nil, hall, false_iff]
      rw [← configuredSources_length]
      tauto
    · have hone := (configuredSources_length inventory).1 hmany
      rw [if_neg hmany]
      show inventory.items.foldl (blockItem inventory pending) .none item.opaqueId = [] ↔ _
      rw [hitems]
      tauto
  | some graph =>
    simp only [joinGraph]
    by_cases hbinding : graph.binding = some (inventory.binding.graphBinding host)
    · have hsome : ¬ graph.binding = none := by
        rw [hbinding]
        exact Option.some_ne_none _
      simp only [hbinding, not_true, ne_eq, if_false, Option.any_some, reduceCtorEq, decide_false, Bool.false_eq_true,
        and_false, true_and]
      rw [Blocks.foldl (fun edge _ => blocks_blockEdge inventory edge) _ item.opaqueId,
        Blocks.foldl (fun other _ => blocks_blockUnmatched graph other) _ item.opaqueId]
      beta_reduce
      rw [hitems, exists_opaqueId_iff hitem, exists_subject_iff hitem, not_not, graphMember?_eq_some]
      push Not
      tauto
    · simp only [ne_eq, hbinding, not_false_eq_true, if_true, List.foldl_nil, false_and, and_false, iff_false]
      split
      · exact hall _ _
      · exact hall _ _

theorem decisionOf_state {blockers : Blockers} {opaqueId : Digest} :
    (decisionOf blockers opaqueId).state = .runnable ↔ blockers opaqueId = [] := by
  unfold decisionOf
  split <;> simp [*]

theorem selectRunnableWork_decisions : (selectRunnableWork inventory host graph pending).decisions =
    (sortBy id (inventory.items.map (·.opaqueId))).map (decisionOf (collectBlockers inventory host graph pending).1) := rfl

theorem selectRunnableWork_runnableIds : (selectRunnableWork inventory host graph pending).runnableIds =
    sortBy id ((inventory.items.map (·.opaqueId)).filter fun opaqueId =>
      (collectBlockers inventory host graph pending).1 opaqueId = []) := rfl

theorem decision_state (hitem : item ∈ inventory.items) {d : SelectionDecision}
    (hd : d ∈ (selectRunnableWork inventory host graph pending).decisions) (hid : d.opaqueId = item.opaqueId) :
    d.state = .runnable ↔ IsRunnable host inventory graph pending item := by
  rw [selectRunnableWork_decisions] at hd
  obtain ⟨opaqueId, -, rfl⟩ := List.mem_map.1 hd
  obtain rfl : opaqueId = item.opaqueId := hid
  rw [← collectBlockers_eq_nil hitem]
  exact decisionOf_state

theorem mem_runnableIds (hitem : item ∈ inventory.items) :
    item.opaqueId ∈ (selectRunnableWork inventory host graph pending).runnableIds ↔
    IsRunnable host inventory graph pending item := by
  rw [← collectBlockers_eq_nil hitem, selectRunnableWork_runnableIds, mem_sortBy, List.mem_filter, decide_eq_true_eq]
  exact and_iff_right (List.mem_map_of_mem hitem)

theorem decisions_perm : ((selectRunnableWork inventory host graph pending).decisions.map (·.opaqueId)).Perm
    (inventory.items.map (·.opaqueId)) := by
  rw [selectRunnableWork_decisions, List.map_map]
  exact (List.map_id _).symm ▸ sortBy_perm id _

theorem runnableIds_eq : (selectRunnableWork inventory host graph pending).runnableIds =
    ((selectRunnableWork inventory host graph pending).decisions.filter (·.state = .runnable)).map (·.opaqueId) := by
  have hids := inventory.opaqueIds
  rw [selectRunnableWork_decisions, selectRunnableWork_runnableIds]
  generalize inventory.items.map (·.opaqueId) = ids at hids ⊢
  rw [List.filter_map, List.map_map]
  simp only [Function.comp_def, decisionOf_state]
  -- both lists are the sorted ids without blockers
  refine (eq_of_perm_of_keys (g := id) ?_ (sortBy_pairwise id _) ((sortBy_pairwise id _).filter _) ?_).trans (List.map_id _).symm
  · exact (sortBy_perm id _).trans ((sortBy_perm id _).symm.filter _)
  · rw [((sortBy_perm id _).map id).nodup_iff, List.map_id]
    exact hids.filter _

theorem IsRunnable.no_path {g : GraphSnapshot} (h : IsRunnable host inventory (some g) pending item) (memberId : Token) :
    ¬ Relation.TransGen (Edge (g.edges.map (·.pair))) item.memberId memberId := by
  obtain ⟨-, -, -, -, -, hsubject⟩ := h
  intro hpath
  obtain ⟨next, hedge, -⟩ := Relation.TransGen.head'_iff.1 hpath
  obtain ⟨edge, hedge, hpair⟩ := List.mem_map.1 hedge
  exact hsubject edge hedge (congrArg Prod.fst hpair)

end Runnable

/-! ## More edges and more ambiguity -/

/-- The graph with edges added. -/
structure GraphAdds (g g' : GraphSnapshot) : Prop where
  binding : g'.binding = g.binding
  members : g'.members = g.members
  edges : g.edges ⊆ g'.edges

/-- The inventory with ambiguity added: items are marked ambiguous, or other items come in, with member ids that are
taken too. -/
structure InventoryAdds (i i' : SourceInventory) : Prop where
  binding : i'.binding = i.binding
  items : ∀ item ∈ i.items, ∃ item' ∈ i'.items, item'.opaqueId = item.opaqueId ∧ item'.memberId = item.memberId ∧
    item'.contentDigest = item.contentDigest ∧ (item.ambiguous = true → item'.ambiguous = true)

theorem GraphAllows.of_adds {host : Host} {i i' : SourceInventory} {graph graph' : Option GraphSnapshot}
    {item item' : NormalizedItem} (hi : InventoryAdds i i') (hg : Option.Rel GraphAdds graph graph')
    (hmember : item'.memberId = item.memberId) (hcontent : item'.contentDigest = item.contentDigest)
    (h : GraphAllows host i' graph' item') : GraphAllows host i graph item := by
  cases hg with
  | none =>
    unfold GraphAllows at h ⊢
    rwa [hi.binding] at h
  | some hg =>
    obtain ⟨hbinding, hmatch, hsubject⟩ := h
    rw [hg.binding, hi.binding] at hbinding
    rw [hg.members, hmember, hcontent] at hmatch
    refine ⟨hbinding, hmatch, fun edge hedge => ?_⟩
    rw [← hmember]
    exact hsubject edge (hg.edges hedge)

theorem IsRunnable.of_adds {host : Host} {i i' : SourceInventory} {graph graph' : Option GraphSnapshot} {pending : Bool}
    {item item' : NormalizedItem} (hi : InventoryAdds i i') (hg : Option.Rel GraphAdds graph graph')
    (hitem : item ∈ i.items) (hitem' : item' ∈ i'.items) (hid : item'.opaqueId = item.opaqueId)
    (h : IsRunnable host i' graph' pending item') :
    IsRunnable host i graph pending item := by
  obtain ⟨hpending, hambiguous, hunique, hgraph⟩ := h
  obtain ⟨same, hsame, hsameId, hmember, hcontent, hmarked⟩ := hi.items item hitem
  obtain rfl := SourceInventory.eq_of_opaqueId hitem' hsame (hid.trans hsameId.symm)
  refine ⟨hpending, ?_, fun other hother hother' => ?_, hgraph.of_adds hi hg hmember hcontent⟩
  · by_contra hmark
    rw [hmarked (Bool.not_eq_false _ ▸ hmark)] at hambiguous
    cases hambiguous
  · -- the other item is in the larger inventory too, as the item itself
    obtain ⟨other', hmem, hid', hmember', -, -⟩ := hi.items other hother
    have hequal := hunique other' hmem (by rw [hmember', hother', hmember])
    exact SourceInventory.eq_of_opaqueId hother hitem (by rw [← hid', hequal, hid])

/-- The selection is exact: one decision for each item, runnable exactly when nothing blocks it, and the runnable ids
are those of the runnable decisions. So no path of the graph joins two runnable items, and more edges or more ambiguity
make no item runnable. -/
theorem select_runnable_work_exact (host : Host) (inventory : SourceInventory) (graph : Option GraphSnapshot) (pending : Bool) :
    let selection := selectRunnableWork inventory host graph pending
    (selection.decisions.map (·.opaqueId)).Perm (inventory.items.map (·.opaqueId)) ∧
    (∀ item ∈ inventory.items, ∀ d ∈ selection.decisions, d.opaqueId = item.opaqueId →
      (d.state = .runnable ↔ pending = false ∧ item.ambiguous = false ∧
        (∀ other ∈ inventory.items, other.memberId = item.memberId → other = item) ∧
        match graph with
        | none => inventory.binding.configuredSources.length = 1
        | some g =>
          g.binding = some (inventory.binding.graphBinding host) ∧
          (∃ m ∈ g.members, m.memberId = item.memberId ∧ m.member.contentDigest = item.contentDigest) ∧
          ∀ edge ∈ g.edges, edge.subjectMemberId ≠ item.memberId)) ∧
    selection.runnableIds = (selection.decisions.filter (·.state = .runnable)).map (·.opaqueId) ∧
    (∀ g, graph = some g → ∀ a ∈ inventory.items, ∀ b ∈ inventory.items, a.opaqueId ∈ selection.runnableIds →
      b.opaqueId ∈ selection.runnableIds → ¬ Relation.TransGen (Edge (g.edges.map (·.pair))) a.memberId b.memberId) ∧
    ∀ inventory' graph', InventoryAdds inventory inventory' → Option.Rel GraphAdds graph graph' →
      ∀ item ∈ inventory.items, item.opaqueId ∈ (selectRunnableWork inventory' host graph' pending).runnableIds →
        item.opaqueId ∈ selection.runnableIds := by
  intro selection
  refine ⟨decisions_perm, fun item hitem d hd hid => decision_state hitem hd hid, runnableIds_eq, ?_, ?_⟩
  · rintro g rfl a ha b - hrunnable -
    exact ((mem_runnableIds ha).1 hrunnable).no_path b.memberId
  · intro inventory' graph' hi hg item hitem hrunnable
    obtain ⟨item', hitem', hid, -⟩ := hi.items item hitem
    rw [← hid] at hrunnable
    exact (mem_runnableIds hitem).2 (((mem_runnableIds hitem').1 hrunnable).of_adds hi hg hitem hitem' hid)

end Roundwright.Source
