/-
Cycle detection by depth-first search over an edge list: the search with its `visiting` and
`visited` sets, and its specification. `hasCycle` answers exactly whether some node reaches itself
by one or more edges, so the answer does not depend on the order of the edges or of the search.

Soundness carries the path that `visiting` spells out; completeness carries that `visited` is
closed under edges, holds no node of a cycle, and never takes a node that is still being visited.
-/
import Mathlib.Logic.Relation
import Mathlib.Data.List.Nodup
import Mathlib.Data.List.Dedup
import Mathlib.Data.List.Chain
import Mathlib.Data.List.Perm.Subperm
import Mathlib.Tactic.Common

namespace Roundwright.Lib

open Relation

variable {α : Type}

/-! ## The search -/

/-- Visit nodes left to right until one reports a cycle. -/
def anyVisit (visit : α → List α → Bool × List α) : List α → List α → Bool × List α
  | [], visited => (false, visited)
  | node :: rest, visited =>
    match visit node visited with
    | (true, visited') => (true, visited')
    | (false, visited') => anyVisit visit rest visited'

/-- The edge relation. -/
def Edge (edges : List (α × α)) (a b : α) : Prop := (a, b) ∈ edges

/-- No node reaches itself by one or more edges. -/
def Acyclic (edges : List (α × α)) : Prop := ∀ x, ¬ TransGen (Edge edges) x x

variable [DecidableEq α]

/-- One visit: a node still being visited closes a cycle, a visited node is done, any other node is
visited through its successors. -/
def visit (next : α → List α) : Nat → List α → α → List α → Bool × List α
  | 0, _, _, visited => (true, visited)
  | fuel + 1, visiting, node, visited =>
    if node ∈ visiting then (true, visited)
    else if node ∈ visited then (false, visited)
    else
      let (result, visited') := anyVisit (visit next fuel (node :: visiting)) (next node) visited
      (result, node :: visited')

/-- The objects of the edges that leave a node. -/
def adjacent (edges : List (α × α)) (node : α) : List α :=
  (edges.filter fun e => e.1 = node).map (·.2)

/-- The endpoints of the edges. -/
def endpoints (edges : List (α × α)) : List α := (edges.flatMap fun e => [e.1, e.2]).dedup

/-- The whole search: nodes and successors are taken in whatever order they are given. -/
def search (next : α → List α) (nodes : List α) : Bool := (anyVisit (visit next (nodes.length + 1) []) nodes []).1

/-- Whether the edges contain a directed cycle. -/
def hasCycle (edges : List (α × α)) : Bool :=
  let nodes := endpoints edges
  (anyVisit (visit (adjacent edges) (nodes.length + 1) []) nodes []).1

variable {edges : List (α × α)}

theorem mem_adjacent {a b : α} : b ∈ adjacent edges a ↔ Edge edges a b := by
  simp [adjacent, Edge]

theorem mem_endpoints {x : α} : x ∈ endpoints edges ↔ ∃ e ∈ edges, x = e.1 ∨ x = e.2 := by
  simp [endpoints]

theorem endpoint_left {a b : α} (h : Edge edges a b) : a ∈ endpoints edges := mem_endpoints.2 ⟨(a, b), h, .inl rfl⟩

theorem endpoint_right {a b : α} (h : Edge edges a b) : b ∈ endpoints edges := mem_endpoints.2 ⟨(a, b), h, .inr rfl⟩

/-! ## A reported cycle is a cycle -/

section Sound

variable {edges : List (α × α)}

/-- `visiting` spells a path, newest node first, that ends in an edge to `node`. -/
def OnPath (edges : List (α × α)) (visiting : List α) (node : α) : Prop :=
  (node :: visiting).IsChain fun a b => Edge edges b a

omit [DecidableEq α] in
theorem onPath_reaches {visiting : List α} {node x : α} (h : OnPath edges visiting node) (hx : x ∈ visiting) :
    TransGen (Edge edges) x node := by
  induction visiting generalizing node with
  | nil => cases hx
  | cons y rest ih =>
    have hstep : Edge edges y node := (List.isChain_cons_cons.1 h).1
    rcases List.mem_cons.1 hx with rfl | hx
    · exact .single hstep
    · exact (ih (List.isChain_cons_cons.1 h).2 hx).tail hstep

omit [DecidableEq α] in
theorem anyVisit_true {f : α → List α → Bool × List α} :
    ∀ {nodes visited : List α}, (anyVisit f nodes visited).1 = true →
      ∃ node ∈ nodes, ∃ v, (f node v).1 = true
  | node :: rest, visited, h => by
    unfold anyVisit at h
    split at h
    · rename_i v hv; exact ⟨node, List.mem_cons_self .., visited, by rw [hv]⟩
    · obtain ⟨n, hn, v, hv⟩ := anyVisit_true h
      exact ⟨n, List.mem_cons_of_mem _ hn, v, hv⟩

/-- A visit that reports a cycle has found one; the fuel outlasts every path without repetition. -/
theorem visit_sound {next : α → List α} {nodes : List α} (hnext : ∀ {a b}, b ∈ next a ↔ Edge edges a b)
    (hnodes : ∀ {a b}, Edge edges a b → b ∈ nodes) : ∀ (fuel : Nat) (visiting : List α) (node : α) (visited : List α),
    OnPath edges visiting node → visiting.Nodup → (∀ x ∈ visiting, x ∈ nodes) → nodes.length + 1 ≤ fuel + visiting.length →
    node ∈ nodes → (visit next fuel visiting node visited).1 = true → ∃ x, TransGen (Edge edges) x x
  | 0, visiting, node, visited, _, hnd, hsub, hfuel, _, _ => by
    have := (List.subperm_of_subset hnd hsub).length_le
    omega
  | fuel + 1, visiting, node, visited, hp, hnd, hsub, hfuel, hnode, h => by
    unfold visit at h
    split at h
    · rename_i hv; exact ⟨node, onPath_reaches hp hv⟩
    · rename_i hv
      split at h
      · cases h
      · obtain ⟨n, hn, v, hv'⟩ := anyVisit_true h
        have hedge := hnext.1 hn
        refine visit_sound hnext hnodes fuel (node :: visiting) n v (.cons_cons hedge hp) (List.nodup_cons.2 ⟨hv, hnd⟩)
          ?_ (by simp only [List.length_cons]; omega) (hnodes hedge) hv'
        intro x hx
        rcases List.mem_cons.1 hx with rfl | hx
        · exact hnode
        · exact hsub x hx

theorem search_sound {next : α → List α} {nodes : List α} (hnext : ∀ {a b}, b ∈ next a ↔ Edge edges a b)
    (hnodes : ∀ {a b}, Edge edges a b → b ∈ nodes) (h : search next nodes = true) : ∃ x, TransGen (Edge edges) x x := by
  obtain ⟨n, hn, v, hv⟩ := anyVisit_true h
  exact visit_sound hnext hnodes _ [] n v (.singleton _) List.nodup_nil (by simp) (by simp) hn hv

end Sound

/-! ## No report, no cycle -/

section Complete

variable {edges : List (α × α)}

/-- A finished set: closed under edges, with no node of a cycle. -/
def Finished (edges : List (α × α)) (visited : List α) : Prop :=
  ∀ x ∈ visited, (∀ y, Edge edges x y → y ∈ visited) ∧ ¬ TransGen (Edge edges) x x

/-- What a visit that reports no cycle leaves behind. -/
structure VisitOK (edges : List (α × α)) (visiting nodes visited visited' : List α) : Prop where
  finished : Finished edges visited'
  grows : visited ⊆ visited'
  nodes : ∀ n ∈ nodes, n ∈ visited'
  apart : ∀ x ∈ visited', x ∈ visited ∨ x ∉ visiting

omit [DecidableEq α] in
theorem anyVisit_false {l : List α} {f : α → List α → Bool × List α}
    (hf : ∀ node v, Finished edges v → (f node v).1 = false → VisitOK edges l [node] v (f node v).2) :
    ∀ {nodes visited : List α}, Finished edges visited → (anyVisit f nodes visited).1 = false →
      VisitOK edges l nodes visited (anyVisit f nodes visited).2
  | [], visited, hfin, _ => ⟨hfin, fun _ h => h, by simp, fun _ h => .inl h⟩
  | node :: rest, visited, hfin, h => by
    unfold anyVisit at h ⊢
    split at h
    · cases h
    · rename_i v hv
      have h1 := hf node visited hfin (by rw [hv])
      rw [hv] at h1
      have h2 := anyVisit_false hf h1.finished h
      refine ⟨h2.finished, fun x hx => h2.grows (h1.grows hx), ?_, fun x hx => ?_⟩
      · intro n hn
        rcases List.mem_cons.1 hn with rfl | hn
        · exact h2.grows (h1.nodes n (List.mem_singleton.2 rfl))
        · exact h2.nodes n hn
      · rcases h2.apart x hx with hx | hx
        · exact h1.apart x hx
        · exact .inr hx

omit [DecidableEq α] in
theorem finished_reaches {visited : List α} (hf : Finished edges visited) {x y : α} (hx : x ∈ visited)
    (h : TransGen (Edge edges) x y) : y ∈ visited := by
  induction h with
  | single h => exact (hf x hx).1 _ h
  | tail _ h ih => exact (hf _ ih).1 _ h

omit [DecidableEq α] in
theorem finished_cons {visited : List α} {node : α} (hf : Finished edges visited)
    (hs : ∀ y, Edge edges node y → y ∈ visited) (hn : node ∉ visited) :
    Finished edges (node :: visited) := by
  intro x hx
  rcases List.mem_cons.1 hx with rfl | hx
  · refine ⟨fun y hy => List.mem_cons_of_mem _ (hs y hy), fun hc => hn ?_⟩
    obtain ⟨y, hxy, hyx⟩ := TransGen.head'_iff.1 hc
    rcases reflTransGen_iff_eq_or_transGen.1 hyx with rfl | hyx
    · exact hs _ hxy
    · exact finished_reaches hf (hs y hxy) hyx
  · exact ⟨fun y hy => List.mem_cons_of_mem _ ((hf x hx).1 y hy), (hf x hx).2⟩

theorem visit_complete {next : α → List α} (hnext : ∀ {a b}, b ∈ next a ↔ Edge edges a b) :
    ∀ (fuel : Nat) (visiting : List α) (node : α) (visited : List α),
    Finished edges visited → (visit next fuel visiting node visited).1 = false →
    VisitOK edges visiting [node] visited (visit next fuel visiting node visited).2
  | fuel + 1, visiting, node, visited, hfin, h => by
    unfold visit at h ⊢
    split at h
    · cases h
    · rename_i hvis
      rw [if_neg hvis]
      split at h
      · rename_i hin
        rw [if_pos hin]
        exact ⟨hfin, fun _ h => h, by simpa using hin, fun _ h => .inl h⟩
      · rename_i hin
        rw [if_neg hin]
        have hs := anyVisit_false (fun n v => visit_complete hnext fuel (node :: visiting) n v) hfin h
        have hnot : node ∉ (anyVisit (visit next fuel (node :: visiting)) (next node) visited).2 := fun hm => by
          rcases hs.apart node hm with h | h
          · exact hin h
          · exact h (List.mem_cons_self ..)
        refine ⟨finished_cons hs.finished (fun y hy => hs.nodes y (hnext.2 hy)) hnot,
          fun x hx => List.mem_cons_of_mem _ (hs.grows hx), by simp, fun x hx => ?_⟩
        rcases List.mem_cons.1 hx with rfl | hx
        · exact .inr hvis
        · rcases hs.apart x hx with h | h
          · exact .inl h
          · exact .inr fun hv => h (List.mem_cons_of_mem _ hv)

theorem search_complete {next : α → List α} {nodes : List α} (hnext : ∀ {a b}, b ∈ next a ↔ Edge edges a b)
    (hnodes : ∀ {a b}, Edge edges a b → a ∈ nodes) (h : search next nodes = false) : Acyclic edges := by
  have hok := anyVisit_false (l := []) (fun n v => visit_complete hnext _ [] n v)
    (by intro x hx; cases hx) h
  intro x hc
  obtain ⟨y, hxy, -⟩ := TransGen.head'_iff.1 hc
  exact (hok.finished x (hok.nodes x (hnodes hxy))).2 hc

end Complete

/-- Whatever the order in which nodes and successors are taken, the search reports a cycle exactly when there is one. -/
theorem search_eq_true {next : α → List α} {nodes : List α} (hnext : ∀ {a b}, b ∈ next a ↔ Edge edges a b)
    (hnodes : ∀ {a b}, Edge edges a b → a ∈ nodes ∧ b ∈ nodes) :
    search next nodes = true ↔ ∃ x, TransGen (Edge edges) x x := by
  refine ⟨search_sound hnext fun h => (hnodes h).2, fun ⟨x, hx⟩ => ?_⟩
  by_contra hc
  exact search_complete hnext (fun h => (hnodes h).1) (by simpa using hc) x hx

/-- The search reports no cycle exactly when the edges are acyclic. -/
theorem hasCycle_eq_false : hasCycle edges = false ↔ Acyclic edges := by
  have hsearch : hasCycle edges = true ↔ ∃ x, TransGen (Edge edges) x x :=
    search_eq_true mem_adjacent fun h => ⟨endpoint_left h, endpoint_right h⟩
  rw [← Bool.not_eq_true, hsearch, not_exists]
  exact Iff.rfl

omit [DecidableEq α] in
/-- Acyclicity depends on the set of edges only. -/
theorem acyclic_congr {edges edges' : List (α × α)} (h : ∀ e, e ∈ edges ↔ e ∈ edges') :
    Acyclic edges ↔ Acyclic edges' := by
  have : Edge edges = Edge edges' := by funext a b; exact propext (h (a, b))
  unfold Acyclic; rw [this]

example : hasCycle [(1, 2), (2, 3), (3, 1)] = true := by decide

example : hasCycle [(1, 2), (2, 3), (1, 3)] = false := by decide

end Roundwright.Lib
