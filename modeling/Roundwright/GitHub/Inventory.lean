/-
The evidence of a repository inventory. The nodes of the nested connections of a section are listed together: an
identity that occurs in one connection is kept, any other is put behind the number of its connection. What the provider
named is kept apart from what was made only as long as no name looks like one that was made.
-/
import Roundwright.GitHub.Contract
import Roundwright.Lib.Frames
import Roundwright.Lib.JsonText
import Roundwright.Lib.Scopes
import Std.Data.String.ToNat

namespace Roundwright.GitHub

open Lib Lib.JsonText

variable {F : Type} {host : Host}

/-- `RepositoryInventorySection` -/
inductive RepositoryInventorySection where
  | repository
  | issues
  | issueRelationships
  | issueLabels
  | pullRequests
  | comments
  | reviews
  | requestedReviewers
  | checks
  | workflowRuns
  | mergeability
  | closingReferences
  | remoteHeads
deriving DecidableEq

/-! ## What is read of a node -/

/-- `_raw_mapping` -/
def rawMapping (value : Value F) : Except Error (Value F) :=
  if value.isDict then .ok value else .error (.gitHubRuntime "gh response object is malformed")

/-- `_raw_text` -/
def rawText (mapping : Value F) (key : String) : Except Error String :=
  match mapping.get? key with
  | some (.str text) => .ok text
  | _ => .error (.gitHubRuntime "gh response field is malformed")

/-- `_raw_integer` -/
def rawInteger (mapping : Value F) (key : String) : Except Error Int :=
  match mapping.get? key with
  | some (.int n) => .ok n
  | _ => .error (.gitHubRuntime "gh response number is malformed")

/-- `_raw_id` -/
def rawId (mapping : Value F) (key : String) : Except Error String :=
  match mapping.get? key with
  | some (.str text) => .ok text
  | some (.int n) => .ok (toString n)
  | _ => .error (.gitHubRuntime "gh response identity is malformed")

/-- `_TOKEN` of the contract and `_INVENTORY_FACT_TOKEN`. -/
def isInventoryToken (text : String) : Bool :=
  headTail Char.isAlphanum (fun c => c.isAlphanum || c ∈ ['.', '_', ':', '-', '[', ']']) 255 text

/-- The identity of a label that is no token. -/
def labelIdentity (host : Host) (name : String) : String :=
  "label-" ++ (host.digestValue (.arr [.str "repository-inventory-label", .str name])).hex.text

/-- `_inventory_label_fact_value`, of a name that is well formed. -/
def labelFactValue (host : Host) (name : String) : String := if isInventoryToken name then name else labelIdentity host name

/-- The name of a label. -/
def labelName (node : Value F) : Except Error String :=
  match node.get? "name" with
  | some (.str name) =>
    if name = "" ∨ 512 < name.length ∨ '\x00' ∈ name.toList ∨ '\x7f' ∈ name.toList then
      .error (.gitHubRuntime "inventory label is malformed")
    else .ok name
  | _ => .error (.gitHubRuntime "inventory label is malformed")

/-- What the provider calls a node: the name of a label or a head, the number of an issue, or the id. -/
def nodeIdentity (kind : RepositoryInventorySection) (node : Value F) : Except Error String := do
  let value ← rawMapping node
  match kind with
  | .issueLabels => labelName value
  | .issueRelationships | .closingReferences => toString <$> rawInteger value "number"
  | .remoteHeads => rawText value "name"
  | _ => rawId value "id"

/-- `_inventory_section_identity` -/
def sectionIdentity (host : Host) (kind : RepositoryInventorySection) (node : Value F) : Except Error String :=
  match kind with
  | .issueLabels => labelFactValue host <$> nodeIdentity .issueLabels node
  | other => nodeIdentity other node

/-! ## The evidence of a section -/

/-- An identity that occurs in several connections. -/
def connectionIdentity (index : Nat) (identity : String) : String := "connection-" ++ toString index ++ "-" ++ identity

/-- The identities of a section of several connections. -/
def scopedIdentities (host : Host) (kind : RepositoryInventorySection) (connections : List (List (Value F))) :
    Except Error (List String) := do
  let identities ← connections.mapM fun nodes => nodes.mapM (sectionIdentity host kind)
  return inScopes connectionIdentity (numbered identities)

/-- `RepositoryInventoryEvidence`, of any section but the remote heads. -/
structure RepositoryInventoryEvidence where
  kind : RepositoryInventorySection
  evidenceIdentity : Digest
  itemIdentities : List String
  pageCount : Nat
  admissible : ∀ i ∈ itemIdentities, isInventoryToken i = true
  sorted : itemIdentities.Pairwise (· < ·)
  pages : 1 ≤ pageCount ∧ pageCount ≤ 3200
  count : itemIdentities.length ≤ 3200

/-- The end of the loop over the sections: the identities are sorted, and none may come twice. -/
def inventoryEvidence (kind : RepositoryInventorySection) (evidenceIdentity : Digest) (identities : List String) (pageCount : Nat) :
    Except Error RepositoryInventoryEvidence :=
  let items := sortBy id identities
  if items.Nodup then
    if h : (∀ i ∈ items, isInventoryToken i = true) ∧ items.Pairwise (· < ·) ∧ (1 ≤ pageCount ∧ pageCount ≤ 3200) ∧
      items.length ≤ 3200 then
      .ok ⟨kind, evidenceIdentity, items, pageCount, h.1, h.2.1, h.2.2.1, h.2.2.2⟩
    else .error (.gitHubContract "inventory collection is incomplete or invalid")
  else .error (.gitHubRuntime "inventory collection has duplicate evidence")

/-! ## Identities that are apart -/

section Identities

theorem connectionIdentity_injective (i : Nat) (a : String) (j : Nat) (b : String)
    (h : connectionIdentity i a = connectionIdentity j b) :
    i = j ∧ a = b := by
  have hdigits : ∀ n : Nat, '-' ∉ Nat.toDigits 10 n := by
    intro n hmem
    exact absurd (Nat.isDigit_of_mem_toDigits (by omega) (by omega) hmem) (by decide)
  have htexts := congrArg String.toList h
  simp only [connectionIdentity, String.toList_append, List.append_assoc, Nat.toString_eq_repr, Nat.toList_repr] at htexts
  obtain ⟨hindex, hidentity⟩ := append_sep_inj (hdigits i) (hdigits j) (List.append_cancel_left htexts)
  refine ⟨Nat.repr_injective (String.toList_injective ?_), String.toList_injective hidentity⟩
  rw [Nat.toList_repr, Nat.toList_repr, hindex]

/-- The identities of the section are distinct, and each is one that an item may have. -/
def Admitted (host : Host) (kind : RepositoryInventorySection) (connections : List (List (Value F))) : Prop :=
  ∃ identities, scopedIdentities host kind connections = .ok identities ∧ identities.Nodup ∧
    ∀ i ∈ identities, isInventoryToken i = true

variable {kind : RepositoryInventorySection} {connections : List (List (Value F))} {names : List (List String)}

/-- What is listed for a node with this name. -/
def listedAs (host : Host) (kind : RepositoryInventorySection) (name : String) : String :=
  if kind = .issueLabels then labelFactValue host name else name

theorem sectionIdentity_eq (node : Value F) : sectionIdentity host kind node = listedAs host kind <$> nodeIdentity kind node := by
  unfold sectionIdentity listedAs
  cases kind <;> simp

/-- The names that the provider gave to the nodes. -/
def Named (kind : RepositoryInventorySection) (connections : List (List (Value F))) (names : List (List String)) : Prop :=
  connections.mapM (fun nodes => nodes.mapM (nodeIdentity kind)) = .ok names

theorem mapM_map_eq {α β γ : Type} (f : α → Except Error β) (g : β → γ) (l : List α) :
    (l.mapM fun a => g <$> f a) = List.map g <$> l.mapM f := by
  induction l with
  | nil => rfl
  | cons a l ih => simp [List.mapM_cons, ih, Functor.map_map]

theorem scopedIdentities_eq (h : Named kind connections names) :
    scopedIdentities host kind connections =
    .ok (inScopes connectionIdentity (numbered (names.map (·.map (listedAs host kind))))) := by
  have hlisted : (connections.mapM fun nodes => nodes.mapM (sectionIdentity host kind)) =
    .ok (names.map (·.map (listedAs host kind))) := by
    have heq : (fun nodes : List (Value F) => nodes.mapM (sectionIdentity host kind)) =
        fun nodes => List.map (listedAs host kind) <$> nodes.mapM (nodeIdentity kind) := by
      funext nodes
      rw [← mapM_map_eq]
      congr 1
      funext node
      exact sectionIdentity_eq node
    rw [heq, mapM_map_eq, show connections.mapM (fun nodes => nodes.mapM (nodeIdentity kind)) = .ok names from h]
    rfl
  rw [scopedIdentities, hlisted]
  rfl

/-- No label bears the name that is made for another label of the same connection. -/
def Unforged (host : Host) (kind : RepositoryInventorySection) (names : List (List String)) : Prop :=
  kind = .issueLabels → ∀ labels ∈ names, ∀ a ∈ labels, ∀ b ∈ labels,
    isInventoryToken a = true → isInventoryToken b = false → a ≠ labelIdentity host b

/-- The names as they are listed, under the numbers of their connections. -/
def listed (host : Host) (kind : RepositoryInventorySection) (names : List (List String)) : List (Nat × String) :=
  numbered (names.map (·.map (listedAs host kind)))

/-- What occurs once is a token; what occurs more than once has the characters of one, and leaves room for
`connection-`, the number and `-` before it. -/
def Short (listed : List (Nat × String)) : Prop :=
  ∀ n ∈ listed, if occurrences listed n.2 = 1 then isInventoryToken n.2 = true else
    (n.2.toList.all fun c => c.isAlphanum || c ∈ ['.', '_', ':', '-', '[', ']']) = true ∧ n.2.length + (toString n.1).length ≤ 244

theorem isInventoryToken_connectionIdentity {index : Nat} {identity : String} : isInventoryToken
    (connectionIdentity index identity) = true ↔
    (identity.toList.all fun c => c.isAlphanum || c ∈ ['.', '_', ':', '-', '[', ']']) = true ∧
      identity.length + (toString index).length ≤ 244 := by
  have hdigits : ((toString index).toList.all fun c => c.isAlphanum || c ∈ ['.', '_', ':', '-', '[', ']']) = true := by
    refine List.all_eq_true.2 fun c hc => ?_
    rw [Nat.toString_eq_repr, Nat.toList_repr] at hc
    have hdigit : c.isDigit = true := Nat.isDigit_of_mem_toDigits (by omega) (by omega) hc
    simp [Char.isAlphanum, hdigit]
  have htext : (connectionIdentity index identity).toList =
      'c' :: ("onnection-".toList ++ (toString index).toList ++ "-".toList ++ identity.toList) := by
    simp [connectionIdentity]
  have hprefix : ("onnection-".toList.all fun c => c.isAlphanum || c ∈ ['.', '_', ':', '-', '[', ']']) = true ∧
      ("-".toList.all fun c => c.isAlphanum || c ∈ ['.', '_', ':', '-', '[', ']']) = true := by decide
  unfold isInventoryToken headTail
  simp only [htext, List.all_append, hdigits, hprefix.1, hprefix.2, Bool.and_eq_true, decide_eq_true_eq,
    List.length_append, Bool.true_and, String.length_toList]
  have hlengths : "onnection-".length = 10 ∧ "-".length = 1 := by decide
  rw [hlengths.1, hlengths.2]
  have hhead : 'c'.isAlphanum = true := by decide
  constructor
  · rintro ⟨⟨-, hall⟩, hlength⟩
    exact ⟨hall, by omega⟩
  · rintro ⟨hall, hlength⟩
    exact ⟨⟨hhead, hall⟩, by omega⟩

theorem label_distinct_iff {labels : List String} (hnames : labels.Nodup)
    (hhash : Set.InjOn (labelIdentity host) {name | name ∈ labels}) :
    (labels.map (labelFactValue host)).Nodup ↔
      ∀ a ∈ labels, ∀ b ∈ labels, isInventoryToken a = true → isInventoryToken b = false → a ≠ labelIdentity host b := by
  rw [List.nodup_map_iff_inj_on hnames]
  constructor
  · intro hinj a ha b hb htoken hnone heq
    have hkept : labelFactValue host a = a := if_pos htoken
    have hmade : labelFactValue host b = labelIdentity host b := if_neg (by simp [hnone])
    have hsame := hinj a ha b hb (by rw [hkept, hmade, heq])
    rw [hsame, hnone] at htoken
    cases htoken
  · intro hforged a ha b hb heq
    unfold labelFactValue at heq
    by_cases htoken : isInventoryToken a = true <;> by_cases htoken' : isInventoryToken b = true
    · rwa [if_pos htoken, if_pos htoken'] at heq
    · rw [if_pos htoken, if_neg htoken'] at heq
      exact absurd heq (hforged a ha b hb htoken (Bool.not_eq_true _ ▸ htoken'))
    · rw [if_neg htoken, if_pos htoken'] at heq
      exact absurd heq.symm (hforged b hb a ha htoken' (Bool.not_eq_true _ ▸ htoken))
    · rw [if_neg htoken, if_neg htoken'] at heq
      exact hhash ha hb heq

theorem listed_distinct_iff (hnames : ∀ l ∈ names, l.Nodup)
    (hhash : kind = .issueLabels → ∀ labels ∈ names, Set.InjOn (labelIdentity host) {name | name ∈ labels}) :
    (listed host kind names).Nodup ↔ Unforged host kind names := by
  unfold listed Unforged
  rw [numbered_nodup_iff, List.forall_mem_map]
  by_cases hkind : kind = .issueLabels
  · have hlisted : listedAs host kind = labelFactValue host := by
      funext name
      exact if_pos hkind
    simp only [hkind, forall_const]
    rw [← hkind, hlisted]
    exact forall₂_congr fun labels hlabels => label_distinct_iff (hnames labels hlabels) (hhash hkind labels hlabels)
  · have hlisted : listedAs host kind = id := by
      funext name
      exact if_neg hkind
    simp only [hlisted, List.map_id, hkind, false_implies, iff_true]
    exact hnames

/-- The exact condition under which the identities of a section are admitted. -/
theorem admitted_iff (h : Named kind connections names) (hnames : ∀ l ∈ names, l.Nodup)
    (hhash : kind = .issueLabels → ∀ labels ∈ names, Set.InjOn (labelIdentity host) {name | name ∈ labels}) :
    Admitted host kind connections ↔
      Unforged host kind names ∧ Apart connectionIdentity (listed host kind names) ∧ Short (listed host kind names) := by
  unfold Admitted
  rw [scopedIdentities_eq h]
  simp only [Except.ok.injEq, exists_eq_left']
  rw [← listed, inScopes_nodup_iff connectionIdentity_injective, listed_distinct_iff hnames hhash, and_assoc]
  refine and_congr_right fun _ => and_congr_right fun _ => ?_
  unfold inScopes Short
  rw [List.forall_mem_map]
  refine forall₂_congr fun n _ => ?_
  split
  · rfl
  · exact isInventoryToken_connectionIdentity

theorem inventoryEvidence_ok_iff {evidenceIdentity : Digest} {identities : List String} {pageCount : Nat}
    (hpages : 1 ≤ pageCount ∧ pageCount ≤ 3200) (hcount : identities.length ≤ 3200) :
    (∃ e, inventoryEvidence kind evidenceIdentity identities pageCount = .ok e) ↔
      identities.Nodup ∧ ∀ i ∈ identities, isInventoryToken i = true := by
  have hdistinct : (sortBy id identities).Nodup ↔ identities.Nodup := (sortBy_perm id identities).nodup_iff
  have hlength : (sortBy id identities).length ≤ 3200 := by rwa [(sortBy_perm id identities).length_eq]
  unfold inventoryEvidence
  simp only [hdistinct, mem_sortBy]
  by_cases hnodup : identities.Nodup
  · have hsorted : (sortBy id identities).Pairwise (· < ·) := sortBy_strict (by simpa using hnodup)
    by_cases htokens : ∀ i ∈ identities, isInventoryToken i = true
    · rw [if_pos hnodup, dif_pos ⟨htokens, hsorted, hpages, hlength⟩]
      exact ⟨fun _ => ⟨hnodup, htokens⟩, fun _ => ⟨_, rfl⟩⟩
    · rw [if_pos hnodup, dif_neg fun h => htokens h.1]
      exact ⟨(by rintro ⟨e, he⟩; cases he), fun h => absurd h.2 htokens⟩
  · rw [if_neg hnodup]
    exact ⟨(by rintro ⟨e, he⟩; cases he), fun h => absurd h.1 hnodup⟩

end Identities

/-- The identities of a section of several connections are distinct tokens, so that its evidence is built, exactly when
no label bears a name that is made, no identity of one connection looks like one that was put behind its connection, and
all that are listed are short. -/
theorem scoped_evidence_exact {kind : RepositoryInventorySection} {connections : List (List (Value F))}
    {names : List (List String)} (h : Named kind connections names) (hnames : ∀ l ∈ names, l.Nodup)
    (hhash : kind = .issueLabels → ∀ labels ∈ names, Set.InjOn (labelIdentity host) {name | name ∈ labels}) :
    (Admitted host kind connections ↔
      Unforged host kind names ∧ Apart connectionIdentity (listed host kind names) ∧ Short (listed host kind names)) ∧
    ∃ identities, scopedIdentities host kind connections = .ok identities ∧
      ∀ (evidenceIdentity : Digest) (pageCount : Nat), 1 ≤ pageCount ∧ pageCount ≤ 3200 → identities.length ≤ 3200 →
        ((∃ e, inventoryEvidence kind evidenceIdentity identities pageCount = .ok e) ↔ Admitted host kind connections) := by
  refine ⟨admitted_iff h hnames hhash, _, scopedIdentities_eq h, fun evidenceIdentity pageCount hpages hcount => ?_⟩
  rw [inventoryEvidence_ok_iff hpages hcount, Admitted, scopedIdentities_eq h]
  simp only [Except.ok.injEq, exists_eq_left']

/-! ## Labels of two issues -/

namespace InventorySample

def label (name : String) : Value Empty := .obj [("name", .str name)]

/-- Both issues bear one label, and one of them bears another that is no token. -/
def shared : List (List (Value Empty)) := [[label "bug", label "good first issue"], [label "bug"]]

/-- One of the issues bears a label that is named like the other one's. -/
def forged : List (List (Value Empty)) := [[label "bug"], [label "bug", label "connection-1-bug"]]

def sharedNames : List (List String) := [["bug", "good first issue"], ["bug"]]

def forgedNames : List (List String) := [["bug"], ["bug", "connection-1-bug"]]

end InventorySample

open InventorySample in
/-- A label that two issues bear and one that is no token are told apart. -/
theorem scoped_evidence_exact_shared : Admitted .sample .issueLabels shared := by
  have hnamed : Named .issueLabels shared sharedNames := rfl
  have hdigests : ∀ labels ∈ sharedNames, (labels.map (labelIdentity .sample)).Nodup := by
    decide +kernel
  have hhash : ∀ labels ∈ sharedNames, Set.InjOn (labelIdentity .sample) {name | name ∈ labels} :=
    fun labels hlabels a ha b hb heq => List.inj_on_of_nodup_map (hdigests labels hlabels) ha hb heq
  have hunforged : ∀ labels ∈ sharedNames, ∀ a ∈ labels, ∀ b ∈ labels,
      isInventoryToken a = true → isInventoryToken b = false → a ≠ labelIdentity .sample b := by
    decide +kernel
  have hapart : Apart connectionIdentity (listed .sample .issueLabels sharedNames) := by
    unfold Apart
    decide +kernel
  have hshort : Short (listed .sample .issueLabels sharedNames) := by
    unfold Short
    decide +kernel
  exact (scoped_evidence_exact hnamed (by decide) fun _ => hhash).1.2 ⟨fun _ => hunforged, hapart, hshort⟩

open InventorySample in
/-- One issue has a label that another one bears too, and a label that is named like it behind the number of the other
issue. -/
theorem forged_label_refused : ∃ identities, Named .issueLabels forged forgedNames ∧ (∀ l ∈ forgedNames, l.Nodup) ∧
    scopedIdentities .sample .issueLabels forged = .ok identities ∧ ¬ Admitted .sample .issueLabels forged ∧
    ∀ evidenceIdentity pageCount, inventoryEvidence .issueLabels evidenceIdentity identities pageCount =
      .error (.gitHubRuntime "inventory collection has duplicate evidence") := by
  have hnamed : Named .issueLabels forged forgedNames := rfl
  have hscoped : scopedIdentities .sample .issueLabels forged =
    .ok ["connection-1-bug", "connection-2-bug", "connection-1-bug"] := by
    rw [scopedIdentities_eq hnamed]
    exact congrArg Except.ok (by decide +kernel)
  refine ⟨_, hnamed, by decide, hscoped, ?_, fun evidenceIdentity pageCount => ?_⟩
  · rintro ⟨identities, hidentities, hnodup, -⟩
    obtain rfl := Except.ok.inj (hscoped.symm.trans hidentities)
    exact absurd hnodup (by decide)
  · unfold inventoryEvidence
    rw [if_neg]
    rw [(sortBy_perm _ _).nodup_iff]
    decide

end Roundwright.GitHub
