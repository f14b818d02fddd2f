/-
What the guidance of a role is, for every tree and every task path. The parents of a task are walked from the deepest up
while the selection demands the paths from the root down, so the order holds only where at most one of them is below the
root.
-/
import Roundwright.Role.Guidance

namespace Roundwright.Role

open Lib

-- What is said of some or of all characters of a text is decided on its list.
attribute [local instance (2000)] List.decidableBEx List.decidableBAll

/-! ## Bytes -/

theorem utf8_injective : Function.Injective utf8 := by
  intro a b h
  refine String.toByteArray_inj.1 (ByteArray.ext ?_)
  exact Array.toList_inj.1 h

theorem utf8_eq (text : String) : utf8 text = text.toList.flatMap String.utf8EncodeChar := by
  unfold utf8
  rw [← String.utf8Encode_toList, List.utf8Encode]
  exact congrArg Array.toList (List.data_toByteArray)

/-- Only the null character is encoded with a null byte. -/
theorem zero_notMem_encode {c : Char} (h : c.toNat ≠ 0) : 0 ∉ String.utf8EncodeChar c := by
  have hbyte : ∀ n : Nat, 0 < n → n < 256 → (0 : UInt8) ≠ .ofNat n := by
    intro n hpos hlt heq
    have hval := congrArg UInt8.toNat heq
    rw [UInt8.toNat_ofNat_of_lt' (by simpa using hlt)] at hval
    simp at hval
    omega
  have hrange : c.val.toNat = c.toNat := rfl
  unfold String.utf8EncodeChar
  dsimp only
  split
  · rw [List.mem_singleton]
    exact hbyte _ (by omega) (by omega)
  · split
    · simp only [List.mem_cons, List.not_mem_nil, or_false, not_or]
      exact ⟨hbyte _ (by omega) (by omega), hbyte _ (by omega) (by omega)⟩
    · split
      · simp only [List.mem_cons, List.not_mem_nil, or_false, not_or]
        exact ⟨hbyte _ (by omega) (by omega), hbyte _ (by omega) (by omega), hbyte _ (by omega) (by omega)⟩
      · simp only [List.mem_cons, List.not_mem_nil, or_false, not_or]
        exact ⟨hbyte _ (by omega) (by omega), hbyte _ (by omega) (by omega), hbyte _ (by omega) (by omega),
          hbyte _ (by omega) (by omega)⟩

theorem zero_notMem_utf8 {text : String} (h : ∀ c ∈ text.toList, c.toNat ≠ 0) : 0 ∉ utf8 text := by
  rw [utf8_eq, List.mem_flatMap]
  rintro ⟨c, hc, hmem⟩
  exact zero_notMem_encode (h c hc) hmem

theorem mem_decimal {n : Nat} {c : Char} (h : c ∈ JsonText.decimal n) : ∃ d < 10, c = JsonText.decimalChar d := by
  unfold JsonText.decimal at h
  split at h
  · exact ⟨0, by decide, List.mem_singleton.1 h⟩
  · obtain ⟨d, hd, rfl⟩ := List.mem_map.1 h
    exact ⟨d, Nat.digits_lt_base (by decide) (List.mem_reverse.1 hd), rfl⟩

theorem digit_byte : ∀ d < 10, (JsonText.decimalChar d).toNat.toUInt8 ≠ 0 ∧
    ∀ e < 10, (JsonText.decimalChar d).toNat.toUInt8 = (JsonText.decimalChar e).toNat.toUInt8 → d = e := by
  decide

theorem asciiDecimal_injective : Function.Injective asciiDecimal := by
  intro a b h
  have hdigits : ∀ l l' : List Char, (∀ c ∈ l, ∃ d < 10, c = JsonText.decimalChar d) →
    (∀ c ∈ l', ∃ d < 10, c = JsonText.decimalChar d) →
      l.map (fun c => c.toNat.toUInt8) = l'.map (fun c => c.toNat.toUInt8) → l = l' := by
    intro l
    induction l with
    | nil =>
      intro l' _ _ hmap
      exact (List.map_eq_nil_iff.1 hmap.symm).symm
    | cons c l ih =>
      rintro (_ | ⟨c', l'⟩) hl hl' hmap
      · cases hmap
      · rw [List.forall_mem_cons] at hl hl'
        obtain ⟨⟨d, hd, rfl⟩, hl⟩ := hl
        obtain ⟨⟨e, he, rfl⟩, hl'⟩ := hl'
        obtain ⟨hbyte, hrest⟩ := List.cons.inj hmap
        rw [(digit_byte d hd).2 e he hbyte, ih l' hl hl' hrest]
  have hdecimal := hdigits _ _ (fun _ => mem_decimal) (fun _ => mem_decimal) h
  rw [← JsonText.decimalValue_decimal a, hdecimal, JsonText.decimalValue_decimal]

theorem zero_notMem_asciiDecimal (n : Nat) : 0 ∉ asciiDecimal n := by
  intro h
  obtain ⟨c, hc, hzero⟩ := List.mem_map.1 h
  obtain ⟨d, hd, rfl⟩ := mem_decimal hc
  exact (digit_byte d hd).1 hzero

/-! ## Paths -/

variable {host : GuidanceHost} {parts : List Part} {value relative : String}

/-- The name of a guidance file is a part. -/
theorem isPart_agents : IsPart host.toUnicode agents := by
  have hascii : isAscii agents := by
    unfold isAscii
    decide
  have hstem : isAscii "AGENTS".toList := by
    unfold isAscii
    decide
  have hname : (agents.takeWhile (· ≠ '.')).rdropWhile (fun c => c = '.' ∨ c = ' ') = "AGENTS".toList := by decide +kernel
  refine ⟨by decide, by decide, by decide, partAllowed_iff.2 ⟨host.nfkc_ascii _ hascii, ?_⟩⟩
  unfold stem
  rw [host.nfkc_ascii _ hascii, hname, host.casefold_ascii _ hstem]
  decide +kernel

/-- Below the first part, every part adds a slash. -/
theorem count_slash (hslash : ∀ part ∈ parts, '/' ∉ part) : (['/'].intercalate parts).count '/' = parts.length - 1 := by
  have hcount : ∀ (parts : List Part) (part : Part), (∀ p ∈ part :: parts, '/' ∉ p) →
      (['/'].intercalate (part :: parts)).count '/' = parts.length := by
    intro parts
    induction parts with
    | nil =>
      intro part hslash
      rw [List.intercalate_singleton, List.count_eq_zero_of_not_mem (hslash part List.mem_cons_self)]
      rfl
    | cons next parts ih =>
      intro part hslash
      rw [List.forall_mem_cons] at hslash
      rw [List.intercalate_cons_cons, List.count_append, List.count_append, List.count_eq_zero_of_not_mem hslash.1,
        ih next hslash.2, List.length_cons, List.count_singleton_self]
      omega
  cases parts with
  | nil => rfl
  | cons part parts => exact hcount parts part hslash

/-! ## The order of a selection -/

theorem length_le_one_iff {α : Type} {l : List α} : l.length ≤ 1 ↔ l.Pairwise fun _ _ => False := by
  cases l with
  | nil => simp
  | cons a rest =>
    cases rest with
    | nil => simp
    | cons b rest =>
      refine iff_of_false ?_ fun h => (List.pairwise_cons.1 h).1 b List.mem_cons_self
      rw [List.length_cons, List.length_cons]
      omega

theorem pathKey_injective : Function.Injective pathKey := by
  intro a b h
  exact congrArg (fun key => (ofLex key).2) h

/-- Nothing else is in the order of the constructor. -/
theorem sorted_iff {l : List String} : sortBy pathKey l.dedup = l ↔ l.Pairwise fun a b => pathKey a < pathKey b := by
  constructor
  · intro h
    have hnodup : (l.dedup.map pathKey).Nodup := l.nodup_dedup.map pathKey_injective
    have hstrict := sortBy_strict hnodup
    rwa [h] at hstrict
  · intro h
    have hnodup : l.Nodup := h.imp fun hlt heq => absurd (congrArg pathKey heq) (ne_of_lt hlt)
    rw [hnodup.dedup]
    exact sortBy_eq_self (h.imp le_of_lt)

theorem TrustedGuidance.check_ok {g : TrustedGuidance} : g.check host = .ok () ↔
    g.selectedPaths ≠ [] ∧ g.selectedPaths.Pairwise (fun a b => pathKey a < pathKey b) ∧
      ∀ path ∈ g.selectedPaths, ∃ relative, relativePath host.toUnicode path = .ok relative := by
  have hpath : ∀ path, ((relativePath host.toUnicode path).map fun _ => ()) = .ok () ↔
    ∃ relative, relativePath host.toUnicode path = .ok relative := by
    intro path
    cases hresult : relativePath host.toUnicode path with
    | error e => simp [Except.map]
    | ok relative => simp [Except.map]
  unfold TrustedGuidance.check
  rw [bind_eq_ok, exists_unit, refuse_eq_ok, checkAll_eq_ok, not_or, not_not, sorted_iff, and_assoc]
  simp only [hpath]

/-! ## The chain -/

/-- The directories from the root to the directory of the task. -/
def GuidanceCall.chain (call : GuidanceCall) : List (List Part) := (posixParts call.taskRelativePath).dropLast.inits

/-- The file of that name in a directory. -/
def GuidanceCall.file (call : GuidanceCall) (directory : List Part) : Option (String × Bytes) :=
  match (call.repository.treeOf call.expectation.trustedRevision).find? (directory ++ [agents]) with
  | some (.blob content) => some (asPosix (directory ++ [agents]), content)
  | _ => none

/-- The guidance files of the chain, from the root to the task. -/
def GuidanceCall.files (call : GuidanceCall) : List (String × Bytes) := call.chain.filterMap call.file

/-- What the walk over the parents finds. -/
def GuidanceCall.material (call : GuidanceCall) : List (String × Bytes) := (parents call.taskRelativePath).filterMap call.read

/-- Where there is a guidance file, the files of the chain are selected in their order, and no other selection has their
bytes. -/
def GuidanceCall.Guides (host : GuidanceHost) (call : GuidanceCall) : Prop :=
  call.files ≠ [] → ∃ guidance, resolveAuthoritativeGuidance host call = .ok guidance ∧
    guidance.selectedPaths = call.files.map (·.1) ∧ guidance.acceptedMainGuidanceBytes = acceptedBytes call.files ∧
    ∀ (other : GuidanceCall) (guidance' : TrustedGuidance), resolveAuthoritativeGuidance host other = .ok guidance' →
      guidance'.acceptedMainGuidanceBytes = guidance.acceptedMainGuidanceBytes → other.material = call.files

variable {call : GuidanceCall} {directory : List Part} {found : String × Bytes}

theorem fst_of_read (h : call.read directory = some found) : found.1 = asPosix (directory ++ [agents]) := by
  unfold GuidanceCall.read readGuidance at h
  obtain ⟨object, _, h⟩ := Option.bind_eq_some_iff.1 h
  obtain ⟨content, _, rfl⟩ := Option.map_eq_some_iff.1 h
  rfl

theorem fst_of_file (h : call.file directory = some found) : found.1 = asPosix (directory ++ [agents]) := by
  unfold GuidanceCall.file at h
  split at h
  · rw [← Option.some.inj h]
  · cases h

theorem read_of_file (h : call.file directory = some found) : call.read directory = some found := by
  unfold GuidanceCall.file at h
  split at h
  · rename_i content hfind
    unfold GuidanceCall.read readGuidance
    rw [hfind, ← Option.some.inj h]
    rfl
  · cases h

/-- The walk over the parents goes the other way. -/
theorem ancestors_eq (above : List Part) : ancestors above = above.reverse.inits.tail.reverse := by
  induction above with
  | nil => rfl
  | cons part above ih =>
    obtain ⟨rest, hrest⟩ : ∃ rest, above.reverse.inits = [] :: rest := by
      cases above.reverse with
      | nil => exact ⟨[], rfl⟩
      | cons p l => exact ⟨_, List.inits_cons p l⟩
    have hinits : (above.reverse ++ [part]).inits = above.reverse.inits ++ [above.reverse ++ [part]] := by
      rw [List.inits_append]
      rfl
    show (part :: above).reverse :: ancestors above = _
    rw [ih, List.reverse_cons, hinits, hrest, List.cons_append, List.tail_cons, List.tail_cons, List.reverse_append]
    rfl

theorem chain_eq (call : GuidanceCall) : call.chain = [] :: call.chain.tail := by
  unfold GuidanceCall.chain
  cases (posixParts call.taskRelativePath).dropLast with
  | nil => rfl
  | cons p l => rw [List.inits_cons, List.tail_cons]

theorem parents_eq (call : GuidanceCall) : parents call.taskRelativePath = [] :: call.chain.tail.reverse := by
  unfold parents GuidanceCall.chain
  rw [ancestors_eq, List.reverse_reverse]

theorem mem_parents : directory ∈ parents call.taskRelativePath ↔ directory ∈ call.chain := by
  rw [parents_eq, chain_eq, List.mem_cons, List.mem_reverse, List.mem_cons, List.tail_cons]

theorem chain_pairwise (call : GuidanceCall) : call.chain.Pairwise fun a b => a.length < b.length := by
  have hinits : ∀ l : List Part, l.inits.Pairwise fun a b => a.length < b.length := by
    intro l
    induction l with
    | nil => exact List.pairwise_singleton _ _
    | cons p l ih =>
      rw [List.inits_cons, List.pairwise_cons]
      refine ⟨fun d hd => ?_, List.pairwise_map.2 (ih.imp fun h => Nat.succ_lt_succ h)⟩
      obtain ⟨d', _, rfl⟩ := List.mem_map.1 hd
      exact Nat.succ_pos _
  exact hinits _

/-- What is read below the root, from the top. -/
def GuidanceCall.nested (call : GuidanceCall) : List (String × Bytes) := call.chain.tail.filterMap call.read

/-- Nothing but files has the name in the chain. -/
def GuidanceCall.OnlyFiles (call : GuidanceCall) : Prop := ∀ directory ∈ call.chain, (call.read directory).isSome →
    (call.file directory).isSome

/-- Below the root, the name is in one directory of the chain at most. -/
def GuidanceCall.OneNested (call : GuidanceCall) : Prop :=
  ∀ directory ∈ call.chain, ∀ directory' ∈ call.chain, directory ≠ [] → directory' ≠ [] → (call.read directory).isSome →
    (call.read directory').isSome → directory = directory'

theorem material_eq (call : GuidanceCall) : call.material = [[]].filterMap call.read ++ call.nested.reverse := by
  unfold GuidanceCall.material GuidanceCall.nested
  rw [parents_eq, ← List.filterMap_reverse, ← List.filterMap_append]
  rfl

theorem mem_material : found ∈ call.material ↔ ∃ directory ∈ call.chain, call.read directory = some found := by
  unfold GuidanceCall.material
  rw [List.mem_filterMap]
  simp only [mem_parents]

section Relative

variable {relative : String} (hpath : relativePath host.toUnicode call.taskRelativePath = .ok relative)
include hpath

theorem isPart_directory (hd : directory ∈ call.chain) : ∀ part ∈ directory ++ [agents], IsPart host.toUnicode part := by
  intro part hpart
  rcases List.mem_append.1 hpart with hpart | hpart
  · have hparts : part ∈ (posixParts call.taskRelativePath).dropLast := ((List.mem_inits _ _).1 hd).subset hpart
    exact isPart_of_mem hpath (List.mem_of_mem_dropLast hparts)
  · rw [List.mem_singleton.1 hpart]
    exact isPart_agents

theorem eq_of_path {directory' : List Part} (hd : directory ∈ call.chain) (hd' : directory' ∈ call.chain)
    (h : asPosix (directory ++ [agents]) = asPosix (directory' ++ [agents])) : directory = directory' := by
  have hparts := congrArg posixParts h
  rw [posixParts_asPosix (isPart_directory hpath hd), posixParts_asPosix (isPart_directory hpath hd')] at hparts
  exact List.append_cancel_right hparts

theorem pathKey_lt {directory' : List Part} (hd : directory ∈ call.chain) (hd' : directory' ∈ call.chain)
    (h : directory.length < directory'.length) :
    pathKey (asPosix (directory ++ [agents])) < pathKey (asPosix (directory' ++ [agents])) := by
  have hcount : ∀ d ∈ call.chain, (asPosix (d ++ [agents])).toList.count '/' = d.length := by
    intro d hd
    unfold asPosix
    rw [if_neg (List.concat_ne_nil _ _), String.toList_ofList, count_slash fun part hpart =>
      (isPart_directory hpath hd part hpart).slash, List.length_append]
    rfl
  unfold pathKey
  rw [Prod.Lex.toLex_lt_toLex, hcount _ hd, hcount _ hd']
  exact .inl h

theorem nested_pairwise : call.nested.Pairwise fun a b => pathKey a.1 < pathKey b.1 := by
  refine List.pairwise_filterMap.2 ?_
  refine (chain_pairwise call).tail.imp_of_mem fun {a b} ha hb hlt => ?_
  intro found hfound found' hfound'
  rw [fst_of_read hfound, fst_of_read hfound']
  exact pathKey_lt hpath (List.mem_of_mem_tail ha) (List.mem_of_mem_tail hb) hlt

/-- The walk finds the paths in the order of the constructor only where it finds at most one below the root. -/
theorem ordered_iff : (call.material.map (·.1)).Pairwise (fun a b => pathKey a < pathKey b) ↔ call.nested.length ≤ 1 := by
  rw [List.pairwise_map, material_eq]
  constructor
  · intro h
    have hnested := List.pairwise_reverse.1 (List.pairwise_append.1 h).2.1
    exact length_le_one_iff.2 ((hnested.and (nested_pairwise hpath)).imp fun hab => lt_asymm hab.1 hab.2)
  · intro h
    have hshort : call.nested.Pairwise fun a b => pathKey b.1 < pathKey a.1 := (length_le_one_iff.1 h).imp False.elim
    refine List.pairwise_append.2 ⟨?_, List.pairwise_reverse.2 hshort, ?_⟩
    · cases hroot : call.read [] with
      | none => simp [hroot]
      | some found => simp [hroot]
    · intro root hroot found hfound
      obtain ⟨top, htop, hroot⟩ := List.mem_filterMap.1 hroot
      obtain ⟨directory, hd, hfound⟩ := List.mem_filterMap.1 (List.mem_reverse.1 hfound)
      have hchain := chain_pairwise call
      rw [chain_eq] at hchain
      rw [fst_of_read hroot, fst_of_read hfound, List.mem_singleton.1 htop]
      refine pathKey_lt hpath ?_ (List.mem_of_mem_tail hd) ((List.pairwise_cons.1 hchain).1 directory hd)
      rw [chain_eq]
      exact List.mem_cons_self

theorem oneNested_iff : call.OneNested ↔ call.nested.length ≤ 1 := by
  have htail : ∀ d, d ∈ call.chain.tail ↔ d ∈ call.chain ∧ d ≠ [] := by
    intro d
    have hchain := chain_pairwise call
    rw [chain_eq] at hchain
    constructor
    · intro hd
      refine ⟨List.mem_of_mem_tail hd, ?_⟩
      rintro rfl
      exact absurd ((List.pairwise_cons.1 hchain).1 [] hd) (lt_irrefl _)
    · rintro ⟨hd, hne⟩
      rw [chain_eq, List.mem_cons] at hd
      exact hd.resolve_left hne
  constructor
  · intro h
    refine length_le_one_iff.2 (List.pairwise_filterMap.2 ((chain_pairwise call).tail.imp_of_mem fun {a b} ha hb hlt => ?_))
    intro found hfound found' hfound'
    have heq := h a ((htail a).1 ha).1 b ((htail b).1 hb).1 ((htail a).1 ha).2 ((htail b).1 hb).2 (by rw [hfound]; rfl)
      (by rw [hfound']; rfl)
    exact absurd (congrArg List.length heq) (ne_of_lt hlt)
  · intro h d hd d' hd' hne hne' hread hread'
    obtain ⟨found, hfound⟩ := Option.isSome_iff_exists.1 hread
    obtain ⟨found', hfound'⟩ := Option.isSome_iff_exists.1 hread'
    have hmem : found ∈ call.nested := List.mem_filterMap.2 ⟨d, (htail d).2 ⟨hd, hne⟩, hfound⟩
    have hmem' : found' ∈ call.nested := List.mem_filterMap.2 ⟨d', (htail d').2 ⟨hd', hne'⟩, hfound'⟩
    -- two members of a list of at most one are the same
    have hsame : found = found' :=
      List.Pairwise.forall_of_forall (R := Eq) (fun _ _ => rfl) ((length_le_one_iff.1 h).imp False.elim) hmem hmem'
    refine eq_of_path hpath hd hd' ?_
    rw [← fst_of_read hfound, ← fst_of_read hfound', hsame]

end Relative

/-! ## What a resolution returns -/

/-- What a call that returns has selected. -/
theorem resolve_ok {guidance : TrustedGuidance} (h : resolveAuthoritativeGuidance host call = .ok guidance) :
    guidance.selectedPaths = call.material.map (·.1) ∧ guidance.acceptedMainGuidanceBytes = acceptedBytes call.material ∧
      guidance.check host = .ok () := by
  unfold resolveAuthoritativeGuidance at h
  obtain ⟨relative, hpath, h⟩ := bind_eq_ok.1 h
  obtain ⟨_, _, h⟩ := bind_eq_ok.1 h
  obtain ⟨_, _, h⟩ := bind_eq_ok.1 h
  obtain ⟨_, hcheck, h⟩ := bind_eq_ok.1 h
  rw [(relativePath_ok.1 hpath).2.2.2] at hcheck h
  rw [← pure_eq_ok.1 h]
  exact ⟨rfl, rfl, hcheck⟩

/-- A call returns where the constructor takes the paths that it found. -/
theorem resolve_of_check (hpath : relativePath host.toUnicode call.taskRelativePath = .ok relative)
    (hrepo : call.checkRepository host = .ok ()) (hfound : call.material ≠ [])
    (hcheck : ∀ guidance : TrustedGuidance, guidance.selectedPaths = call.material.map (·.1) → guidance.check host = .ok ()) :
    ∃ guidance, resolveAuthoritativeGuidance host call = .ok guidance := by
  obtain ⟨-, -, -, rfl⟩ := relativePath_ok.1 hpath
  unfold resolveAuthoritativeGuidance
  refine ⟨_, bind_eq_ok.2 ⟨_, hpath, bind_eq_ok.2 ⟨(), hrepo, bind_eq_ok.2 ⟨(), refuse_eq_ok.2 hfound,
    bind_eq_ok.2 ⟨(), ?_, rfl⟩⟩⟩⟩⟩
  exact hcheck _ rfl

/-- A relative path has no null byte. -/
theorem zero_notMem_path (h : relativePath host.toUnicode value = .ok relative) : 0 ∉ utf8 value := by
  refine zero_notMem_utf8 fun c hc hzero => ?_
  rcases mem_spelled (relativePath_ok.1 h).1 hc with rfl | rfl | ⟨part, hpart, hc⟩
  · have hdot := List.mem_singleton.1 hc
    rw [hdot] at hzero
    exact absurd hzero (by decide)
  · exact absurd hzero (by decide)
  · have hprintable := (partAllowed_iff.1 (isPart_of_mem h hpart).allowed).2.2.2.1 c hc
    omega

/-- The bytes of a selection tell its paths and contents, whatever the contents are. -/
theorem acceptedBytes_injective {material material' : List (String × Bytes)} (h0 : ∀ m ∈ material, 0 ∉ utf8 m.1)
    (h0' : ∀ m ∈ material', 0 ∉ utf8 m.1) (h : acceptedBytes material = acceptedBytes material') : material = material' := by
  have hnames : ∀ material : List (String × Bytes), (∀ m ∈ material, 0 ∉ utf8 m.1) →
      ∀ f ∈ material.map (fun m => (utf8 m.1, m.2)), (0 : UInt8) ∉ f.1 := by
    intro material h f hf
    obtain ⟨m, hm, rfl⟩ := List.mem_map.1 hf
    exact h m hm
  have hframed := frames_injective asciiDecimal_injective zero_notMem_asciiDecimal (hnames _ h0) (hnames _ h0') h
  refine List.map_injective_iff.2 ?_ hframed
  rintro ⟨path, content⟩ ⟨path', content'⟩ heq
  rw [Prod.mk.injEq] at heq
  exact Prod.ext (utf8_injective heq.1) heq.2

theorem zero_notMem_material {guidance : TrustedGuidance} (h : resolveAuthoritativeGuidance host call = .ok guidance) :
    ∀ m ∈ call.material, 0 ∉ utf8 m.1 := by
  obtain ⟨hpaths, -, hcheck⟩ := resolve_ok h
  intro m hm
  obtain ⟨relative, hrelative⟩ := (TrustedGuidance.check_ok.1 hcheck).2.2 m.1 (hpaths ▸ List.mem_map_of_mem hm)
  exact zero_notMem_path hrelative

/-- With one directory below the root at most, the walk and the chain agree. -/
theorem files_eq_material (hpath : relativePath host.toUnicode call.taskRelativePath = .ok relative)
    (honly : call.OnlyFiles) (hone : call.OneNested) : call.files = call.material := by
  have hreads : call.files = call.chain.filterMap call.read := by
    refine List.filterMap_congr fun directory hd => ?_
    cases hread : call.read directory with
    | none =>
      cases hfile : call.file directory with
      | none => rfl
      | some found => rw [← hread, read_of_file hfile]
    | some found =>
      obtain ⟨file, hfile⟩ := Option.isSome_iff_exists.1 (honly directory hd (by rw [hread]; rfl))
      rw [← hread, read_of_file hfile, hfile]
  have hnested : call.nested.reverse = call.nested := by
    have hlength := (oneNested_iff hpath).1 hone
    cases hshape : call.nested with
    | nil => rfl
    | cons a rest =>
      rw [hshape, List.length_cons] at hlength
      rw [List.eq_nil_of_length_eq_zero (l := rest) (by omega)]
      rfl
  rw [hreads, material_eq, hnested, chain_eq]
  exact List.filterMap_append (l := [[]])

/-- The selection is the chain of the guidance files exactly where nothing else has their name and at most one of them
stands below the root. -/
theorem guidance_exact (host : GuidanceHost) (call : GuidanceCall) (relative : String)
    (hpath : relativePath host.toUnicode call.taskRelativePath = .ok relative) (hrepo : call.checkRepository host = .ok ()) :
    call.Guides host ↔ call.files = [] ∨ (call.OnlyFiles ∧ call.OneNested) := by
  constructor
  · intro h
    refine or_iff_not_imp_left.2 fun hfiles => ?_
    obtain ⟨guidance, hresolve, hselected, -, -⟩ := h hfiles
    obtain ⟨hpaths, -, hcheck⟩ := resolve_ok hresolve
    refine ⟨fun directory hd hread => ?_, ?_⟩
    · obtain ⟨found, hfound⟩ := Option.isSome_iff_exists.1 hread
      -- its path is selected, so it is the path of a file
      have hpath' : found.1 ∈ call.files.map (·.1) := by
        rw [← hselected, hpaths]
        exact List.mem_map_of_mem (mem_material.2 ⟨directory, hd, hfound⟩)
      obtain ⟨file, hfile, heq⟩ := List.mem_map.1 hpath'
      obtain ⟨directory', hd', hfile⟩ := List.mem_filterMap.1 hfile
      rw [fst_of_file hfile, fst_of_read hfound] at heq
      rw [← eq_of_path hpath hd' hd heq, hfile]
      rfl
    · have hordered := (TrustedGuidance.check_ok.1 hcheck).2.1
      rw [hpaths] at hordered
      exact (oneNested_iff hpath).2 ((ordered_iff hpath).1 hordered)
  · rintro (hnone | ⟨honly, hone⟩) hfiles
    · exact absurd hnone hfiles
    · have hmaterial := files_eq_material hpath honly hone
      rw [hmaterial] at hfiles ⊢
      obtain ⟨guidance, hresolve⟩ := resolve_of_check hpath hrepo hfiles fun guidance hselected => by
        rw [TrustedGuidance.check_ok, hselected]
        refine ⟨fun hnil => hfiles (List.map_eq_nil_iff.1 hnil), (ordered_iff hpath).2 ((oneNested_iff hpath).1 hone), ?_⟩
        intro path hmem
        obtain ⟨found, hfound, rfl⟩ := List.mem_map.1 hmem
        obtain ⟨directory, hd, hread⟩ := mem_material.1 hfound
        rw [fst_of_read hread]
        exact ⟨_, relativePath_asPosix (List.concat_ne_nil _ _) (isPart_directory hpath hd)⟩
      obtain ⟨hselected, hbytes, -⟩ := resolve_ok hresolve
      refine ⟨guidance, hresolve, hselected, hbytes, fun other guidance' hother heq => ?_⟩
      rw [(resolve_ok hother).2.1, hbytes] at heq
      exact acceptedBytes_injective (zero_notMem_material hother) (zero_notMem_material hresolve) heq

/-! ## Fixed trees -/

namespace Sample

def guidanceHost : GuidanceHost where
  toHost := .sample
  hexdigestBytes bytes := .ofNat 64 (bytes.foldl (fun n b => 257 * n + b.toNat) 1)
  nfkc := id
  casefold text := text.map Char.toLower
  nfkc_ascii _ _ := rfl
  casefold_ascii _ _ := rfl

/-- A tree with guidance at the root, if wanted, in `a`, and in `a/b`, if wanted. -/
def guidanceTree (root deep : Bool) : GitObject :=
  let file : Part × GitObject := (agents, .blob (utf8 "rules"))
  let b : GitObject := .tree (if deep then [file] else [])
  .tree ((if root then [file] else []) ++ [(['a'], .tree [file, (['b'], b)])])

def guidanceCall (root deep : Bool) : GuidanceCall where
  repository := ⟨.ok "/repository", id, .ok, fun _ => .ok "tree", fun _ => guidanceTree root deep⟩
  expectation := ⟨.sha256 (.ofNat 64 1), "/repository", .ofNat 40 1,
    guidanceHost.digestValue (.obj [("tree", .str "tree"), ("repository", .digest (.sha256 (.ofNat 64 1)))])⟩
  view := .worker
  taskRelativePath := "a/b/x"
  runtime := ⟨"/repository", .ofNat 40 1⟩

end Sample

open Sample in
/-- Guidance at the root and in `a` is selected. -/
theorem guidance_exact_root_and_one : (guidanceCall true false).Guides guidanceHost :=
  (guidance_exact guidanceHost (guidanceCall true false) "a/b/x" (by decide +kernel) (by decide +kernel)).2
    (.inr ⟨by unfold GuidanceCall.OnlyFiles; decide +kernel, by unfold GuidanceCall.OneNested; decide +kernel⟩)

open Sample in
/-- Guidance in `a` and in `a/b` is refused: the walk finds `a/b` first. -/
theorem two_nested_refused : relativePath guidanceHost.toUnicode (guidanceCall false true).taskRelativePath = .ok "a/b/x" ∧
    (guidanceCall false true).checkRepository guidanceHost = .ok () ∧
    (guidanceCall false true).files.map (·.1) = ["a/AGENTS.md", "a/b/AGENTS.md"] ∧
    resolveAuthoritativeGuidance guidanceHost (guidanceCall false true) =
      .error (.roleCapability "trusted guidance selection is invalid") ∧
    ¬ (guidanceCall false true).Guides guidanceHost := by
  have hfiles : (guidanceCall false true).files.map (·.1) = ["a/AGENTS.md", "a/b/AGENTS.md"] := by decide +kernel
  have hrefused : resolveAuthoritativeGuidance guidanceHost (guidanceCall false true) =
      .error (.roleCapability "trusted guidance selection is invalid") := by decide +kernel
  refine ⟨by decide +kernel, by decide +kernel, hfiles, hrefused, fun h => ?_⟩
  obtain ⟨guidance, hresolve, -⟩ := h fun hnil => by
    rw [hnil] at hfiles
    exact absurd hfiles (by decide)
  rw [hrefused] at hresolve
  cases hresolve

end Roundwright.Role
