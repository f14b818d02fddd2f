/-
Frames: a name, a separator, the length of a content, a separator, and the content. However the contents look, what is
framed is told by the text of the frames, as long as no name and no number has the separator. Pieces: what stands
between separators has none, and what has none is told by its joined text.
-/
import Mathlib.Data.List.Basic

namespace Roundwright.Lib

variable {β : Type} (sep : β) (number : Nat → List β)

/-- One framed content. -/
def frame (f : List β × List β) : List β := f.1 ++ sep :: (number f.2.length ++ sep :: f.2)

/-- The frames one after the other. -/
def frames (l : List (List β × List β)) : List β := l.flatMap (frame sep number)

variable {sep number}

/-- What stands before the first separator is determined. -/
theorem append_sep_inj {a b c d : List β} (ha : sep ∉ a) (hb : sep ∉ b) (h : a ++ sep :: c = b ++ sep :: d) : a = b ∧ c = d := by
  induction a generalizing b with
  | nil =>
    cases b with
    | nil => exact ⟨rfl, (List.cons.inj h).2⟩
    | cons y b => exact absurd (List.cons.inj h).1 (fun hy => hb (hy ▸ List.mem_cons_self))
  | cons x a ih =>
    cases b with
    | nil => exact absurd (List.cons.inj h).1 (fun hx => ha (hx ▸ List.mem_cons_self))
    | cons y b =>
      obtain ⟨hxy, hrest⟩ := List.cons.inj h
      obtain ⟨hab, hcd⟩ := ih (fun hmem => ha (List.mem_cons_of_mem _ hmem)) (fun hmem => hb (List.mem_cons_of_mem _ hmem)) hrest
      exact ⟨by rw [hxy, hab], hcd⟩

theorem frame_append_inj (hnumber : Function.Injective number) (hsep : ∀ n, sep ∉ number n) {f g : List β × List β}
    {r s : List β} (hf : sep ∉ f.1) (hg : sep ∉ g.1) (h : frame sep number f ++ r = frame sep number g ++ s) : f = g ∧ r = s := by
  unfold frame at h
  rw [List.append_assoc, List.append_assoc, List.cons_append, List.cons_append] at h
  obtain ⟨hname, h⟩ := append_sep_inj hf hg h
  rw [List.append_assoc, List.append_assoc, List.cons_append, List.cons_append] at h
  obtain ⟨hlength, h⟩ := append_sep_inj (hsep _) (hsep _) h
  -- the contents have the length that stands before them
  obtain ⟨hcontent, hrest⟩ := List.append_inj h (hnumber hlength)
  exact ⟨Prod.ext hname hcontent, hrest⟩

theorem frames_injective (hnumber : Function.Injective number) (hsep : ∀ n, sep ∉ number n)
    {l l' : List (List β × List β)} (hl : ∀ f ∈ l, sep ∉ f.1) (hl' : ∀ f ∈ l', sep ∉ f.1)
    (h : frames sep number l = frames sep number l') : l = l' := by
  have hne : ∀ (f : List β × List β) (l : List (List β × List β)), frames sep number (f :: l) ≠ [] := by
    intro f l hnil
    have hlength := congrArg List.length hnil
    simp [frames, frame] at hlength
  induction l generalizing l' with
  | nil =>
    cases l' with
    | nil => rfl
    | cons g l' => exact absurd h.symm (hne g l')
  | cons f l ih =>
    cases l' with
    | nil => exact absurd h (hne f l)
    | cons g l' =>
      rw [List.forall_mem_cons] at hl hl'
      obtain ⟨rfl, hrest⟩ := frame_append_inj hnumber hsep hl.1 hl'.1 h
      rw [ih hl.2 hl'.2 hrest]

/-! ## Pieces -/

theorem not_of_mem_piece {p : β → Bool} {l piece : List β} {b : β} (h : piece ∈ l.splitOnP p) (hb : b ∈ piece) : p b = false := by
  induction l generalizing piece with
  | nil =>
    rw [List.splitOnP_nil, List.mem_singleton] at h
    rw [h] at hb
    exact absurd hb List.not_mem_nil
  | cons x l ih =>
    rw [List.splitOnP_cons_eq_if_modifyHead] at h
    cases hx : p x with
    | true =>
      rw [hx, if_pos rfl, List.mem_cons] at h
      rcases h with rfl | h
      · exact absurd hb List.not_mem_nil
      · exact ih h hb
    | false =>
      rw [hx, if_neg Bool.false_ne_true] at h
      -- the letter goes to the first of the pieces of the rest
      obtain ⟨first, rest, hrest⟩ := List.exists_cons_of_ne_nil (List.splitOnP_ne_nil p l)
      rw [hrest, List.modifyHead_cons, List.mem_cons] at h
      rw [hrest] at ih
      rcases h with rfl | h
      · rcases List.mem_cons.1 hb with rfl | hb
        · exact hx
        · exact ih List.mem_cons_self hb
      · exact ih (List.mem_cons_of_mem _ h) hb

/-- Pieces are the pieces of the text that joins them. -/
theorem splitOnP_intercalate {p : β → Bool} (hsep : p sep = true) {pieces : List (List β)} (hne : pieces ≠ [])
    (h : ∀ piece ∈ pieces, ∀ b ∈ piece, p b = false) : ([sep].intercalate pieces).splitOnP p = pieces := by
  induction pieces with
  | nil => exact absurd rfl hne
  | cons first rest ih =>
    rw [List.forall_mem_cons] at h
    cases rest with
    | nil =>
      rw [List.intercalate_singleton]
      exact List.splitOnP_eq_singleton h.1
    | cons next rest =>
      rw [List.intercalate_cons_cons, List.append_assoc, List.singleton_append,
        List.splitOnP_append_cons_of_forall_mem h.1 sep hsep, ih (List.cons_ne_nil _ _) h.2]

/-- What is in a joined text is in one of its pieces, or separates them. -/
theorem mem_intercalate {pieces : List (List β)} {b : β} (h : b ∈ [sep].intercalate pieces) : b = sep ∨
    ∃ piece ∈ pieces, b ∈ piece := by
  induction pieces with
  | nil => exact absurd h List.not_mem_nil
  | cons first rest ih =>
    cases rest with
    | nil =>
      rw [List.intercalate_singleton] at h
      exact .inr ⟨first, List.mem_cons_self, h⟩
    | cons next rest =>
      rw [List.intercalate_cons_cons, List.append_assoc, List.mem_append, List.singleton_append, List.mem_cons] at h
      rcases h with h | rfl | h
      · exact .inr ⟨first, List.mem_cons_self, h⟩
      · exact .inl rfl
      · obtain rfl | ⟨piece, hmem, hb⟩ := ih h
        · exact .inl rfl
        · exact .inr ⟨piece, List.mem_cons_of_mem _ hmem, hb⟩

theorem mem_intercalate_of_mem {pieces : List (List β)} {piece : List β} {b : β} (hpiece : piece ∈ pieces) (hb : b ∈ piece) :
    b ∈ [sep].intercalate pieces := by
  induction pieces with
  | nil => exact absurd hpiece List.not_mem_nil
  | cons first rest ih =>
    cases rest with
    | nil =>
      rw [List.intercalate_singleton, ← List.mem_singleton.1 hpiece]
      exact hb
    | cons next rest =>
      rw [List.intercalate_cons_cons, List.mem_append, List.mem_append]
      rcases List.mem_cons.1 hpiece with rfl | hpiece
      · exact .inl (.inl hb)
      · exact .inr (ih hpiece)

end Roundwright.Lib
