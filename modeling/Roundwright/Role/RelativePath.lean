/-
Relative paths, as the role scope and the guidance spell them. The loop over the parts stands in two modules of the
source; what comes before it is the role scope's own. A path that it accepts is the path that pathlib writes of its
parts.
-/
import Roundwright.Identity
import Roundwright.Lib.Frames
import Roundwright.Lib.Transaction
import Mathlib.Data.List.DropRight
import Mathlib.Data.List.Infix

namespace Roundwright.Role

open Lib

/-- A part of a path, by its characters. -/
abbrev Part := List Char

theorem lawfulBEq_part : LawfulBEq Part := inferInstance

/-- The functions on Unicode texts that the code takes from its library: `unicodedata.normalize("NFKC", _)` and
`str.casefold`. -/
structure Unicode where
  nfkc : List Char → List Char
  casefold : List Char → List Char

/-! ## POSIX paths -/

/-- `path.is_absolute()` -/
def isAbsolute (value : String) : Bool := value.toList.head? = some '/'

/-- The parts of `PurePosixPath(value)`, for a path that is not absolute: what stands between slashes, without the empty
components and the `.` ones. -/
def posixParts (value : String) : List Part := (value.toList.splitOn '/').filter fun part => part ≠ [] ∧ part ≠ ['.']

/-- `as_posix()` -/
def asPosix (parts : List Part) : String := if parts = [] then "." else String.ofList (['/'].intercalate parts)

/-- `re.match(r"^[A-Za-z]:", value)` -/
def hasDrive (value : String) : Bool :=
  match value.toList with
  | letter :: ':' :: _ => letter.isAlpha
  | _ => false

/-! ## Components -/

/-- `_WINDOWS_RESERVED`, which both modules have. -/
def windowsReserved : List String :=
  ["con", "prn", "aux", "nul", "clock$", "conin$", "conout$", "com1", "com2", "com3", "com4", "com5", "com6", "com7",
    "com8", "com9", "lpt1", "lpt2", "lpt3", "lpt4", "lpt5", "lpt6", "lpt7", "lpt8", "lpt9"]

section Components

variable (unicode : Unicode)

/-- `normalized.split(".", 1)[0].rstrip(". ").casefold()` -/
def stem (part : Part) : String :=
  String.ofList (unicode.casefold (((unicode.nfkc part).takeWhile (· ≠ '.')).rdropWhile fun c => c = '.' ∨ c = ' '))

/-- What the loops over the parts let pass; they are the same in both modules. -/
def partAllowed (part : Part) : Bool :=
  unicode.nfkc part = part && ':' ∉ part && ['*', '?', '<', '>', '|', '"'].all (· ∉ part) && part.all
    (fun c => 32 ≤ c.toNat) && part.getLast?.all (fun c => c ≠ '.' ∧ c ≠ ' ') && stem unicode part ∉ windowsReserved

def badPath : Error := .roleCapability "relative path is invalid"

/-- `_relative_path` -/
def relativePath (value : String) : Except Error String := do
  refuse (value = "" ∨ '\\' ∈ value.toList ∨ ['/', '/'] <:+: value.toList) badPath
  let parts := posixParts value
  refuse (isAbsolute value = true ∨ hasDrive value = true ∨ parts.any (· ∈ [[], ['.'], ['.', '.']]) = true ∨
    asPosix parts ≠ value) badPath
  refuse (parts.all (partAllowed unicode) = false) badPath
  return asPosix parts

end Components

/-! ## Parts -/

variable {unicode : Unicode} {value path : String} {part : Part} {parts : List Part}

theorem mem_posixParts (h : part ∈ posixParts value) : part ≠ [] ∧ part ≠ ['.'] ∧ '/' ∉ part := by
  obtain ⟨hpiece, hproper⟩ := List.mem_filter.1 h
  obtain ⟨hempty, hdot⟩ := of_decide_eq_true hproper
  rw [List.splitOn_eq_splitOnP] at hpiece
  exact ⟨hempty, hdot, fun hslash => absurd (not_of_mem_piece hpiece hslash) (by decide)⟩

/-- The pieces of the path that is written of its parts. -/
theorem splitOn_parts (hne : parts ≠ []) (h : ∀ part ∈ parts, '/' ∉ part) : (['/'].intercalate parts).splitOn '/' = parts :=
  List.splitOn_intercalate '/' h hne

/-! ## Spellings that pathlib leaves as they are -/

section Spelled

variable (h : asPosix (posixParts value) = value)
include h

/-- Every character stands in a part, or separates two, unless the path is the dot. -/
theorem mem_spelled {c : Char} (hc : c ∈ value.toList) : value = "." ∨ c = '/' ∨ ∃ part ∈ posixParts value, c ∈ part := by
  by_cases hparts : posixParts value = []
  · rw [asPosix, if_pos hparts] at h
    exact .inl h.symm
  · rw [← h, asPosix, if_neg hparts, String.toList_ofList] at hc
    exact .inr (mem_intercalate hc)

/-- Nothing before, behind or between slashes is empty. -/
theorem nil_notMem_spelled (before after : List Char) (hslash : value.toList = before ++ '/' :: after) :
    [] ∉ before.splitOn '/' ∧ [] ∉ after.splitOn '/' := by
  by_cases hparts : posixParts value = []
  · rw [asPosix, if_pos hparts] at h
    have hmem : '/' ∈ ".".toList := by
      rw [h, hslash]
      simp
    exact absurd hmem (by decide)
  · -- the pieces are the parts, none of which is empty
    have htext : value.toList = ['/'].intercalate (posixParts value) := by
      conv_lhs => rw [← h, asPosix, if_neg hparts, String.toList_ofList]
    have hpieces : before.splitOn '/' ++ after.splitOn '/' = posixParts value := by
      rw [← List.splitOn_append_cons_self, ← hslash, htext, splitOn_parts hparts fun part hpart => (mem_posixParts hpart).2.2]
    have hnil : [] ∉ before.splitOn '/' ++ after.splitOn '/' := by
      rw [hpieces]
      exact fun hmem => (mem_posixParts hmem).1 rfl
    rw [List.mem_append, not_or] at hnil
    exact hnil

theorem not_isAbsolute : isAbsolute value = false := by
  refine decide_eq_false fun hhead => ?_
  obtain ⟨rest, hrest⟩ := List.head?_eq_some_iff.1 hhead
  exact (nil_notMem_spelled h [] rest hrest).1 List.mem_cons_self

theorem no_empty_component : ¬ ['/', '/'] <:+: value.toList := by
  rintro ⟨before, after, hslashes⟩
  refine (nil_notMem_spelled h before ('/' :: after) (by rw [← hslashes]; simp)).2 ?_
  rw [List.splitOn_cons_eq_if_modifyHead, if_pos (by rfl)]
  exact List.mem_cons_self

theorem no_drive (hparts : ∀ part ∈ posixParts value, ':' ∉ part) : hasDrive value = false := by
  unfold hasDrive
  split
  · rename_i letter rest hvalue
    have hcolon : ':' ∈ value.toList := by
      rw [hvalue]
      simp
    rcases mem_spelled h hcolon with rfl | hslash | ⟨part, hpart, hmem⟩
    · exact absurd hcolon (by decide)
    · exact absurd hslash (by decide)
    · exact absurd hmem (hparts part hpart)
  · rfl

end Spelled

/-! ## Relative paths -/

theorem partAllowed_iff : partAllowed unicode part = true ↔ unicode.nfkc part = part ∧ ':' ∉ part ∧
    (∀ c ∈ ['*', '?', '<', '>', '|', '"'], c ∉ part) ∧ (∀ c ∈ part, 32 ≤ c.toNat) ∧
    part.getLast?.all (fun c => c ≠ '.' ∧ c ≠ ' ') = true ∧ stem unicode part ∉ windowsReserved := by
  simp only [partAllowed, Bool.and_eq_true, decide_eq_true_eq, List.all_eq_true, and_assoc]

/-- The role scope accepts a path of allowed parts in the spelling that pathlib writes. -/
theorem relativePath_ok : relativePath unicode value = .ok path ↔ asPosix (posixParts value) = value ∧ '\\' ∉ value.toList ∧
    (∀ part ∈ posixParts value, part ≠ ['.', '.'] ∧ partAllowed unicode part = true) ∧ path = value := by
  simp only [relativePath, bind_eq_ok, exists_unit, refuse_eq_ok, pure_eq_ok, not_or, not_not, Bool.not_eq_true,
    Bool.not_eq_false, List.any_eq_false, List.all_eq_true, decide_eq_true_eq, List.mem_cons, List.not_mem_nil, or_false]
  constructor
  · rintro ⟨⟨-, hbackslash, -⟩, ⟨-, -, hdots, hposix⟩, hallowed, rfl⟩
    exact ⟨hposix, hbackslash, fun part hpart => ⟨(hdots part hpart).2.2, hallowed part hpart⟩, hposix⟩
  · rintro ⟨hposix, hbackslash, hparts, rfl⟩
    refine ⟨⟨fun hempty => ?_, hbackslash, no_empty_component hposix⟩,
      ⟨not_isAbsolute hposix, ?_, fun part hpart => ?_, hposix⟩, fun part hpart => (hparts part hpart).2, hposix⟩
    · rw [hempty] at hposix
      exact absurd hposix (by decide)
    · exact no_drive hposix fun part hpart => (partAllowed_iff.1 (hparts part hpart).2).2.1
    · exact ⟨(mem_posixParts hpart).1, (mem_posixParts hpart).2.1, (hparts part hpart).1⟩

/-- A part that a relative path may have. -/
structure IsPart (unicode : Unicode) (part : Part) : Prop where
  proper : part ≠ [] ∧ part ≠ ['.'] ∧ part ≠ ['.', '.']
  slash : '/' ∉ part
  backslash : '\\' ∉ part
  allowed : partAllowed unicode part = true

theorem isPart_of_mem (h : relativePath unicode value = .ok path) (hpart : part ∈ posixParts value) : IsPart unicode part := by
  obtain ⟨hposix, hbackslash, hparts, -⟩ := relativePath_ok.1 h
  obtain ⟨hempty, hdot, hslash⟩ := mem_posixParts hpart
  refine ⟨⟨hempty, hdot, (hparts part hpart).1⟩, hslash, fun hmem => hbackslash ?_, (hparts part hpart).2⟩
  rw [← hposix, asPosix, if_neg (List.ne_nil_of_mem hpart), String.toList_ofList]
  exact mem_intercalate_of_mem hpart hmem

/-- Parts are told by their path. -/
theorem posixParts_asPosix (h : ∀ part ∈ parts, IsPart unicode part) : posixParts (asPosix parts) = parts := by
  by_cases hne : parts = []
  · rw [hne]
    decide +kernel
  · unfold posixParts asPosix
    rw [if_neg hne, String.toList_ofList, splitOn_parts hne fun part hpart => (h part hpart).slash, List.filter_eq_self]
    exact fun part hpart => decide_eq_true ⟨(h part hpart).proper.1, (h part hpart).proper.2.1⟩

theorem relativePath_asPosix (hne : parts ≠ []) (h : ∀ part ∈ parts, IsPart unicode part) :
    relativePath unicode (asPosix parts) = .ok (asPosix parts) := by
  have hparts := posixParts_asPosix h
  refine relativePath_ok.2 ⟨congrArg asPosix hparts, fun hmem => ?_, ?_, rfl⟩
  · rw [asPosix, if_neg hne, String.toList_ofList] at hmem
    rcases mem_intercalate hmem with hc | ⟨part, hpart, hc⟩
    · exact absurd hc (by decide)
    · exact (h part hpart).backslash hc
  · rw [hparts]
    exact fun part hpart => ⟨(h part hpart).proper.2.2, (h part hpart).allowed⟩

end Roundwright.Role
