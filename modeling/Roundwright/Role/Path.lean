/-
Paths of a capability. Two boundaries check the same spellings: the coding tools check what pathlib has made of a path,
the role scope also that pathlib writes the path as it was spelled. They differ exactly on the spellings that pathlib
changes, each of which is an alias of the spelling pathlib writes.
-/
import Roundwright.Role.RelativePath
import Mathlib.Data.Prod.Lex

namespace Roundwright.Role.Path

open Lib

attribute [local instance] lawfulBEq_part in
/-- `_relative` -/
def relative (unicode : Unicode) (value : String) : Bool :=
  value ≠ "" && '\\' ∉ value.toList && !isAbsolute value && ['.', '.'] ∉ posixParts value &&
    (posixParts value).all (fun part => part ≠ [] ∧ part ≠ ['.']) && (posixParts value).all (partAllowed unicode)

/-! ## Role scopes -/

inductive RoleCapability where
  | readTrustedGuidance | renderOwnerSafeAdvice | boundedCoding | readOnlyReview | ownerCommandInterpretation
deriving DecidableEq

inductive ScopeKind where
  | path | process | testInputSet | network | resource
deriving DecidableEq

def ScopeKind.value : ScopeKind → String
  | .path => "path"
  | .process => "process"
  | .testInputSet => "test-input-set"
  | .network => "network"
  | .resource => "resource"

structure ScopedDescriptor where
  kind : ScopeKind
  rootIdentity : Digest
  value : String
deriving DecidableEq

/-- `ScopedDescriptor(...)` -/
def scopedDescriptor (unicode : Unicode) (kind : ScopeKind) (rootIdentity : Digest) (value : String) :
    Except Error ScopedDescriptor := do
  match kind with
  | .path => do
    let _ ← relativePath unicode value
    return ⟨kind, rootIdentity, value⟩
  | .process | .testInputSet | .resource => do
    refuse (isHex 64 value = false) (.roleCapability "scope descriptor value is invalid")
    return ⟨kind, rootIdentity, value⟩
  | .network => do
    refuse (value ≠ "network-disabled") (.roleCapability "scope descriptor value is invalid")
    return ⟨kind, rootIdentity, value⟩

/-- `(item.kind.value, item.root_identity, item.value)` -/
def ScopedDescriptor.serialized (d : ScopedDescriptor) : String ×ₗ String ×ₗ String :=
  toLex (d.kind.value, toLex (d.rootIdentity.text, d.value))

/-- `RoleScope`, of descriptors that could be constructed. -/
structure RoleScope (unicode : Unicode) where
  actions : List RoleCapability
  descriptors : List ScopedDescriptor
  nonempty : actions ≠ []
  canonical : (descriptors.map (·.serialized)).Pairwise (· < ·)
  constructed : ∀ d ∈ descriptors, scopedDescriptor unicode d.kind d.rootIdentity d.value = .ok d

/-- `RoleScope.require` -/
def RoleScope.require {unicode : Unicode} (scope : RoleScope unicode) (action : RoleCapability)
    (descriptors : List ScopedDescriptor) :
    Except Error Unit := do
  refuse (action ∉ scope.actions) (.roleCapability "role scope denies the requested action")
  refuse (∃ d ∈ descriptors, d ∉ scope.descriptors) (.roleCapability "role scope denies the requested bound")

/-- `_require_scope_path` -/
def requireScopePath {unicode : Unicode} (scope : RoleScope unicode) (scopeRootIdentity : Digest) (path : String) :
    Except Error Unit :=
  rewrap
    (do
      let descriptor ← scopedDescriptor unicode .path scopeRootIdentity path
      scope.require .boundedCoding [descriptor])
    fun _ => .codingTool "workspace path is outside the admitted role scope"

/-! ## The two boundaries -/

section Boundaries

variable {unicode : Unicode}

variable {value : String}

theorem relative_iff : relative unicode value = true ↔ value ≠ "" ∧ '\\' ∉ value.toList ∧ isAbsolute value = false ∧
    ∀ part ∈ posixParts value, part ≠ ['.', '.'] ∧ partAllowed unicode part = true := by
  simp only [relative, Bool.and_eq_true, decide_eq_true_eq, Bool.not_eq_true', List.all_eq_true]
  constructor
  · rintro ⟨⟨⟨⟨⟨hempty, hbackslash⟩, habsolute⟩, hup⟩, -⟩, hallowed⟩
    exact ⟨hempty, hbackslash, habsolute, fun part hpart => ⟨fun heq => hup (heq ▸ hpart), hallowed part hpart⟩⟩
  · rintro ⟨hempty, hbackslash, habsolute, hparts⟩
    refine ⟨⟨⟨⟨⟨hempty, hbackslash⟩, habsolute⟩, fun hup => (hparts _ hup).1 rfl⟩, fun part hpart => ?_⟩,
      fun part hpart => (hparts part hpart).2⟩
    exact ⟨(mem_posixParts hpart).1, (mem_posixParts hpart).2.1⟩

theorem asPosix_injective {v w : String} (hv : asPosix (posixParts v) = v) (hw : asPosix (posixParts w) = w)
    (h : posixParts v = posixParts w) : v = w := by
  rw [← hv, ← hw, h]

/-! ## Paths of a capability -/

/-- The boundary of the role scope accepts the path. -/
def ScopeAccepts (unicode : Unicode) (value : String) : Prop := ∃ path, relativePath unicode value = .ok path

/-- The role scope accepts what the coding tools accept in the spelling that pathlib writes. -/
theorem scopeAccepts_iff :
    ScopeAccepts unicode value ↔ relative unicode value = true ∧ asPosix (posixParts value) = value := by
  rw [relative_iff]
  constructor
  · rintro ⟨path, h⟩
    obtain ⟨hposix, hbackslash, hparts, -⟩ := relativePath_ok.1 h
    refine ⟨⟨fun hempty => ?_, hbackslash, not_isAbsolute hposix, hparts⟩, hposix⟩
    rw [hempty] at hposix
    exact absurd hposix (by decide)
  · rintro ⟨⟨-, hbackslash, -, hparts⟩, hposix⟩
    exact ⟨value, relativePath_ok.2 ⟨hposix, hbackslash, hparts, rfl⟩⟩

theorem scopedDescriptor_path {root : Digest} {d : ScopedDescriptor} :
    scopedDescriptor unicode .path root value = .ok d ↔ ScopeAccepts unicode value ∧ d = ⟨.path, root, value⟩ := by
  simp only [scopedDescriptor, bind_eq_ok, pure_eq_ok, ScopeAccepts]
  constructor
  · rintro ⟨path, hpath, rfl⟩
    exact ⟨⟨path, hpath⟩, rfl⟩
  · rintro ⟨⟨path, hpath⟩, rfl⟩
    exact ⟨path, hpath, rfl⟩

/-- Some role scope lets the path be used exactly when the boundary of the scope accepts it. -/
theorem usable_iff {root : Digest} :
    (∃ scope : RoleScope unicode, requireScopePath scope root value = .ok ()) ↔ ScopeAccepts unicode value := by
  constructor
  · rintro ⟨scope, h⟩
    unfold requireScopePath rewrap at h
    split at h
    · rename_i hrun
      obtain ⟨d, hd, -⟩ := bind_eq_ok.1 hrun
      exact (scopedDescriptor_path.1 hd).1
    · cases h
  · intro haccepts
    have hd : scopedDescriptor unicode .path root value = .ok ⟨.path, root, value⟩ := scopedDescriptor_path.2 ⟨haccepts, rfl⟩
    let scope : RoleScope unicode :=
      ⟨[.boundedCoding], [⟨.path, root, value⟩], by simp, List.pairwise_singleton _ _, by
        intro d hmem
        rw [List.mem_singleton.1 hmem]
        exact hd⟩
    refine ⟨scope, ?_⟩
    have hrequire : scope.require .boundedCoding [⟨.path, root, value⟩] = .ok () := by
      simp [RoleScope.require, scope, refuse]
    unfold requireScopePath rewrap
    rw [hd]
    simp [ok_bind, hrequire]

/-- The two boundaries agree on two paths, and the paths are no aliases and can be used, exactly when each of them is
spelled as pathlib writes it, or is no relative path of allowed components in any spelling. -/
theorem path_boundaries_exact (unicode : Unicode) (root : Digest) (v w : String) :
    (((relative unicode v = true ↔ ∃ path, relativePath unicode v = .ok path) ∧
        (relative unicode w = true ↔ ∃ path, relativePath unicode w = .ok path)) ∧
      (relative unicode v = true → relative unicode w = true → v ≠ w → posixParts v ≠ posixParts w) ∧
      ∀ p, p = v ∨ p = w → relative unicode p = true → ∃ scope : RoleScope unicode, requireScopePath scope root p = .ok ()) ↔
    ∀ p, p = v ∨ p = w → asPosix (posixParts p) = p ∨ p = "" ∨ '\\' ∈ p.toList ∨ isAbsolute p = true ∨
      ∃ part ∈ posixParts p, part = ['.', '.'] ∨ partAllowed unicode part = false := by
  have hspelled : ∀ p, (relative unicode p = true → asPosix (posixParts p) = p) ↔ asPosix (posixParts p) = p ∨ p = "" ∨
    '\\' ∈ p.toList ∨ isAbsolute p = true ∨
      ∃ part ∈ posixParts p, part = ['.', '.'] ∨ partAllowed unicode part = false := by
    intro p
    rw [relative_iff, imp_iff_not_or, or_comm]
    simp only [not_and_or, not_forall, not_not, Bool.not_eq_false, Bool.not_eq_true, exists_prop, ne_eq]
  have hagree : ∀ p, (relative unicode p = true ↔ ScopeAccepts unicode p) ↔
    (relative unicode p = true → asPosix (posixParts p) = p) := by
    intro p
    rw [scopeAccepts_iff]
    tauto
  simp only [← hspelled, usable_iff]
  -- the two boundaries differ only where pathlib respells a path
  constructor
  · rintro ⟨⟨hv, hw⟩, -, -⟩ p (rfl | rfl)
    · exact (hagree p).1 hv
    · exact (hagree p).1 hw
  · intro hall
    have hv := (hagree v).2 (hall v (.inl rfl))
    have hw := (hagree w).2 (hall w (.inr rfl))
    refine ⟨⟨hv, hw⟩, fun hrv hrw hne hparts => hne ?_, ?_⟩
    · exact asPosix_injective (hall v (.inl rfl) hrv) (hall w (.inr rfl) hrw) hparts
    · rintro p (rfl | rfl) hp
      · exact hv.1 hp
      · exact hw.1 hp

end Boundaries

/-- A library under which ASCII texts are their own normal form and fold. -/
def Unicode.ascii : Unicode := ⟨id, fun text => text.map Char.toLower⟩

/-- The coding tools accept `a//b` beside `a/b`, with the same components; no role scope lets it be used. -/
theorem repeated_slash_accepted : relative Unicode.ascii "a//b" = true ∧ relative Unicode.ascii "a/b" = true ∧
    posixParts "a//b" = posixParts "a/b" ∧
    relativePath Unicode.ascii "a//b" = .error (.roleCapability "relative path is invalid") ∧
    ∀ (root : Digest) (scope : RoleScope Unicode.ascii), requireScopePath scope root "a//b" ≠ .ok () := by
  refine ⟨by decide +kernel, by decide +kernel, by decide +kernel, by decide +kernel, fun root scope h => ?_⟩
  obtain ⟨path, hpath⟩ := usable_iff.1 ⟨scope, h⟩
  have hrefused : relativePath Unicode.ascii "a//b" = .error badPath := by decide +kernel
  rw [hrefused] at hpath
  cases hpath

end Roundwright.Role.Path
