/-
The guidance of a role: the `AGENTS.md` chain from the root of a pinned Git tree down to the directory of a task, read
as bytes and kept in an immutable selection whose constructor demands the paths in order.
-/
import Roundwright.Lib.JsonText
import Roundwright.Lib.Table
import Roundwright.Role.RelativePath
import Mathlib.Data.Prod.Lex
import Mathlib.Order.Lex

namespace Roundwright.Role

open Lib

-- What is said of some or of all characters of a text is decided on its list.
attribute [local instance (2000)] List.decidableBEx List.decidableBAll

/-! ## Texts, bytes and the host -/

abbrev Bytes := List UInt8

def isAscii (text : List Char) : Prop := ∀ c ∈ text, c.toNat < 128

/-- A host that also hashes bytes and normalizes Unicode, which does nothing to ASCII, and to whose letters folding
gives the lower case. -/
structure GuidanceHost extends Host, Unicode where
  hexdigestBytes : Bytes → PlainDigest
  nfkc_ascii : ∀ text, isAscii text → nfkc text = text
  casefold_ascii : ∀ text, isAscii text → casefold text = text.map Char.toLower

/-- `text.encode("utf-8")` -/
def utf8 (text : String) : Bytes := text.toByteArray.data.toList

/-- `str(n).encode("ascii")` -/
def asciiDecimal (n : Nat) : Bytes := (JsonText.decimal n).map fun c => c.toNat.toUInt8

/-! ## Git -/

/-- An object at a path of a tree. The commit of a submodule is in the repository only if somebody fetched it: `shown`
is what `git show` prints of it then. -/
inductive GitObject where
  | blob (content : Bytes)
  | tree (entries : List (Part × GitObject))
  | commit (shown : Option Bytes)

/-- `revision:path`, looked up from the tree of the revision. -/
def GitObject.find? : GitObject → List Part → Option GitObject
  | object, [] => some object
  | .tree entries, name :: rest => (entries.lookup name).bind (·.find? rest)
  | _, _ :: _ => none

/-- What `git show` prints of the object, where `git cat-file -e` finds it. -/
def GitObject.show? (name : String) : GitObject → Option Bytes
  | .blob content => some content
  | .tree entries => some (utf8 ("tree " ++ name ++ "\n\n") ++ entries.flatMap fun e =>
    utf8 (String.ofList e.1) ++ match e.2 with
      | .tree _ => utf8 "/\n"
      | _ => utf8 "\n")
  | .commit shown => shown

/-- The repository on the machine: the read-backs of its root and of its revisions. -/
structure GitRepository where
  validatedAuthoritativeRepository : Except Error String
  resolve : String → String
  showToplevel : String → Except Error String
  treeIdentity : Sha → Except Error String
  treeOf : Sha → GitObject

/-! ## Guidance -/

inductive GuidanceView where
  | worker | supervisor | dependencyReview | recoveryAdvisor | ownerIntentInterpreter
deriving DecidableEq

structure AuthoritativeGuidanceExpectation where
  repositoryIdentity : Digest
  authoritativeRoot : String
  trustedRevision : Sha
  treeDigest : Digest

/-- Of the sealed runtime context: its root, and the candidate of its binding. -/
structure SealedRoleRuntimeContext where
  root : String
  candidateSha : Sha

structure TrustedGuidance where
  expectationIdentity : Digest
  view : GuidanceView
  selectedPaths : List String
  guidanceDigest : Digest
  acceptedMainGuidanceBytes : Bytes
deriving DecidableEq

/-- `item.count("/")`, `item` -/
def pathKey (item : String) : Nat ×ₗ String := toLex (item.toList.count '/', item)

/-- `TrustedGuidance.__post_init__` -/
def TrustedGuidance.check (host : GuidanceHost) (g : TrustedGuidance) : Except Error Unit := do
  refuse (g.selectedPaths = [] ∨ sortBy pathKey g.selectedPaths.dedup ≠ g.selectedPaths)
    (.roleCapability "trusted guidance selection is invalid")
  checkAll (fun path => (relativePath host.toUnicode path).map fun _ => ()) g.selectedPaths

/-- The loop over the parents of a directory, whose parts are given last first. -/
def ancestors : List Part → List (List Part)
  | [] => []
  | part :: above => (part :: above).reverse :: ancestors above

/-- `parents`: the root, then the directory of the task and what is above it. -/
def parents (relative : String) : List (List Part) := [] :: ancestors (posixParts relative).dropLast.reverse

def agents : Part := "AGENTS.md".toList

/-- `_digest` of what is not text only. -/
def materialJson (host : GuidanceHost) (material : List (String × Bytes)) : Json :=
  .arr (material.map fun m => .obj [("path", .str m.1), ("digest", .digest (.sha256 (host.hexdigestBytes m.2)))])

/-- The path and the content of what is found under the name in a directory. -/
def readGuidance (tree : GitObject) (revision : Sha) (directory : List Part) : Option (String × Bytes) :=
  let path := asPosix (directory ++ [agents])
  (tree.find? (directory ++ [agents])).bind fun object => (object.show? (revision.text ++ ":" ++ path)).map
    fun content => (path, content)

/-- Everything that a call is given. -/
structure GuidanceCall where
  repository : GitRepository
  expectation : AuthoritativeGuidanceExpectation
  view : GuidanceView
  taskRelativePath : String
  runtime : SealedRoleRuntimeContext

/-- The repository, the revision and the tree are the expected ones. -/
def GuidanceCall.checkRepository (host : GuidanceHost) (call : GuidanceCall) : Except Error Unit := do
  let root ← rewrap call.repository.validatedAuthoritativeRepository fun _ =>
    .roleCapability "authoritative guidance root is unavailable"
  let shown ← call.repository.showToplevel root
  refuse (call.repository.resolve shown ≠ root ∨ call.expectation.trustedRevision ≠ call.runtime.candidateSha ∨
    call.repository.resolve call.expectation.authoritativeRoot ≠ call.runtime.root)
    (.roleCapability "authoritative guidance revision does not match expectation")
  let tree ← call.repository.treeIdentity call.expectation.trustedRevision
  refuse (host.digestValue (.obj [("tree", .str tree), ("repository", .digest call.expectation.repositoryIdentity)]) ≠
    call.expectation.treeDigest) (.roleCapability "authoritative guidance tree does not match expectation")

/-- What the call reads in a directory. -/
def GuidanceCall.read (call : GuidanceCall) (directory : List Part) : Option (String × Bytes) :=
  readGuidance (call.repository.treeOf call.expectation.trustedRevision) call.expectation.trustedRevision directory

/-- `path.encode("utf-8") + b"\0" + str(len(content)).encode("ascii") + b"\0" + content`, for each of them. -/
def acceptedBytes (material : List (String × Bytes)) : Bytes := frames 0 asciiDecimal (material.map fun m => (utf8 m.1, m.2))

/-- `resolve_authoritative_guidance` -/
def resolveAuthoritativeGuidance (host : GuidanceHost) (call : GuidanceCall) : Except Error TrustedGuidance := do
  let relative ← relativePath host.toUnicode call.taskRelativePath
  call.checkRepository host
  let material := (parents relative).filterMap call.read
  refuse (material = []) (.roleCapability "no authoritative AGENTS.md guidance applies")
  let identity := host.digestValue (.obj
    [("schema", .str "roundwright-authoritative-guidance-expectation/v1"),
      ("repository", .digest call.expectation.repositoryIdentity), ("revision", .hex call.expectation.trustedRevision),
      ("tree", .digest call.expectation.treeDigest)])
  let guidance : TrustedGuidance :=
    ⟨identity, call.view, material.map (·.1), host.digestValue (materialJson host material), acceptedBytes material⟩
  guidance.check host
  return guidance

end Roundwright.Role
