/-
Validated identity texts, the exceptions the modelled code raises, and the parts of the host the
model leaves open.

A `dataclass` whose constructor refuses malformed text becomes a structure over these subtypes, so
a value that exists is well formed and a row read back needs no second validation.
-/
import Mathlib.Order.Basic
import Mathlib.Order.Fin.Basic
import Mathlib.Data.String.Basic
import Mathlib.Tactic.Ring

namespace Roundwright

/-! ## Identity texts -/

/-- A text of one head character and at most `most` tail characters. -/
def headTail (head tail : Char → Bool) (most : Nat) (text : String) : Bool :=
  match text.toList with
  | [] => false
  | c :: cs => head c && cs.all tail && cs.length ≤ most

def isLowerHex (c : Char) : Bool := c.isDigit || ('a' ≤ c && c ≤ 'f')

/-- Exactly `length` lowercase hexadecimal digits. -/
def isHex (length : Nat) (text : String) : Bool :=
  text.toList.length == length && text.toList.all isLowerHex

/-- `_TOKEN`: a lowercase letter, then at most 127 lowercase letters, digits, `.`, `_`, `/`, `-`. -/
def isToken (text : String) : Bool :=
  headTail Char.isLower (fun c => c.isLower || c.isDigit || c ∈ ['.', '_', '/', '-']) 127 text

/-- `_OPAQUE_IDENTITY`: as a token, with letters of both cases and a digit allowed in front. -/
def isOpaqueIdentity (text : String) : Bool :=
  headTail Char.isAlphanum (fun c => c.isAlphanum || c ∈ ['.', '_', '/', '-']) 127 text

/-- `_REASON`: a lowercase letter, then at most 63 lowercase letters, digits and `-`. -/
def isReason (text : String) : Bool :=
  headTail Char.isLower (fun c => c.isLower || c.isDigit || c == '-') 63 text

abbrev Token := { text : String // isToken text = true }
abbrev OpaqueIdentity := { text : String // isOpaqueIdentity text = true }
abbrev Reason := { text : String // isReason text = true }

/-! ## Hexadecimal texts

A text of a fixed number of lowercase hexadecimal digits is kept as the number it writes: `text` is
injective, matches the pattern of the source and is in the order of the numbers. -/

def hexDigit (n : Nat) : Char := if n < 10 then Char.ofNat (48 + n) else Char.ofNat (87 + n)

/-- The last `count` hexadecimal digits of a number. -/
def hexDigits (count n : Nat) : List Char := (List.range count).reverse.map fun i => hexDigit (n / 16 ^ i % 16)

structure Hex (digits : Nat) where
  value : Fin (16 ^ digits)
deriving DecidableEq

/-- A full lowercase commit: `[0-9a-f]{40}`. -/
abbrev Sha := Hex 40
/-- A digest without its algorithm: `[0-9a-f]{64}`. -/
abbrev PlainDigest := Hex 64

/-- `_DIGEST`: `sha256:` and 64 hexadecimal digits. -/
structure Digest where
  sha256 ::
  hex : PlainDigest
deriving DecidableEq

def Hex.text {digits : Nat} (h : Hex digits) : String := String.ofList (hexDigits digits h.value)

def Digest.text (d : Digest) : String := "sha256:" ++ d.hex.text

instance {digits : Nat} : LinearOrder (Hex digits) := LinearOrder.lift' Hex.value fun a b h => by cases a; cases b; cases h; rfl

instance : LinearOrder Digest := LinearOrder.lift' Digest.hex fun a b h => by cases a; cases b; cases h; rfl

theorem isLowerHex_hexDigit (n : Nat) : isLowerHex (hexDigit (n % 16)) = true := by
  have h : ∀ m < 16, isLowerHex (hexDigit m) = true := by decide
  exact h _ (Nat.mod_lt _ (by decide))

theorem Hex.isHex_text {digits : Nat} (h : Hex digits) : isHex digits h.text = true := by
  unfold isHex text
  rw [String.toList_ofList]
  simp [hexDigits, isLowerHex_hexDigit]

theorem hexDigit_lt : ∀ a < 16, ∀ b < 16, a < b → hexDigit a < hexDigit b := by decide

theorem hexDigits_succ (count n : Nat) :
    hexDigits (count + 1) n = hexDigit (n / 16 ^ count % 16) :: hexDigits count n := by
  simp [hexDigits, List.range_succ]

/-- Digit by digit, a smaller number writes a smaller text. -/
theorem hexDigits_lt : ∀ {count a b : Nat}, a % 16 ^ count < b % 16 ^ count → hexDigits count a < hexDigits count b
  | 0, a, b, h => by simp [Nat.mod_one] at h
  | count + 1, a, b, h => by
    rw [Nat.pow_succ, Nat.mod_mul, Nat.mod_mul] at h
    rw [hexDigits_succ, hexDigits_succ, List.cons_lt_cons_iff]
    have hmod : ∀ n, n % 16 < 16 := fun n => Nat.mod_lt _ (by decide)
    have ha : a % 16 ^ count < 16 ^ count := Nat.mod_lt _ (Nat.pow_pos (by decide))
    have hb : b % 16 ^ count < 16 ^ count := Nat.mod_lt _ (Nat.pow_pos (by decide))
    rcases Nat.lt_trichotomy (a / 16 ^ count % 16) (b / 16 ^ count % 16) with hlt | heq | hgt
    · exact .inl (hexDigit_lt _ (hmod _) _ (hmod _) hlt)
    · rw [heq] at h ⊢
      exact .inr ⟨rfl, hexDigits_lt (by omega)⟩
    · have := Nat.mul_le_mul_left (16 ^ count) hgt
      rw [Nat.mul_succ] at this
      omega

/-- The order of the numbers is the order of the texts, and no two numbers have one text. -/
theorem Hex.text_strictMono {digits : Nat} : StrictMono fun h : Hex digits => h.text := by
  intro a b h
  have hlt : (a.value : Nat) < b.value := h
  show a.text < b.text
  rw [Hex.text, Hex.text, String.lt_iff_toList_lt, String.toList_ofList, String.toList_ofList]
  refine hexDigits_lt ?_
  rwa [Nat.mod_eq_of_lt a.value.isLt, Nat.mod_eq_of_lt b.value.isLt]

/-- The hexadecimal text of the last digits of a number. -/
def Hex.ofNat (digits n : Nat) : Hex digits := ⟨⟨n % 16 ^ digits, Nat.mod_lt _ (Nat.pow_pos (by decide))⟩⟩

/-- The number written by hexadecimal digits. -/
def hexValue (chars : List Char) : Nat :=
  chars.foldl (fun acc c => acc * 16 + if c.isDigit then c.toNat - 48 else c.toNat - 87) 0

def Hex.ofText? (digits : Nat) (text : String) : Option (Hex digits) :=
  if isHex digits text then some (.ofNat digits (hexValue text.toList)) else none

def Digest.ofText? (text : String) : Option Digest :=
  if text.toList.take 7 = "sha256:".toList then (Hex.ofText? 64 (String.ofList (text.toList.drop 7))).map .sha256 else none

/-! What is written is read. -/

theorem hexValue_cons (c : Char) (chars : List Char) :
    hexValue (c :: chars) = (if c.isDigit then c.toNat - 48 else c.toNat - 87) * 16 ^ chars.length + hexValue chars := by
  have hfold : ∀ (chars : List Char) (acc : Nat),
      chars.foldl (fun acc c => acc * 16 + if c.isDigit then c.toNat - 48 else c.toNat - 87) acc =
        acc * 16 ^ chars.length + hexValue chars := by
    intro chars
    induction chars with
    | nil => intro acc; simp [hexValue]
    | cons d rest ih =>
      intro acc
      unfold hexValue
      rw [List.foldl_cons, List.foldl_cons, ih, ih, List.length_cons, pow_succ]
      ring
  unfold hexValue
  rw [List.foldl_cons, hfold, Nat.zero_mul, Nat.zero_add]
  rfl

theorem hexValue_hexDigits (count n : Nat) : hexValue (hexDigits count n) = n % 16 ^ count := by
  have hdigit : ∀ m < 16, (if (hexDigit m).isDigit then (hexDigit m).toNat - 48 else (hexDigit m).toNat - 87) = m := by decide
  induction count with
  | zero => simp [hexDigits, hexValue, Nat.mod_one]
  | succ count ih =>
    have hlength : (hexDigits count n).length = count := by simp [hexDigits]
    rw [hexDigits_succ, hexValue_cons, hdigit _ (Nat.mod_lt _ (by decide)), hlength, ih, Nat.pow_succ, Nat.mod_mul]
    ring

theorem Hex.ofText?_text {digits : Nat} (h : Hex digits) : Hex.ofText? digits h.text = some h := by
  unfold Hex.ofText?
  rw [if_pos h.isHex_text, Option.some.injEq]
  obtain ⟨value, hlt⟩ := h
  simp only [Hex.text, String.toList_ofList, hexValue_hexDigits, Hex.ofNat, Nat.mod_eq_of_lt hlt]

theorem Digest.ofText?_text (d : Digest) : Digest.ofText? d.text = some d := by
  have htext : d.text.toList = "sha256:".toList ++ d.hex.text.toList := String.toList_append
  have hseven : ("sha256:".toList).length = 7 := rfl
  unfold Digest.ofText?
  rw [htext, List.take_left' hseven, if_pos rfl, List.drop_left' hseven, String.ofList_toList, Hex.ofText?_text]
  rfl

/-! ## JSON -/

/-- The JSON values the code hashes; object fields are listed in source order. A hexadecimal text and a
digest are written as their texts. -/
inductive Json where
  | null
  | bool (value : Bool)
  | num (value : Int)
  | str (value : String)
  | hex {digits : Nat} (value : Hex digits)
  | digest (value : Digest)
  | arr (items : List Json)
  | obj (fields : List (String × Json))

/-- An optional text: the text, or `null`. -/
def Json.ofOption : Option String → Json
  | some text => .str text
  | none => .null

/-- An optional digest: the digest, or `null`. -/
def Json.ofDigest : Option Digest → Json
  | some value => .digest value
  | none => .null

/-! ## Exceptions -/

/-- The exceptions the modelled code raises, with their messages. `gitIdentity`, `gate`, `workerPlanning`,
`candidateReview` and `providerRecovery` are subclasses of `StateError`, `providerAttemptAbsent` one of
`ProviderRecoveryError`; `scopeAdmissionDenied` is a subclass of `FailureRecoveryError`; `integrity` is
`sqlite3.IntegrityError`; `attribute` is an `AttributeError`; `overflow` is the `OverflowError` of an integer that no
INTEGER column holds. -/
inductive Error where
  | state (message : String)
  | gitIdentity (message : String)
  | gate (message : String)
  | workerPlanning (message : String)
  | planReview (message : String)
  | candidateReview (message : String)
  | dependencyReview (message : String)
  | dependencyGraph (message : String)
  | failureRecovery (message : String)
  | scopeAdmissionDenied (message : String)
  | providerRecovery (message : String)
  | providerAttemptAbsent (message : String)
  | reviewLifecycle (message : String)
  | roleCapability (message : String)
  | gitHubRuntime (message : String)
  | gitHubContract (message : String)
  | deploymentHandoff (message : String)
  | configuredSource (message : String)
  | codingWorkerState (message : String)
  | codingTool (message : String)
  | codexWorker (message : String)
  | workerShadow (message : String)
  | dependencyPolicy (message : String)
  | provenanceRecord (message : String)
  | attribute
  | integrity
  | overflow
deriving DecidableEq

/-! ## The host -/

/-- What the code takes from its host and the model leaves open: `digestJson` is SHA-256 over the
canonical JSON text of a value and `hexdigest` is SHA-256 of a text, both in hexadecimal;
`canonicalWorktreeKey` is the platform's normal form of an absolute path, or nothing for any other
path. Every theorem holds for all of them, collisions included. -/
structure Host where
  digestJson : Json → PlainDigest
  hexdigest : String → PlainDigest
  canonicalWorktreeKey : String → Option String

/-- `_digest_value` -/
def Host.digestValue (host : Host) (value : Json) : Digest := .sha256 (host.digestJson value)

/-! ## A host to run the model on

SHA-256 is replaced by a polynomial fold over the values, so that runs can be evaluated. -/

def mixDigit (acc digit : Nat) : Nat := (acc * 1099511628211 + digit + 1) % 2 ^ 256

def mixText (acc : Nat) (text : String) : Nat :=
  text.toByteArray.data.toList.foldl (fun acc byte => mixDigit acc byte.toNat) (mixDigit acc 0)

mutual

def mixJson : Json → Nat → Nat
  | .null, acc => mixDigit acc 1
  | .bool value, acc => mixDigit acc (if value then 2 else 3)
  | .num value, acc => mixDigit (mixDigit acc 4) value.natAbs
  | .str value, acc => mixText (mixDigit acc 5) value
  | .hex value, acc => mixDigit (mixDigit acc 6) value.value
  | .digest value, acc => mixDigit (mixDigit acc 7) value.hex.value
  | .arr items, acc => mixItems items (mixDigit acc 8)
  | .obj fields, acc => mixFields fields (mixDigit acc 9)

def mixItems : List Json → Nat → Nat
  | [], acc => mixDigit acc 10
  | item :: rest, acc => mixItems rest (mixJson item acc)

def mixFields : List (String × Json) → Nat → Nat
  | [], acc => mixDigit acc 11
  | (_, value) :: rest, acc => mixFields rest (mixJson value acc)

end

/-- Digests by polynomial fold, paths taken as they are. -/
def Host.sample : Host where
  digestJson value := .ofNat 64 (mixJson value 0)
  hexdigest text := .ofNat 64 (mixText 0 text)
  canonicalWorktreeKey path := some path

end Roundwright
