/-
JSON texts as `json.dumps` with sorted keys writes them and `json.loads` reads them. An object is kept in the order of
its keys, the order in which it is written, so two objects are equal exactly when they have the same fields. What is
written is read back: the main result is `loads_dumps`.

A float is read and written by a codec of its own: of a float only its written form, and that it is read back from it,
is said here.
-/
import Roundwright.Lib.Table
import Mathlib.Data.Nat.Digits.Defs
import Mathlib.Data.Nat.Digits.Lemmas
import Mathlib.Data.String.Basic

namespace Roundwright.Lib.JsonText

/-! ## Values -/

inductive Value (F : Type) where
  | null
  | bool (value : Bool)
  | int (value : Int)
  | float (value : F)
  | infinity (negative : Bool)
  | str (text : String)
  | arr (items : List (Value F))
  | obj (fields : List (String × Value F))

/-- The text of a number, cut as the scanner cuts it. -/
structure NumberText where
  negative : Bool
  whole : List Char
  fraction : List Char
  exponent : List Char

namespace NumberText

def text (t : NumberText) : List Char := (if t.negative then ['-'] else []) ++ t.whole ++ t.fraction ++ t.exponent

def isInt (t : NumberText) : Bool := t.fraction = [] && t.exponent = []

/-- The forms in which numbers are written. -/
structure Valid (t : NumberText) : Prop where
  whole : t.whole = ['0'] ∨ ∃ c cs, t.whole = c :: cs ∧ c ≠ '0' ∧ c.isDigit = true ∧ cs.all Char.isDigit = true
  fraction : t.fraction = [] ∨ ∃ c cs, t.fraction = '.' :: c :: cs ∧ c.isDigit = true ∧ cs.all Char.isDigit = true
  exponent : t.exponent = [] ∨ ∃ sign c cs, t.exponent = 'e' :: sign :: c :: cs ∧ (sign = '+' ∨ sign = '-') ∧ c.isDigit = true ∧
    cs.all Char.isDigit = true

end NumberText

/-- The floats of the host: `float(text)`, which is infinite for a text beyond the largest of them, `repr`, and the
integer that a float is equal to. -/
structure Floats (F : Type) where
  read : NumberText → Option F
  write : F → NumberText
  integer? : F → Option Int
  write_valid : ∀ f, (write f).Valid
  write_float : ∀ f, (write f).isInt = false
  read_write : ∀ f, read (write f) = some f

/-- No text is a floating-point number. -/
def Floats.empty : Floats Empty where
  read _ := none
  write := Empty.elim
  integer? := Empty.elim
  write_valid f := f.elim
  write_float f := f.elim
  read_write f := f.elim

namespace Value

variable {F : Type}

/-- A `dict`. -/
def dict (fields : List (String × Value F)) : Value F := .obj (sortBy (·.1) fields)

/-- `value.get(key)`; nothing else than a `dict` has keys. -/
def get? : Value F → String → Option (Value F)
  | .obj fields, key => (fields.find? fun f => f.1 = key).map (·.2)
  | _, _ => none

def keys : Value F → List String
  | .obj fields => fields.map (·.1)
  | _ => []

/-- `set(value) == names` -/
def hasKeys (v : Value F) (names : List String) : Bool := v.keys.all (· ∈ names) && names.all (· ∈ v.keys)

def isDict : Value F → Bool
  | .obj _ => true
  | _ => false

/-- `dict` without a key. -/
def without (key : String) : Value F → Value F
  | .obj fields => .obj (fields.filter fun f => f.1 ≠ key)
  | v => v

/-- What a number counts for: `True == 1 == 1.0`. -/
def numeric (floats : Floats F) : Value F → Option (Int ⊕ F)
  | .bool b => some (.inl b.toNat)
  | .int n => some (.inl n)
  | .float f => some ((floats.integer? f).elim (.inr f) .inl)
  | _ => none

mutual

/-- `==`, of values whose floats are no more than numbers. -/
def same [DecidableEq F] (floats : Floats F) : Value F → Value F → Bool
  | .null, .null => true
  | .str a, .str b => a = b
  | .infinity a, .infinity b => a = b
  | .arr a, .arr b => sameItems floats a b
  | .obj a, .obj b => sameFields floats a b
  | a, b => (numeric floats a).isSome && numeric floats a = numeric floats b

def sameItems [DecidableEq F] (floats : Floats F) : List (Value F) → List (Value F) → Bool
  | [], [] => true
  | a :: as, b :: bs => same floats a b && sameItems floats as bs
  | _, _ => false

def sameFields [DecidableEq F] (floats : Floats F) : List (String × Value F) → List (String × Value F) → Bool
  | [], [] => true
  | (i, a) :: as, (j, b) :: bs => i = j && same floats a b && sameFields floats as bs
  | _, _ => false

end

end Value

/-! ## Writing -/

def hexChar (n : Nat) : Char := if n < 10 then Char.ofNat (48 + n) else Char.ofNat (87 + n)

/-- `\uXXXX` without its backslash. -/
def unicodeEscape (n : Nat) : List Char :=
  ['u', hexChar (n / 4096 % 16), hexChar (n / 256 % 16), hexChar (n / 16 % 16), hexChar (n % 16)]

/-- `py_encode_basestring_ascii`, one character; beyond the basic plane a pair of surrogates. -/
def writeChar (c : Char) : List Char :=
  if c = '"' then ['\\', '"']
  else if c = '\\' then ['\\', '\\']
  else if c = '\n' then ['\\', 'n']
  else if c = '\r' then ['\\', 'r']
  else if c = '\t' then ['\\', 't']
  else if c = '\x0c' then ['\\', 'f']
  else if c = '\x08' then ['\\', 'b']
  else if 0x20 ≤ c.toNat ∧ c.toNat ≤ 0x7e then [c]
  else if c.toNat < 0x10000 then '\\' :: unicodeEscape c.toNat
  else '\\' :: unicodeEscape (0xd800 + (c.toNat - 0x10000) / 0x400) ++ '\\' :: unicodeEscape (0xdc00 + (c.toNat - 0x10000) % 0x400)

def writeString (text : String) : List Char := '"' :: text.toList.flatMap writeChar ++ ['"']

def decimalChar (n : Nat) : Char := Char.ofNat (48 + n)

def decimal (n : Nat) : List Char := if n = 0 then ['0'] else (Nat.digits 10 n).reverse.map decimalChar

def intText (n : Int) : NumberText := ⟨n < 0, decimal n.natAbs, [], []⟩

section Write

variable {F : Type} (floats : Floats F)

mutual

def write : Value F → List Char
  | .null => ['n', 'u', 'l', 'l']
  | .bool true => ['t', 'r', 'u', 'e']
  | .bool false => ['f', 'a', 'l', 's', 'e']
  | .int n => (intText n).text
  | .float f => (floats.write f).text
  | .infinity negative => (if negative then ['-'] else []) ++ ['I', 'n', 'f', 'i', 'n', 'i', 't', 'y']
  | .str text => writeString text
  | .arr items => '[' :: writeItems items ++ [']']
  | .obj fields => '{' :: writeFields fields ++ ['}']

def writeItems : List (Value F) → List Char
  | [] => []
  | [v] => write v
  | v :: w :: rest => write v ++ ',' :: writeItems (w :: rest)

def writeFields : List (String × Value F) → List Char
  | [] => []
  | [(key, v)] => writeString key ++ ':' :: write v
  | (key, v) :: w :: rest => writeString key ++ ':' :: write v ++ ',' :: writeFields (w :: rest)

end

/-- `json.dumps(value, sort_keys=True, separators=(",", ":"), ensure_ascii=True)` -/
def dumps (v : Value F) : String := String.ofList (write floats v)

end Write

/-! ## Reading -/

def isSpace (c : Char) : Bool := c = ' ' || c = '\t' || c = '\n' || c = '\r'

def skip (cs : List Char) : List Char := cs.dropWhile isSpace

def hexValue? (c : Char) : Option Nat :=
  if c.isDigit then some (c.toNat - 48)
  else if 'a' ≤ c ∧ c ≤ 'f' then some (c.toNat - 87)
  else if 'A' ≤ c ∧ c ≤ 'F' then some (c.toNat - 55)
  else none

def readUnicode : List Char → Option (Nat × List Char)
  | a :: b :: c :: d :: rest => do
    let a ← hexValue? a
    let b ← hexValue? b
    let c ← hexValue? c
    let d ← hexValue? d
    return (a * 4096 + b * 256 + c * 16 + d, rest)
  | _ => none

/-- The second of two surrogates. A surrogate without its partner, which no `String` holds, is refused. -/
def readPartner (high : Nat) : List Char → Option (Char × List Char)
  | a :: b :: rest =>
    if a = '\\' ∧ b = 'u' then do
      let (low, rest) ← readUnicode rest
      if 0xdc00 ≤ low ∧ low ≤ 0xdfff then some (Char.ofNat (0x10000 + (high - 0xd800) * 0x400 + (low - 0xdc00)), rest) else none
    else none
  | _ => none

/-- What follows a backslash. -/
def readEscape : List Char → Option (Char × List Char)
  | [] => none
  | c :: rest =>
    if c = '"' ∨ c = '\\' ∨ c = '/' then some (c, rest)
    else if c = 'n' then some ('\n', rest)
    else if c = 'r' then some ('\r', rest)
    else if c = 't' then some ('\t', rest)
    else if c = 'f' then some ('\x0c', rest)
    else if c = 'b' then some ('\x08', rest)
    else if c = 'u' then do
      let (high, rest) ← readUnicode rest
      if 0xd800 ≤ high ∧ high ≤ 0xdbff then readPartner high rest
      else if 0xdc00 ≤ high ∧ high ≤ 0xdfff then none
      else some (Char.ofNat high, rest)
    else none

/-- The characters up to the closing quote. Every step takes one character at least, so the length of the text is fuel
enough. -/
def readChars : Nat → List Char → Option (List Char × List Char)
  | 0, _ => none
  | _ + 1, [] => none
  | fuel + 1, c :: rest =>
    if c = '"' then some ([], rest)
    else if c = '\\' then do
      let (d, rest) ← readEscape rest
      let (ds, rest) ← readChars fuel rest
      return (d :: ds, rest)
    else if c.toNat < 0x20 then none
    else do
      let (ds, rest) ← readChars fuel rest
      return (c :: ds, rest)

/-- A string after its opening quote. -/
def readString (cs : List Char) : Option (String × List Char) :=
  (readChars (cs.length + 1) cs).map fun r => (String.ofList r.1, r.2)

def readWhole : List Char → Option (List Char × List Char)
  | [] => none
  | c :: rest =>
    if c = '0' then some (['0'], rest)
    else if c.isDigit then some (c :: rest.takeWhile Char.isDigit, rest.dropWhile Char.isDigit)
    else none

/-- Digits after a mark, or nothing where there are none. -/
def readDigits (mark cs rest : List Char) : List Char × List Char :=
  if rest.takeWhile Char.isDigit = [] then ([], cs) else (mark ++ rest.takeWhile Char.isDigit, rest.dropWhile Char.isDigit)

def readFraction (cs : List Char) : List Char × List Char :=
  match cs with
  | [] => ([], cs)
  | c :: rest => if c = '.' then readDigits ['.'] cs rest else ([], cs)

def readExponent (cs : List Char) : List Char × List Char :=
  match cs with
  | [] => ([], cs)
  | c :: rest =>
    if c = 'e' ∨ c = 'E' then
      match rest with
      | [] => ([], cs)
      | sign :: digits => if sign = '+' ∨ sign = '-' then readDigits [c, sign] cs digits else readDigits [c] cs rest
    else ([], cs)

/-- `NUMBER_RE` -/
def readNumber (cs : List Char) : Option (NumberText × List Char) := do
  let (negative, cs) := if cs.head? = some '-' then (true, cs.tail) else (false, cs)
  let (whole, cs) ← readWhole cs
  let (fraction, cs) := readFraction cs
  let (exponent, cs) := readExponent cs
  return (⟨negative, whole, fraction, exponent⟩, cs)

/-- The number that decimal digits write. -/
def decimalValue (cs : List Char) : Nat := Nat.ofDigits 10 (cs.reverse.map fun c => c.toNat - 48)

section Read

variable {F : Type} (floats : Floats F)

def NumberText.value (t : NumberText) : Value F :=
  if t.isInt then .int (if t.negative then -(decimalValue t.whole : Int) else decimalValue t.whole)
  else (floats.read t).elim (.infinity t.negative) .float

/-- `NaN` and the infinities, which begin no number, are refused with everything else. -/
def readLiteral (cs : List Char) : Option (Value F × List Char) :=
  if cs.take 4 = ['n', 'u', 'l', 'l'] then some (.null, cs.drop 4)
  else if cs.take 4 = ['t', 'r', 'u', 'e'] then some (.bool true, cs.drop 4)
  else if cs.take 5 = ['f', 'a', 'l', 's', 'e'] then some (.bool false, cs.drop 5)
  else (readNumber cs).map fun r => (r.1.value floats, r.2)

mutual

/-- `scan_once`; an object with a key twice is refused. Every call has one character less than its caller, so the length
of the text is fuel enough. -/
def readValue : Nat → List Char → Option (Value F × List Char)
  | 0, _ => none
  | _ + 1, [] => none
  | fuel + 1, c :: rest =>
    if c = '"' then (readString rest).map fun r => (.str r.1, r.2)
    else if c = '[' then
      if (skip rest).head? = some ']' then some (.arr [], (skip rest).tail)
      else (readItems fuel (skip rest)).map fun r => (.arr r.1, r.2)
    else if c = '{' then
      if (skip rest).head? = some '}' then some (.dict [], (skip rest).tail)
      else do
        let (fields, rest) ← readFields fuel (skip rest)
        if (fields.map (·.1)).Nodup then some (.dict fields, rest) else none
    else readLiteral floats (c :: rest)

/-- The items up to the closing bracket. -/
def readItems : Nat → List Char → Option (List (Value F) × List Char)
  | 0, _ => none
  | fuel + 1, cs => do
    let (v, rest) ← readValue fuel cs
    if (skip rest).head? = some ',' then do
      let (vs, rest) ← readItems fuel (skip (skip rest).tail)
      return (v :: vs, rest)
    else if (skip rest).head? = some ']' then return ([v], (skip rest).tail)
    else none

/-- The fields up to the closing brace. -/
def readFields : Nat → List Char → Option (List (String × Value F) × List Char)
  | 0, _ => none
  | _ + 1, [] => none
  | fuel + 1, c :: rest =>
    if c = '"' then do
      let (key, rest) ← readString rest
      if (skip rest).head? = some ':' then do
        let (v, rest) ← readValue fuel (skip (skip rest).tail)
        if (skip rest).head? = some ',' then do
          let (fields, rest) ← readFields fuel (skip (skip rest).tail)
          return ((key, v) :: fields, rest)
        else if (skip rest).head? = some '}' then return ([(key, v)], (skip rest).tail)
        else none
      else none
    else none

end

/-- `json.loads` with a hook that refuses an object with a key twice, and no constants. -/
def loads (text : String) : Option (Value F) := do
  let cs := skip text.toList
  let (v, rest) ← readValue floats (cs.length + 1) cs
  if skip rest = [] then some v else none

end Read

/-! ## Strings are read back -/

theorem hexValue?_hexChar : ∀ n < 16, hexValue? (hexChar n) = some n := by decide

theorem readUnicode_escape {n : Nat} (h : n < 0x10000) (rest : List Char) :
    readUnicode ((unicodeEscape n).tail ++ rest) = some (n, rest) := by
  have hdigit : ∀ m, hexValue? (hexChar (m % 16)) = some (m % 16) := fun m => hexValue?_hexChar _ (Nat.mod_lt _ (by decide))
  have hvalue : n / 4096 % 16 * 4096 + n / 256 % 16 * 256 + n / 16 % 16 * 16 + n % 16 = n := by omega
  simp [unicodeEscape, readUnicode, hdigit, hvalue]

/-- A code point is no surrogate. -/
theorem toNat_ranges (c : Char) : c.toNat < 0xd800 ∨ (0xdfff < c.toNat ∧ c.toNat < 0x110000) := c.valid

theorem readEscape_unicode {n : Nat} (h : n < 0x10000) (rest : List Char) :
    readEscape (unicodeEscape n ++ rest) =
      if 0xd800 ≤ n ∧ n ≤ 0xdbff then readPartner n rest
      else if 0xdc00 ≤ n ∧ n ≤ 0xdfff then none
      else some (Char.ofNat n, rest) := by
  have hread := readUnicode_escape h rest
  rw [show unicodeEscape n = 'u' :: (unicodeEscape n).tail from rfl, List.cons_append]
  simp only [readEscape, hread]
  rfl

theorem readPartner_unicode {high low : Nat} (h : 0xdc00 ≤ low ∧ low ≤ 0xdfff) (rest : List Char) :
    readPartner high ('\\' :: unicodeEscape low ++ rest) =
    some (Char.ofNat (0x10000 + (high - 0xd800) * 0x400 + (low - 0xdc00)), rest) := by
  have hread := readUnicode_escape (show low < 0x10000 by omega) rest
  rw [show unicodeEscape low = 'u' :: (unicodeEscape low).tail from rfl, List.cons_append, List.cons_append]
  simp only [readPartner, hread, and_self, if_true, Option.bind_eq_bind, Option.bind_some]
  rw [if_pos h]

/-- Two surrogates write a code point beyond the basic plane. -/
theorem surrogates_value {n high low : Nat} (hn : 0x10000 ≤ n ∧ n < 0x110000)
    (hhigh : high = 0xd800 + (n - 0x10000) / 0x400) (hlow : low = 0xdc00 + (n - 0x10000) % 0x400) :
    (0xd800 ≤ high ∧ high ≤ 0xdbff) ∧ (0xdc00 ≤ low ∧ low ≤ 0xdfff) ∧
      0x10000 + (high - 0xd800) * 0x400 + (low - 0xdc00) = n := by
  omega

theorem readEscape_writeChar {c : Char} {cs : List Char} (h : writeChar c = '\\' :: cs) (rest : List Char) :
    readEscape (cs ++ rest) = some (c, rest) := by
  unfold writeChar at h
  split_ifs at h with h₁ h₂ h₃ h₄ h₅ h₆ h₇ h₈ h₉
  · obtain rfl := (List.cons.inj h).2
    rw [h₁]
    rfl
  · obtain rfl := (List.cons.inj h).2
    rw [h₂]
    rfl
  · obtain rfl := (List.cons.inj h).2
    rw [h₃]
    rfl
  · obtain rfl := (List.cons.inj h).2
    rw [h₄]
    rfl
  · obtain rfl := (List.cons.inj h).2
    rw [h₅]
    rfl
  · obtain rfl := (List.cons.inj h).2
    rw [h₆]
    rfl
  · obtain rfl := (List.cons.inj h).2
    rw [h₇]
    rfl
  · obtain ⟨rfl, rfl⟩ := List.cons.inj h
    exact absurd rfl h₂
  · obtain rfl := (List.cons.inj h).2
    have hrange := toNat_ranges c
    rw [readEscape_unicode h₉, if_neg (by omega), if_neg (by omega), Char.ofNat_toNat]
  · -- a pair of surrogates
    rw [List.cons_append] at h
    obtain rfl := (List.cons.inj h).2
    have hrange := toNat_ranges c
    obtain ⟨hhigh, hlow, hvalue⟩ := surrogates_value (n := c.toNat) (by omega) rfl rfl
    rw [List.append_assoc, readEscape_unicode (by omega), if_pos hhigh, readPartner_unicode hlow, hvalue, Char.ofNat_toNat]

theorem writeChar_cases (c : Char) :
    (∃ cs, writeChar c = '\\' :: cs) ∨ (writeChar c = [c] ∧ c ≠ '"' ∧ c ≠ '\\' ∧ ¬ c.toNat < 0x20) := by
  unfold writeChar
  split_ifs with h₁ h₂ h₃ h₄ h₅ h₆ h₇ h₈ h₉
  all_goals first
    | exact .inl ⟨_, rfl⟩
    | exact .inr ⟨rfl, h₁, h₂, by omega⟩

theorem readChars_write (cs rest : List Char) : ∀ fuel, cs.length < fuel →
    readChars fuel (cs.flatMap writeChar ++ '"' :: rest) = some (cs, rest) := by
  induction cs with
  | nil =>
    intro fuel hfuel
    obtain ⟨fuel, rfl⟩ := Nat.exists_eq_succ_of_ne_zero (Nat.ne_of_gt hfuel)
    simp [readChars]
  | cons c cs ih =>
    intro fuel hfuel
    obtain ⟨fuel, rfl⟩ := Nat.exists_eq_succ_of_ne_zero (Nat.ne_of_gt (Nat.lt_of_le_of_lt (Nat.zero_le _) hfuel))
    have hrest := ih fuel (by simpa using hfuel)
    rw [List.flatMap_cons, List.append_assoc]
    rcases writeChar_cases c with ⟨ds, hds⟩ | ⟨hself, hquote, hslash, hcontrol⟩
    · rw [hds, List.cons_append]
      simp [readChars, readEscape_writeChar hds, hrest]
    · rw [hself, List.singleton_append]
      simp [readChars, hquote, hslash, hcontrol, hrest]

theorem length_flatMap_writeChar (cs : List Char) : cs.length ≤ (cs.flatMap writeChar).length := by
  induction cs with
  | nil => simp
  | cons c cs ih =>
    have hone : 1 ≤ (writeChar c).length := by
      rcases writeChar_cases c with ⟨ds, hds⟩ | ⟨hself, -⟩
      · simp [hds]
      · simp [hself]
    rw [List.flatMap_cons, List.length_append, List.length_cons]
    omega

theorem readString_write (text : String) (rest : List Char) :
    readString (text.toList.flatMap writeChar ++ '"' :: rest) = some (text, rest) := by
  have hlength := length_flatMap_writeChar text.toList
  have hread := readChars_write text.toList rest ((text.toList.flatMap writeChar ++ '"' :: rest).length + 1)
    (by rw [List.length_append]; omega)
  rw [readString, hread, Option.map_some, String.ofList_toList]

/-! ## Numbers are read back -/

/-- What follows a number where it ends. -/
def Stops (rest : List Char) : Prop := ∀ c, rest.head? = some c → c.isDigit = false ∧ c ≠ '.' ∧ c ≠ 'e' ∧ c ≠ 'E'

theorem takeWhile_digits {cs rest : List Char} (hcs : cs.all Char.isDigit = true)
    (hrest : ∀ c, rest.head? = some c → c.isDigit = false) :
    (cs ++ rest).takeWhile Char.isDigit = cs ∧ (cs ++ rest).dropWhile Char.isDigit = rest := by
  have hall : ∀ c ∈ cs, c.isDigit = true := by simpa using hcs
  rw [List.takeWhile_append_of_pos hall, List.dropWhile_append_of_pos hall]
  cases rest with
  | nil => simp
  | cons c rest =>
    have := hrest c rfl
    simp [this]

theorem readDigits_write {mark cs rest : List Char} {c : Char} {ds : List Char} (hc : c.isDigit = true)
    (hds : ds.all Char.isDigit = true) (hrest : ∀ c, rest.head? = some c → c.isDigit = false) :
    readDigits mark cs (c :: ds ++ rest) = (mark ++ c :: ds, rest) := by
  obtain ⟨htake, hdrop⟩ := takeWhile_digits (show (c :: ds).all Char.isDigit = true by rw [List.all_cons, hc, hds]; rfl) hrest
  simp only [readDigits, htake, hdrop]
  simp

variable {rest : List Char}

theorem Stops.noDigit (h : Stops rest) : ∀ c, rest.head? = some c → c.isDigit = false :=
  fun c hc => (h c hc).1

variable {t : NumberText}

theorem readExponent_write (ht : t.Valid) (h : Stops rest) :
    readExponent (t.exponent ++ rest) = (t.exponent, rest) := by
  rcases ht.exponent with hnil | ⟨sign, c, cs, heq, hsign, hc, hcs⟩
  · rw [hnil, List.nil_append]
    cases rest with
    | nil => rfl
    | cons c rest =>
      obtain ⟨-, -, he, hE⟩ := h c rfl
      simp [readExponent, he, hE]
  · rw [heq]
    simp only [readExponent, List.cons_append, true_or, if_true, hsign]
    exact readDigits_write hc hcs h.noDigit

/-- Where the fraction ends, the exponent or the rest begins. -/
theorem exponent_head (ht : t.Valid) (h : Stops rest) :
    ∀ c, (t.exponent ++ rest).head? = some c → c.isDigit = false ∧ c ≠ '.' := by
  intro c hc
  rcases ht.exponent with hnil | ⟨sign, d, cs, heq, -⟩
  · rw [hnil, List.nil_append] at hc
    exact ⟨(h c hc).1, (h c hc).2.1⟩
  · rw [heq] at hc
    obtain rfl : 'e' = c := by simpa using hc
    decide

theorem readFraction_write (ht : t.Valid) (h : Stops rest) :
    readFraction (t.fraction ++ (t.exponent ++ rest)) = (t.fraction, t.exponent ++ rest) := by
  have hhead := exponent_head ht h
  rcases ht.fraction with hnil | ⟨c, cs, heq, hc, hcs⟩
  · rw [hnil, List.nil_append]
    unfold readFraction
    split
    · rename_i heq
      rw [heq]
    · rename_i d ds heq
      rw [if_neg (hhead d (by rw [heq]; rfl)).2]
  · rw [heq]
    simp only [readFraction, List.cons_append, if_true]
    exact readDigits_write hc hcs fun c hc => (hhead c hc).1

theorem fraction_head (ht : t.Valid) (h : Stops rest) :
    ∀ c, (t.fraction ++ (t.exponent ++ rest)).head? = some c → c.isDigit = false := by
  intro c hc
  rcases ht.fraction with hnil | ⟨d, cs, heq, -⟩
  · rw [hnil, List.nil_append] at hc
    exact (exponent_head ht h c hc).1
  · rw [heq] at hc
    obtain rfl : '.' = c := by simpa using hc
    decide

theorem readWhole_write (ht : t.Valid) (h : Stops rest) :
    readWhole (t.whole ++ (t.fraction ++ (t.exponent ++ rest))) = some (t.whole, t.fraction ++ (t.exponent ++ rest)) := by
  rcases ht.whole with heq | ⟨c, cs, heq, hzero, hc, hcs⟩
  · rw [heq]
    rfl
  · rw [heq, List.cons_append]
    obtain ⟨htake, hdrop⟩ := takeWhile_digits hcs (fraction_head ht h)
    simp [readWhole, hzero, hc, htake, hdrop]

theorem whole_head (ht : t.Valid) : ∃ c cs, t.whole = c :: cs ∧ c.isDigit = true := by
  rcases ht.whole with heq | ⟨c, cs, heq, -, hc, -⟩
  · exact ⟨'0', [], heq, by decide⟩
  · exact ⟨c, cs, heq, hc⟩

theorem readNumber_write (ht : t.Valid) (h : Stops rest) : readNumber (t.text ++ rest) = some (t, rest) := by
  have hwhole := readWhole_write ht h
  have hfraction := readFraction_write ht h
  have hexponent := readExponent_write ht h
  have htext : t.text ++ rest = (if t.negative then ['-'] else []) ++ (t.whole ++ (t.fraction ++ (t.exponent ++ rest))) := by
    simp [NumberText.text]
  rw [htext]
  cases hsign : t.negative with
  | true =>
    simp only [readNumber, if_true, List.singleton_append, List.head?_cons, List.tail_cons, hwhole, Option.bind_eq_bind,
      Option.bind_some, hfraction, hexponent, Option.pure_def]
    rw [← hsign]
  | false =>
    have hhead : (t.whole ++ (t.fraction ++ (t.exponent ++ rest))).head? ≠ some '-' := by
      obtain ⟨c, cs, heq, hc⟩ := whole_head ht
      rw [heq]
      rintro hminus
      obtain rfl : c = '-' := by simpa using hminus
      simp at hc
    simp only [readNumber, Bool.false_eq_true, if_false, List.nil_append, hhead, hwhole, Option.bind_eq_bind,
      Option.bind_some, hfraction, hexponent, Option.pure_def]
    rw [← hsign]

theorem decimalChar_digit : ∀ n < 10, (decimalChar n).isDigit = true ∧ (decimalChar n).toNat - 48 = n ∧
    (decimalChar n = '0' → n = 0) := by
  decide

theorem decimalValue_decimal (n : Nat) : decimalValue (decimal n) = n := by
  unfold decimal
  split_ifs with hzero
  · rw [hzero]
    rfl
  · have hdigits : ((Nat.digits 10 n).map decimalChar).map (fun c => c.toNat - 48) = Nat.digits 10 n := by
      rw [List.map_map]
      refine (List.map_congr_left fun d hd => ?_).trans (List.map_id _)
      exact (decimalChar_digit d (Nat.digits_lt_base (by decide) hd)).2.1
    have hback : ((Nat.digits 10 n).reverse.map decimalChar).reverse = (Nat.digits 10 n).map decimalChar := by
      rw [← List.map_reverse, List.reverse_reverse]
    rw [decimalValue, hback, hdigits, Nat.ofDigits_digits]

theorem intText_valid (n : Int) : (intText n).Valid := by
  refine ⟨?_, .inl rfl, .inl rfl⟩
  show decimal n.natAbs = ['0'] ∨ _
  unfold decimal
  split_ifs with hzero
  · exact .inl rfl
  · refine .inr ?_
    -- the first digit written is the last of `digits`, which is no zero
    have hne : Nat.digits 10 n.natAbs ≠ [] := Nat.digits_ne_nil_iff_ne_zero.2 hzero
    have hlast := Nat.getLast_digit_ne_zero 10 hzero
    have hlt : ∀ d ∈ Nat.digits 10 n.natAbs, d < 10 := fun d hd => Nat.digits_lt_base (by decide) hd
    have hsplit : (Nat.digits 10 n.natAbs).reverse =
        (Nat.digits 10 n.natAbs).getLast hne :: (Nat.digits 10 n.natAbs).dropLast.reverse := by
      conv_lhs => rw [← List.dropLast_append_getLast hne]
      simp
    refine ⟨decimalChar ((Nat.digits 10 n.natAbs).getLast hne),
      ((Nat.digits 10 n.natAbs).dropLast.reverse).map decimalChar, ?_, ?_, ?_, ?_⟩
    · conv_lhs => rw [intText]
      simp only
      rw [decimal, if_neg hzero, hsplit, List.map_cons]
    · exact fun heq => hlast ((decimalChar_digit _ (hlt _ (List.getLast_mem hne))).2.2 heq)
    · exact (decimalChar_digit _ (hlt _ (List.getLast_mem hne))).1
    · simp only [List.all_map, List.all_eq_true, List.mem_reverse, Function.comp_apply]
      exact fun d hd => (decimalChar_digit d (hlt d (List.mem_of_mem_dropLast hd))).1

section ReadBack

variable {F : Type} (floats : Floats F)

theorem value_intText (n : Int) : (intText n).value floats = .int n := by
  have hint : (intText n).isInt = true := rfl
  rw [NumberText.value, if_pos hint]
  simp only [intText, decimalValue_decimal]
  congr 1
  by_cases hn : n < 0
  · simp only [hn, decide_true, if_true]
    omega
  · simp only [hn, decide_false, Bool.false_eq_true, if_false]
    omega

theorem value_float (f : F) : (floats.write f).value floats = .float f := by
  rw [NumberText.value, floats.write_float, if_neg (by decide), floats.read_write]
  rfl

/-- A number begins neither a literal nor anything with brackets or quotes. -/
theorem text_head {t : NumberText} (ht : t.Valid) : ∃ c cs, t.text = c :: cs ∧ (c.isDigit = true ∨ c = '-') := by
  obtain ⟨c, cs, heq, hc⟩ := whole_head ht
  cases hsign : t.negative with
  | true => exact ⟨'-', t.whole ++ t.fraction ++ t.exponent, by simp [NumberText.text, hsign], .inr rfl⟩
  | false => exact ⟨c, cs ++ t.fraction ++ t.exponent, by simp [NumberText.text, hsign, heq], .inl hc⟩

theorem readLiteral_number {t : NumberText} (ht : t.Valid) {rest : List Char} (h : Stops rest) :
    readLiteral floats (t.text ++ rest) = some (t.value floats, rest) := by
  have hread := readNumber_write ht h
  obtain ⟨c, cs, heq, hc⟩ := text_head ht
  have hne : c ≠ 'n' ∧ c ≠ 't' ∧ c ≠ 'f' := by
    refine ⟨?_, ?_, ?_⟩ <;> rintro rfl <;> simp at hc
  rw [heq, List.cons_append] at hread ⊢
  simp [readLiteral, hne, hread]

theorem readValue_number {t : NumberText} (ht : t.Valid) (rest : List Char) (fuel : Nat) :
    readValue floats (fuel + 1) (t.text ++ rest) = readLiteral floats (t.text ++ rest) := by
  obtain ⟨c, cs, heq, hc⟩ := text_head ht
  have hne : c ≠ '"' ∧ c ≠ '[' ∧ c ≠ '{' := by
    refine ⟨?_, ?_, ?_⟩ <;> rintro rfl <;> simp at hc
  rw [heq, List.cons_append]
  simp [readValue, hne]

/-! ## Values are read back -/

mutual

/-- The keys of every object are in order, and no number is infinite. -/
def Value.Canonical : Value F → Prop
  | .infinity _ => False
  | .arr items => CanonicalItems items
  | .obj fields => (fields.Pairwise fun a b => a.1 < b.1) ∧ CanonicalFields fields
  | _ => True

def CanonicalItems : List (Value F) → Prop
  | [] => True
  | v :: vs => v.Canonical ∧ CanonicalItems vs

def CanonicalFields : List (String × Value F) → Prop
  | [] => True
  | (_, v) :: fields => v.Canonical ∧ CanonicalFields fields

end

/-- The first character of a value tells it from white space and from a closing bracket. -/
theorem write_head {v : Value F} (hv : v.Canonical) : ∃ c cs, write floats v = c :: cs ∧ isSpace c = false ∧ c ≠ ']' := by
  have hnumber : ∀ t : NumberText, t.Valid → ∃ c cs, t.text = c :: cs ∧ isSpace c = false ∧ c ≠ ']' := by
    intro t ht
    obtain ⟨c, cs, heq, hc⟩ := text_head ht
    refine ⟨c, cs, heq, ?_, ?_⟩
    · unfold isSpace
      rcases hc with hc | rfl
      · by_contra hspace
        simp only [Bool.not_eq_false, Bool.or_eq_true, decide_eq_true_eq] at hspace
        rcases hspace with ((rfl | rfl) | rfl) | rfl <;> simp at hc
      · decide
    · rintro rfl
      simp at hc
  cases v with
  | null => exact ⟨'n', ['u', 'l', 'l'], by simp only [write], by decide, by decide⟩
  | bool b =>
    cases b with
    | true => exact ⟨'t', ['r', 'u', 'e'], by simp only [write], by decide, by decide⟩
    | false => exact ⟨'f', ['a', 'l', 's', 'e'], by simp only [write], by decide, by decide⟩
  | int n =>
    simp only [write]
    exact hnumber _ (intText_valid n)
  | float f =>
    simp only [write]
    exact hnumber _ (floats.write_valid f)
  | infinity negative =>
    simp only [Value.Canonical] at hv
  | str text => exact ⟨'"', text.toList.flatMap writeChar ++ ['"'], by simp only [write]; rfl, by decide, by decide⟩
  | arr items => exact ⟨'[', writeItems floats items ++ [']'], by simp only [write]; rfl, by decide, by decide⟩
  | obj fields => exact ⟨'{', writeFields floats fields ++ ['}'], by simp only [write]; rfl, by decide, by decide⟩

theorem skip_cons {c : Char} {cs : List Char} (h : isSpace c = false) : skip (c :: cs) = c :: cs := by
  simp [skip, h]

theorem stops_mark {c : Char} {cs : List Char} (h : c = ',' ∨ c = ']' ∨ c = '}') : Stops (c :: cs) := by
  intro d hd
  obtain rfl : c = d := by simpa using hd
  rcases h with rfl | rfl | rfl <;> decide

theorem keys_nodup {fields : List (String × Value F)} (h : fields.Pairwise fun a b => a.1 < b.1) : (fields.map (·.1)).Nodup :=
  List.pairwise_map.2 (h.imp fun hlt => ne_of_lt hlt)

theorem dict_of_sorted {fields : List (String × Value F)} (h : fields.Pairwise fun a b => a.1 < b.1) :
    Value.dict fields = .obj fields := by
  rw [Value.dict, sortBy_eq_self (h.imp fun hlt => le_of_lt hlt)]

theorem writeFields_head (f : String × Value F) (fields : List (String × Value F)) :
    ∃ cs, writeFields floats (f :: fields) = '"' :: cs := by
  obtain ⟨key, v⟩ := f
  cases fields with
  | nil => exact ⟨_, by simp only [writeFields, writeString, List.cons_append]; rfl⟩
  | cons w rest => exact ⟨_, by simp only [writeFields, writeString, List.cons_append]; rfl⟩

theorem writeItems_head {v : Value F} (vs : List (Value F)) (hv : v.Canonical) :
    ∃ c cs, writeItems floats (v :: vs) = c :: cs ∧ isSpace c = false ∧ c ≠ ']' := by
  obtain ⟨c, cs, hwrite, hspace, hclose⟩ := write_head floats hv
  cases vs with
  | nil => exact ⟨c, cs, by rw [writeItems, hwrite], hspace, hclose⟩
  | cons w rest => exact ⟨c, cs ++ ',' :: writeItems floats
      (w :: rest), by rw [writeItems, hwrite, List.cons_append], hspace, hclose⟩

-- the induction follows the value; the fuel is at least the length of what is read
mutual

theorem readValue_write (v : Value F) (hv : v.Canonical) (rest : List Char) (hrest : Stops rest) (fuel : Nat)
    (hfuel : (write floats v).length ≤ fuel) : readValue floats fuel (write floats v ++ rest) = some (v, rest) := by
  obtain ⟨c, cs, hwrite, -⟩ := write_head floats hv
  obtain ⟨fuel, rfl⟩ : ∃ n, fuel = n + 1 := ⟨fuel - 1, by rw [hwrite, List.length_cons] at hfuel; omega⟩
  match v, hv with
  | .null, _ => simp [write, readValue, readLiteral]
  | .bool true, _ => simp [write, readValue, readLiteral]
  | .bool false, _ => simp [write, readValue, readLiteral]
  | .int n, _ =>
    simp only [write] at hwrite ⊢
    have hliteral := readLiteral_number floats (intText_valid n) hrest
    rw [value_intText] at hliteral
    exact (readValue_number floats (intText_valid n) rest fuel).trans hliteral
  | .float f, _ =>
    simp only [write] at hwrite ⊢
    have hliteral := readLiteral_number floats (floats.write_valid f) hrest
    rw [value_float] at hliteral
    exact (readValue_number floats (floats.write_valid f) rest fuel).trans hliteral
  | .str text, _ =>
    have hread := readString_write text rest
    simp [write, writeString, readValue, hread]
  | .arr [], _ => simp [write, writeItems, readValue, skip, isSpace]
  | .arr (v :: vs), hv =>
    simp only [write, List.cons_append, List.length_cons, List.length_append, List.append_assoc, List.nil_append] at hfuel ⊢
    have hitems := readItems_write (v :: vs) (List.cons_ne_nil v vs) hv rest fuel (by simpa using hfuel)
    obtain ⟨c, cs, heq, hspace, hclose⟩ := writeItems_head floats vs hv.1
    rw [heq, List.cons_append] at hitems ⊢
    simp [readValue, skip_cons hspace, hclose, hitems]
  | .obj [], _ => simp [write, writeFields, readValue, skip, isSpace, Value.dict, sortBy]
  | .obj (f :: fields), hv =>
    simp only [write, List.cons_append, List.length_cons, List.length_append, List.append_assoc, List.nil_append] at hfuel ⊢
    have hfields := readFields_write (f :: fields) (List.cons_ne_nil f fields) hv.2 rest fuel (by simpa using hfuel)
    obtain ⟨cs, heq⟩ := writeFields_head floats f fields
    rw [heq, List.cons_append] at hfields ⊢
    simp [readValue, skip_cons (show isSpace '"' = false by decide), hfields, dict_of_sorted hv.1, -List.map_cons, keys_nodup hv.1]

theorem readItems_write (items : List (Value F)) (hne : items ≠ []) (hv : CanonicalItems items) (rest : List Char)
    (fuel : Nat) (hfuel : (writeItems floats items).length + 1 ≤ fuel) :
    readItems floats fuel (writeItems floats items ++ ']' :: rest) = some (items, rest) := by
  obtain ⟨fuel, rfl⟩ : ∃ n, fuel = n + 1 := ⟨fuel - 1, by omega⟩
  match items, hv with
  | [], _ => exact absurd rfl hne
  | [v], hv =>
    simp only [writeItems] at hfuel ⊢
    have hread := readValue_write v hv.1 (']' :: rest) (stops_mark (by simp)) fuel (by omega)
    simp [readItems, hread, skip_cons (show isSpace ']' = false by decide)]
  | v :: w :: ws, hv =>
    simp only [writeItems, List.append_assoc, List.cons_append, List.length_append, List.length_cons] at hfuel ⊢
    have hread := readValue_write v hv.1 (',' :: (writeItems floats (w :: ws) ++ ']' :: rest)) (stops_mark (by simp)) fuel (by omega)
    have hitems := readItems_write (w :: ws) (List.cons_ne_nil w ws) hv.2 rest fuel (by omega)
    obtain ⟨c, cs, heq, hspace, -⟩ := writeItems_head floats ws hv.2.1
    rw [heq, List.cons_append] at hitems hread ⊢
    simp [readItems, hread, skip_cons (show isSpace ',' = false by decide), skip_cons hspace, hitems]

theorem readFields_write (fields : List (String × Value F)) (hne : fields ≠ []) (hf : CanonicalFields fields)
    (rest : List Char) (fuel : Nat) (hfuel : (writeFields floats fields).length + 1 ≤ fuel) :
    readFields floats fuel (writeFields floats fields ++ '}' :: rest) = some (fields, rest) := by
  obtain ⟨fuel, rfl⟩ : ∃ n, fuel = n + 1 := ⟨fuel - 1, by omega⟩
  match fields, hf with
  | [], _ => exact absurd rfl hne
  | [(key, v)], hf =>
    simp only [writeFields, writeString, List.append_assoc, List.cons_append, List.length_append, List.length_cons,
      List.nil_append] at hfuel ⊢
    have hkey := readString_write key (':' :: (write floats v ++ '}' :: rest))
    have hread := readValue_write v hf.1 ('}' :: rest) (stops_mark (by simp)) fuel (by omega)
    obtain ⟨c, cs, heq, hspace, -⟩ := write_head floats hf.1
    rw [heq, List.cons_append] at hkey hread ⊢
    simp [readFields, hkey, skip_cons (show isSpace ':' = false by decide), skip_cons hspace, hread,
      skip_cons (show isSpace '}' = false by decide)]
  | (key, v) :: w :: ws, hf =>
    simp only [writeFields, writeString, List.append_assoc, List.cons_append, List.length_append, List.length_cons,
      List.nil_append] at hfuel ⊢
    have hkey := readString_write key (':' :: (write floats v ++ ',' :: (writeFields floats (w :: ws) ++ '}' :: rest)))
    have hread := readValue_write v hf.1 (',' :: (writeFields floats (w :: ws) ++ '}' :: rest))
      (stops_mark (by simp)) fuel (by omega)
    have hfields := readFields_write (w :: ws) (List.cons_ne_nil w ws) hf.2 rest fuel (by omega)
    obtain ⟨c, cs, heq, hspace, -⟩ := write_head floats hf.1
    obtain ⟨ds, hds⟩ := writeFields_head floats w ws
    rw [heq, hds, List.cons_append, List.cons_append] at hkey hread ⊢
    rw [hds, List.cons_append] at hfields
    simp [readFields, hkey, skip_cons (show isSpace ':' = false by decide), skip_cons hspace, hread,
      skip_cons (show isSpace ',' = false by decide), skip_cons (show isSpace '"' = false by decide), hfields]

end

/-- A value is read back from its text. -/
theorem loads_dumps {v : Value F} (hv : v.Canonical) : loads floats (dumps floats v) = some v := by
  obtain ⟨c, cs, heq, hspace, -⟩ := write_head floats hv
  have hskip : skip (write floats v) = write floats v := by
    rw [heq]
    exact skip_cons hspace
  have hread := readValue_write floats v hv [] (fun c hc => by simp at hc) ((write floats v).length + 1) (Nat.le_succ _)
  rw [List.append_nil] at hread
  have hnil : skip [] = [] := rfl
  simp [loads, dumps, hskip, hread, hnil]

/-- No two values have one text. -/
theorem dumps_injective {v w : Value F} (hv : v.Canonical) (hw : w.Canonical) (h : dumps floats v = dumps floats w) : v = w := by
  have hread := loads_dumps floats hv
  rw [h, loads_dumps floats hw] at hread
  exact (Option.some.inj hread).symm

end ReadBack

/-! ## Dicts -/

namespace Value

variable {F : Type}

/-- The text under a key. -/
def text? (v : Value F) (key : String) : Option String :=
  match v.get? key with
  | some (.str text) => some text
  | _ => none

variable {fields : List (String × Value F)}

theorem canonicalFields_iff : CanonicalFields fields ↔ ∀ f ∈ fields, f.2.Canonical := by
  induction fields with
  | nil => simp [CanonicalFields]
  | cons f fields ih =>
    rw [List.forall_mem_cons, ← ih]
    exact Iff.rfl

theorem canonicalItems_iff {items : List (Value F)} : CanonicalItems items ↔ ∀ v ∈ items, v.Canonical := by
  induction items with
  | nil => simp [CanonicalItems]
  | cons v items ih =>
    rw [List.forall_mem_cons, ← ih]
    exact Iff.rfl

theorem dict_canonical (hkeys : (fields.map (·.1)).Nodup) (hfields : ∀ f ∈ fields, f.2.Canonical) : (dict fields).Canonical := by
  refine ⟨sortBy_strict hkeys, canonicalFields_iff.2 fun f hf => hfields f ?_⟩
  exact mem_sortBy.1 hf

@[simp] theorem get?_dict (fields : List (String × Value F)) (key : String) :
    (dict fields).get? key = (fields.find? fun f => f.1 = key).map (·.2) := by
  rw [dict, get?, find?_sortBy]

/-- A `dict` made of a list, at the key of an item. -/
theorem get?_dict_map {α : Type} {key : α → String} {value : α → Value F} {l : List α} (hkeys : (l.map key).Nodup)
    {a : α} (ha : a ∈ l) :
    (dict (l.map fun a => (key a, value a))).get? (key a) = some (value a) := by
  have hnodup : ((l.map fun a => (key a, value a)).map (·.1)).Nodup := by
    rw [List.map_map]
    exact hkeys
  rw [get?_dict, (find?_of_nodup hnodup).2 ⟨List.mem_map_of_mem ha, rfl⟩]
  rfl

@[simp] theorem isDict_dict (fields : List (String × Value F)) : (dict fields).isDict = true := rfl

theorem mem_keys_dict {key : String} : key ∈ (dict fields).keys ↔ key ∈ fields.map (·.1) :=
  ((sortBy_perm (·.1) fields).map _).mem_iff

@[simp] theorem hasKeys_dict (fields : List (String × Value F)) (names : List String) :
    (dict fields).hasKeys names = ((fields.map (·.1)).all (· ∈ names) && names.all (· ∈ fields.map (·.1))) := by
  rw [Bool.eq_iff_iff]
  simp only [hasKeys, Bool.and_eq_true, List.all_eq_true, decide_eq_true_eq, mem_keys_dict]

@[simp] theorem all_keys_dict (fields : List (String × Value F)) (p : String → Bool) :
    (dict fields).keys.all p = (fields.map (·.1)).all p := by
  rw [Bool.eq_iff_iff]
  simp only [List.all_eq_true, mem_keys_dict]

theorem without_dict (hkeys : (fields.map (·.1)).Nodup) (key : String) :
    (dict fields).without key = dict (fields.filter fun f => f.1 ≠ key) := by
  have hperm : ((sortBy (·.1) fields).filter fun f => f.1 ≠ key).Perm (sortBy (·.1) (fields.filter fun f => f.1 ≠ key)) :=
    ((sortBy_perm (·.1) fields).filter _).trans (sortBy_perm (·.1) _).symm
  have hsorted : ((sortBy (·.1) fields).filter fun f => f.1 ≠ key).Pairwise fun a b => a.1 ≤ b.1 :=
    (sortBy_pairwise (·.1) fields).filter _
  have hnodup : (((sortBy (·.1) fields).filter fun f => f.1 ≠ key).map (·.1)).Nodup :=
    (((sortBy_perm (·.1) fields).map (·.1)).nodup_iff.2 hkeys).sublist (List.filter_sublist.map _)
  rw [dict, without, dict, eq_of_perm_of_keys hperm hsorted (sortBy_pairwise _ _) hnodup]

/-! ## Equality -/

mutual

/-- No number is in the value. -/
def plain : Value F → Bool
  | .null => true
  | .str _ => true
  | .arr items => plainItems items
  | .obj fields => plainFields fields
  | _ => false

def plainItems : List (Value F) → Bool
  | [] => true
  | v :: vs => v.plain && plainItems vs

def plainFields : List (String × Value F) → Bool
  | [] => true
  | (_, v) :: fields => v.plain && plainFields fields

end

theorem plainFields_iff : plainFields fields = true ↔ ∀ f ∈ fields, f.2.plain = true := by
  induction fields with
  | nil => simp [plainFields]
  | cons f fields ih =>
    rw [List.forall_mem_cons, ← ih]
    exact Bool.and_eq_true_iff

theorem dict_plain (hfields : ∀ f ∈ fields, f.2.plain = true) : (dict fields).plain = true :=
  plainFields_iff.2 fun f hf => hfields f (mem_sortBy.1 hf)

theorem plainItems_iff {items : List (Value F)} : plainItems items = true ↔ ∀ v ∈ items, v.plain = true := by
  induction items with
  | nil => simp [plainItems]
  | cons v items ih =>
    rw [List.forall_mem_cons, ← ih]
    exact Bool.and_eq_true_iff

variable [DecidableEq F] (floats : Floats F)

-- without numbers, Python's equality is that of the values
mutual

theorem same_iff_eq (v w : Value F) (hw : w.plain = true) : v.same floats w = true ↔ v = w := by
  match v, w, hw with
  | .arr as, .arr bs, hw => simpa [same] using sameItems_iff_eq as bs hw
  | .obj as, .obj bs, hw => simpa [same] using sameFields_iff_eq as bs hw
  | v, .null, _ => cases v <;> simp [same, numeric]
  | v, .str text, _ => cases v <;> simp [same, numeric]
  | .null, .arr _, _ | .bool _, .arr _, _ | .int _, .arr _, _ | .float _, .arr _, _ | .infinity _, .arr _, _ | .str _, .arr _, _
  | .obj _, .arr _, _ | .null, .obj _, _ | .bool _, .obj _, _ | .int _, .obj _, _ | .float _, .obj _, _ | .infinity _, .obj _, _
  | .str _, .obj _, _ | .arr _, .obj _, _ => simp [same, numeric]

theorem sameItems_iff_eq (vs ws : List (Value F)) (hw : plainItems ws = true) : sameItems floats vs ws = true ↔ vs = ws := by
  match vs, ws, hw with
  | [], [], _ => simp [sameItems]
  | [], _ :: _, _ => simp [sameItems]
  | _ :: _, [], _ => simp [sameItems]
  | v :: vs, w :: ws, hw =>
    simp only [plainItems, Bool.and_eq_true] at hw
    simp [sameItems, same_iff_eq v w hw.1, sameItems_iff_eq vs ws hw.2]

theorem sameFields_iff_eq (vs ws : List (String × Value F)) (hw : plainFields ws = true) :
    sameFields floats vs ws = true ↔ vs = ws := by
  match vs, ws, hw with
  | [], [], _ => simp [sameFields]
  | [], _ :: _, _ => simp [sameFields]
  | _ :: _, [], _ => simp [sameFields]
  | (i, v) :: vs, (j, w) :: ws, hw =>
    simp only [plainFields, Bool.and_eq_true] at hw
    simp [sameFields, same_iff_eq v w hw.1, sameFields_iff_eq vs ws hw.2, Prod.ext_iff, and_assoc]

end

mutual

theorem same_refl (v : Value F) : v.same floats v = true := by
  match v with
  | .null | .bool _ | .int _ | .float _ | .infinity _ | .str _ => simp [same, numeric]
  | .arr items => simpa [same] using sameItems_refl items
  | .obj fields => simpa [same] using sameFields_refl fields

theorem sameItems_refl (items : List (Value F)) : sameItems floats items items = true := by
  match items with
  | [] => simp [sameItems]
  | v :: items => simp [sameItems, same_refl v, sameItems_refl items]

theorem sameFields_refl (fields : List (String × Value F)) : sameFields floats fields fields = true := by
  match fields with
  | [] => simp [sameFields]
  | (key, v) :: fields => simp [sameFields, same_refl v, sameFields_refl fields]

end

theorem sameFields_iff {as bs : List (String × Value F)} :
    sameFields floats as bs = true ↔ List.Forall₂ (fun a b => a.1 = b.1 ∧ a.2.same floats b.2 = true) as bs := by
  induction as generalizing bs with
  | nil => cases bs <;> simp [sameFields]
  | cons a as ih =>
    cases bs with
    | nil => simp [sameFields]
    | cons b bs => simp [sameFields, ih, and_assoc]

theorem keys_of_sameFields {as bs : List (String × Value F)}
    (h : List.Forall₂ (fun a b => a.1 = b.1 ∧ a.2.same floats b.2 = true) as bs) : as.map (·.1) = bs.map (·.1) := by
  induction h with
  | nil => rfl
  | cons h _ ih => rw [List.map_cons, List.map_cons, h.1, ih]

/-- Two dicts that are equal in Python are the same, when each field of one has no number or is read as it is from the
other. -/
theorem eq_of_same {v : Value F} (hkeys : (fields.map (·.1)).Nodup) (hsame : v.same floats (.dict fields) = true)
    (hfields : ∀ f ∈ fields, f.2.plain = true ∨ v.get? f.1 = some f.2) : v = .dict fields := by
  unfold dict at *
  cases v with
  | obj as =>
    rw [same, sameFields_iff] at hsame
    have hnodup : (as.map (·.1)).Nodup := by
      rw [keys_of_sameFields floats hsame]
      exact ((sortBy_perm (·.1) fields).map (·.1)).nodup_iff.2 hkeys
    obtain ⟨hlength, hzip⟩ := List.forall₂_iff_zip.1 hsame
    have hequal : List.Forall₂ (· = ·) as (sortBy (·.1) fields) := by
      refine List.forall₂_iff_zip.2 ⟨hlength, fun {a b} hab => ?_⟩
      obtain ⟨ha, hb⟩ := List.of_mem_zip hab
      obtain ⟨hkey, hvalue⟩ := hzip hab
      refine Prod.ext hkey ?_
      rcases hfields b (mem_sortBy.1 hb) with hplain | hread
      · exact (same_iff_eq floats a.2 b.2 hplain).1 hvalue
      · rw [get?, (find?_of_nodup hnodup).2 ⟨ha, hkey⟩] at hread
        exact Option.some.inj hread
    rw [List.forall₂_eq_eq_eq] at hequal
    rw [hequal]
  | _ => simp [same, numeric] at hsame

end Value

end Roundwright.Lib.JsonText
