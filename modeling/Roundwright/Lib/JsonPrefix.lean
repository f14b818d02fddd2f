/-
No text of an object is the beginning of a longer text of a value. Whatever is written, the reader that reads it stops
where it ends, if it reads it at all; so a part of a text that was cut off somewhere is not a text of an object itself.
-/
import Roundwright.Lib.JsonText

namespace Roundwright.Lib.JsonText

variable {F : Type} (floats : Floats F)

theorem write_begins (v : Value F) : ∃ c cs, write floats v = c :: cs ∧ isSpace c = false ∧ c ≠ ']' := by
  cases v with
  | infinity negative =>
    cases negative with
    | true => exact ⟨'-', _, by simp only [write]; rfl, by decide, by decide⟩
    | false => exact ⟨'I', _, by simp only [write]; rfl, by decide, by decide⟩
  | arr items => exact ⟨'[', writeItems floats items ++ [']'], by simp only [write]; rfl, by decide, by decide⟩
  | obj fields => exact ⟨'{', writeFields floats fields ++ ['}'], by simp only [write]; rfl, by decide, by decide⟩
  | null => exact write_head floats (v := .null) trivial
  | bool b => exact write_head floats (v := .bool b) trivial
  | int n => exact write_head floats (v := .int n) trivial
  | float f => exact write_head floats (v := .float f) trivial
  | str text => exact write_head floats (v := .str text) trivial

theorem writeItems_begins (v : Value F) (vs : List (Value F)) :
    ∃ c cs, writeItems floats (v :: vs) = c :: cs ∧ isSpace c = false ∧ c ≠ ']' := by
  obtain ⟨c, cs, hwrite, hspace, hclose⟩ := write_begins floats v
  cases vs with
  | nil => exact ⟨c, cs, by rw [writeItems, hwrite], hspace, hclose⟩
  | cons w rest => exact ⟨c, cs ++ ',' :: writeItems floats
      (w :: rest), by rw [writeItems, hwrite, List.cons_append], hspace, hclose⟩

theorem readLiteral_infinity (negative : Bool) (rest : List Char) :
    readLiteral floats ((if negative then ['-'] else []) ++ ['I', 'n', 'f', 'i', 'n', 'i', 't', 'y'] ++ rest) = none := by
  cases negative with
  | true => simp [readLiteral, readNumber, readWhole]
  | false => simp [readLiteral, readNumber, readWhole]

-- the induction follows the value; a text with an infinity is not read
mutual

theorem readValue_stops (v : Value F) (rest : List Char) (hrest : v.isDict = true ∨ Stops rest) (fuel : Nat) ⦃v' :
    Value F⦄ ⦃rest' : List Char⦄ (h : readValue floats fuel (write floats v ++ rest) = some (v', rest')) : rest' = rest := by
  cases fuel with
  | zero => simp [readValue] at h
  | succ fuel =>
    match v with
    | .null => simp_all [write, readValue, readLiteral]
    | .bool true => simp_all [write, readValue, readLiteral]
    | .bool false => simp_all [write, readValue, readLiteral]
    | .int n =>
      simp only [write] at h
      rw [readValue_number floats (intText_valid n) rest fuel, readLiteral_number floats (intText_valid n)
        (hrest.resolve_left nofun)] at h
      simp_all
    | .float f =>
      simp only [write] at h
      rw [readValue_number floats (floats.write_valid f) rest fuel, readLiteral_number floats (floats.write_valid f)
        (hrest.resolve_left nofun)] at h
      simp_all
    | .infinity negative =>
      have hnone := readLiteral_infinity floats negative rest
      cases negative with
      | true => simp_all [write, readValue]
      | false => simp_all [write, readValue]
    | .str text =>
      have hread := readString_write text rest
      simp_all [write, writeString, readValue]
    | .arr [] => simp_all [write, writeItems, readValue, skip, isSpace]
    | .arr (v :: vs) =>
      simp only [write, List.cons_append, List.append_assoc, List.nil_append] at h
      obtain ⟨c, cs, heq, hspace, hclose⟩ := writeItems_begins floats v vs
      have hitems := readItems_stops (v :: vs) (List.cons_ne_nil v vs) rest fuel
      rw [heq, List.cons_append] at h hitems
      simp only [readValue, skip_cons hspace] at h
      simp only [Char.reduceEq, if_false, if_true, List.head?_cons, Option.some.injEq, hclose, Option.map_eq_some_iff,
        Prod.mk.injEq] at h
      obtain ⟨⟨items', rest''⟩, hread, -, rfl⟩ := h
      exact hitems hread
    | .obj [] => simp_all [write, writeFields, readValue, skip, isSpace, Value.dict, sortBy]
    | .obj (f :: fields) =>
      simp only [write, List.cons_append, List.append_assoc, List.nil_append] at h
      obtain ⟨cs, heq⟩ := writeFields_head floats f fields
      have hfields := readFields_stops (f :: fields) (List.cons_ne_nil f fields) rest fuel
      rw [heq, List.cons_append] at h hfields
      simp only [readValue, skip_cons (show isSpace '"' = false by decide)] at h
      simp only [Char.reduceEq, if_false, if_true, List.head?_cons, Option.some.injEq, Option.bind_eq_bind,
        Option.bind_eq_some_iff] at h
      obtain ⟨⟨fields', rest''⟩, hread, h⟩ := h
      split at h
      · cases h
        exact hfields hread
      · cases h

theorem readItems_stops (items : List (Value F)) (hne : items ≠ []) (rest : List Char) (fuel : Nat) ⦃items' :
    List (Value F)⦄ ⦃rest' : List Char⦄
    (h : readItems floats fuel (writeItems floats items ++ ']' :: rest) = some (items', rest')) : rest' = rest := by
  cases fuel with
  | zero => simp [readItems] at h
  | succ fuel =>
    match items with
    | [] => exact absurd rfl hne
    | [v] =>
      simp only [writeItems, readItems, Option.bind_eq_bind, Option.bind_eq_some_iff] at h
      obtain ⟨⟨v', rest''⟩, hread, h⟩ := h
      obtain rfl := readValue_stops v (']' :: rest) (.inr (stops_mark (by simp))) fuel hread
      simp_all [skip_cons (show isSpace ']' = false by decide)]
    | v :: w :: ws =>
      simp only [writeItems, readItems, List.append_assoc, List.cons_append, Option.bind_eq_bind, Option.bind_eq_some_iff] at h
      obtain ⟨⟨v', rest''⟩, hread, h⟩ := h
      obtain rfl := readValue_stops v (',' :: (writeItems floats (w :: ws) ++ ']' :: rest)) (.inr (stops_mark (by simp))) fuel hread
      have hitems := readItems_stops (w :: ws) (List.cons_ne_nil w ws) rest fuel
      obtain ⟨c, cs, heq, hspace, -⟩ := writeItems_begins floats w ws
      rw [heq, List.cons_append] at h hitems
      simp only [skip_cons (show isSpace ',' = false by decide), List.head?_cons, if_true, List.tail_cons,
        skip_cons hspace, Option.bind_eq_some_iff] at h
      obtain ⟨⟨items'', rest'''⟩, hread', h⟩ := h
      cases h
      exact hitems hread'

theorem readFields_stops (fields : List (String × Value F)) (hne : fields ≠ []) (rest : List Char) (fuel : Nat)
    ⦃fields' : List (String × Value F)⦄ ⦃rest' : List Char⦄
    (h : readFields floats fuel (writeFields floats fields ++ '}' :: rest) = some (fields', rest')) : rest' = rest := by
  cases fuel with
  | zero => simp [readFields] at h
  | succ fuel =>
    match fields with
    | [] => exact absurd rfl hne
    | [(key, v)] =>
      simp only [writeFields, writeString, List.append_assoc, List.cons_append, List.nil_append] at h
      have hkey := readString_write key (':' :: (write floats v ++ '}' :: rest))
      obtain ⟨c, cs, heq, hspace, -⟩ := write_begins floats v
      have hread := readValue_stops v ('}' :: rest) (.inr (stops_mark (by simp))) fuel
      rw [heq, List.cons_append] at hkey h hread
      simp only [readFields, hkey, Option.bind_eq_bind, Option.bind_some,
        skip_cons (show isSpace ':' = false by decide), List.head?_cons, if_true, List.tail_cons, skip_cons hspace,
          Option.bind_eq_some_iff] at h
      obtain ⟨⟨v', rest''⟩, hvalue, h⟩ := h
      obtain rfl := hread hvalue
      simp_all [skip_cons (show isSpace '}' = false by decide)]
    | (key, v) :: w :: ws =>
      simp only [writeFields, writeString, List.append_assoc, List.cons_append, List.nil_append] at h
      have hkey := readString_write key (':' :: (write floats v ++ ',' :: (writeFields floats (w :: ws) ++ '}' :: rest)))
      obtain ⟨c, cs, heq, hspace, -⟩ := write_begins floats v
      have hread := readValue_stops v (',' :: (writeFields floats (w :: ws) ++ '}' :: rest)) (.inr (stops_mark (by simp))) fuel
      rw [heq, List.cons_append] at hkey h hread
      simp only [readFields, hkey, Option.bind_eq_bind, Option.bind_some,
        skip_cons (show isSpace ':' = false by decide), List.head?_cons, if_true, List.tail_cons, skip_cons hspace,
          Option.bind_eq_some_iff] at h
      obtain ⟨⟨v', rest''⟩, hvalue, h⟩ := h
      obtain rfl := hread hvalue
      have hfields := readFields_stops (w :: ws) (List.cons_ne_nil w ws) rest fuel
      obtain ⟨ds, hds⟩ := writeFields_head floats w ws
      rw [hds, List.cons_append] at h hfields
      simp only [skip_cons (show isSpace ',' = false by decide), List.head?_cons, if_true, List.tail_cons,
        skip_cons (show isSpace '"' = false by decide), Option.bind_eq_some_iff] at h
      obtain ⟨⟨fields'', rest'''⟩, hread', h⟩ := h
      cases h
      exact hfields hread'

end

/-- The text of an object that begins the text of a value is all of it. -/
theorem dumps_prefix {v w : Value F} (hv : v.isDict = true) (hw : w.Canonical) {rest : String}
    (h : dumps floats v ++ rest = dumps floats w) : rest = "" := by
  have hchars : write floats v ++ rest.toList = write floats w := by
    have := congrArg String.toList h
    simpa [dumps] using this
  have hread := readValue_write floats w hw [] (fun c hc => by simp at hc) ((write floats w).length + 1) (Nat.le_succ _)
  rw [List.append_nil, ← hchars] at hread
  have hstop := readValue_stops floats v rest.toList (.inl hv) _ hread
  rw [← String.ofList_toList (s := rest), ← hstop]

end Roundwright.Lib.JsonText
