/-
Relational tables. A table is the list of its rows in insertion order together with the proof that
no two rows clash, where `clash` states the table's PRIMARY KEY and UNIQUE constraints; an INSERT
that would make two rows clash is refused. SELECT … WHERE is `List.find?` or `List.filter` over
`rows`, ORDER BY is `sortBy`.
-/
import Mathlib.Data.List.Sort
import Mathlib.Data.List.Nodup
import Mathlib.Data.List.Dedup
import Mathlib.Tactic.Common

namespace Roundwright.Lib

/-! ## Sorting by a key -/

section SortBy

variable {α κ : Type} [LinearOrder κ]

/-- Stable sort by a key: `sorted(rows, key=…)` and ORDER BY. -/
def sortBy (key : α → κ) (l : List α) : List α :=
  l.insertionSort fun a b => key a ≤ key b

theorem sortBy_perm (key : α → κ) (l : List α) : (sortBy key l).Perm l :=
  List.perm_insertionSort _ l

variable {key : α → κ}

@[simp] theorem mem_sortBy {l : List α} {a : α} : a ∈ sortBy key l ↔ a ∈ l :=
  (sortBy_perm key l).mem_iff

theorem sortBy_pairwise (key : α → κ) (l : List α) : (sortBy key l).Pairwise fun a b => key a ≤ key b :=
  have : IsTrans α fun a b => key a ≤ key b := ⟨fun _ _ _ h h' => le_trans h h'⟩
  have : Std.Total fun a b : α => key a ≤ key b := ⟨fun a b => le_total (key a) (key b)⟩
  List.pairwise_insertionSort _ l

theorem sortBy_strict {l : List α} (h : (l.map key).Nodup) : (sortBy key l).Pairwise fun a b => key a < key b := by
  have hne : (sortBy key l).Pairwise fun a b => key a ≠ key b :=
    List.pairwise_map.1 (((sortBy_perm key l).map key).nodup_iff.2 h)
  exact ((sortBy_pairwise key l).and hne).imp fun h => lt_of_le_of_ne h.1 h.2

/-- A list already in order is its own sort. -/
theorem sortBy_eq_self {l : List α} (h : l.Pairwise fun a b => key a ≤ key b) : sortBy key l = l :=
  h.insertionSort_eq

/-- Two sorted lists with the same rows and distinct keys are the same list. -/
theorem eq_of_perm_of_keys {g : α → κ} {l m : List α} (hp : l.Perm m) (hl : l.Pairwise fun a b => g a ≤ g b)
    (hm : m.Pairwise fun a b => g a ≤ g b) (hk : (l.map g).Nodup) : l = m := by
  refine hp.eq_of_pairwise (fun a b ha hb hab hba => ?_) hl hm
  exact List.inj_on_of_nodup_map hk ha (hp.mem_iff.2 hb) (le_antisymm hab hba)

theorem sortBy_congr {l m : List α} (hp : l.Perm m) (hk : (l.map key).Nodup) : sortBy key l = sortBy key m := by
  have hl := sortBy_perm key l
  refine eq_of_perm_of_keys (hl.trans (hp.trans (sortBy_perm key m).symm)) (sortBy_pairwise key l)
    (sortBy_pairwise key m) ?_
  exact (hl.map key).nodup_iff.2 hk

/-- A row with the largest key goes to the end. -/
theorem sortBy_append_last {l : List α} {r : α} (hk : (l.map key).Nodup) (hlast : ∀ a ∈ l, key a < key r) :
    sortBy key (l ++ [r]) = sortBy key l ++ [r] := by
  have hkeys : ((l ++ [r]).map key).Nodup := by
    rw [List.map_append, List.nodup_append]
    refine ⟨hk, List.nodup_singleton _, fun a ha b hb hab => ?_⟩
    obtain ⟨x, hx, rfl⟩ := List.mem_map.1 ha
    have hb : b = key r := by simpa using hb
    exact absurd (hab.trans hb) (ne_of_lt (hlast x hx))
  refine eq_of_perm_of_keys ?_ (sortBy_pairwise key _) ?_ (((sortBy_perm key _).map key).nodup_iff.2 hkeys)
  · exact (sortBy_perm key _).trans ((sortBy_perm key l).symm.append_right [r])
  · refine List.pairwise_append.2 ⟨sortBy_pairwise key l, List.pairwise_singleton _ _, fun a ha b hb => ?_⟩
    rw [List.mem_singleton.1 hb]
    exact le_of_lt (hlast a (mem_sortBy.1 ha))

/-- The sort is stable: what is found under a key is what was found before. -/
theorem find?_sortBy [DecidableEq κ] (key : α → κ) (k : κ) (l : List α) :
    (sortBy key l).find? (fun a => key a = k) = l.find? fun a => key a = k := by
  have hinsert : ∀ (a : α) (l : List α),
      (l.orderedInsert (fun a b => key a ≤ key b) a).find? (fun a => key a = k) = (a :: l).find? fun a => key a = k := by
    intro a l
    induction l with
    | nil => rfl
    | cons b l ih =>
      by_cases hle : key a ≤ key b
      · rw [List.orderedInsert_cons, if_pos hle]
      · rw [List.orderedInsert_cons, if_neg hle, List.find?_cons, ih]
        by_cases ha : key a = k
        · -- what is passed over has a smaller key
          have hb : key b ≠ k := fun hb => hle (ha.trans hb.symm).le
          simp [ha, hb]
        · simp [ha, List.find?_cons]
  induction l with
  | nil => rfl
  | cons a l ih =>
    show (List.orderedInsert _ a (sortBy key l)).find? _ = _
    rw [hinsert, List.find?_cons, ih, List.find?_cons]

end SortBy

/-- With distinct keys a search by key finds a row exactly when it is there. -/
theorem find?_of_nodup {ρ κ : Type} [DecidableEq κ] {g : ρ → κ} {l : List ρ} (h : (l.map g).Nodup) {k : κ} {r : ρ} :
    l.find? (fun a => g a = k) = some r ↔ r ∈ l ∧ g r = k := by
  constructor
  · intro hf
    exact ⟨List.mem_of_find?_eq_some hf, by simpa using List.find?_some hf⟩
  · rintro ⟨hr, rfl⟩
    rcases hf : l.find? (fun a => decide (g a = g r)) with _ | b
    · have := List.find?_eq_none.1 hf r hr; simp at this
    · have hb : g b = g r := by simpa using List.find?_some hf
      rw [List.inj_on_of_nodup_map h (List.mem_of_find?_eq_some hf) hr hb]

/-! ## Tables -/

/-- A table whose rows never clash. -/
structure Table {ρ : Type} (clash : ρ → ρ → Bool) where
  rows : List ρ
  unique : rows.Pairwise fun a b => clash a b = false

namespace Table

variable {ρ κ : Type} {clash : ρ → ρ → Bool}

@[ext] theorem ext {t t' : Table clash} (h : t.rows = t'.rows) : t = t' := by
  cases t; cases t'; cases h; rfl

instance [DecidableEq ρ] : DecidableEq (Table clash) := fun t t' =>
  decidable_of_iff (t.rows = t'.rows) ⟨ext, congrArg rows⟩

/-- The table with no rows. -/
def empty : Table clash := ⟨[], List.Pairwise.nil⟩

@[simp] theorem empty_rows : (empty : Table clash).rows = [] := rfl

/-- INSERT of one row. -/
def insert? (t : Table clash) (r : ρ) : Option (Table clash) :=
  if h : ∀ a ∈ t.rows, clash a r = false then
    some ⟨t.rows ++ [r], List.pairwise_append.2 ⟨t.unique, List.pairwise_singleton _ _, by
      intro a ha b hb; rw [List.mem_singleton.1 hb]; exact h a ha⟩⟩
  else none

/-- INSERT of several rows, in order. -/
def insertAll? (t : Table clash) : List ρ → Option (Table clash)
  | [] => some t
  | r :: rs =>
    match t.insert? r with
    | some t' => t'.insertAll? rs
    | none => none

/-- INSERT OR IGNORE of one row. -/
def insertOrIgnore (t : Table clash) (r : ρ) : Table clash := (t.insert? r).getD t

/-- INSERT … ON CONFLICT DO UPDATE: the row takes the place of the rows it clashes with. -/
def upsert (t : Table clash) (r : ρ) : Table clash :=
  ⟨t.rows.filter (fun a => clash a r = false) ++ [r], List.pairwise_append.2
    ⟨t.unique.filter _, List.pairwise_singleton _ _, by
      intro a ha b hb; rw [List.mem_singleton.1 hb]; simpa using (List.mem_filter.1 ha).2⟩⟩

/-- The rows that stay after a DELETE. -/
def keep (t : Table clash) (p : ρ → Bool) : Table clash :=
  ⟨t.rows.filter p, t.unique.filter p⟩

/-- UPDATE of columns that take part in no constraint. -/
def update (t : Table clash) (f : ρ → ρ) (hf : ∀ a b, clash (f a) (f b) = clash a b) : Table clash :=
  ⟨t.rows.map f, List.pairwise_map.2 (t.unique.imp fun {a b} h => by rw [hf]; exact h)⟩

/-- UPDATE of columns under a constraint. -/
def update? (t : Table clash) (f : ρ → ρ) : Option (Table clash) :=
  if h : (t.rows.map f).Pairwise fun a b => clash a b = false then some ⟨t.rows.map f, h⟩ else none

/-- Part of the columns of a table, when rows that are apart stay apart. -/
def view {ρ' : Type} {clash' : ρ' → ρ' → Bool} (t : Table clash) (f : ρ → ρ')
    (hf : ∀ a b, clash' (f a) (f b) = true → clash a b = true) :
    Table clash' :=
  ⟨t.rows.map f, List.pairwise_map.2 (t.unique.imp fun h => Bool.eq_false_iff.2 fun h' => by simp [hf _ _ h'] at h)⟩

theorem update?_rows {t t' : Table clash} {f : ρ → ρ} (h : t.update? f = some t') : t'.rows = t.rows.map f := by
  unfold update? at h
  split at h
  · cases h; rfl
  · cases h

variable {t : Table clash}

/-- An UPDATE that brings no two rows closer. -/
theorem update?_of_apart {f : ρ → ρ} (h : ∀ a b, clash (f a) (f b) = true → clash a b = true) :
    ∃ t', t.update? f = some t' := by
  refine ⟨_, dif_pos (List.pairwise_map.2 (t.unique.imp fun {a b} hab => ?_))⟩
  cases hf : clash (f a) (f b) with
  | false => rfl
  | true =>
    rw [h a b hf] at hab
    cases hab

theorem update?_of_fixed {f : ρ → ρ} (h : ∀ r ∈ t.rows, f r = r) : t.update? f = some t := by
  have hmap : t.rows.map f = t.rows := by
    rw [List.map_congr_left h]
    exact List.map_id' _
  unfold update?
  rw [dif_pos (by rw [hmap]; exact t.unique), Option.some.injEq]
  exact ext hmap

@[simp] theorem keep_rows (t : Table clash) (p : ρ → Bool) : (t.keep p).rows = t.rows.filter p := rfl

@[simp] theorem update_rows (t : Table clash) (f : ρ → ρ) (hf : ∀ a b, clash (f a) (f b) = clash a b) :
    (t.update f hf).rows = t.rows.map f := rfl

theorem insert?_eq_some {t t' : Table clash} {r : ρ} :
    t.insert? r = some t' ↔ (∀ a ∈ t.rows, clash a r = false) ∧ t'.rows = t.rows ++ [r] := by
  unfold insert?
  constructor
  · intro h
    split at h
    · rename_i hc; cases h; exact ⟨hc, rfl⟩
    · cases h
  · rintro ⟨hc, ht⟩
    rw [dif_pos hc, Option.some.injEq]
    exact ext ht.symm

theorem insert?_of_apart {r : ρ} (h : ∀ a ∈ t.rows, clash a r = false) : ∃ t', t.insert? r = some t' :=
  ⟨_, dif_pos h⟩

/-- An INSERT OR IGNORE adds the row or finds one it clashes with. -/
theorem insertOrIgnore_cases (t : Table clash) (r : ρ) :
    (t.insertOrIgnore r).rows = t.rows ++ [r] ∨ ((∃ a ∈ t.rows, clash a r = true) ∧ t.insertOrIgnore r = t) := by
  rcases h : t.insert? r with _ | t'
  · right
    refine ⟨?_, by rw [insertOrIgnore, h]; rfl⟩
    unfold insert? at h
    split at h
    · cases h
    · simpa using ‹¬ ∀ a ∈ t.rows, clash a r = false›
  · left
    rw [insertOrIgnore, h]
    exact (insert?_eq_some.1 h).2

theorem mem_upsert {r a : ρ} : a ∈ (t.upsert r).rows ↔ (a ∈ t.rows ∧ clash a r = false) ∨ a = r := by
  simp [upsert]

theorem insertAll?_rows : ∀ {rs : List ρ} {t t' : Table clash}, t.insertAll? rs = some t' →
    t'.rows = t.rows ++ rs
  | [], t, t', h => by cases h; simp
  | r :: rs, t, t', h => by
    unfold insertAll? at h
    split at h
    · rename_i t₁ ht₁
      rw [insertAll?_rows h, (insert?_eq_some.1 ht₁).2]; simp
    · cases h

/-! ## Keys -/

/-- `key` is under a PRIMARY KEY or UNIQUE constraint: two rows with the same key clash. -/
def IsKey (clash : ρ → ρ → Bool) (key : ρ → κ) : Prop := ∀ a b, key a = key b → clash a b = true

variable {g : ρ → κ}

theorem keys_pairwise (t : Table clash) (hk : IsKey clash g) : t.rows.Pairwise fun a b => g a ≠ g b :=
  t.unique.imp fun {a b} h he => by rw [hk a b he] at h; cases h

theorem keys_nodup (t : Table clash) (hk : IsKey clash g) : (t.rows.map g).Nodup :=
  List.pairwise_map.2 (t.keys_pairwise hk)

/-- Two rows of a table with the same key are one row. -/
theorem eq_of_key (hk : IsKey clash g) {a b : ρ} (ha : a ∈ t.rows) (hb : b ∈ t.rows) (h : g a = g b) : a = b :=
  List.inj_on_of_nodup_map (t.keys_nodup hk) ha hb h

/-- SELECT by a key finds a row exactly when it is in the table. -/
theorem find?_key [DecidableEq κ] (hk : IsKey clash g) {k : κ} {r : ρ} :
    t.rows.find? (fun a => g a = k) = some r ↔ r ∈ t.rows ∧ g r = k :=
  find?_of_nodup (t.keys_nodup hk)

end Table

/-! ## Lookups in a list of rows -/

section Lookup

variable {ρ κ : Type} [DecidableEq κ] {g : ρ → κ}

theorem find?_key_none {l : List ρ} {k : κ} : l.find? (fun a => g a = k) = none ↔ ∀ a ∈ l, g a ≠ k := by
  simp

omit [DecidableEq κ] in
/-- A row found stays found when rows are appended. -/
theorem find?_append_some {rows new : List ρ} {p : ρ → Bool} {r : ρ} (h : rows.find? p = some r) :
    (rows ++ new).find? p = some r := by
  rw [List.find?_append, h]; rfl

/-- A row appended under another key changes no lookup. -/
theorem find?_append_ne {l : List ρ} {r : ρ} {k : κ} (h : g r ≠ k) :
    (l ++ [r]).find? (fun a => g a = k) = l.find? (fun a => g a = k) := by
  simp [List.find?_append, h]

/-- A row appended under a new key is found under it. -/
theorem find?_append_self {l : List ρ} {r : ρ} {k : κ} (h : ∀ a ∈ l, g a ≠ k) (hr : g r = k) :
    (l ++ [r]).find? (fun a => g a = k) = some r := by
  rw [List.find?_append, find?_key_none.2 h]; simp [hr]

/-- An update that keeps every key maps the row found. -/
theorem find?_map_key {l : List ρ} {f : ρ → ρ} (hf : ∀ a, g (f a) = g a) (k : κ) :
    (l.map f).find? (fun a => g a = k) = (l.find? fun a => g a = k).map f := by
  rw [List.find?_map]
  congr 2
  funext a
  simp [hf]

/-- Rows appended outside the selected ones change no selection. -/
theorem filter_append_none {l new : List ρ} {p : ρ → Bool} (h : ∀ a ∈ new, p a = false) :
    (l ++ new).filter p = l.filter p := by
  have hn : new.filter p = [] := List.filter_eq_nil_iff.2 fun a ha => by simp [h a ha]
  rw [List.filter_append, hn, List.append_nil]

/-- When nothing was selected before, the selection is what was appended. -/
theorem filter_append_all {l new : List ρ} {p : ρ → Bool} (hl : ∀ a ∈ l, p a = false) (hn : ∀ a ∈ new, p a = true) :
    (l ++ new).filter p = new := by
  have ho : l.filter p = [] := List.filter_eq_nil_iff.2 fun a ha => by simp [hl a ha]
  rw [List.filter_append, ho, List.filter_eq_self.2 hn, List.nil_append]

end Lookup

end Roundwright.Lib
