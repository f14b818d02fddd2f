/-
Points of time in UTC, in the proleptic Gregorian calendar, and the texts that `isoformat` writes for them. A text
leaves the fraction of the second out when it is zero, so texts have two lengths; their lexicographic order is still the
order of the instants.
-/
import Mathlib.Algebra.Order.Group.Nat
import Mathlib.Data.List.Lex
import Mathlib.Data.String.Basic
import Mathlib.Tactic.Ring

namespace Roundwright.Lib.Calendar

/-! ## Days -/

def isLeap (year : Nat) : Bool := year % 4 = 0 && (year % 100 ≠ 0 || year % 400 = 0)

def daysInMonth (year month : Nat) : Nat :=
  if month = 2 then (if isLeap year then 29 else 28) else if month ∈ [4, 6, 9, 11] then 30 else 31

/-- The days before the first of January of a year. -/
def daysBeforeYear (year : Nat) : Nat := (year - 1) * 365 + (year - 1) / 4 - (year - 1) / 100 + (year - 1) / 400

/-- The days of a year before the first of a month. -/
def daysBeforeMonth (year month : Nat) : Nat := ((List.range (month - 1)).map fun m => daysInMonth year (m + 1)).sum

theorem daysBeforeMonth_succ {year month : Nat} (h : 1 ≤ month) :
    daysBeforeMonth year (month + 1) = daysBeforeMonth year month + daysInMonth year month := by
  obtain ⟨m, rfl⟩ := Nat.exists_eq_add_of_le' h
  unfold daysBeforeMonth
  rw [Nat.add_sub_cancel, Nat.add_sub_cancel, List.range_succ, List.map_append, List.sum_append]
  simp

theorem daysBeforeMonth_le {year month month' : Nat} (hmonth : 1 ≤ month) (h : month < month') :
    daysBeforeMonth year month + daysInMonth year month ≤ daysBeforeMonth year month' := by
  induction month', h using Nat.le_induction with
  | base => exact (daysBeforeMonth_succ hmonth).ge
  | succ n hn ih =>
    rw [daysBeforeMonth_succ (by omega)]
    exact ih.trans (Nat.le_add_right _ _)

theorem daysBeforeMonth_end (year : Nat) : daysBeforeMonth year 13 = if isLeap year then 366 else 365 := by
  unfold daysBeforeMonth daysInMonth
  cases isLeap year <;> rfl

theorem isLeap_iff {year : Nat} : isLeap year = true ↔ 4 ∣ year ∧ (¬ 100 ∣ year ∨ 400 ∣ year) := by
  simp [isLeap, Nat.dvd_iff_mod_eq_zero]

theorem daysBeforeYear_succ {year : Nat} (h : 1 ≤ year) :
    daysBeforeYear (year + 1) = daysBeforeYear year + if isLeap year then 366 else 365 := by
  obtain ⟨y, rfl⟩ := Nat.exists_eq_add_of_le' h
  have hle : y / 100 ≤ y * 365 := (Nat.div_le_self _ _).trans (Nat.le_mul_of_pos_right _ (by decide))
  have hhundred : 100 ∣ y + 1 → 4 ∣ y + 1 := fun h => (by decide : 4 ∣ 100).trans h
  have hfour : 400 ∣ y + 1 → 100 ∣ y + 1 := fun h => (by decide : 100 ∣ 400).trans h
  unfold daysBeforeYear
  rw [Nat.add_sub_cancel, Nat.add_sub_cancel, Nat.succ_div, Nat.succ_div, Nat.succ_div]
  simp only [isLeap_iff]
  by_cases h4 : 4 ∣ y + 1
  · by_cases h100 : 100 ∣ y + 1
    · by_cases h400 : 400 ∣ y + 1
      · simp only [h4, h100, h400, if_true, not_true_eq_false, or_true, and_true]
        omega
      · simp only [h4, h100, h400, if_true, if_false, not_true_eq_false, or_false, and_false]
        omega
    · have h400 : ¬ 400 ∣ y + 1 := fun h => h100 (hfour h)
      simp only [h4, h100, h400, if_true, if_false, not_false_eq_true, or_false, and_true]
      omega
  · have h100 : ¬ 100 ∣ y + 1 := fun h => h4 (hhundred h)
    have h400 : ¬ 400 ∣ y + 1 := fun h => h100 (hfour h)
    simp only [h4, h100, h400, if_false, false_and]
    omega

theorem daysBeforeYear_mono : Monotone daysBeforeYear := by
  refine monotone_nat_of_le_succ fun year => ?_
  rcases Nat.eq_zero_or_pos year with rfl | hpos
  · exact Nat.le_refl _
  · rw [daysBeforeYear_succ hpos]
    exact Nat.le_add_right _ _

/-! ## Points of time -/

structure DateTime where
  year : Nat
  month : Nat
  day : Nat
  hour : Nat
  minute : Nat
  second : Nat
  microsecond : Nat
  year_bounds : 1 ≤ year ∧ year ≤ 9999
  month_bounds : 1 ≤ month ∧ month ≤ 12
  day_bounds : 1 ≤ day ∧ day ≤ daysInMonth year month
  hour_lt : hour < 24
  minute_lt : minute < 60
  second_lt : second < 60
  microsecond_lt : microsecond < 1000000

namespace DateTime

variable (d : DateTime)

/-- The number of the day, from the first of January of the year 1 on. -/
def ordinal : Nat := daysBeforeYear d.year + daysBeforeMonth d.year d.month + d.day

def microsecondOfDay : Nat := ((d.hour * 60 + d.minute) * 60 + d.second) * 1000000 + d.microsecond

/-- The microseconds since the day before the first. -/
def instant : Nat := d.ordinal * 86400000000 + d.microsecondOfDay

def fields : List Nat := [d.year, d.month, d.day, d.hour, d.minute, d.second, d.microsecond]

end DateTime

theorem DateTime.fields_injective : Function.Injective DateTime.fields := by
  rintro ⟨⟩ ⟨⟩ h
  simpa [fields] using h

/-- The order of the calendar. -/
instance : LinearOrder DateTime := LinearOrder.lift' DateTime.fields DateTime.fields_injective

section Order

variable {a b : DateTime}

theorem DateTime.lt_iff : a < b ↔ a.year < b.year ∨ a.year = b.year ∧ (a.month < b.month ∨ a.month = b.month ∧ (a.day < b.day ∨
    a.day = b.day ∧ (a.hour < b.hour ∨ a.hour = b.hour ∧ (a.minute < b.minute ∨ a.minute = b.minute ∧ (a.second < b.second ∨
      a.second = b.second ∧ a.microsecond < b.microsecond))))) := by
  show a.fields < b.fields ↔ _
  simp [fields, List.cons_lt_cons_iff]

theorem DateTime.microsecondOfDay_lt (d : DateTime) : d.microsecondOfDay < 86400000000 := by
  have := d.hour_lt
  have := d.minute_lt
  have := d.second_lt
  have := d.microsecond_lt
  unfold microsecondOfDay
  omega

theorem DateTime.dayOfYear_le (d : DateTime) :
    daysBeforeMonth d.year d.month + d.day ≤ if isLeap d.year then 366 else 365 := by
  rw [← daysBeforeMonth_end]
  exact (Nat.add_le_add_left d.day_bounds.2 _).trans (daysBeforeMonth_le d.month_bounds.1 (Nat.lt_succ_of_le d.month_bounds.2))

theorem DateTime.ordinal_lt_of_year (h : a.year < b.year) : a.ordinal < b.ordinal := by
  have hend := daysBeforeYear_succ a.year_bounds.1
  have hnext : daysBeforeYear (a.year + 1) ≤ daysBeforeYear b.year := daysBeforeYear_mono h
  have hday := a.dayOfYear_le
  have := b.day_bounds.1
  unfold ordinal
  omega

theorem DateTime.ordinal_lt_of_month (hyear : a.year = b.year) (h : a.month < b.month) : a.ordinal < b.ordinal := by
  have hmonth : daysBeforeMonth a.year a.month + daysInMonth a.year a.month ≤ daysBeforeMonth a.year b.month :=
    daysBeforeMonth_le a.month_bounds.1 h
  have := a.day_bounds.2
  have := b.day_bounds.1
  unfold ordinal
  rw [← hyear]
  omega

/-- A later point of the calendar is a later instant. -/
theorem DateTime.instant_strictMono : StrictMono DateTime.instant := by
  intro a b h
  have hday := a.microsecondOfDay_lt
  have hlater : a.ordinal < b.ordinal → a.instant < b.instant := by
    intro hordinal
    unfold instant
    omega
  rcases DateTime.lt_iff.1 h with hyear | ⟨hyear, hmonth | ⟨hmonth, hday | ⟨hday, htime⟩⟩⟩
  · exact hlater (ordinal_lt_of_year hyear)
  · exact hlater (ordinal_lt_of_month hyear hmonth)
  · refine hlater ?_
    unfold ordinal
    rw [hyear, hmonth]
    omega
  · have hordinal : a.ordinal = b.ordinal := by
      unfold ordinal
      rw [hyear, hmonth, hday]
    have := a.minute_lt
    have := a.second_lt
    have := a.microsecond_lt
    unfold instant
    rw [hordinal]
    unfold microsecondOfDay
    omega

end Order

/-! ## Texts -/

def decimalDigit (n : Nat) : Char := Char.ofNat (48 + n)

/-- `%0wd`, of a number with no more digits. -/
def pad (width n : Nat) : List Char := (List.range width).reverse.map fun i => decimalDigit (n / 10 ^ i % 10)

def fraction (microsecond : Nat) : List Char := if microsecond = 0 then [] else '.' :: pad 6 microsecond

/-- How UTC is written. -/
def utcOffset : List Char := ['+', '0', '0', ':', '0', '0']

/-- `isoformat`, of a `datetime` in UTC. -/
def DateTime.isoformat (d : DateTime) : String :=
    String.ofList (pad 4 d.year ++ '-' :: (pad 2 d.month ++ '-' :: (pad 2 d.day ++ 'T' ::
  (pad 2 d.hour ++ ':' :: (pad 2 d.minute ++ ':' :: (pad 2 d.second ++ (fraction d.microsecond ++ utcOffset)))))))

theorem decimalDigit_lt : ∀ a < 10, ∀ b < 10, a < b → decimalDigit a < decimalDigit b := by decide

theorem pad_succ (width n : Nat) : pad (width + 1) n = decimalDigit (n / 10 ^ width % 10) :: pad width n := by
  simp [pad, List.range_succ]

/-- A block of digits decides, or leaves it to what follows. The induction is on the width: the first digit decides, or
the others do. -/
theorem pad_lt {width a b : Nat} {rest rest' : List Char}
    (h : a % 10 ^ width < b % 10 ^ width ∨ a % 10 ^ width = b % 10 ^ width ∧ rest < rest') :
    pad width a ++ rest < pad width b ++ rest' := by
  induction width with
  | zero => simpa [pad, Nat.mod_one] using h
  | succ width ih =>
    have hten : ∀ n, n % 10 < 10 := fun n => Nat.mod_lt _ (by decide)
    have ha : a % 10 ^ width < 10 ^ width := Nat.mod_lt _ (Nat.pow_pos (by decide))
    have hb : b % 10 ^ width < 10 ^ width := Nat.mod_lt _ (Nat.pow_pos (by decide))
    rw [Nat.pow_succ, Nat.mod_mul, Nat.mod_mul] at h
    rw [pad_succ, pad_succ, List.cons_append, List.cons_append, List.cons_lt_cons_iff]
    rcases Nat.lt_trichotomy (a / 10 ^ width % 10) (b / 10 ^ width % 10) with hlt | heq | hgt
    · exact .inl (decimalDigit_lt _ (hten _) _ (hten _) hlt)
    · rw [heq] at h ⊢
      refine .inr ⟨rfl, ih (h.imp ?_ fun h => ⟨?_, h.2⟩)⟩
      · intro h
        exact Nat.lt_of_add_lt_add_right h
      · exact Nat.add_right_cancel h.1
    · -- the greater digit outweighs all digits after it
      have hdigit := Nat.mul_le_mul_left (10 ^ width) hgt
      rw [Nat.mul_succ] at hdigit
      generalize 10 ^ width * (a / 10 ^ width % 10) = da at h hdigit
      generalize 10 ^ width * (b / 10 ^ width % 10) = db at h hdigit
      omega

theorem pad_append_lt (width : Nat) {a b : Nat} {rest rest' : List Char} (ha : a < 10 ^ width) (hb : b < 10 ^ width)
    (h : a < b ∨ a = b ∧ rest < rest') : pad width a ++ rest < pad width b ++ rest' := by
  apply pad_lt
  rwa [Nat.mod_eq_of_lt ha, Nat.mod_eq_of_lt hb]

/-- The sign of the offset is before the point of a fraction. -/
theorem fraction_lt {a b : Nat} (hb : b < 1000000) (h : a < b) : fraction a ++ utcOffset < fraction b ++ utcOffset := by
  unfold fraction
  rw [if_neg (show b ≠ 0 by omega)]
  split
  · rw [List.nil_append, List.cons_append]
    exact List.cons_lt_cons_iff.2 (.inl (by decide))
  · rw [List.cons_append, List.cons_append, List.cons_lt_cons_self]
    exact pad_append_lt 6 (by omega) hb (.inl h)

theorem DateTime.date_lt (d : DateTime) : d.year < 10 ^ 4 ∧ d.month < 10 ^ 2 ∧ d.day < 10 ^ 2 := by
  have hyear := d.year_bounds.2
  have hmonth := d.month_bounds.2
  have hday : d.day ≤ 31 := by
    refine d.day_bounds.2.trans ?_
    unfold daysInMonth
    split
    · split <;> decide
    · split <;> decide
  exact ⟨by omega, by omega, by omega⟩

theorem DateTime.time_lt (d : DateTime) : d.hour < 10 ^ 2 ∧ d.minute < 10 ^ 2 ∧ d.second < 10 ^ 2 := by
  have hhour := d.hour_lt
  have hminute := d.minute_lt
  have hsecond := d.second_lt
  exact ⟨by omega, by omega, by omega⟩

/-- A block, a separator and what follows. -/
theorem block_lt (width : Nat) (separator : Char) {a b : Nat} {rest rest' : List Char} (ha : a < 10 ^ width)
    (hb : b < 10 ^ width) (h : a < b ∨ a = b ∧ rest < rest') : pad width a ++ separator :: rest < pad width b ++
    separator :: rest' :=
  pad_append_lt width ha hb (h.imp_right (And.imp_right List.cons_lt_cons_self.2))

/-- A later point of the calendar has a greater text. -/
theorem DateTime.isoformat_strictMono : StrictMono DateTime.isoformat := by
  intro a b h
  obtain ⟨hyear, hmonth, hday⟩ := a.date_lt
  obtain ⟨hyear', hmonth', hday'⟩ := b.date_lt
  obtain ⟨hhour, hminute, hsecond⟩ := a.time_lt
  obtain ⟨hhour', hminute', hsecond'⟩ := b.time_lt
  have hfraction := fraction_lt (a := a.microsecond) b.microsecond_lt
  rw [lt_iff] at h
  rw [isoformat, isoformat, String.lt_iff_toList_lt, String.toList_ofList, String.toList_ofList]
  -- block after block: it decides, or what follows it does
  refine block_lt 4 '-' hyear hyear' (h.imp_right (And.imp_right fun h => ?_))
  refine block_lt 2 '-' hmonth hmonth' (h.imp_right (And.imp_right fun h => ?_))
  refine block_lt 2 'T' hday hday' (h.imp_right (And.imp_right fun h => ?_))
  refine block_lt 2 ':' hhour hhour' (h.imp_right (And.imp_right fun h => ?_))
  refine block_lt 2 ':' hminute hminute' (h.imp_right (And.imp_right fun h => ?_))
  exact pad_append_lt 2 hsecond hsecond' (h.imp_right (And.imp_right hfraction))

end Roundwright.Lib.Calendar
