import HopWhy.Library.Text
import Mathlib.Order.Lattice
import Mathlib.Tactic.SplitIfs

/-!
# Calendar dates

The proleptic Gregorian calendar between the years 1 and 9999. A date has its
number in the row of all days; the dates are counted on from one another, and
different dates have different numbers.
-/

namespace Calendar

def isLeap (year : ℕ) : Bool := year % 4 = 0 && (year % 100 ≠ 0 || year % 400 = 0)

def daysInMonth (year month : ℕ) : ℕ :=
  if month = 2 then if isLeap year then 29 else 28
  else if month = 4 ∨ month = 6 ∨ month = 9 ∨ month = 11 then 30
  else 31

def daysInYear (year : ℕ) : ℕ := if isLeap year then 366 else 365

/-- The days before the first of January. -/
def daysBeforeYear (year : ℕ) : ℕ :=
  (year - 1) * 365 + (year - 1) / 4 - (year - 1) / 100 + (year - 1) / 400

/-- The days of the year before the first of the month. -/
def daysBeforeMonth (year : ℕ) : ℕ → ℕ
  | 0 => 0
  | 1 => 0
  | month + 2 => daysBeforeMonth year (month + 1) + daysInMonth year (month + 1)

theorem daysBeforeYear_succ {year : ℕ} (h : 1 ≤ year) :
    daysBeforeYear (year + 1) = daysBeforeYear year + daysInYear year := by
  obtain ⟨y, rfl⟩ : ∃ y, year = y + 1 := ⟨year - 1, by omega⟩
  have hcenturies : y / 100 ≤ y / 4 := Nat.div_le_div_left (by decide) (by decide)
  have hfour : (y + 1) % 100 = 0 → (y + 1) % 4 = 0 := by omega
  have hhundred : (y + 1) % 400 = 0 → (y + 1) % 100 = 0 := by omega
  simp only [daysBeforeYear, daysInYear, isLeap, Nat.add_sub_cancel, Nat.succ_div,
    Nat.dvd_iff_mod_eq_zero]
  by_cases h₄ : (y + 1) % 4 = 0
  · by_cases h₁₀₀ : (y + 1) % 100 = 0
    · by_cases h₄₀₀ : (y + 1) % 400 = 0
      · simp [h₄, h₁₀₀, h₄₀₀]
        omega
      · simp [h₄, h₁₀₀, h₄₀₀]
        omega
    · have h₄₀₀ := mt hhundred h₁₀₀
      simp [h₄, h₁₀₀, h₄₀₀]
      omega
  · have h₁₀₀ := mt hfour h₄
    have h₄₀₀ := mt hhundred h₁₀₀
    simp [h₄, h₁₀₀, h₄₀₀]
    omega

theorem daysBeforeYear_le {year later : ℕ} (hfirst : 1 ≤ year) (h : year ≤ later) :
    daysBeforeYear year ≤ daysBeforeYear later := by
  induction later, h using Nat.le_induction with
  | base => exact le_refl _
  | succ later hle ih =>
    rw [daysBeforeYear_succ (hfirst.trans hle)]
    omega

theorem daysBeforeMonth_succ {year month : ℕ} (h : 1 ≤ month) :
    daysBeforeMonth year (month + 1) = daysBeforeMonth year month + daysInMonth year month := by
  obtain ⟨m, rfl⟩ : ∃ m, month = m + 1 := ⟨month - 1, by omega⟩
  rfl

theorem daysBeforeMonth_le (year : ℕ) {month later : ℕ} (hfirst : 1 ≤ month) (h : month ≤ later) :
    daysBeforeMonth year month ≤ daysBeforeMonth year later := by
  induction later, h using Nat.le_induction with
  | base => exact le_refl _
  | succ later hle ih =>
    rw [daysBeforeMonth_succ (hfirst.trans hle)]
    omega

theorem daysBeforeMonth_end (year : ℕ) : daysBeforeMonth year 13 = daysInYear year := by
  rcases hleap : isLeap year with _ | _
  · simp [daysBeforeMonth, daysInMonth, daysInYear, hleap]
  · simp [daysBeforeMonth, daysInMonth, daysInYear, hleap]

end Calendar

open Calendar

/-- A day of the calendar. -/
structure Date where
  year : ℕ
  month : ℕ
  day : ℕ
  year_range : 1 ≤ year ∧ year ≤ 9999
  month_range : 1 ≤ month ∧ month ≤ 12
  day_range : 1 ≤ day ∧ day ≤ daysInMonth year month
deriving DecidableEq

namespace Date

/-- The number of the day, the first of January of the year 1 being the first. -/
def toOrdinal (d : Date) : ℕ := daysBeforeYear d.year + daysBeforeMonth d.year d.month + d.day

/-- The date of these numbers, if there is one. -/
def ofNumbers (year month day : ℕ) : Option Date :=
  if h : (1 ≤ year ∧ year ≤ 9999) ∧ (1 ≤ month ∧ month ≤ 12) ∧
      1 ≤ day ∧ day ≤ daysInMonth year month then
    some ⟨year, month, day, h.1, h.2.1, h.2.2⟩
  else none

theorem toOrdinal_le_month (d : Date) :
    d.toOrdinal ≤ daysBeforeYear d.year + daysBeforeMonth d.year (d.month + 1) := by
  have hday := d.day_range.2
  rw [daysBeforeMonth_succ d.month_range.1, toOrdinal]
  omega

theorem toOrdinal_le_year (d : Date) : d.toOrdinal ≤ daysBeforeYear (d.year + 1) := by
  have hmonth := d.month_range.2
  have hlast := daysBeforeMonth_le d.year (Nat.le_add_left 1 d.month)
    (Nat.add_le_add_right hmonth 1)
  rw [daysBeforeMonth_end] at hlast
  rw [daysBeforeYear_succ d.year_range.1]
  exact d.toOrdinal_le_month.trans (Nat.add_le_add_left hlast _)

theorem lt_toOrdinal (d : Date) :
    daysBeforeYear d.year + daysBeforeMonth d.year d.month < d.toOrdinal := by
  have hday := d.day_range.1
  rw [toOrdinal]
  omega

theorem toOrdinal_lt_of_year {d e : Date} (h : d.year < e.year) : d.toOrdinal < e.toOrdinal := by
  have hstart := daysBeforeYear_le (Nat.le_add_left 1 d.year) h
  have hend := d.toOrdinal_le_year
  have hlater := e.lt_toOrdinal
  omega

theorem toOrdinal_lt_of_month {d e : Date} (hyear : d.year = e.year) (h : d.month < e.month) :
    d.toOrdinal < e.toOrdinal := by
  have hstart := daysBeforeMonth_le d.year (Nat.le_add_left 1 d.month) h
  have hend := d.toOrdinal_le_month
  have hlater := e.lt_toOrdinal
  rw [← hyear] at hlater
  omega

/-- Different dates have different numbers. -/
theorem toOrdinal_injective : Function.Injective toOrdinal := by
  intro d e h
  rcases Nat.lt_trichotomy d.year e.year with hlt | hyear | hlt
  · exact absurd h (toOrdinal_lt_of_year hlt).ne
  · rcases Nat.lt_trichotomy d.month e.month with hlt | hmonth | hlt
    · exact absurd h (toOrdinal_lt_of_month hyear hlt).ne
    · obtain ⟨year, month, day, _, _, _⟩ := d
      obtain ⟨year', month', day', _, _, _⟩ := e
      dsimp only at hyear hmonth
      subst hyear hmonth
      have hday : day = day' := Nat.add_left_cancel h
      subst hday
      rfl
    · exact absurd h (toOrdinal_lt_of_month hyear.symm hlt).ne'
  · exact absurd h (toOrdinal_lt_of_year hlt).ne'

/-- The order of the calendar. -/
instance : LinearOrder Date := LinearOrder.lift' toOrdinal toOrdinal_injective

theorem le_iff (d e : Date) : d ≤ e ↔ d.toOrdinal ≤ e.toOrdinal := Iff.rfl

/-- The days from one date to another. -/
def daysSince (later earlier : Date) : ℤ := (later.toOrdinal : ℤ) - earlier.toOrdinal

/-- The day after, but for the last of the calendar. -/
def next (d : Date) : Option Date :=
  if d.day < daysInMonth d.year d.month then ofNumbers d.year d.month (d.day + 1)
  else if d.month < 12 then ofNumbers d.year (d.month + 1) 1
  else ofNumbers (d.year + 1) 1 1

/-- The date so many days on. -/
def addDays (d : Date) : ℕ → Option Date
  | 0 => some d
  | n + 1 => (d.addDays n).bind next

theorem daysInMonth_pos (year month : ℕ) : 1 ≤ daysInMonth year month := by
  unfold daysInMonth
  split_ifs <;> decide

theorem ofNumbers_eq_some {year month day : ℕ} {d : Date} (h : ofNumbers year month day = some d) :
    d.year = year ∧ d.month = month ∧ d.day = day := by
  unfold ofNumbers at h
  split_ifs at h
  cases h
  exact ⟨rfl, rfl, rfl⟩

theorem toOrdinal_next {d e : Date} (h : d.next = some e) : e.toOrdinal = d.toOrdinal + 1 := by
  have hday := d.day_range.2
  unfold next at h
  split_ifs at h with hmonth hyear
  · obtain ⟨h₁, h₂, h₃⟩ := ofNumbers_eq_some h
    rw [toOrdinal, toOrdinal, h₁, h₂, h₃]
    omega
  · obtain ⟨h₁, h₂, h₃⟩ := ofNumbers_eq_some h
    rw [toOrdinal, toOrdinal, h₁, h₂, h₃, daysBeforeMonth_succ d.month_range.1]
    omega
  · obtain ⟨h₁, h₂, h₃⟩ := ofNumbers_eq_some h
    have htwelve : d.month = 12 := by
      have hlast := d.month_range.2
      omega
    have hend := daysBeforeMonth_end d.year
    rw [daysBeforeMonth_succ (by decide)] at hend
    rw [htwelve] at hday hmonth
    rw [toOrdinal, toOrdinal, h₁, h₂, h₃, htwelve, daysBeforeYear_succ d.year_range.1]
    generalize daysBeforeMonth d.year 12 = months at hend ⊢
    have hnone : daysBeforeMonth (d.year + 1) 1 = 0 := rfl
    omega

theorem toOrdinal_addDays {d e : Date} {n : ℕ} (h : d.addDays n = some e) :
    e.toOrdinal = d.toOrdinal + n := by
  induction n generalizing e with
  | zero =>
    cases h
    rfl
  | succ n ih =>
    obtain ⟨f, hf, hnext⟩ := Option.bind_eq_some_iff.mp h
    rw [toOrdinal_next hnext, ih hf, Nat.add_assoc]

/-- Only the last day of the calendar has no day after it. -/
theorem isSome_next_of_lt {d e : Date} (h : d.toOrdinal < e.toOrdinal) : d.next.isSome := by
  have hyear := d.year_range
  have hday := d.day_range
  unfold next
  split_ifs with hroom hmonth
  · rw [ofNumbers, dif_pos ⟨hyear, d.month_range, by omega⟩]
    rfl
  · rw [ofNumbers, dif_pos ⟨hyear, by omega, le_refl 1, daysInMonth_pos _ _⟩]
    rfl
  · have hlast : d.year < 9999 := by
      by_contra hend
      have htwelve : d.month = 12 := by
        have hbound := d.month_range.2
        omega
      have hyears := daysBeforeYear_le (Nat.le_add_left 1 e.year)
        (Nat.add_le_add_right (show e.year ≤ d.year by have := e.year_range.2; omega) 1)
      have hmonths := daysBeforeMonth_end d.year
      rw [daysBeforeMonth_succ (by decide), ← htwelve] at hmonths
      have hlater := e.toOrdinal_le_year
      rw [daysBeforeYear_succ hyear.1] at hyears
      rw [toOrdinal] at h
      omega
    rw [ofNumbers, dif_pos ⟨by omega, by decide, le_refl 1, daysInMonth_pos _ _⟩]
    rfl

/-- Before a date there is room to count on. -/
theorem exists_addDays {d e : Date} (n : ℕ) (h : d.toOrdinal + n ≤ e.toOrdinal) :
    ∃ f, d.addDays n = some f := by
  induction n with
  | zero => exact ⟨d, rfl⟩
  | succ n ih =>
    obtain ⟨f, hf⟩ := ih (by omega)
    have hnumber := toOrdinal_addDays hf
    have hnext : f.next.isSome := isSome_next_of_lt (e := e) (by omega)
    obtain ⟨g, hg⟩ := Option.isSome_iff_exists.mp hnext
    exact ⟨g, by rw [addDays, hf, Option.bind_some, hg]⟩

/-- Counted on from a date come all the dates after it. -/
theorem addDays_of_le {d e : Date} (h : d.toOrdinal ≤ e.toOrdinal) :
    d.addDays (e.toOrdinal - d.toOrdinal) = some e := by
  obtain ⟨f, hf⟩ := exists_addDays (d := d) (e := e) (e.toOrdinal - d.toOrdinal) (by omega)
  have hnumber := toOrdinal_addDays hf
  rw [hf, toOrdinal_injective (hnumber.trans (by omega) : f.toOrdinal = e.toOrdinal)]

/-- The numbers of a text `YYYY-MM-DD`. -/
def isoNumbers (text : String) : Option (ℕ × ℕ × ℕ) :=
  match text.toList with
  | [y₁, y₂, y₃, y₄, '-', m₁, m₂, '-', d₁, d₂] =>
    if [y₁, y₂, y₃, y₄, m₁, m₂, d₁, d₂].all Text.isAsciiDigit then
      some (Nat.ofDigitChars 10 [y₁, y₂, y₃, y₄] 0, Nat.ofDigitChars 10 [m₁, m₂] 0,
        Nat.ofDigitChars 10 [d₁, d₂] 0)
    else none
  | _ => none

/-- The digits of the number, with zeros before them up to the width. -/
def padded (width n : ℕ) : List Char :=
  List.replicate (width - (Nat.toDigits 10 n).length) '0' ++ Nat.toDigits 10 n

/-- The date of a text `YYYY-MM-DD`, if there is one. -/
def ofIsoFormat (text : String) : Option Date :=
  (isoNumbers text).bind fun numbers => ofNumbers numbers.1 numbers.2.1 numbers.2.2

def isoFormat (d : Date) : String :=
  String.ofList (padded 4 d.year ++ '-' :: padded 2 d.month ++ '-' :: padded 2 d.day)

end Date
