import Mathlib.Data.Int.Basic
import Mathlib.Algebra.Order.Ring.Int
import Mathlib.Tactic.Ring

/-!
# The Gregorian calendar

Dates of the years 1 to 9999, and moments of such dates to the microsecond. Days are counted from
the first one, and `Date.next` and `Date.prev` step through that count by one; shifting a moment by
any number of microseconds therefore shifts its count by as many (`Moment.shift_micros`), and fails
exactly when the count leaves the calendar. A moment is determined by its count.
-/

namespace Gregorian

/-- The year has a twenty-ninth of February. -/
def IsLeap (year : ℕ) : Prop := year % 4 = 0 ∧ (year % 100 ≠ 0 ∨ year % 400 = 0)

instance (year : ℕ) : Decidable (IsLeap year) := inferInstanceAs (Decidable (_ ∧ _))

def daysInMonth (year month : ℕ) : ℕ :=
  if month = 2 then if IsLeap year then 29 else 28
  else if month = 4 ∨ month = 6 ∨ month = 9 ∨ month = 11 then 30
  else 31

theorem daysInMonth_pos (year month : ℕ) : 0 < daysInMonth year month := by
  rw [daysInMonth]
  split_ifs <;> omega

theorem daysInMonth_le (year month : ℕ) : daysInMonth year month ≤ 31 := by
  rw [daysInMonth]
  split_ifs <;> omega

/-- A day of the calendar. -/
structure Date where
  year : ℕ
  month : ℕ
  day : ℕ
  one_le_year : 1 ≤ year
  year_le : year ≤ 9999
  one_le_month : 1 ≤ month
  month_le : month ≤ 12
  one_le_day : 1 ≤ day
  day_le : day ≤ daysInMonth year month

@[ext] theorem Date.ext {d e : Date} (hyear : d.year = e.year) (hmonth : d.month = e.month)
    (hday : d.day = e.day) : d = e := by
  obtain ⟨y, m, n, _, _, _, _, _, _⟩ := d
  obtain ⟨_, _, _, _, _, _, _, _, _⟩ := e
  cases hyear
  cases hmonth
  cases hday
  rfl

instance : DecidableEq Date := fun _ _ ↦ decidable_of_iff' _ Date.ext_iff

/-- The day of that name, if there is one. -/
def date? (year month day : ℕ) : Option Date :=
  if h : (1 ≤ year ∧ year ≤ 9999) ∧ (1 ≤ month ∧ month ≤ 12) ∧ 1 ≤ day ∧
      day ≤ daysInMonth year month then
    some ⟨year, month, day, h.1.1, h.1.2, h.2.1.1, h.2.1.2, h.2.2.1, h.2.2.2⟩
  else none

theorem date?_eq_some {year month day : ℕ} {d : Date} (h : date? year month day = some d) :
    d.year = year ∧ d.month = month ∧ d.day = day := by
  rw [date?] at h
  split_ifs at h
  cases h
  exact ⟨rfl, rfl, rfl⟩

/-! ## Counting days -/

def daysBeforeYear (year : ℕ) : ℕ :=
  (year - 1) * 365 + (year - 1) / 4 - (year - 1) / 100 + (year - 1) / 400

def daysBeforeMonth (year : ℕ) : ℕ → ℕ
  | 0 => 0
  | 1 => 0
  | month + 2 => daysBeforeMonth year (month + 1) + daysInMonth year (month + 1)

theorem daysBeforeMonth_one (year : ℕ) : daysBeforeMonth year 1 = 0 := rfl

theorem daysBeforeMonth_succ (year : ℕ) {month : ℕ} (h : 1 ≤ month) :
    daysBeforeMonth year (month + 1) = daysBeforeMonth year month + daysInMonth year month := by
  obtain ⟨m, rfl⟩ := Nat.exists_eq_add_of_le' h
  rfl

theorem daysBeforeMonth_mono (year : ℕ) {m n : ℕ} (hm : 1 ≤ m) (h : m ≤ n) :
    daysBeforeMonth year m ≤ daysBeforeMonth year n := by
  induction n, h using Nat.le_induction with
  | base => exact le_rfl
  | succ n hmn ih =>
    rw [daysBeforeMonth_succ year (hm.trans hmn)]
    exact ih.trans (Nat.le_add_right _ _)

theorem daysBeforeMonth_thirteen (year : ℕ) :
    daysBeforeMonth year 13 = daysBeforeMonth year 12 + daysInMonth year 12 := rfl

theorem daysBeforeMonth_thirteen_eq (year : ℕ) :
    daysBeforeMonth year 13 = if IsLeap year then 366 else 365 := by
  by_cases hleap : IsLeap year <;> simp [daysBeforeMonth, daysInMonth, hleap]

/-- Twelve months make up the year. -/
theorem daysBeforeYear_succ {year : ℕ} (h : 1 ≤ year) :
    daysBeforeYear (year + 1) = daysBeforeYear year + daysBeforeMonth year 13 := by
  obtain ⟨n, rfl⟩ := Nat.exists_eq_add_of_le' h
  have hcount (k : ℕ) : (n + 1) / k = n / k + if (n + 1) % k = 0 then 1 else 0 := by
    rw [Nat.succ_div]
    simp only [Nat.dvd_iff_mod_eq_zero]
  have hhundred : (n + 1) % 100 = 0 → (n + 1) % 4 = 0 := by omega
  have hfourHundred : (n + 1) % 400 = 0 → (n + 1) % 100 = 0 := by omega
  have hle : n / 100 ≤ n / 4 := Nat.div_le_div_left (by omega) (by omega)
  rw [daysBeforeMonth_thirteen_eq, daysBeforeYear, daysBeforeYear, Nat.add_sub_cancel,
    Nat.add_sub_cancel, hcount 4, hcount 100, hcount 400]
  clear hcount
  by_cases hleap : IsLeap (n + 1)
  · rw [if_pos hleap]
    rw [IsLeap] at hleap
    split_ifs <;> omega
  · rw [if_neg hleap]
    rw [IsLeap] at hleap
    split_ifs <;> omega

theorem daysBeforeYear_mono {m n : ℕ} (hm : 1 ≤ m) (h : m ≤ n) :
    daysBeforeYear m ≤ daysBeforeYear n := by
  induction n, h using Nat.le_induction with
  | base => exact le_rfl
  | succ n hmn ih =>
    rw [daysBeforeYear_succ (hm.trans hmn)]
    exact ih.trans (Nat.le_add_right _ _)

namespace Date

/-- The number of the day, the first one being 1. -/
def dayNumber (d : Date) : ℕ := daysBeforeYear d.year + daysBeforeMonth d.year d.month + d.day

/-- The number of the last day of the calendar. -/
def lastDayNumber : ℕ := daysBeforeYear 10000

theorem dayNumber_le_month (d : Date) :
    d.dayNumber ≤ daysBeforeYear d.year + daysBeforeMonth d.year (d.month + 1) := by
  rw [dayNumber, daysBeforeMonth_succ _ d.one_le_month, ← Nat.add_assoc]
  exact Nat.add_le_add_left d.day_le _

theorem dayNumber_le_year (d : Date) : d.dayNumber ≤ daysBeforeYear (d.year + 1) := by
  rw [daysBeforeYear_succ d.one_le_year]
  have hmonth : daysBeforeMonth d.year (d.month + 1) ≤ daysBeforeMonth d.year 13 :=
    daysBeforeMonth_mono _ (by omega) (Nat.succ_le_succ d.month_le)
  exact d.dayNumber_le_month.trans (Nat.add_le_add_left hmonth _)

theorem dayNumber_le (d : Date) : d.dayNumber ≤ lastDayNumber :=
  d.dayNumber_le_year.trans (daysBeforeYear_mono (by omega) (Nat.succ_le_succ d.year_le))

theorem one_le_dayNumber (d : Date) : 1 ≤ d.dayNumber := d.one_le_day.trans (Nat.le_add_left _ _)

theorem dayNumber_lt_of_year_lt {d e : Date} (h : d.year < e.year) :
    d.dayNumber < e.dayNumber := by
  have hyear : daysBeforeYear (d.year + 1) ≤ daysBeforeYear e.year :=
    daysBeforeYear_mono (by omega) h
  have hd := d.dayNumber_le_year
  have he := e.one_le_day
  rw [dayNumber, dayNumber] at *
  omega

theorem dayNumber_lt_of_month_lt {d e : Date} (hyear : d.year = e.year) (h : d.month < e.month) :
    d.dayNumber < e.dayNumber := by
  have hmonth : daysBeforeMonth e.year (d.month + 1) ≤ daysBeforeMonth e.year e.month :=
    daysBeforeMonth_mono _ (by omega) h
  have hd := d.dayNumber_le_month
  have he := e.one_le_day
  rw [hyear] at hd
  rw [dayNumber, dayNumber] at *
  omega

/-- Days are told apart by their number. -/
theorem dayNumber_inj {d e : Date} (h : d.dayNumber = e.dayNumber) : d = e := by
  have hyear : d.year = e.year := by
    rcases lt_trichotomy d.year e.year with hlt | heq | hgt
    · exact absurd h (dayNumber_lt_of_year_lt hlt).ne
    · exact heq
    · exact absurd h (dayNumber_lt_of_year_lt hgt).ne'
  have hmonth : d.month = e.month := by
    rcases lt_trichotomy d.month e.month with hlt | heq | hgt
    · exact absurd h (dayNumber_lt_of_month_lt hyear hlt).ne
    · exact heq
    · exact absurd h (dayNumber_lt_of_month_lt hyear.symm hgt).ne'
  rw [dayNumber, dayNumber, hyear, hmonth] at h
  exact Date.ext hyear hmonth (Nat.add_left_cancel h)

/-! ## Stepping -/

/-- The day after, but for the last one. -/
def next (d : Date) : Option Date :=
  if h : d.day < daysInMonth d.year d.month then
    some { d with day := d.day + 1, one_le_day := by omega, day_le := h }
  else if h : d.month < 12 then
    some { d with
      month := d.month + 1, day := 1, one_le_month := by omega, month_le := h,
      one_le_day := le_rfl, day_le := daysInMonth_pos _ _ }
  else if h : d.year < 9999 then
    some ⟨d.year + 1, 1, 1, by omega, h, le_rfl, by omega, le_rfl, daysInMonth_pos _ _⟩
  else none

/-- The day before, but for the first one. -/
def prev (d : Date) : Option Date :=
  if h : 1 < d.day then
    some { d with
      day := d.day - 1, one_le_day := by omega, day_le := (Nat.sub_le _ _).trans d.day_le }
  else if h : 1 < d.month then
    some { d with
      month := d.month - 1, day := daysInMonth d.year (d.month - 1), one_le_month := by omega,
      month_le := (Nat.sub_le _ _).trans d.month_le, one_le_day := daysInMonth_pos _ _,
      day_le := le_rfl }
  else if h : 1 < d.year then
    some ⟨d.year - 1, 12, 31, by omega, (Nat.sub_le _ _).trans d.year_le, by omega, le_rfl,
      by omega, by simp [daysInMonth]⟩
  else none

/-- A step moves to the number the function gives, and fails where that is not one of a day. -/
def StepsBy (step : Date → Option Date) (δ : ℤ) : Prop :=
  ∀ d : Date, match step d with
    | some e => (e.dayNumber : ℤ) = d.dayNumber + δ
    | none => (d.dayNumber : ℤ) + δ < 1 ∨ (lastDayNumber : ℤ) < d.dayNumber + δ

theorem stepsBy_next : StepsBy next 1 := by
  intro d
  rw [next]
  have hday := d.day_le
  split_ifs with hmonth hyear hlast
  · simp only [dayNumber]
    push_cast
    omega
  · simp only [dayNumber, daysBeforeMonth_succ _ d.one_le_month]
    push_cast
    omega
  · have hyears := daysBeforeYear_succ d.one_le_year
    have hmonths := daysBeforeMonth_thirteen d.year
    have hdecember : d.month = 12 := le_antisymm d.month_le (not_lt.mp hyear)
    rw [hdecember] at hmonth hday
    simp only [dayNumber, daysBeforeMonth_one, hdecember]
    push_cast
    omega
  · right
    have hyears : daysBeforeYear 10000 = daysBeforeYear 9999 + daysBeforeMonth 9999 13 :=
      daysBeforeYear_succ (by omega)
    have hmonths := daysBeforeMonth_thirteen 9999
    have hdecember : d.month = 12 := le_antisymm d.month_le (not_lt.mp hyear)
    have hyearEq : d.year = 9999 := le_antisymm d.year_le (not_lt.mp hlast)
    rw [hdecember, hyearEq] at hmonth hday
    rw [lastDayNumber, dayNumber, hdecember, hyearEq]
    push_cast
    omega

theorem stepsBy_prev : StepsBy prev (-1) := by
  intro d
  rw [prev]
  have hday := d.one_le_day
  have hmonthPos := d.one_le_month
  have hyearPos := d.one_le_year
  split_ifs with hmonth hyear hfirst
  · simp only [dayNumber]
    push_cast [hday]
    omega
  · have hmonths := daysBeforeMonth_succ d.year (show 1 ≤ d.month - 1 by omega)
    rw [Nat.sub_add_cancel hmonthPos] at hmonths
    simp only [dayNumber, hmonths]
    push_cast
    omega
  · have hyears := daysBeforeYear_succ (show 1 ≤ d.year - 1 by omega)
    have hmonths := daysBeforeMonth_thirteen (d.year - 1)
    have hdecember : daysInMonth (d.year - 1) 12 = 31 := by simp [daysInMonth]
    rw [Nat.sub_add_cancel hyearPos] at hyears
    have hjanuary : d.month = 1 := by omega
    simp only [dayNumber, hjanuary, daysBeforeMonth_one]
    push_cast
    omega
  · left
    have hjanuary : d.month = 1 := by omega
    have hyearEq : d.year = 1 := by omega
    simp only [dayNumber, hjanuary, daysBeforeMonth_one, hyearEq, daysBeforeYear]
    push_cast
    omega

/-- Steps of one day, repeated. -/
def walk (step : Date → Option Date) : ℕ → Date → Option Date
  | 0, d => some d
  | n + 1, d => (step d).bind (walk step n)

/-- The day that many days later. -/
def addDays : ℤ → Date → Option Date
  | .ofNat n, d => walk next n d
  | .negSucc n, d => walk prev (n + 1) d

/-- Steps in one direction add up. -/
theorem StepsBy.bind {f g : Date → Option Date} {a b : ℤ} (hf : StepsBy f a) (hg : StepsBy g b)
    (hsign : 0 ≤ a ∧ 0 ≤ b ∨ a ≤ 0 ∧ b ≤ 0) : StepsBy (fun d ↦ (f d).bind g) (a + b) := by
  intro d
  have hstep := hf d
  have hfirst := d.one_le_dayNumber
  have hlast := d.dayNumber_le
  dsimp only
  cases he : f d with
  | none =>
    rw [he] at hstep
    rw [Option.bind_none]
    omega
  | some e =>
    rw [he] at hstep
    have hrest := hg e
    rw [Option.bind_some]
    cases hd : g e with
    | none =>
      rw [hd] at hrest
      dsimp only at hrest hstep ⊢
      omega
    | some c =>
      rw [hd] at hrest
      dsimp only at hrest hstep ⊢
      omega

theorem StepsBy.walk {step : Date → Option Date} {δ : ℤ} (h : StepsBy step δ) (n : ℕ) :
    StepsBy (walk step n) (n * δ) := by
  induction n with
  | zero =>
    intro d
    simp [Date.walk]
  | succ n ih =>
    have hsign : 0 ≤ δ ∧ 0 ≤ n * δ ∨ δ ≤ 0 ∧ n * δ ≤ 0 := by
      rcases le_total 0 δ with hpos | hneg
      · exact .inl ⟨hpos, mul_nonneg (Int.natCast_nonneg n) hpos⟩
      · exact .inr ⟨hneg, mul_nonpos_of_nonneg_of_nonpos (Int.natCast_nonneg n) hneg⟩
    have hsum : ((n + 1 : ℕ) : ℤ) * δ = δ + n * δ := by
      push_cast
      ring
    rw [hsum]
    exact h.bind ih hsign

theorem stepsBy_addDays (δ : ℤ) : StepsBy (addDays δ) δ := by
  cases δ with
  | ofNat n =>
    have hwalk := stepsBy_next.walk n
    rwa [mul_one] at hwalk
  | negSucc n =>
    have hwalk := stepsBy_prev.walk (n + 1)
    rwa [mul_neg_one] at hwalk

end Date

/-! ## Moments -/

/-- The microseconds of a day. -/
def microsPerDay : ℕ := 86400000000

/-- A microsecond of a day of the calendar. -/
structure Moment where
  date : Date
  microOfDay : ℕ
  microOfDay_lt : microOfDay < microsPerDay
  deriving DecidableEq

namespace Moment

def hour (m : Moment) : ℕ := m.microOfDay / 3600000000

def minute (m : Moment) : ℕ := m.microOfDay / 60000000 % 60

def second (m : Moment) : ℕ := m.microOfDay / 1000000 % 60

def microsecond (m : Moment) : ℕ := m.microOfDay % 1000000

/-- The moment of that day and time of day, if there is one. -/
def at? (date : Date) (hour minute second microsecond : ℕ) : Option Moment :=
  if h : hour < 24 ∧ minute < 60 ∧ second < 60 ∧ microsecond < 1000000 then
    some ⟨date, ((hour * 60 + minute) * 60 + second) * 1000000 + microsecond, by
      rw [microsPerDay]
      omega⟩
  else none

/-- The number of the microsecond since the day before the first one. -/
def micros (m : Moment) : ℤ := m.date.dayNumber * microsPerDay + m.microOfDay

/-- Moments are told apart by their number. -/
theorem micros_inj {m n : Moment} (h : m.micros = n.micros) : m = n := by
  obtain ⟨d, s, hs⟩ := m
  obtain ⟨e, t, ht⟩ := n
  simp only [micros, microsPerDay] at h hs ht
  have hday : d.dayNumber = e.dayNumber := by omega
  obtain rfl := Date.dayNumber_inj hday
  have htime : s = t := by omega
  subst htime
  rfl

/-- The moment that many microseconds later. -/
def shift (m : Moment) (δ : ℤ) : Option Moment :=
  (m.date.addDays ((m.microOfDay + δ) / microsPerDay)).map fun date ↦
    ⟨date, ((m.microOfDay + δ) % microsPerDay).toNat, by
      rw [microsPerDay]
      omega⟩

/-- Shifting shifts the number. -/
theorem shift_micros {m n : Moment} {δ : ℤ} (h : m.shift δ = some n) :
    n.micros = m.micros + δ := by
  obtain ⟨date, hdate, rfl⟩ := Option.map_eq_some_iff.mp h
  have hday := Date.stepsBy_addDays ((m.microOfDay + δ) / microsPerDay) m.date
  rw [hdate] at hday
  simp only [micros, microsPerDay] at hday ⊢
  omega

/-- There is no shifted moment only where its number is not one of a moment. -/
theorem shift_eq_none {m : Moment} {δ : ℤ} (h : m.shift δ = none) (n : Moment) :
    n.micros ≠ m.micros + δ := by
  have hdate := Option.map_eq_none_iff.mp h
  have hday := Date.stepsBy_addDays ((m.microOfDay + δ) / microsPerDay) m.date
  have hfirst := n.date.one_le_dayNumber
  have hlast := n.date.dayNumber_le
  have htime := n.microOfDay_lt
  rw [hdate] at hday
  simp only [micros, microsPerDay] at hday htime ⊢
  omega

/-- What a shift gives depends on the number it leads to. -/
theorem shift_congr {m n : Moment} {δ ε : ℤ} (h : m.micros + δ = n.micros + ε) :
    m.shift δ = n.shift ε := by
  cases hm : m.shift δ with
  | none =>
    cases hn : n.shift ε with
    | none => rfl
    | some k => exact absurd ((shift_micros hn).trans h.symm) (shift_eq_none hm k)
  | some k =>
    cases hn : n.shift ε with
    | none => exact absurd ((shift_micros hm).trans h) (shift_eq_none hn k)
    | some l =>
      have hkl : k.micros = l.micros := by rw [shift_micros hm, shift_micros hn, h]
      rw [micros_inj hkl]

end Moment

end Gregorian
