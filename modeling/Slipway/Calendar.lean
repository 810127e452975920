/-
  Days of the Gregorian calendar, counted from the first of January 1970. A year is taken to begin
  with March, so that a leap day is the last of its year. `daysOf_dateOf`: every day is the day of
  its date.
-/

namespace Slipway.Calendar

structure Date where
  year : Int
  month : Nat
  day : Nat
  deriving DecidableEq, Repr

def isLeap (year : Int) : Bool := year % 4 = 0 ∧ (year % 100 ≠ 0 ∨ year % 400 = 0)

def monthLength (year : Int) (month : Nat) : Nat :=
  if month = 2 then (if isLeap year then 29 else 28)
  else if month = 4 ∨ month = 6 ∨ month = 9 ∨ month = 11 then 30
  else 31

def Date.Valid (d : Date) : Prop :=
  1 ≤ d.month ∧ d.month ≤ 12 ∧ 1 ≤ d.day ∧ d.day ≤ monthLength d.year d.month

instance (d : Date) : Decidable d.Valid := inferInstanceAs (Decidable (_ ∧ _ ∧ _ ∧ _))

/-- The days of four hundred years. -/
def eraDays : Int := 146097

/-- The day on which era 0 begins, the first of March of the year 0. -/
def eraStart : Int := -719468

/-- The days from the beginning of an era to that of one of its years. -/
def yearStart (y : Int) : Int := 365 * y + y / 4 - y / 100

/-- The days from one first of March to the beginning of the `m`-th month after it. -/
def monthStart (m : Int) : Int := (153 * m + 2) / 5

/-- The number of a day, by era, year of the era, month and day counted from 0. -/
def dayNumber (era year month day : Int) : Int :=
  eraStart + era * eraDays + yearStart year + monthStart month + day

def daysOf (d : Date) : Int :=
  if 3 ≤ d.month then dayNumber (d.year / 400) (d.year % 400) (d.month - 3) (d.day - 1)
  else dayNumber ((d.year - 1) / 400) ((d.year - 1) % 400) (d.month + 9) (d.day - 1)

/-- The year of an era in which the `n`-th day of the era lies. Centuries and years are cut off at
    the fourth, which has one day more than the others. -/
def yearOf (n : Int) : Int :=
  let century := min 3 (n / 36524)
  let inCentury := n - 36524 * century
  100 * century + 4 * (inCentury / 1461) + min 3 (inCentury % 1461 / 365)

def monthOf (n : Int) : Int := (5 * n + 2) / 153

/-- The date of the `n`-th day of a year that begins with March. -/
def dateInYear (year n : Int) : Date :=
  let month := monthOf n
  let day := (n - monthStart month + 1).toNat
  if month < 10 then ⟨year, (month + 3).toNat, day⟩ else ⟨year + 1, (month - 9).toNat, day⟩

def dateOf (n : Int) : Date :=
  let inEra := (n - eraStart) % eraDays
  let year := yearOf inEra
  dateInYear ((n - eraStart) / eraDays * 400 + year) (inEra - yearStart year)

theorem yearOf_bounds {n : Int} (h : 0 ≤ n ∧ n < 146097) : 0 ≤ yearOf n ∧ yearOf n < 400 := by
  simp only [yearOf]
  omega

theorem yearStart_bounds {n : Int} (h : 0 ≤ n ∧ n < 146097) :
    0 ≤ n - yearStart (yearOf n) ∧ n - yearStart (yearOf n) ≤ 365 := by
  have hc : 0 ≤ min 3 (n / 36524) ∧ min 3 (n / 36524) ≤ 3 := by omega
  have hr : 0 ≤ n - 36524 * min 3 (n / 36524) ∧ n - 36524 * min 3 (n / 36524) ≤ 36524 := by omega
  simp only [yearOf, yearStart]
  generalize min 3 (n / 36524) = c at *
  generalize hi : n - 36524 * c = i at *
  have hn : n = 36524 * c + i := by omega
  have hy : 0 ≤ min 3 (i % 1461 / 365) ∧ min 3 (i % 1461 / 365) ≤ 3 ∧
      0 ≤ i % 1461 - 365 * min 3 (i % 1461 / 365) ∧
      i % 1461 - 365 * min 3 (i % 1461 / 365) ≤ 365 := by omega
  generalize min 3 (i % 1461 / 365) = y at *
  have hq : 0 ≤ i / 1461 ∧ i / 1461 ≤ 24 := by omega
  have hi' : i = 1461 * (i / 1461) + i % 1461 := by omega
  generalize i / 1461 = q at *
  have h4 : (100 * c + 4 * q + y) / 4 = 25 * c + q := by omega
  have h100 : (100 * c + 4 * q + y) / 100 = c := by omega
  rw [h4, h100]
  omega

theorem daysOf_dateInYear {year n : Int} (h : 0 ≤ n ∧ n ≤ 365) :
    daysOf (dateInYear year n) =
      eraStart + year / 400 * eraDays + yearStart (year % 400) + n := by
  have hm : 0 ≤ monthOf n ∧ monthOf n ≤ 11 := by simp only [monthOf]; omega
  have hd : 0 ≤ n - monthStart (monthOf n) := by simp only [monthOf, monthStart]; omega
  simp only [dateInYear]
  split
  · have h3 : 3 ≤ (monthOf n + 3).toNat := by omega
    have hmonth : (((monthOf n + 3).toNat : Nat) : Int) - 3 = monthOf n := by omega
    have hday : (((n - monthStart (monthOf n) + 1).toNat : Nat) : Int) - 1 =
        n - monthStart (monthOf n) := by omega
    simp only [daysOf, h3, if_true, dayNumber, hmonth, hday]
    omega
  · have h3 : ¬ 3 ≤ (monthOf n - 9).toNat := by omega
    have hmonth : (((monthOf n - 9).toNat : Nat) : Int) + 9 = monthOf n := by omega
    have hday : (((n - monthStart (monthOf n) + 1).toNat : Nat) : Int) - 1 =
        n - monthStart (monthOf n) := by omega
    have hyear : year + 1 - 1 = year := by omega
    simp only [daysOf, h3, if_false, dayNumber, hmonth, hday, hyear]
    omega

/-- Every day is the day of its date. -/
theorem daysOf_dateOf (n : Int) : daysOf (dateOf n) = n := by
  have h : 0 ≤ (n - eraStart) % eraDays ∧ (n - eraStart) % eraDays < 146097 := by
    simp only [eraDays]; omega
  have hy := yearOf_bounds h
  simp only [dateOf, daysOf_dateInYear (yearStart_bounds h)]
  have hq : ((n - eraStart) / eraDays * 400 + yearOf ((n - eraStart) % eraDays)) / 400 =
      (n - eraStart) / eraDays := by omega
  have hr : ((n - eraStart) / eraDays * 400 + yearOf ((n - eraStart) % eraDays)) % 400 =
      yearOf ((n - eraStart) % eraDays) := by omega
  have he := Int.mul_ediv_add_emod (n - eraStart) eraDays
  rw [hq, hr, Int.mul_comm]
  omega

end Slipway.Calendar
