import Mathlib.Algebra.GroupWithZero.Nat
import SatelliteTrack.Calendar

/-!
# The days of the Gregorian calendar

`Date.ofDay` finds the date of a day by a formula. Here the days are counted by the calendar's own
rules: every year has 365 days or, when it is a leap year, 366 (`yearStart_succ`), its months have just
these days (`daysBefore_end`), and the first of January 1970 is day zero (`yearStart_epoch`). **The law**:
the date that is found for a day is one that the calendar has (`Date.isValid_ofDay`), and its number in
that count is the day again (`Date.number_ofDay`). It holds in both directions without bound, years before
the first one included.

The proof counts a day of a four-century era as so many centuries, then groups of four years, then
years, all beginning in March, and the days that are left (`exists_parts`). In that form the leap day is
the last of its year, and the formula only has to find the parts back (`year_of_parts`).
-/

namespace SatelliteTrack.Calendar

/-! ## Counting by the rules -/

/-- The year has a twenty-ninth of February. -/
def isLeap (year : Int) : Bool :=
  year % 4 == 0 && (year % 100 != 0 || year % 400 == 0)

/-- The days of a month. -/
def daysInMonth (year : Int) (month : Nat) : Nat :=
  if month = 2 then if isLeap year then 29 else 28
  else if month = 4 ∨ month = 6 ∨ month = 9 ∨ month = 11 then 30
  else 31

/-- The days of a year. -/
def daysInYear (year : Int) : Nat := if isLeap year then 366 else 365

/-- The day on which a year begins, counted from the start of 1970. -/
def yearStart (year : Int) : Int :=
  365 * (year - 1) + (year - 1) / 4 - (year - 1) / 100 + (year - 1) / 400 - 719162

/-- The days of a year before one of its months. -/
def daysBefore (year : Int) (month : Nat) : Nat :=
  ((List.range' 1 (month - 1)).map (daysInMonth year)).sum

/-- The date is one that the calendar has. -/
structure Date.IsValid (d : Date) : Prop where
  month_pos : 1 ≤ d.month
  month_le : d.month ≤ 12
  day_pos : 1 ≤ d.day
  day_le : d.day ≤ daysInMonth d.year d.month

instance (d : Date) : Decidable d.IsValid :=
  decidable_of_iff (1 ≤ d.month ∧ d.month ≤ 12 ∧ 1 ≤ d.day ∧ d.day ≤ daysInMonth d.year d.month)
    ⟨fun ⟨month_pos, month_le, day_pos, day_le⟩ => ⟨month_pos, month_le, day_pos, day_le⟩,
      fun ⟨month_pos, month_le, day_pos, day_le⟩ => ⟨month_pos, month_le, day_pos, day_le⟩⟩

/-- The number of a date in the count of the days. -/
def Date.number (d : Date) : Int := yearStart d.year + daysBefore d.year d.month + d.day - 1

theorem isLeap_iff (year : Int) :
    isLeap year = true ↔ year % 4 = 0 ∧ (year % 100 = 0 → year % 400 = 0) := by
  simp only [isLeap, Bool.and_eq_true, Bool.or_eq_true, beq_iff_eq, bne_iff_ne, ne_eq]
  omega

theorem yearStart_epoch : yearStart 1970 = 0 := by decide

/-- **The length of a year**: the next one begins when its days are over. -/
theorem yearStart_succ (year : Int) : yearStart (year + 1) = yearStart year + daysInYear year := by
  by_cases leap : isLeap year
  · have rule := (isLeap_iff year).mp leap
    simp only [yearStart, daysInYear, leap, if_true]
    omega
  · have rule := mt (isLeap_iff year).mpr leap
    simp only [yearStart, daysInYear, leap, if_false, Bool.false_eq_true]
    omega

/-- The months make up the year. -/
theorem daysBefore_end (year : Int) : daysBefore year 13 = daysInYear year := by
  unfold daysBefore daysInYear daysInMonth
  cases isLeap year <;> rfl

/-- From March on the months begin in a regular way, whatever the year. -/
theorem daysBefore_of_march (year : Int) {month : Nat} (h : month < 10) :
    daysBefore year (month + 3) + 306 = daysInYear year + monthStart month := by
  have cases (leap : Bool) : ∀ m : Fin 10,
      ((List.range' 1 (m + 2)).map fun k => if k = 2 then if leap then 29 else 28
        else if k = 4 ∨ k = 6 ∨ k = 9 ∨ k = 11 then 30 else 31).sum + 306 =
      (if leap then 366 else 365) + monthStart m := by
    cases leap <;> decide
  exact cases (isLeap year) ⟨month, h⟩

/-- January and February are the last months of a year that begins in March. -/
theorem daysBefore_of_january (year : Int) {month : Nat} (low : 10 ≤ month) (high : month < 12) :
    daysBefore year (month - 9) + 306 = monthStart month := by
  obtain rfl | rfl : month = 10 ∨ month = 11 := by omega
  · rfl
  · rfl

/-! ## The parts of an era -/

/-- A day of an era, as centuries, groups of four years, years and days. -/
structure Parts where
  centuries : Nat
  groups : Nat
  years : Nat
  days : Nat

namespace Parts

/-- The parts are as large as the calendar allows: a leap day ends the fourth year of a group, unless
that ends a century that is not the last of its era. -/
structure InRange (p : Parts) : Prop where
  centuries : p.centuries ≤ 3
  groups : p.groups ≤ 24
  years : p.years ≤ 3
  days : p.days ≤ 365
  leap : p.days = 365 → p.years = 3 ∧ (p.groups < 24 ∨ p.centuries = 3)

/-- The year of the era. -/
def year (p : Parts) : Nat := 100 * p.centuries + 4 * p.groups + p.years

/-- The day of the era. -/
def dayOfEra (p : Parts) : Nat := 36524 * p.centuries + 1461 * p.groups + 365 * p.years + p.days

end Parts

/-- Every day of an era has parts. -/
theorem exists_parts {n : Nat} (h : n < 146097) : ∃ p : Parts, p.InRange ∧ p.dayOfEra = n := by
  by_cases last : n = 146096
  · exact ⟨⟨3, 24, 3, 365⟩, ⟨by decide, by decide, by decide, by decide, by decide⟩, last.symm⟩
  by_cases leap : n % 36524 % 1461 = 1460
  · refine ⟨⟨n / 36524, n % 36524 / 1461, 3, 365⟩, ⟨?_, ?_, ?_, ?_, ?_⟩, ?_⟩ <;>
      dsimp only [Parts.dayOfEra] <;> omega
  · refine ⟨⟨n / 36524, n % 36524 / 1461, n % 36524 % 1461 / 365, n % 36524 % 1461 % 365⟩,
      ⟨?_, ?_, ?_, ?_, ?_⟩, ?_⟩ <;> dsimp only [Parts.dayOfEra] <;> omega

/-- Whole centuries do not disturb the count of the days after them; the last day of an era ends the
fourth century, and with it a whole era of days. -/
theorem century_of_day {c rest : Nat} (hc : c ≤ 3) (hr : rest ≤ 36524) (last : rest = 36524 → c = 3) :
    (36524 * c + rest) / 146096 = rest / 36524 ∧ (36524 * c + rest) / 36524 = c + rest / 36524 := by
  rw [Nat.mul_add_div (by decide)]
  refine ⟨?_, rfl⟩
  omega

namespace Parts

variable {p : Parts}

/-- The leap days that a day of an era has behind it; its own counts when it is late in its year. -/
theorem leap_days (h : p.InRange) : ∃ carry rest, rest < 365 ∧ p.days = rest + carry ∧
    p.dayOfEra / 1460 = 25 * p.centuries + p.groups + carry := by
  obtain ⟨c, q, j, u⟩ := p
  obtain ⟨hc, hq, hj, hu, leap⟩ := h
  dsimp only at hc hq hj hu leap
  refine ⟨(u + 365 * j + 24 * c + q) / 1460, u - (u + 365 * j + 24 * c + q) / 1460, ?_, ?_, ?_⟩
  · omega
  · dsimp only
    omega
  · have split : dayOfEra ⟨c, q, j, u⟩ = 1460 * (25 * c + q) + (u + 365 * j + 24 * c + q) := by
      dsimp only [dayOfEra]
      omega
    rw [split, Nat.mul_add_div (by decide)]

/-- The days after the whole centuries make less than a century, or the last one with its leap day. -/
theorem days_of_century (h : p.InRange) : 1461 * p.groups + 365 * p.years + p.days ≤ 36524 ∧
    (1461 * p.groups + 365 * p.years + p.days = 36524 → p.centuries = 3) := by
  obtain ⟨-, hq, hj, hu, leap⟩ := h
  omega

/-- **The year of the era** is found from the day of the era. -/
theorem year_eq (h : p.InRange) : (p.dayOfEra - p.dayOfEra / 1460 + p.dayOfEra / 36524 -
    p.dayOfEra / 146096) / 365 = p.year := by
  obtain ⟨carry, rest, small, hdays, spans⟩ := leap_days h
  obtain ⟨bound, last⟩ := days_of_century h
  obtain ⟨eras, centuries⟩ := century_of_day h.centuries bound last
  have whole : 36524 * p.centuries + (1461 * p.groups + 365 * p.years + p.days) = p.dayOfEra := by
    unfold dayOfEra
    omega
  rw [whole] at eras centuries
  generalize (1461 * p.groups + 365 * p.years + p.days) / 36524 = ended at eras centuries
  have count : p.dayOfEra - p.dayOfEra / 1460 + p.dayOfEra / 36524 - p.dayOfEra / 146096 =
      365 * p.year + rest := by
    rw [spans, eras, centuries, dayOfEra, hdays, year]
    omega
  rw [count, Nat.mul_add_div (by decide), Nat.div_eq_of_lt small, Nat.add_zero]

/-- The day of the year is what its years leave of the day of the era. -/
theorem days_eq (h : p.InRange) :
    p.dayOfEra - (365 * p.year + p.year / 4 - p.year / 100) = p.days := by
  obtain ⟨c, q, j, u⟩ := p
  obtain ⟨hc, hq, hj, hu, -⟩ := h
  dsimp only [dayOfEra, year] at *
  omega

/-- A leap day comes before January of a leap year. -/
theorem isLeap_of_days (h : p.InRange) (era : Int) (leap : p.days = 365) :
    isLeap (p.year + era * 400 + 1) = true := by
  obtain ⟨hc, hq, hj, -, last⟩ := h
  obtain ⟨hj', ends⟩ := last leap
  rw [isLeap_iff]
  unfold year
  omega

/-- A year of an era begins after the days of the eras and years before it, counted from March. -/
theorem yearStart_eq (h : p.InRange) (era : Int) :
    yearStart (p.year + era * 400 + 1) + p.days = era * eraDays + p.dayOfEra - epochDay + 306 := by
  obtain ⟨c, q, j, u⟩ := p
  obtain ⟨hc, hq, hj, hu, -⟩ := h
  dsimp only [dayOfEra, year, yearStart, eraDays, epochDay] at *
  omega

end Parts

/-! ## The date of a day -/

/-- The date of a day of a year that begins in March. -/
def Date.ofMarch (year : Int) (days : Nat) : Date :=
  let month := (5 * days + 2) / 153
  { year := if month < 10 then year else year + 1
    month := if month < 10 then month + 3 else month - 9
    day := days - monthStart month + 1 }

/-- The month that is found has begun and is not over. -/
theorem monthStart_le {days : Nat} (h : days ≤ 365) : (5 * days + 2) / 153 < 12 ∧
    monthStart ((5 * days + 2) / 153) ≤ days ∧ days < monthStart ((5 * days + 2) / 153 + 1) := by
  unfold monthStart
  omega

/-- The number of a date that was counted from March. -/
theorem Date.number_ofMarch (year : Int) {days : Nat} (h : days ≤ 365) :
    (Date.ofMarch year days).number = yearStart (year + 1) + days - 306 := by
  obtain ⟨bound, begun, -⟩ := monthStart_le h
  unfold Date.number Date.ofMarch
  generalize (5 * days + 2) / 153 = month at bound begun
  by_cases early : month < 10
  · have before := daysBefore_of_march year early
    simp only [early, if_true, yearStart_succ]
    omega
  · have before := daysBefore_of_january (year + 1) (by omega) bound
    simp only [early, if_false]
    omega

/-- The months from March on, the last one apart, have the days that lie between their beginnings. -/
theorem daysInMonth_of_march (year : Int) {month : Nat} (h : month < 11) :
    monthStart (month + 1) - monthStart month =
      daysInMonth (if month < 10 then year else year + 1) (if month < 10 then month + 3 else month - 9) := by
  have cases : ∀ m : Fin 11, let k := if m.val < 10 then m.val + 3 else m.val - 9
      monthStart (m + 1) - monthStart m = if k = 4 ∨ k = 6 ∨ k = 9 ∨ k = 11 then 30 else 31 := by
    decide
  have february : (if month < 10 then month + 3 else month - 9) ≠ 2 := by split <;> omega
  rw [daysInMonth, if_neg february]
  exact cases ⟨month, h⟩

/-- A date that was counted from March is one that the calendar has, when a leap day belongs to a leap
year. -/
theorem Date.isValid_ofMarch (year : Int) {days : Nat} (h : days ≤ 365)
    (leap : days = 365 → isLeap (year + 1) = true) : (Date.ofMarch year days).IsValid := by
  obtain ⟨bound, begun, going⟩ := monthStart_le h
  constructor <;> dsimp only [Date.ofMarch] <;> generalize (5 * days + 2) / 153 = month at *
  · split <;> omega
  · split <;> omega
  · omega
  · by_cases february : month = 11
    · subst february
      by_cases last : days = 365
      · rw [if_neg (by decide), if_neg (by decide), daysInMonth, if_pos rfl, leap last, last]
        decide
      · rw [if_neg (by decide), if_neg (by decide), daysInMonth, if_pos rfl]
        have : monthStart 11 = 337 := by decide
        split <;> omega
    · rw [← daysInMonth_of_march year (by omega)]
      omega

/-- The parts of a day: its era, and the day of that era. -/
theorem Date.exists_ofDay (n : Int) : ∃ (era : Int) (p : Parts), p.InRange ∧
    Date.ofDay n = Date.ofMarch (p.year + era * 400) p.days ∧
    n = era * eraDays + p.dayOfEra - epochDay := by
  have bound : ((n + epochDay) % eraDays).toNat < 146097 := by
    unfold eraDays
    omega
  obtain ⟨p, inRange, day⟩ := exists_parts bound
  refine ⟨(n + epochDay) / eraDays, p, inRange, ?_, ?_⟩
  · unfold Date.ofDay
    simp only [← day, Parts.year_eq inRange, Parts.days_eq inRange]
    rfl
  · unfold eraDays at *
    omega

/-- **The date of a day is numbered by that day.** -/
theorem Date.number_ofDay (n : Int) : (Date.ofDay n).number = n := by
  obtain ⟨era, p, inRange, date, day⟩ := Date.exists_ofDay n
  rw [date, Date.number_ofMarch _ inRange.days, Parts.yearStart_eq inRange]
  omega

/-- **The date of a day is one that the calendar has.** -/
theorem Date.isValid_ofDay (n : Int) : (Date.ofDay n).IsValid := by
  obtain ⟨era, p, inRange, date, -⟩ := Date.exists_ofDay n
  rw [date]
  exact Date.isValid_ofMarch _ inRange.days (Parts.isLeap_of_days inRange era)

example : Date.ofDay 0 = ⟨1970, 1, 1⟩ := by decide

end SatelliteTrack.Calendar
