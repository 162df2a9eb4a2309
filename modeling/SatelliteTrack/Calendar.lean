/-!
# The UTC calendar

A moment is a number of seconds from the start of 1970, and the Gregorian calendar, carried on in both
directions, gives it a date. `Date.ofDay` counts the years from March, so that the leap day is the
last day of a year and the months before it have a regular length.
-/

namespace SatelliteTrack.Calendar

/-- A day of the Gregorian calendar. -/
structure Date where
  year : Int
  month : Nat
  day : Nat
deriving DecidableEq, Repr

/-- A second of a day. -/
structure Time where
  hour : Nat
  minute : Nat
  second : Nat
deriving DecidableEq, Repr

/-- The days from the first of March of the year 0 to the first of January 1970. -/
def epochDay : Int := 719468

/-- The days of four hundred years. -/
def eraDays : Int := 146097

/-- The days from a first of March to the first of a month, months counted from March. -/
def monthStart (month : Nat) : Nat := (153 * month + 2) / 5

/-- The date of a day, counted from the first of January 1970. -/
def Date.ofDay (n : Int) : Date :=
  let era := (n + epochDay) / eraDays
  let dayOfEra := ((n + epochDay) % eraDays).toNat
  let yearOfEra := (dayOfEra - dayOfEra / 1460 + dayOfEra / 36524 - dayOfEra / 146096) / 365
  let dayOfYear := dayOfEra - (365 * yearOfEra + yearOfEra / 4 - yearOfEra / 100)
  let month := (5 * dayOfYear + 2) / 153
  let year := (yearOfEra : Int) + era * 400
  { year := if month < 10 then year else year + 1
    month := if month < 10 then month + 3 else month - 9
    day := dayOfYear - monthStart month + 1 }

/-- The time of day of a second of a day. -/
def Time.ofSecond (n : Nat) : Time :=
  ⟨n / 3600, n / 60 % 60, n % 60⟩

/-- The date and the time of day of a moment, in seconds from the start of 1970. -/
def ofEpoch (seconds : Int) : Date × Time :=
  (Date.ofDay (seconds / 86400), Time.ofSecond (seconds % 86400).toNat)

/-! ## The text of a moment -/

/-- A number filled up on the left with zeros. -/
def padded (width n : Nat) : String :=
  let digits := toString n
  String.ofList (List.replicate (width - digits.length) '0') ++ digits

/-- A year: four digits, and a sign when that is not enough. -/
def yearText (year : Int) : String :=
  if 0 ≤ year ∧ year ≤ 9999 then padded 4 year.toNat
  else (if year < 0 then "-" else "+") ++ padded 4 year.natAbs

def Date.text (d : Date) : String :=
  yearText d.year ++ "-" ++ padded 2 d.month ++ "-" ++ padded 2 d.day

def Time.text (t : Time) : String :=
  padded 2 t.hour ++ ":" ++ padded 2 t.minute ++ ":" ++ padded 2 t.second

/-- A moment as text, the date and the time apart by a separator; the offset is always zero. -/
def momentText (separator : String) (seconds : Int) : String :=
  let (date, time) := ofEpoch seconds
  date.text ++ separator ++ time.text ++ "+00:00"

/-- Date, space and time: the form of the tables. -/
def tableText (seconds : Int) : String := momentText " " seconds

/-- Date, `T` and time: the form for exchange. -/
def exchangeText (seconds : Int) : String := momentText "T" seconds

end SatelliteTrack.Calendar
