import SatelliteTrack.Proofs.CalendarDays
import SatelliteTrack.Proofs.WholeNumbers

/-!
# Moments read back

A moment is written as its date and its time of day. `moment?` is a reader of such a text that knows the
calendar only by its count of days: it takes six numbers and the marks between them, refuses what is no
date or no time of day, and answers with the seconds that the day begins at and the seconds of the day.
**The law** (`moment?_momentText`): a written moment is read as that moment, for every moment, in years
of any number of digits and in years before the first.
-/

namespace SatelliteTrack.Calendar

/-! ## Reading -/

/-- A text after the mark that it begins with. -/
def after? (mark : Char) : List Char → Option (List Char)
  | [] => none
  | c :: rest => if c = mark then some rest else none

/-- The second of a day. -/
def Time.toSecond (t : Time) : Nat :=
  t.hour * 3600 + t.minute * 60 + t.second

/-- The time of day is one that a day has. -/
structure Time.IsValid (t : Time) : Prop where
  hour : t.hour < 24
  minute : t.minute < 60
  second : t.second < 60

instance (t : Time) : Decidable t.IsValid :=
  decidable_of_iff (t.hour < 24 ∧ t.minute < 60 ∧ t.second < 60)
    ⟨fun ⟨hour, minute, second⟩ => ⟨hour, minute, second⟩,
      fun ⟨hour, minute, second⟩ => ⟨hour, minute, second⟩⟩

/-- A date at the beginning of a text. -/
def date? (cs : List Char) : Option (Date × List Char) := do
  let (year, cs) ← Text.integer? cs
  let (month, cs) ← Text.natural? (← after? '-' cs)
  let (day, cs) ← Text.natural? (← after? '-' cs)
  let d : Date := ⟨year, month, day⟩
  if d.IsValid then some (d, cs) else none

/-- A time of day at the beginning of a text. -/
def time? (cs : List Char) : Option (Time × List Char) := do
  let (hour, cs) ← Text.natural? cs
  let (minute, cs) ← Text.natural? (← after? ':' cs)
  let (second, cs) ← Text.natural? (← after? ':' cs)
  let t : Time := ⟨hour, minute, second⟩
  if t.IsValid then some (t, cs) else none

/-- The moment that a text names, the date and the time of day apart by a mark: the offset must be
zero. -/
def moment? (mark : Char) (cs : List Char) : Option Int := do
  let (d, cs) ← date? cs
  let (t, offset) ← time? (← after? mark cs)
  if offset = "+00:00".toList then some (d.number * 86400 + t.toSecond) else none

/-! ## What is written -/

@[simp] theorem after?_cons (mark : Char) (rest : List Char) : after? mark (mark :: rest) = some rest := by
  simp [after?]

/-- A year is read as it is written, in front of the mark after it. -/
theorem integer?_yearText (year : Int) {rest : List Char} (ends : Text.DigitsEnd rest) :
    Text.integer? ((yearText year).toList ++ rest) = some (year, rest) := by
  unfold yearText
  split
  · next ordinary => rw [Text.integer?_padded 4 _ ends, Int.toNat_of_nonneg ordinary.1]
  · split
    · next negative =>
      have sign : ("-" ++ padded 4 year.natAbs).toList = '-' :: (padded 4 year.natAbs).toList := by
        rw [String.toList_append]
        rfl
      rw [sign, List.cons_append, Text.integer?, Text.natural?_padded 4 _ ends, Option.map_some]
      simp only [Option.some.injEq, Prod.mk.injEq, and_true]
      omega
    · next positive =>
      have sign : ("+" ++ padded 4 year.natAbs).toList = '+' :: (padded 4 year.natAbs).toList := by
        rw [String.toList_append]
        rfl
      rw [sign, List.cons_append, Text.integer?, Text.natural?_padded 4 _ ends, Option.map_some]
      simp only [Option.some.injEq, Prod.mk.injEq, and_true]
      omega

theorem Date.toList_text (d : Date) : d.text.toList = (yearText d.year).toList ++
    '-' :: ((padded 2 d.month).toList ++ '-' :: (padded 2 d.day).toList) := by
  have dash : "-".toList = ['-'] := rfl
  simp only [Date.text, String.toList_append, dash, List.append_assoc, List.cons_append, List.nil_append]

theorem Time.toList_text (t : Time) : t.text.toList = (padded 2 t.hour).toList ++
    ':' :: ((padded 2 t.minute).toList ++ ':' :: (padded 2 t.second).toList) := by
  have colon : ":".toList = [':'] := rfl
  simp only [Time.text, String.toList_append, colon, List.append_assoc, List.cons_append,
    List.nil_append]

/-- A date of the calendar is read as it is written. -/
theorem date?_text {d : Date} (valid : d.IsValid) {rest : List Char} (ends : Text.DigitsEnd rest) :
    date? (d.text.toList ++ rest) = some (d, rest) := by
  have dash (cs : List Char) : Text.DigitsEnd ('-' :: cs) := Text.digitsEnd_cons.mpr (by decide)
  have year := integer?_yearText d.year (dash ((padded 2 d.month).toList ++
    '-' :: ((padded 2 d.day).toList ++ rest)))
  have month := Text.natural?_padded 2 d.month (dash ((padded 2 d.day).toList ++ rest))
  have day := Text.natural?_padded 2 d.day ends
  simp only [date?, Date.toList_text, List.append_assoc, List.cons_append, year, month, day,
    Option.bind_eq_bind, Option.bind_some, after?_cons, valid, if_true]

/-- A time of day is read as it is written. -/
theorem time?_text {t : Time} (valid : t.IsValid) {rest : List Char} (ends : Text.DigitsEnd rest) :
    time? (t.text.toList ++ rest) = some (t, rest) := by
  have colon (cs : List Char) : Text.DigitsEnd (':' :: cs) := Text.digitsEnd_cons.mpr (by decide)
  have hour := Text.natural?_padded 2 t.hour (colon ((padded 2 t.minute).toList ++
    ':' :: ((padded 2 t.second).toList ++ rest)))
  have minute := Text.natural?_padded 2 t.minute (colon ((padded 2 t.second).toList ++ rest))
  have second := Text.natural?_padded 2 t.second ends
  simp only [time?, Time.toList_text, List.append_assoc, List.cons_append, hour, minute, second,
    Option.bind_eq_bind, Option.bind_some, after?_cons, valid, if_true]

/-- A second of a day has a time of day, and that time is again this second. -/
theorem Time.ofSecond_valid {n : Nat} (h : n < 86400) :
    (Time.ofSecond n).IsValid ∧ (Time.ofSecond n).toSecond = n := by
  refine ⟨⟨?_, ?_, ?_⟩, ?_⟩ <;> dsimp only [Time.ofSecond, Time.toSecond] <;> omega

/-- **A moment is read as it was written.** -/
theorem moment?_momentText {mark : Char} (notDigit : mark.isDigit = false) (seconds : Int) :
    moment? mark (momentText (String.singleton mark) seconds).toList = some seconds := by
  have bound : (seconds % 86400).toNat < 86400 := by omega
  obtain ⟨timeValid, toSecond⟩ := Time.ofSecond_valid bound
  have text : (momentText (String.singleton mark) seconds).toList =
      (Date.ofDay (seconds / 86400)).text.toList ++
        mark :: ((Time.ofSecond (seconds % 86400).toNat).text.toList ++ "+00:00".toList) := by
    simp only [momentText, ofEpoch, String.toList_append, String.toList_singleton, List.append_assoc,
      List.cons_append, List.nil_append]
  have marked (cs : List Char) : Text.DigitsEnd (mark :: cs) := Text.digitsEnd_cons.mpr notDigit
  have offset : Text.DigitsEnd "+00:00".toList := Text.digitsEnd_cons.mpr (by decide)
  have date := date?_text (Date.isValid_ofDay (seconds / 86400))
    (marked ((Time.ofSecond (seconds % 86400).toNat).text.toList ++ "+00:00".toList))
  have time := time?_text timeValid offset
  simp only [moment?, text, date, time, Option.bind_eq_bind, Option.bind_some, after?_cons, if_true,
    Date.number_ofDay, toSecond, Option.some.injEq]
  omega

/-- A moment of a table is read as it was written. -/
theorem moment?_tableText (seconds : Int) : moment? ' ' (tableText seconds).toList = some seconds :=
  moment?_momentText (by decide) seconds

end SatelliteTrack.Calendar
