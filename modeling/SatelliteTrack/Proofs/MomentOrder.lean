import SatelliteTrack.Proofs.MomentText

/-!
# Moments are ordered as their texts are

A table is sorted by its moments, and whoever reads it sees texts. **The law** (`tableText_lt_iff`): of
two moments in the years 0 to 9999 the earlier one is the one whose text comes first, character by
character. Such a text is always 25 characters long (`length_tableText`).

Both orders are taken apart in the same way, into year, month, day, hour, minute and second. For the text
this is so because each of these is written in a fixed number of digits, so that the first difference
between two texts is one between two numbers (`padded_append_lt_iff`). For the moments it is so because a
year begins where the one before it ends, and so does a month (`Date.number_lt_of_before`); nothing else
about leap years comes into it.
-/

namespace SatelliteTrack

/-! ## Numbers of one width -/

namespace Text

/-- The value of a digit in front of others. -/
theorem ofDigitChars_cons_eq (c : Char) (cs : List Char) : Nat.ofDigitChars 10 (c :: cs) 0 =
    10 ^ cs.length * (c.toNat - '0'.toNat) + Nat.ofDigitChars 10 cs 0 := by
  rw [Nat.ofDigitChars_cons, Nat.ofDigitChars_eq_ofDigitChars_zero, Nat.mul_zero, Nat.zero_add]

theorem toNat_of_isDigit {c : Char} (h : c.isDigit = true) : '0'.toNat ≤ c.toNat ∧ c.toNat ≤ '9'.toNat := by
  rw [Char.isDigit, Bool.and_eq_true, decide_eq_true_iff, decide_eq_true_iff] at h
  exact ⟨UInt32.le_iff_toNat_le.mp h.1, UInt32.le_iff_toNat_le.mp h.2⟩

theorem ofDigitChars_lt {cs : List Char} (digits : ∀ c ∈ cs, c.isDigit = true) :
    Nat.ofDigitChars 10 cs 0 < 10 ^ cs.length := by
  induction cs with
  | nil => exact Nat.one_pos
  | cons c cs ih =>
    obtain ⟨digit, others⟩ := List.forall_mem_cons.mp digits
    have bound := ih others
    have high : c.toNat - '0'.toNat ≤ 9 := by
      have := (toNat_of_isDigit digit).2
      have nine : '9'.toNat = '0'.toNat + 9 := rfl
      omega
    rw [ofDigitChars_cons_eq, List.length_cons, Nat.pow_succ]
    have most := Nat.mul_le_mul_left (10 ^ cs.length) high
    omega

/-- Digits of one length are ordered as their values are, and what follows them counts only when they
agree. -/
theorem digits_append_lt_iff {as bs : List Char} (length : as.length = bs.length)
    (first : ∀ c ∈ as, c.isDigit = true) (second : ∀ c ∈ bs, c.isDigit = true) (rest rest' : List Char) :
    as ++ rest < bs ++ rest' ↔ Nat.ofDigitChars 10 as 0 < Nat.ofDigitChars 10 bs 0 ∨
      Nat.ofDigitChars 10 as 0 = Nat.ofDigitChars 10 bs 0 ∧ rest < rest' := by
  induction as generalizing bs with
  | nil =>
    obtain rfl := List.eq_nil_of_length_eq_zero length.symm
    simp
  | cons a as ih =>
    cases bs with
    | nil => cases length
    | cons b bs =>
      have same : as.length = bs.length := Nat.succ.inj length
      obtain ⟨digit, others⟩ := List.forall_mem_cons.mp first
      obtain ⟨digit', others'⟩ := List.forall_mem_cons.mp second
      have bound := ofDigitChars_lt others
      have bound' := ofDigitChars_lt others'
      have low := (toNat_of_isDigit digit).1
      have low' := (toNat_of_isDigit digit').1
      rw [List.cons_append, List.cons_append, List.cons_lt_cons_iff, ih same others others',
        ofDigitChars_cons_eq, ofDigitChars_cons_eq, ← same]
      rw [← same] at bound'
      rcases Nat.lt_trichotomy a.toNat b.toNat with before | equal | after
      · have less : a < b := UInt32.lt_iff_toNat_lt.mpr before
        have step : 10 ^ as.length * (a.toNat - '0'.toNat + 1) ≤ 10 ^ as.length * (b.toNat - '0'.toNat) :=
          Nat.mul_le_mul_left _ (by omega)
        rw [Nat.mul_succ] at step
        constructor
        · intro _
          exact .inl (by omega)
        · intro _
          exact .inl less
      · obtain rfl : a = b := Char.toNat_inj.mp equal
        simp
      · have greater : b < a := UInt32.lt_iff_toNat_lt.mpr after
        have step : 10 ^ as.length * (b.toNat - '0'.toNat + 1) ≤ 10 ^ as.length * (a.toNat - '0'.toNat) :=
          Nat.mul_le_mul_left _ (by omega)
        rw [Nat.mul_succ] at step
        constructor
        · rintro (less | ⟨equal, -⟩)
          · exact absurd less (Char.lt_asymm greater)
          · exact absurd equal.symm (Char.ne_of_lt greater)
        · rintro (less | ⟨equal, -⟩)
          · omega
          · omega

end Text

namespace Calendar

theorem value_padded (width n : Nat) : Nat.ofDigitChars 10 (padded width n).toList 0 = n := by
  rw [Text.toList_padded, Nat.ofDigitChars_append, Nat.ofDigitChars_replicate_zero, Nat.mul_zero,
    Nat.ofDigitChars_ten_toDigits]

/-- A number that is not too large is written in exactly this width. -/
theorem length_padded {width n : Nat} (some : 0 < width) (small : n < 10 ^ width) :
    (padded width n).toList.length = width := by
  have few := (Nat.length_toDigits_le_iff (by decide : 1 < 10) some).mpr small
  rw [Text.toList_padded, List.length_append, List.length_replicate]
  omega

/-- **Numbers of one width are ordered as their texts are**, and what follows them counts only when they
agree. -/
theorem padded_append_lt_iff {width m n : Nat} (some : 0 < width) (first : m < 10 ^ width)
    (second : n < 10 ^ width) (rest rest' : List Char) :
    (padded width m).toList ++ rest < (padded width n).toList ++ rest' ↔ m < n ∨ m = n ∧ rest < rest' := by
  have length : (padded width m).toList.length = (padded width n).toList.length := by
    rw [length_padded some first, length_padded some second]
  rw [Text.digits_append_lt_iff length (fun _ => Text.isDigit_of_mem_padded)
    (fun _ => Text.isDigit_of_mem_padded), value_padded, value_padded]

/-! ## Dates and times of day -/

/-- The date comes before the other one: by its year, then by its month, then by its day. -/
def Date.Before (d e : Date) : Prop :=
  d.year < e.year ∨ d.year = e.year ∧ (d.month < e.month ∨ d.month = e.month ∧ d.day < e.day)

/-- The time comes before the other one: by its hour, then by its minute, then by its second. -/
def Time.Before (t u : Time) : Prop :=
  t.hour < u.hour ∨ t.hour = u.hour ∧ (t.minute < u.minute ∨ t.minute = u.minute ∧ t.second < u.second)

/-- Years do not overlap. -/
theorem yearStart_le {year later : Int} (h : year ≤ later) : yearStart year ≤ yearStart later := by
  unfold yearStart
  omega

theorem daysBefore_succ (year : Int) {month : Nat} (h : 1 ≤ month) :
    daysBefore year (month + 1) = daysBefore year month + daysInMonth year month := by
  obtain ⟨k, rfl⟩ := Nat.exists_eq_add_of_le h
  rw [daysBefore, daysBefore, Nat.add_sub_cancel, Nat.add_sub_cancel_left, Nat.add_comm 1 k,
    List.range'_1_concat, List.map_append, List.sum_append, Nat.add_comm 1 k]
  rfl

/-- Months do not overlap. -/
theorem daysBefore_le (year : Int) {month later : Nat} (begun : 1 ≤ month) (h : month < later) :
    daysBefore year month + daysInMonth year month ≤ daysBefore year later := by
  induction h with
  | refl => exact Nat.le_of_eq (daysBefore_succ year begun).symm
  | @step later after ih =>
    have := Nat.le_of_succ_le after
    rw [daysBefore_succ year (Nat.le_trans begun this)]
    omega

namespace Date

variable {d e : Date}

/-- The day lies within its month. -/
theorem IsValid.number_in_month (h : d.IsValid) : yearStart d.year + daysBefore d.year d.month ≤ d.number ∧
    d.number < yearStart d.year + daysBefore d.year d.month + daysInMonth d.year d.month := by
  have := h.day_pos
  have := h.day_le
  unfold number
  omega

/-- The day lies within its year. -/
theorem IsValid.number_in_year (h : d.IsValid) :
    yearStart d.year ≤ d.number ∧ d.number < yearStart (d.year + 1) := by
  have inMonth := h.number_in_month
  have inYear := daysBefore_le d.year h.month_pos (Nat.lt_succ_of_le h.month_le)
  rw [daysBefore_end] at inYear
  rw [yearStart_succ]
  omega

theorem number_lt_of_before (first : d.IsValid) (second : e.IsValid) (h : d.Before e) :
    d.number < e.number := by
  rcases h with year | ⟨year, month | ⟨month, day⟩⟩
  · have ends := yearStart_le (Int.add_one_le_of_lt year)
    have := first.number_in_year
    have := second.number_in_year
    omega
  · have ends := daysBefore_le d.year first.month_pos month
    have := first.number_in_month
    have := second.number_in_month
    rw [← year] at this
    omega
  · unfold number
    rw [year, month]
    omega

/-- Of two dates one comes before the other, unless they are the same. -/
theorem before_trichotomy (d e : Date) : d.Before e ∨ d = e ∨ e.Before d := by
  obtain ⟨year, month, day⟩ := d
  obtain ⟨year', month', day'⟩ := e
  simp only [Before, mk.injEq]
  omega

/-- **The earlier of two dates has the smaller number.** -/
theorem before_iff (first : d.IsValid) (second : e.IsValid) : d.Before e ↔ d.number < e.number := by
  constructor
  · exact number_lt_of_before first second
  · intro less
    rcases before_trichotomy d e with before | rfl | after
    · exact before
    · exact absurd less (Int.lt_irrefl _)
    · exact absurd (number_lt_of_before second first after) (Int.lt_asymm less)

theorem eq_iff_number (first : d.IsValid) (second : e.IsValid) : d = e ↔ d.number = e.number := by
  constructor
  · rintro rfl
    rfl
  · intro same
    rcases before_trichotomy d e with before | equal | after
    · have := number_lt_of_before first second before
      omega
    · exact equal
    · have := number_lt_of_before second first after
      omega

end Date

namespace Time

variable {t u : Time}

theorem before_iff (first : t.IsValid) (second : u.IsValid) : t.Before u ↔ t.toSecond < u.toSecond := by
  obtain ⟨-, minute, second₁⟩ := first
  obtain ⟨-, minute', second₂⟩ := second
  unfold Before toSecond
  omega

theorem IsValid.toSecond_lt (h : t.IsValid) : t.toSecond < 86400 := by
  obtain ⟨hour, minute, second⟩ := h
  unfold toSecond
  omega

end Time

/-! ## Texts of moments -/

/-- The year is written in four digits, without a sign. -/
def FourDigits (year : Int) : Prop := 0 ≤ year ∧ year ≤ 9999

theorem yearText_of_fourDigits {year : Int} (h : FourDigits year) : yearText year = padded 4 year.toNat :=
  if_pos h

theorem Date.IsValid.small {d : Date} (h : d.IsValid) : d.month < 10 ^ 2 ∧ d.day < 10 ^ 2 := by
  have month := h.month_le
  have day := h.day_le
  have short : daysInMonth d.year d.month ≤ 31 := by
    unfold daysInMonth
    split
    · split <;> omega
    · split <;> omega
  omega

theorem Date.length_text {d : Date} (valid : d.IsValid) (year : FourDigits d.year) :
    d.text.toList.length = 10 := by
  obtain ⟨month, day⟩ := valid.small
  have few : d.year.toNat < 10 ^ 4 := by
    have := year.2
    omega
  rw [Date.toList_text, yearText_of_fourDigits year]
  simp only [List.length_append, List.length_cons, length_padded (by decide) few,
    length_padded (by decide) month, length_padded (by decide) day]

theorem Time.length_text {t : Time} (valid : t.IsValid) : t.text.toList.length = 8 := by
  obtain ⟨hour, minute, second⟩ := valid
  rw [Time.toList_text]
  simp only [List.length_append, List.length_cons, length_padded (by decide) (by omega : t.hour < 10 ^ 2),
    length_padded (by decide) (by omega : t.minute < 10 ^ 2),
    length_padded (by decide) (by omega : t.second < 10 ^ 2)]

/-- Dates are ordered as their texts are. -/
theorem Date.text_append_lt_iff {d e : Date} (first : d.IsValid) (second : e.IsValid)
    (year : FourDigits d.year) (year' : FourDigits e.year) (rest rest' : List Char) :
    d.text.toList ++ rest < e.text.toList ++ rest' ↔ d.Before e ∨ d = e ∧ rest < rest' := by
  obtain ⟨month, day⟩ := first.small
  obtain ⟨month', day'⟩ := second.small
  have few : d.year.toNat < 10 ^ 4 := by
    have := year.2
    omega
  have few' : e.year.toNat < 10 ^ 4 := by
    have := year'.2
    omega
  simp only [Date.toList_text, yearText_of_fourDigits year, yearText_of_fourDigits year',
    List.append_assoc, List.cons_append, padded_append_lt_iff (by decide) few few',
    padded_append_lt_iff (by decide) month month', padded_append_lt_iff (by decide) day day',
    List.cons_lt_cons_self]
  have same : d.year.toNat = e.year.toNat ↔ d.year = e.year := by
    have := year.1
    have := year'.1
    omega
  have less : d.year.toNat < e.year.toNat ↔ d.year < e.year := by
    have := year.1
    omega
  have agree : d = e ↔ d.year = e.year ∧ d.month = e.month ∧ d.day = e.day := by
    cases d
    cases e
    exact Date.mk.injEq .. ▸ Iff.rfl
  rw [same, less, Before, agree]
  -- both sides are the comparison by year, month, day and rest, grouped in two ways
  simp only [and_or_left, or_assoc, and_assoc]

theorem Time.text_append_lt_iff {t u : Time} (first : t.IsValid) (second : u.IsValid) (rest : List Char) :
    t.text.toList ++ rest < u.text.toList ++ rest ↔ t.Before u := by
  obtain ⟨hour, minute, second₁⟩ := first
  obtain ⟨hour', minute', second₂⟩ := second
  simp only [Time.toList_text, List.append_assoc, List.cons_append, List.cons_lt_cons_self, Before,
    padded_append_lt_iff (by decide) (by omega : t.hour < 10 ^ 2) (by omega : u.hour < 10 ^ 2),
    padded_append_lt_iff (by decide) (by omega : t.minute < 10 ^ 2) (by omega : u.minute < 10 ^ 2),
    padded_append_lt_iff (by decide) (by omega : t.second < 10 ^ 2) (by omega : u.second < 10 ^ 2),
    List.lt_irrefl, and_false, or_false]

/-- The text of a moment is that of its date and that of its time of day. -/
theorem toList_tableText (seconds : Int) : (tableText seconds).toList =
    (ofEpoch seconds).1.text.toList ++
      ' ' :: ((ofEpoch seconds).2.text.toList ++ "+00:00".toList) := by
  have space : " ".toList = [' '] := rfl
  simp only [tableText, momentText, String.toList_append, space, List.append_assoc, List.cons_append,
    List.nil_append]

/-- **A moment has a date and a time of day**, and they are those that it is so many seconds from the
start of 1970. -/
theorem ofEpoch_valid (seconds : Int) : (ofEpoch seconds).1.IsValid ∧ (ofEpoch seconds).2.IsValid ∧
    (ofEpoch seconds).1.number * 86400 + (ofEpoch seconds).2.toSecond = seconds := by
  have bound : (seconds % 86400).toNat < 86400 := by omega
  obtain ⟨time, toSecond⟩ := Time.ofSecond_valid bound
  refine ⟨Date.isValid_ofDay _, time, ?_⟩
  dsimp only [ofEpoch]
  rw [Date.number_ofDay, toSecond]
  omega

theorem length_tableText {seconds : Int} (year : FourDigits (ofEpoch seconds).1.year) :
    (tableText seconds).toList.length = 25 := by
  obtain ⟨date, time, -⟩ := ofEpoch_valid seconds
  rw [toList_tableText, List.length_append, List.length_cons, List.length_append,
    Date.length_text date year, Time.length_text time]
  rfl

/-- **The earlier of two moments has the text that comes first.** -/
theorem tableText_lt_iff {s t : Int} (year : FourDigits (ofEpoch s).1.year)
    (year' : FourDigits (ofEpoch t).1.year) : tableText s < tableText t ↔ s < t := by
  obtain ⟨date, time, seconds⟩ := ofEpoch_valid s
  obtain ⟨date', time', seconds'⟩ := ofEpoch_valid t
  rw [String.lt_iff, toList_tableText, toList_tableText, Date.text_append_lt_iff date date' year year',
    List.cons_lt_cons_self, Time.text_append_lt_iff time time', Date.before_iff date date',
    Date.eq_iff_number date date', Time.before_iff time time']
  have := time.toSecond_lt
  have := time'.toSecond_lt
  omega

theorem tableText_le_iff {s t : Int} (year : FourDigits (ofEpoch s).1.year)
    (year' : FourDigits (ofEpoch t).1.year) : tableText s ≤ tableText t ↔ s ≤ t := by
  rw [← Int.not_lt, ← tableText_lt_iff year' year]
  rfl

/-! ## Moments of 32 bits -/

/-- Moments of 32 bits lie in the years from 1901 to 2038. -/
theorem year_of_int32 (t : Int32) :
    1901 ≤ (ofEpoch t.toInt).1.year ∧ (ofEpoch t.toInt).1.year ≤ 2038 := by
  have low : -2147483648 ≤ t.toInt := t.le_toInt
  have high : t.toInt < 2147483648 := t.toInt_lt
  obtain ⟨date, time, seconds⟩ := ofEpoch_valid t.toInt
  obtain ⟨begun, going⟩ := date.number_in_year
  have := time.toSecond_lt
  have first : yearStart 1901 = -25202 := by decide
  have last : yearStart 2039 = 25202 := by decide
  constructor
  · refine Int.not_lt.mp fun early => ?_
    have before := yearStart_le (Int.add_one_le_of_lt early)
    omega
  · refine Int.not_lt.mp fun late => ?_
    have after : yearStart 2039 ≤ yearStart (ofEpoch t.toInt).1.year :=
      yearStart_le (Int.add_one_le_of_lt late)
    omega

theorem fourDigits_of_int32 (t : Int32) : FourDigits (ofEpoch t.toInt).1.year := by
  obtain ⟨low, high⟩ := year_of_int32 t
  exact ⟨by omega, by omega⟩

example : tableText (-2147483648) = "1901-12-13 20:45:52+00:00" := by decide

end Calendar

end SatelliteTrack
