import SatelliteTrack.Calendar

/-!
# Whole numbers read back

A whole number is written as its decimal digits, with a minus sign in front of a negative one, and
sometimes with zeros before it. `natural?` reads the digits at the beginning of a text and leaves the
rest; so what was written reads back in front of any text that goes on with no digit
(`natural?_toString`, `natural?_padded`, `integer?_toString`). Nothing in it is a comma or a line feed.
-/

namespace SatelliteTrack.Text

/-- The number at the beginning of a text, and what follows its digits. -/
def natural? (cs : List Char) : Option (Nat × List Char) :=
  match cs.takeWhile Char.isDigit with
  | [] => none
  | digits => some (Nat.ofDigitChars 10 digits 0, cs.dropWhile Char.isDigit)

/-- The number at the beginning of a text, with an optional sign. -/
def integer? : List Char → Option (Int × List Char)
  | '-' :: cs => (natural? cs).map fun (n, rest) => (-n, rest)
  | '+' :: cs => (natural? cs).map fun (n, rest) => (n, rest)
  | cs => (natural? cs).map fun (n, rest) => (n, rest)

/-- The text does not go on with a digit. -/
def DigitsEnd (rest : List Char) : Prop := ∀ c ∈ rest.head?, c.isDigit = false

@[simp] theorem digitsEnd_nil : DigitsEnd [] := by
  intro c h
  cases h

@[simp] theorem digitsEnd_cons {c : Char} {rest : List Char} :
    DigitsEnd (c :: rest) ↔ c.isDigit = false := by
  simp [DigitsEnd]

/-- Digits in front of a text that does not go on with one are read to their end. -/
theorem natural?_append {digits rest : List Char} (nonempty : digits ≠ [])
    (all : ∀ c ∈ digits, c.isDigit = true) (ends : DigitsEnd rest) :
    natural? (digits ++ rest) = some (Nat.ofDigitChars 10 digits 0, rest) := by
  have taken : rest.takeWhile Char.isDigit = [] ∧ rest.dropWhile Char.isDigit = rest := by
    cases rest with
    | nil => exact ⟨rfl, rfl⟩
    | cons c rest =>
      rw [digitsEnd_cons] at ends
      simp [ends]
  rw [natural?, List.takeWhile_append_of_pos all, List.dropWhile_append_of_pos all, taken.1, taken.2,
    List.append_nil]
  cases digits with
  | nil => exact absurd rfl nonempty
  | cons c digits => rfl

/-- The digits of a number. -/
theorem toList_toString (n : Nat) : (toString n).toList = Nat.toDigits 10 n := by
  rw [Nat.toString_eq_repr, Nat.toList_repr]

/-- A number with zeros before it is zeros and digits. -/
theorem toList_padded (width n : Nat) : (Calendar.padded width n).toList =
    List.replicate (width - (Nat.toDigits 10 n).length) '0' ++ Nat.toDigits 10 n := by
  rw [Calendar.padded, String.toList_append, String.toList_ofList, toList_toString,
    ← toList_toString, String.length_toList]

theorem isDigit_of_mem_padded {width n : Nat} {c : Char} (h : c ∈ (Calendar.padded width n).toList) :
    c.isDigit = true := by
  rw [toList_padded, List.mem_append] at h
  obtain zero | digit := h
  · rw [List.eq_of_mem_replicate zero]
    rfl
  · exact Nat.isDigit_of_mem_toDigits (by decide) (by decide) digit

/-- **Zeros in front of a number do not change it.** -/
theorem natural?_padded (width n : Nat) {rest : List Char} (ends : DigitsEnd rest) :
    natural? ((Calendar.padded width n).toList ++ rest) = some (n, rest) := by
  have nonempty : (Calendar.padded width n).toList ≠ [] := by
    rw [toList_padded]
    exact List.append_ne_nil_of_right_ne_nil _ Nat.toDigits_ne_nil
  rw [natural?_append nonempty (fun c => isDigit_of_mem_padded) ends, toList_padded,
    Nat.ofDigitChars_append, Nat.ofDigitChars_replicate_zero, Nat.mul_zero,
    Nat.ofDigitChars_ten_toDigits]

theorem padded_zero (n : Nat) : Calendar.padded 0 n = toString n := by
  rw [← String.toList_inj, toList_padded, toList_toString, Nat.zero_sub, List.replicate_zero,
    List.nil_append]

theorem isDigit_of_mem_toString {n : Nat} {c : Char} (h : c ∈ (toString n).toList) :
    c.isDigit = true := by
  rw [← padded_zero] at h
  exact isDigit_of_mem_padded h

/-- **A number reads back.** -/
theorem natural?_toString (n : Nat) {rest : List Char} (ends : DigitsEnd rest) :
    natural? ((toString n).toList ++ rest) = some (n, rest) := by
  rw [← padded_zero]
  exact natural?_padded 0 n ends

/-- Digits are not a sign. -/
theorem integer?_of_digit {c : Char} {cs : List Char} (h : c.isDigit = true) :
    integer? (c :: cs) = (natural? (c :: cs)).map fun (n, rest) => ((n : Int), rest) := by
  have minus : c ≠ '-' := by rintro rfl; cases h
  have plus : c ≠ '+' := by rintro rfl; cases h
  unfold integer?
  split
  · next h => exact absurd (List.cons.inj h).1 minus
  · next h => exact absurd (List.cons.inj h).1 plus
  · rfl

/-- A number with zeros before it and no sign is read as it stands. -/
theorem integer?_padded (width n : Nat) {rest : List Char} (ends : DigitsEnd rest) :
    integer? ((Calendar.padded width n).toList ++ rest) = some ((n : Int), rest) := by
  have read := natural?_padded width n ends
  cases h : (Calendar.padded width n).toList with
  | nil =>
    rw [toList_padded, List.append_eq_nil_iff] at h
    exact absurd h.2 Nat.toDigits_ne_nil
  | cons c cs =>
    rw [h] at read
    rw [List.cons_append, integer?_of_digit (isDigit_of_mem_padded (h ▸ List.mem_cons_self)),
      ← List.cons_append, read]
    rfl

/-- The text of a number with a sign. -/
theorem toList_toString_int (n : Int) : (toString n).toList =
    if 0 ≤ n then (toString n.toNat).toList else '-' :: (toString (-n).toNat).toList := by
  rw [Int.toString_eq_repr, Int.repr_eq_if]
  split
  · rw [Nat.toString_eq_repr]
  · rw [String.toList_append, Nat.toString_eq_repr]
    rfl

/-- **A number with a sign reads back.** -/
theorem integer?_toString (n : Int) {rest : List Char} (ends : DigitsEnd rest) :
    integer? ((toString n).toList ++ rest) = some (n, rest) := by
  rw [toList_toString_int]
  split
  · next positive =>
    rw [← padded_zero, integer?_padded 0 _ ends, Int.toNat_of_nonneg positive]
  · next negative =>
    rw [List.cons_append, integer?, natural?_toString _ ends, Option.map_some]
    simp only [Option.some.injEq, Prod.mk.injEq, and_true]
    omega

end SatelliteTrack.Text
