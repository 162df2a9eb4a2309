import SatelliteTrack.Json.Parser

/-!
# How numbers are written

A number is digits, perhaps with a sign before them, a fraction and an exponent after them:
`Literal.Writes` says which texts these are, without reference to a reader. The scanner reads each of
them as the literal that it writes (`Scan.literal_of_writes`), and conversely what is read as a number was
written in one of these forms (`Scan.writes_of_literal`).

A number has no mark at its end, so what follows it must not go on with one (`Delimits`). If a text by
itself is read as a number, it is read as the same number in front of such a rest
(`Scan.number_append`).
-/

namespace SatelliteTrack.Json

/-- Decimal digits, at least one. -/
structure Digits (ds : List Char) : Prop where
  nonempty : ds ≠ []
  digits : ∀ c ∈ ds, c.isDigit = true

/-- The digits before the point: a zero, or digits that do not begin with one. -/
def WholeText (ds : List Char) : Prop := ds = ['0'] ∨ Digits ds ∧ ds.head? ≠ some '0'

/-- The point and the digits after it, or nothing. -/
inductive FractionText : Option (List Char) → List Char → Prop
  | none : FractionText none []
  | some {ds : List Char} (digits : Digits ds) : FractionText (some ds) ('.' :: ds)

/-- The sign of an exponent (true for minus); the one of a positive exponent may be left out. -/
inductive SignText : Bool → List Char → Prop
  | minus : SignText true ['-']
  | plus : SignText false ['+']
  | none : SignText false []

/-- The mark of the exponent, its sign and its digits, or nothing. -/
inductive ExponentText : Option (Bool × List Char) → List Char → Prop
  | none : ExponentText none []
  | some {mark : Char} {minus : Bool} {sign ds : List Char} (isMark : mark = 'e' ∨ mark = 'E')
      (signed : SignText minus sign) (digits : Digits ds) :
      ExponentText (some (minus, ds)) (mark :: sign ++ ds)

/-- The text is a form in which the number is written. -/
inductive Literal.Writes (l : Literal) : List Char → Prop
  | parts {fraction exponent : List Char} (whole : WholeText l.whole)
      (hasFraction : FractionText l.fraction fraction) (hasExponent : ExponentText l.exponent exponent) :
      Writes l ((if l.negative then ['-'] else []) ++ l.whole ++ fraction ++ exponent)

/-- The text does not go on with a number that stands before it. -/
def Delimits (rest : List Char) : Prop :=
  ∀ c ∈ rest.head?, c.isDigit = false ∧ c ≠ '.' ∧ c ≠ 'e' ∧ c ≠ 'E'

/-- The text does not go on with digits that stand before it. -/
def NoDigit (rest : List Char) : Prop := ∀ c ∈ rest.head?, c.isDigit = false

theorem delimits_cons {c : Char} {rest : List Char} :
    Delimits (c :: rest) ↔ c.isDigit = false ∧ c ≠ '.' ∧ c ≠ 'e' ∧ c ≠ 'E' := by
  simp [Delimits]

theorem Delimits.noDigit {rest : List Char} (h : Delimits rest) : NoDigit rest :=
  fun c mem => (h c mem).1

theorem noDigit_cons {c : Char} {rest : List Char} : NoDigit (c :: rest) ↔ c.isDigit = false := by
  simp [NoDigit]

/-- A digit is none of the other characters. -/
theorem ne_of_isDigit {c d : Char} (digit : c.isDigit = true) (other : d.isDigit = false) : c ≠ d := by
  rintro rfl
  rw [digit] at other
  cases other

namespace Scan

variable {atEnd : Fault}

/-! ## Every form is read -/

/-- The digits are read up to the first character that is none. -/
theorem someDigits_append {ds rest : List Char} (h : Digits ds) (ends : NoDigit rest) :
    someDigits atEnd (ds ++ rest) = .ok (ds, rest) := by
  obtain ⟨nonempty, digits⟩ := h
  have stop : rest.takeWhile Char.isDigit = [] ∧ rest.dropWhile Char.isDigit = rest := by
    cases rest with
    | nil => exact ⟨rfl, rfl⟩
    | cons c rest =>
      have noDigit := noDigit_cons.mp ends
      simp [noDigit]
  cases ds with
  | nil => exact absurd rfl nonempty
  | cons d ds =>
    have first := digits d List.mem_cons_self
    rw [List.cons_append, someDigits, if_pos first, ← List.cons_append,
      List.takeWhile_append_of_pos digits, List.dropWhile_append_of_pos digits, stop.1, stop.2,
      List.append_nil]

theorem wholeDigits_append {ds rest : List Char} (h : WholeText ds) (ends : NoDigit rest) :
    wholeDigits atEnd (ds ++ rest) = .ok (ds, rest) := by
  obtain rfl | ⟨digits, noZero⟩ := h
  · cases rest with
    | nil => rfl
    | cons c rest =>
      have noDigit := noDigit_cons.mp ends
      show (if c.isDigit then _ else _) = _
      rw [if_neg (by simp [noDigit])]
      rfl
  · cases ds with
    | nil => exact absurd rfl digits.nonempty
    | cons d ds =>
      have noZero' : d ≠ '0' := by simpa using noZero
      unfold wholeDigits
      split
      · next same => exact absurd (List.cons.inj same).1 noZero'
      · exact someDigits_append digits ends

theorem fractionDigits_append {fraction : Option (List Char)} {ds rest : List Char}
    (h : FractionText fraction ds) (ends : NoDigit rest) (noPoint : rest.head? ≠ some '.') :
    fractionDigits atEnd (ds ++ rest) = .ok (fraction, rest) := by
  cases h with
  | none =>
    rw [List.nil_append]
    unfold fractionDigits
    split
    · exact absurd rfl noPoint
    · rfl
  | some digits =>
    rw [List.cons_append, fractionDigits, someDigits_append digits ends]
    rfl

/-- What follows the mark is an exponent without a sign. -/
theorem exponentDigits_noSign {mark : Char} (isMark : mark = 'e' ∨ mark = 'E') {cs : List Char}
    (noMinus : cs.head? ≠ some '-') (noPlus : cs.head? ≠ some '+') :
    exponentDigits atEnd (mark :: cs) =
      (someDigits atEnd cs).map fun (digits, rest) => (some (false, digits), rest) := by
  rw [exponentDigits, if_pos isMark]
  · rintro more rfl
    exact noMinus rfl
  · rintro more rfl
    exact noPlus rfl

theorem exponentDigits_append {exponent : Option (Bool × List Char)} {ds rest : List Char}
    (h : ExponentText exponent ds) (ends : Delimits rest) :
    exponentDigits atEnd (ds ++ rest) = .ok (exponent, rest) := by
  cases h with
  | none =>
    cases rest with
    | nil => rfl
    | cons c rest =>
      obtain ⟨-, -, lower, upper⟩ := delimits_cons.mp ends
      show (if c = 'e' ∨ c = 'E' then _ else _) = _
      rw [if_neg (by simp [lower, upper])]
  | @some mark minus sign ds isMark signed digits =>
    have read : someDigits atEnd (ds ++ rest) = .ok (ds, rest) := someDigits_append digits ends.noDigit
    rw [List.cons_append, List.cons_append, List.append_assoc]
    cases signed with
    | minus =>
      rw [List.cons_append, List.nil_append, exponentDigits, if_pos isMark, read]
      rfl
    | plus =>
      rw [List.cons_append, List.nil_append, exponentDigits, if_pos isMark, read]
      rfl
    | none =>
      obtain ⟨d, more, rfl⟩ := List.exists_cons_of_ne_nil digits.nonempty
      have digit := digits.digits d List.mem_cons_self
      have noSign : ∀ sign : Char, sign.isDigit = false → (d :: more ++ rest).head? ≠ some sign := by
        intro sign noDigit same
        exact ne_of_isDigit digit noDigit (Option.some.inj same)
      rw [List.nil_append, exponentDigits_noSign isMark (noSign '-' (by decide)) (noSign '+' (by decide)),
        read]
      rfl

theorem noDigit_exponentText {exponent : Option (Bool × List Char)} {ds rest : List Char}
    (h : ExponentText exponent ds) (ends : Delimits rest) :
    NoDigit (ds ++ rest) ∧ (ds ++ rest).head? ≠ some '.' := by
  cases h with
  | none =>
    refine ⟨ends.noDigit, fun point => ?_⟩
    exact (ends '.' point).2.1 rfl
  | some isMark _ _ =>
    rw [List.cons_append, List.cons_append, noDigit_cons, List.head?_cons]
    obtain rfl | rfl := isMark <;> decide

theorem noDigit_fractionText {fraction : Option (List Char)} {ds rest : List Char}
    (h : FractionText fraction ds) (ends : NoDigit rest) : NoDigit (ds ++ rest) := by
  cases h with
  | none => exact ends
  | some digits =>
    rw [List.cons_append, noDigit_cons]
    decide

/-- A number without a sign begins with a digit. -/
theorem wholeText_cons {ds : List Char} (h : WholeText ds) :
    ∃ d more, ds = d :: more ∧ d.isDigit = true := by
  obtain rfl | ⟨⟨nonempty, digits⟩, -⟩ := h
  · exact ⟨'0', [], rfl, by decide⟩
  · obtain ⟨d, more, rfl⟩ := List.exists_cons_of_ne_nil nonempty
    exact ⟨d, more, rfl, digits d List.mem_cons_self⟩

/-- A number past its sign. -/
def unsigned (atEnd : Fault) (negative : Bool) (cs : List Char) : Except Fault (Literal × List Char) := do
  let (whole, cs) ← wholeDigits atEnd cs
  let (fraction, cs) ← fractionDigits atEnd cs
  let (exponent, cs) ← exponentDigits atEnd cs
  return (⟨negative, whole, fraction, exponent⟩, cs)

theorem literal_minus (cs : List Char) : literal atEnd ('-' :: cs) = unsigned atEnd true cs := rfl

theorem literal_noMinus {cs : List Char} (h : cs.head? ≠ some '-') :
    literal atEnd cs = unsigned atEnd false cs := by
  simp only [literal]
  split
  · exact absurd rfl h
  · rfl

theorem unsigned_append {l : Literal} {fraction exponent rest : List Char} (whole : WholeText l.whole)
    (hasFraction : FractionText l.fraction fraction) (hasExponent : ExponentText l.exponent exponent)
    (ends : Delimits rest) :
    unsigned atEnd l.negative (l.whole ++ (fraction ++ (exponent ++ rest))) = .ok (l, rest) := by
  obtain ⟨noDigit, noPoint⟩ := noDigit_exponentText hasExponent ends
  have readWhole : wholeDigits atEnd (l.whole ++ (fraction ++ (exponent ++ rest))) =
      .ok (l.whole, fraction ++ (exponent ++ rest)) :=
    wholeDigits_append whole (noDigit_fractionText hasFraction noDigit)
  have readFraction : fractionDigits atEnd (fraction ++ (exponent ++ rest)) =
      .ok (l.fraction, exponent ++ rest) := fractionDigits_append hasFraction noDigit noPoint
  have readExponent : exponentDigits atEnd (exponent ++ rest) = .ok (l.exponent, rest) :=
    exponentDigits_append hasExponent ends
  simp only [unsigned, readWhole, readFraction, readExponent, bind, Except.bind]
  rfl

/-- **A number** is read as the literal that it writes, in front of a text that does not go on with it. -/
theorem literal_of_writes {l : Literal} {cs rest : List Char} (h : l.Writes cs) (ends : Delimits rest) :
    literal atEnd (cs ++ rest) = .ok (l, rest) := by
  obtain @⟨fraction, exponent, whole, hasFraction, hasExponent⟩ := h
  have read : unsigned atEnd l.negative (l.whole ++ (fraction ++ (exponent ++ rest))) = .ok (l, rest) :=
    unsigned_append whole hasFraction hasExponent ends
  cases sign : l.negative with
  | true =>
    rw [if_pos rfl, List.append_assoc, List.append_assoc, List.append_assoc, List.singleton_append,
      literal_minus, ← sign, read]
  | false =>
    obtain ⟨d, more, first, digit⟩ := wholeText_cons whole
    have noMinus : (l.whole ++ (fraction ++ (exponent ++ rest))).head? ≠ some '-' := by
      rw [first, List.cons_append, List.head?_cons]
      intro same
      exact ne_of_isDigit digit (by decide) (Option.some.inj same)
    rw [if_neg Bool.false_ne_true, List.nil_append, List.append_assoc, List.append_assoc,
      literal_noMinus noMinus, ← sign, read]

/-! ## Only these forms are read -/

theorem someDigits_ok {cs ds rest : List Char} (h : someDigits atEnd cs = .ok (ds, rest)) :
    cs = ds ++ rest ∧ Digits ds := by
  cases cs with
  | nil => cases h
  | cons c cs =>
    rw [someDigits] at h
    split at h
    · next digit =>
      cases h
      refine ⟨(List.takeWhile_append_dropWhile).symm, ?_, fun d mem => ?_⟩
      · rw [List.takeWhile_cons_of_pos digit]
        exact List.cons_ne_nil _ _
      · exact List.all_eq_true.mp List.all_takeWhile d mem
    · cases h

theorem wholeDigits_ok {cs ds rest : List Char} (h : wholeDigits atEnd cs = .ok (ds, rest)) :
    cs = ds ++ rest ∧ WholeText ds := by
  unfold wholeDigits at h
  split at h
  · split at h
    · split at h
      · cases h
      · cases h
        exact ⟨rfl, .inl rfl⟩
    · cases h
      exact ⟨rfl, .inl rfl⟩
  · next noZero =>
    obtain ⟨text, digits⟩ := someDigits_ok h
    refine ⟨text, .inr ⟨digits, ?_⟩⟩
    obtain ⟨d, more, rfl⟩ := List.exists_cons_of_ne_nil digits.nonempty
    rw [List.head?_cons]
    intro zero
    exact noZero (more ++ rest) (by rw [text, Option.some.inj zero, List.cons_append])

theorem fractionDigits_ok {cs rest : List Char} {fraction : Option (List Char)}
    (h : fractionDigits atEnd cs = .ok (fraction, rest)) :
    ∃ text, cs = text ++ rest ∧ FractionText fraction text := by
  unfold fractionDigits at h
  split at h
  · next more =>
    cases read : someDigits atEnd more with
    | error fault =>
      rw [read] at h
      cases h
    | ok digits =>
      obtain ⟨ds, rest'⟩ := digits
      rw [read] at h
      cases h
      obtain ⟨text, digits⟩ := someDigits_ok read
      exact ⟨'.' :: ds, by rw [text, List.cons_append], .some digits⟩
  · cases h
    exact ⟨[], rfl, .none⟩

/-- After the mark there is a sign or none, and then digits. -/
theorem exponentDigits_mark {mark : Char} (isMark : mark = 'e' ∨ mark = 'E') (cs : List Char) :
    ∃ minus sign more, cs = sign ++ more ∧ SignText minus sign ∧ exponentDigits atEnd (mark :: cs) =
      (someDigits atEnd more).map fun (digits, rest) => (some (minus, digits), rest) := by
  by_cases minus : cs.head? = some '-'
  · obtain ⟨more, rfl⟩ := List.head?_eq_some_iff.mp minus
    exact ⟨true, ['-'], more, rfl, .minus, by rw [exponentDigits, if_pos isMark]⟩
  · by_cases plus : cs.head? = some '+'
    · obtain ⟨more, rfl⟩ := List.head?_eq_some_iff.mp plus
      exact ⟨false, ['+'], more, rfl, .plus, by rw [exponentDigits, if_pos isMark]⟩
    · exact ⟨false, [], cs, rfl, .none, exponentDigits_noSign isMark minus plus⟩

theorem exponentDigits_ok {cs rest : List Char} {exponent : Option (Bool × List Char)}
    (h : exponentDigits atEnd cs = .ok (exponent, rest)) :
    ∃ text, cs = text ++ rest ∧ ExponentText exponent text := by
  cases cs with
  | nil =>
    cases h
    exact ⟨[], rfl, .none⟩
  | cons mark cs =>
    by_cases isMark : mark = 'e' ∨ mark = 'E'
    · obtain ⟨minus, sign, more, rfl, signed, past⟩ := @exponentDigits_mark atEnd mark isMark cs
      rw [past] at h
      cases read : someDigits atEnd more with
      | error fault =>
        rw [read] at h
        cases h
      | ok digits =>
        obtain ⟨ds, rest'⟩ := digits
        rw [read] at h
        cases h
        obtain ⟨rfl, digits⟩ := someDigits_ok read
        exact ⟨mark :: sign ++ ds, by simp, .some isMark signed digits⟩
    · have absent : exponentDigits atEnd (mark :: cs) = .ok (none, mark :: cs) := if_neg isMark
      rw [absent] at h
      cases h
      exact ⟨[], rfl, .none⟩

theorem unsigned_ok {negative : Bool} {l : Literal} {cs rest : List Char}
    (h : unsigned atEnd negative cs = .ok (l, rest)) :
    l.negative = negative ∧ WholeText l.whole ∧ ∃ fraction exponent,
      cs = l.whole ++ (fraction ++ (exponent ++ rest)) ∧ FractionText l.fraction fraction ∧
        ExponentText l.exponent exponent := by
  unfold unsigned at h
  cases readWhole : wholeDigits atEnd cs with
  | error fault =>
    rw [readWhole] at h
    cases h
  | ok whole =>
    obtain ⟨ds, past⟩ := whole
    cases readFraction : fractionDigits atEnd past with
    | error fault =>
      simp only [readWhole, readFraction, bind, Except.bind] at h
      cases h
    | ok fraction =>
      obtain ⟨fraction, past'⟩ := fraction
      cases readExponent : exponentDigits atEnd past' with
      | error fault =>
        simp only [readWhole, readFraction, readExponent, bind, Except.bind] at h
        cases h
      | ok exponent =>
        simp only [readWhole, readFraction, readExponent, bind, Except.bind] at h
        cases h
        obtain ⟨rfl, whole⟩ := wholeDigits_ok readWhole
        obtain ⟨fractionText, rfl, hasFraction⟩ := fractionDigits_ok readFraction
        obtain ⟨exponentText, rfl, hasExponent⟩ := exponentDigits_ok readExponent
        exact ⟨rfl, whole, fractionText, exponentText, rfl, hasFraction, hasExponent⟩

/-- **A text that is read as a number** up to some rest was one of the forms in which it is written. -/
theorem writes_of_literal {l : Literal} {cs rest : List Char} (h : literal atEnd cs = .ok (l, rest)) :
    ∃ text, cs = text ++ rest ∧ l.Writes text := by
  by_cases minus : cs.head? = some '-'
  · obtain ⟨more, rfl⟩ := List.head?_eq_some_iff.mp minus
    rw [literal_minus] at h
    obtain ⟨negative, whole, fraction, exponent, rfl, hasFraction, hasExponent⟩ := unsigned_ok h
    refine ⟨_, ?_, .parts whole hasFraction hasExponent⟩
    rw [if_pos negative]
    simp only [List.append_assoc, List.cons_append, List.nil_append]
  · rw [literal_noMinus minus] at h
    obtain ⟨negative, whole, fraction, exponent, rfl, hasFraction, hasExponent⟩ := unsigned_ok h
    refine ⟨_, ?_, .parts whole hasFraction hasExponent⟩
    rw [if_neg (by simp [negative])]
    simp only [List.append_assoc, List.nil_append]

/-- A number begins with its sign or with a digit. -/
theorem writes_cons {l : Literal} {cs : List Char} (h : l.Writes cs) :
    ∃ c more, cs = c :: more ∧ (c = '-' ∨ c.isDigit = true) := by
  obtain ⟨whole, -, -⟩ := h
  cases l.negative with
  | true => exact ⟨'-', _, rfl, .inl rfl⟩
  | false =>
    obtain ⟨d, more, first, digit⟩ := wholeText_cons whole
    rw [first]
    exact ⟨d, _, rfl, .inr digit⟩

/-- A number is passed over whatever it is worth. -/
theorem passNumber_of_writes {l : Literal} {cs rest : List Char} (h : l.Writes cs) (ends : Delimits rest) :
    passNumber (cs ++ rest) = .ok rest := by
  rw [passNumber, literal_of_writes h ends]
  rfl

/-- **A text that is read as a number** is read as the same number in front of a text that does not go on
with it. -/
theorem number_append {cs rest : List Char} {n : Number} (h : number cs = .ok (n, []))
    (ends : Delimits rest) : number (cs ++ rest) = .ok (n, rest) ∧
      ∃ c more, cs = c :: more ∧ (c = '-' ∨ c.isDigit = true) := by
  cases read : literal .endOfValue cs with
  | error fault =>
    simp only [number, read, bind, Except.bind] at h
    cases h
  | ok written =>
    obtain ⟨l, past⟩ := written
    cases worth : l.number? with
    | none =>
      simp only [number, read, worth, bind, Except.bind] at h
      cases h
    | some m =>
      simp only [number, read, worth, bind, Except.bind] at h
      cases h
      obtain ⟨text, rfl, writes⟩ := writes_of_literal read
      rw [List.append_nil]
      refine ⟨?_, writes_cons writes⟩
      simp only [number, literal_of_writes writes ends, worth, bind, Except.bind]
      rfl

end Scan

end SatelliteTrack.Json
