import Mathlib.Data.Bool.AllAny
import SatelliteTrack.Json.Parser

/-!
# How JSON is spelled

A text in JSON can be written in many ways: with blanks between its words, and with escapes for the
characters of a string. This module says which spellings there are, without reference to a reader
(`Blank`, `SpellsString`), and that the scanner of strings reads all of them, whatever follows
(`Scan.string_spelled`). There is a spelling for every text (`exists_spellsString`).

A string that is passed over is only checked for its syntax: `StringBody` says what that is, and
`Scan.passString_stringBody` that the scanner passes to its closing quote.
-/

namespace SatelliteTrack.Json

/-! ## Blanks -/

/-- The characters that may stand between the words. -/
def blanks : List Char := [' ', '\n', '\t', '\r']

/-- A text of blanks, or none. -/
def Blank (cs : List Char) : Prop := ∀ c ∈ cs, c ∈ blanks

instance (cs : List Char) : Decidable (Blank cs) :=
  decidable_of_iff (cs.all (· ∈ blanks)) List.all_iff_forall_prop

theorem blank_nil : Blank [] := fun _ mem => absurd mem List.not_mem_nil

namespace Scan

theorem isSpace_iff (c : Char) : isSpace c = true ↔ c ∈ blanks := by
  simp [isSpace, blanks, or_assoc]

theorem skipSpace_append {blank : List Char} (h : Blank blank) (cs : List Char) :
    skipSpace (blank ++ cs) = skipSpace cs :=
  List.dropWhile_append_of_pos fun c mem => (isSpace_iff c).mpr (h c mem)

theorem skipSpace_all {blank : List Char} (h : Blank blank) : skipSpace blank = [] := by
  have append := skipSpace_append h []
  rwa [List.append_nil] at append

theorem skipSpace_cons {c : Char} (h : c ∉ blanks) (cs : List Char) : skipSpace (c :: cs) = c :: cs := by
  rw [← isSpace_iff, Bool.not_eq_true] at h
  rw [skipSpace, List.dropWhile_cons_of_neg (by simp [h])]

/-- The first character after blanks. -/
theorem skipSpace_blank {blank : List Char} (h : Blank blank) {c : Char} (word : c ∉ blanks)
    (cs : List Char) : skipSpace (blank ++ c :: cs) = c :: cs := by
  rw [skipSpace_append h, skipSpace_cons word]

end Scan

/-! ## Strings -/

/-- A hexadecimal digit of either case, by its value. -/
def SpellsDigit (c : Char) (n : Nat) : Prop :=
  "0123456789abcdef".toList[n]? = some c ∨ "0123456789ABCDEF".toList[n]? = some c

instance (c : Char) (n : Nat) : Decidable (SpellsDigit c n) := inferInstanceAs (Decidable (_ ∨ _))

/-- Four hexadecimal digits. -/
inductive SpellsUnit : List Char → Nat → Prop
  | digits {a b c d : Char} {i j k l : Nat} (first : SpellsDigit a i) (second : SpellsDigit b j)
      (third : SpellsDigit c k) (fourth : SpellsDigit d l) :
      SpellsUnit [a, b, c, d] (((i * 16 + j) * 16 + k) * 16 + l)

/-- The letters that stand for a character after a backslash. -/
def letterEscapes : List (Char × Char) :=
  [ ('"', '"'), ('\\', '\\'), ('/', '/'), ('b', '\x08'), ('f', '\x0c'), ('n', '\n'), ('r', '\r'),
    ('t', '\t') ]

/-- A character as it may stand in a string: itself, unless it is a control, a quote or a backslash; by
letter; by number; or, beyond the first 65536 characters, by two numbers. -/
inductive SpellsChar (c : Char) : List Char → Prop
  | plain (printable : 0x20 ≤ c.toNat) (quote : c ≠ '"') (backslash : c ≠ '\\') : SpellsChar c [c]
  | letter {l : Char} (meaning : (l, c) ∈ letterEscapes) : SpellsChar c ['\\', l]
  | unit {ds : List Char} (number : SpellsUnit ds c.toNat) : SpellsChar c ('\\' :: 'u' :: ds)
  | pair {ds es : List Char} {high low : Nat} (first : SpellsUnit ds (0xd800 + high))
      (second : SpellsUnit es (0xdc00 + low)) (inHigh : high < 0x400) (inLow : low < 0x400)
      (number : c.toNat = 0x10000 + high * 0x400 + low) :
      SpellsChar c ('\\' :: 'u' :: ds ++ '\\' :: 'u' :: es)

/-- The characters of a text, each in a spelling of its own. -/
inductive SpellsChars : List Char → List Char → Prop
  | nil : SpellsChars [] []
  | cons {c : Char} {cs own others : List Char} (head : SpellsChar c own) (tail : SpellsChars cs others) :
      SpellsChars (c :: cs) (own ++ others)

/-- A string between quotes. -/
inductive SpellsString (s : String) : List Char → Prop
  | quoted {body : List Char} (chars : SpellsChars s.toList body) : SpellsString s ('"' :: body ++ ['"'])

/-- Characters that need no escape spell themselves. -/
theorem spellsChars_self {cs : List Char}
    (plain : cs.all fun c => 0x20 ≤ c.toNat ∧ c ≠ '"' ∧ c ≠ '\\') : SpellsChars cs cs := by
  induction cs with
  | nil => exact .nil
  | cons c cs ih =>
    rw [List.all_cons, Bool.and_eq_true, decide_eq_true_iff] at plain
    obtain ⟨⟨printable, quote, backslash⟩, others⟩ := plain
    exact .cons (.plain printable quote backslash) (ih others)

/-- Every character can be written: by number where it must not stand for itself. -/
theorem exists_spellsChar (c : Char) : ∃ spelled, SpellsChar c spelled := by
  by_cases special : c = '"' ∨ c = '\\'
  · obtain rfl | rfl := special
    · exact ⟨_, .letter (by decide : ('"', '"') ∈ letterEscapes)⟩
    · exact ⟨_, .letter (by decide : ('\\', '\\') ∈ letterEscapes)⟩
  · obtain ⟨quote, backslash⟩ := not_or.mp special
    by_cases printable : 0x20 ≤ c.toNat
    · exact ⟨_, .plain printable quote backslash⟩
    · have digit : ∀ n : Fin 16, SpellsDigit (Nat.digitChar n.val) n.val := by decide
      have high := digit ⟨c.toNat / 16, by omega⟩
      have low := digit ⟨c.toNat % 16, by omega⟩
      have zero : SpellsDigit '0' 0 := by decide
      have number : SpellsUnit ['0', '0', Nat.digitChar (c.toNat / 16), Nat.digitChar (c.toNat % 16)]
          (((0 * 16 + 0) * 16 + c.toNat / 16) * 16 + c.toNat % 16) := .digits zero zero high low
      have value : ((0 * 16 + 0) * 16 + c.toNat / 16) * 16 + c.toNat % 16 = c.toNat := by omega
      rw [value] at number
      exact ⟨_, .unit number⟩

theorem exists_spellsString (s : String) : ∃ text, SpellsString s text := by
  have each : ∀ cs, ∃ body, SpellsChars cs body := by
    intro cs
    induction cs with
    | nil => exact ⟨[], .nil⟩
    | cons c cs ih =>
      obtain ⟨own, head⟩ := exists_spellsChar c
      obtain ⟨others, tail⟩ := ih
      exact ⟨own ++ others, .cons head tail⟩
  obtain ⟨body, chars⟩ := each s.toList
  exact ⟨_, .quoted chars⟩

/-- What may stand between the quotes of a string, if it need not stand for characters: here a number may
also be one half of a pair. -/
inductive StringBody : List Char → Prop
  | nil : StringBody []
  | plain {c : Char} {cs : List Char} (printable : 0x20 ≤ c.toNat) (quote : c ≠ '"')
      (backslash : c ≠ '\\') (tail : StringBody cs) : StringBody (c :: cs)
  | letter {l c : Char} {cs : List Char} (meaning : (l, c) ∈ letterEscapes) (tail : StringBody cs) :
      StringBody ('\\' :: l :: cs)
  | unit {ds cs : List Char} {n : Nat} (number : SpellsUnit ds n) (tail : StringBody cs) :
      StringBody ('\\' :: 'u' :: ds ++ cs)

namespace Scan

theorem hexValue?_of_spellsDigit {c : Char} {n : Nat} (h : SpellsDigit c n) :
    Text.hexValue? c = some n := by
  have lower : ∀ m : Fin 16, ("0123456789abcdef".toList[m.val]?).bind Text.hexValue? = some m.val := by
    decide
  have upper : ∀ m : Fin 16, ("0123456789ABCDEF".toList[m.val]?).bind Text.hexValue? = some m.val := by
    decide
  obtain h | h := h
  · have bound : n < 16 := (List.getElem?_eq_some_iff.mp h).1
    have value := lower ⟨n, bound⟩
    rwa [h] at value
  · have bound : n < 16 := (List.getElem?_eq_some_iff.mp h).1
    have value := upper ⟨n, bound⟩
    rwa [h] at value

/-- Four digits are read as their number, and nothing after them is looked at. -/
theorem fourDigits_of_spellsUnit {ds : List Char} {n : Nat} (h : SpellsUnit ds n) (cs : List Char) :
    ds.length = 4 ∧ fourDigits (ds ++ cs) = .ok n := by
  obtain ⟨first, second, third, fourth⟩ := h
  refine ⟨rfl, ?_⟩
  simp only [List.cons_append, List.nil_append, fourDigits, hexValue?_of_spellsDigit first,
    hexValue?_of_spellsDigit second, hexValue?_of_spellsDigit third, hexValue?_of_spellsDigit fourth]

theorem letterEscape?_of_mem {l c : Char} (h : (l, c) ∈ letterEscapes) :
    l ≠ 'u' ∧ letterEscape? l = some c := by
  have all : ∀ p ∈ letterEscapes, p.1 ≠ 'u' ∧ letterEscape? p.1 = some p.2 := by decide
  exact all (l, c) h

theorem escape_letter {l c : Char} (h : (l, c) ∈ letterEscapes) (cs : List Char) :
    escape (l :: cs) = .ok (c, 1) := by
  obtain ⟨noNumber, meaning⟩ := letterEscape?_of_mem h
  unfold escape
  split
  · next none => cases none
  · next same => exact absurd (List.cons.inj same).1 noNumber
  · next same => rw [← (List.cons.inj same).1, meaning]

/-- No character has the number of a half of a pair. -/
theorem not_isSurrogate (c : Char) :
    isHighSurrogate c.toNat = false ∧ isLowSurrogate c.toNat = false := by
  have valid : c.toNat < 0xd800 ∨ 0xdfff < c.toNat ∧ c.toNat < 0x110000 := c.valid
  simp only [isHighSurrogate, isLowSurrogate, Bool.and_eq_false_iff, decide_eq_false_iff_not]
  omega

theorem escape_unit {c : Char} {ds : List Char} (h : SpellsUnit ds c.toNat) (cs : List Char) :
    escape ('u' :: ds ++ cs) = .ok (c, 5) := by
  obtain ⟨noHigh, noLow⟩ := not_isSurrogate c
  have read := (fourDigits_of_spellsUnit h cs).2
  rw [List.cons_append, escape, numberedEscape, read]
  simp only [noHigh, noLow, Char.ofNat_toNat, bind, Except.bind]
  rfl

theorem escape_pair {c : Char} {ds es : List Char} {high low : Nat}
    (first : SpellsUnit ds (0xd800 + high)) (second : SpellsUnit es (0xdc00 + low))
    (inHigh : high < 0x400) (inLow : low < 0x400)
    (number : c.toNat = 0x10000 + high * 0x400 + low) (cs : List Char) :
    escape ('u' :: ds ++ '\\' :: 'u' :: es ++ cs) = .ok (c, 11) := by
  have read := (fourDigits_of_spellsUnit first ('\\' :: 'u' :: (es ++ cs))).2
  have read' := (fourDigits_of_spellsUnit second cs).2
  have four := (fourDigits_of_spellsUnit first []).1
  have opens : isHighSurrogate (0xd800 + high) = true ∧ isLowSurrogate (0xd800 + high) = false := by
    simp only [isHighSurrogate, isLowSurrogate, Bool.and_eq_true, decide_eq_true_eq,
      Bool.and_eq_false_iff, decide_eq_false_iff_not]
    omega
  have closes : isLowSurrogate (0xdc00 + low) = true := by
    simp only [isLowSurrogate, Bool.and_eq_true, decide_eq_true_eq]
    omega
  have value : Char.ofNat (0x10000 + (0xd800 + high - 0xd800) * 0x400 + (0xdc00 + low - 0xdc00)) = c := by
    rw [Nat.add_sub_cancel_left, Nat.add_sub_cancel_left, ← number, Char.ofNat_toNat]
  have after : (ds ++ '\\' :: 'u' :: (es ++ cs)).drop 4 = '\\' :: 'u' :: (es ++ cs) := by
    rw [← four, List.drop_left]
  simp only [List.cons_append, List.append_assoc, escape, numberedEscape, read, bind, Except.bind, opens,
    after, read', closes, value]
  rfl

theorem stringFrom_taken (read skipped cs : List Char) :
    stringFrom read skipped.length (skipped ++ cs) = stringFrom read 0 cs := by
  induction skipped with
  | nil => rfl
  | cons c skipped ih => exact ih

/-- An escape is read as its character. -/
theorem stringFrom_escape {c : Char} (spelled : List Char) {cs : List Char}
    (h : escape (spelled ++ cs) = .ok (c, spelled.length)) (read : List Char) :
    stringFrom read 0 ('\\' :: spelled ++ cs) = stringFrom (c :: read) 0 cs := by
  rw [List.cons_append, stringFrom, if_neg (by decide), if_pos rfl, h]
  exact stringFrom_taken (c :: read) spelled cs

/-- **A character** is read as it was meant, however it is spelled. -/
theorem stringFrom_spellsChar {c : Char} {spelled : List Char} (h : SpellsChar c spelled)
    (read cs : List Char) : stringFrom read 0 (spelled ++ cs) = stringFrom (c :: read) 0 cs := by
  cases h with
  | plain printable quote backslash =>
    rw [List.singleton_append, stringFrom, if_neg quote, if_neg backslash,
      if_neg (Nat.not_lt.mpr printable)]
  | @letter l meaning => exact stringFrom_escape [l] (escape_letter meaning cs) read
  | @unit ds number =>
    refine stringFrom_escape ('u' :: ds) ?_ read
    rw [escape_unit number, List.length_cons, (fourDigits_of_spellsUnit number []).1]
  | @pair ds es high low first second inHigh inLow number =>
    refine stringFrom_escape ('u' :: ds ++ '\\' :: 'u' :: es) ?_ read
    rw [escape_pair first second inHigh inLow number]
    simp [(fourDigits_of_spellsUnit first []).1, (fourDigits_of_spellsUnit second []).1]

theorem stringFrom_spellsChars {cs spelled : List Char} (h : SpellsChars cs spelled)
    (read rest : List Char) :
    stringFrom read 0 (spelled ++ '"' :: rest) = .ok (String.ofList (read.reverse ++ cs), rest) := by
  induction h generalizing read with
  | nil => rw [List.nil_append, stringFrom, if_pos rfl, List.append_nil]
  | cons head _ ih =>
    rw [List.append_assoc, stringFrom_spellsChar head, ih, List.reverse_cons, List.append_assoc,
      List.singleton_append]

/-- **A string** is read as the text that it spells, in front of any rest. -/
theorem string_spelled {s : String} {body : List Char} (h : SpellsChars s.toList body)
    (rest : List Char) : string (body ++ '"' :: rest) = .ok (s, rest) := by
  rw [string, stringFrom_spellsChars h, List.reverse_nil, List.nil_append, String.ofList_toList]

/-! ### Strings that are passed over -/

theorem passString_taken (skipped cs : List Char) :
    passString skipped.length (skipped ++ cs) = passString 0 cs := by
  induction skipped with
  | nil => rfl
  | cons c skipped ih => exact ih

theorem escapeLength_letter {l c : Char} (h : (l, c) ∈ letterEscapes) (cs : List Char) :
    escapeLength (l :: cs) = .ok 1 := by
  obtain ⟨noNumber, meaning⟩ := letterEscape?_of_mem h
  unfold escapeLength
  split
  · next none => cases none
  · next same => exact absurd (List.cons.inj same).1 noNumber
  · next same => rw [← (List.cons.inj same).1, meaning]; rfl

/-- **A string** is passed over up to its closing quote. -/
theorem passString_stringBody {body : List Char} (h : StringBody body) (rest : List Char) :
    passString 0 (body ++ '"' :: rest) = .ok rest := by
  induction h with
  | nil => rw [List.nil_append, passString, if_pos rfl]
  | plain printable quote backslash _ ih =>
    rw [List.cons_append, passString, if_neg quote, if_neg backslash, if_neg (Nat.not_lt.mpr printable), ih]
  | @letter l c cs meaning _ ih =>
    rw [List.cons_append, passString, if_neg (by decide), if_pos rfl, List.cons_append,
      escapeLength_letter meaning]
    exact (passString_taken [l] _).trans ih
  | @unit ds cs n number _ ih =>
    have read := (fourDigits_of_spellsUnit number (cs ++ '"' :: rest)).2
    have five : ('u' :: ds).length = 5 := by
      rw [List.length_cons, (fourDigits_of_spellsUnit number []).1]
    rw [List.cons_append, List.cons_append, List.append_assoc, passString, if_neg (by decide), if_pos rfl,
      List.cons_append, escapeLength, read]
    show passString 5 ('u' :: ds ++ (cs ++ '"' :: rest)) = _
    rw [← five, passString_taken, ih]

end Scan

end SatelliteTrack.Json
