import Mathlib.Algebra.GroupWithZero.Nat
import SatelliteTrack.Json.Parser
import SatelliteTrack.Json.Printer

/-!
# What is written in JSON reads back

A string reads back as it was, whatever stands in it (`Scan.string_escaped`), and between its quotes it
takes the bytes that `escapedSize` counts. A character is written in one of three ways, and
`escapedChar_cases` says which: all that follows about single characters comes from it.

For values, `Reads` says that the text reads back in front of any other text. Strings do, and an object
does if its members do and stand in the order of their keys (`reads_object`): the reader puts each member
in its place, which is then the end.
-/

namespace SatelliteTrack.Json

/-! ## Ways to write a character -/

/-- The characters that are escaped with a letter. -/
def lettered : List Char := ['"', '\\', '\x08', '\x0c', '\n', '\r', '\t']

/-- **A character in a string** is escaped with a letter, by number, or not at all. -/
theorem escapedChar_cases (c : Char) :
    (c ∈ lettered ∧ ∃ letter, letter ≠ 'u' ∧ letter.utf8Size = 1 ∧
      Scan.letterEscape? letter = some c ∧ escapedChar c = ['\\', letter]) ∨
    (c ∉ lettered ∧ c.toNat < 0x20 ∧ escapedChar c =
      ['\\', 'u', '0', '0', Text.hexDigit (c.toNat / 16), Text.hexDigit (c.toNat % 16)]) ∨
    (c ∉ lettered ∧ 0x20 ≤ c.toNat ∧ escapedChar c = [c]) := by
  unfold escapedChar
  split
  case h_8 h₁ h₂ h₃ h₄ h₅ h₆ h₇ =>
    have plain : c ∉ lettered := by
      simp only [lettered, List.mem_cons, List.not_mem_nil, or_false]
      rintro (h | h | h | h | h | h | h)
      · exact h₁ h
      · exact h₂ h
      · exact h₃ h
      · exact h₄ h
      · exact h₅ h
      · exact h₆ h
      · exact h₇ h
    split
    case isTrue control => exact .inr (.inl ⟨plain, control, rfl⟩)
    case isFalse printable => exact .inr (.inr ⟨plain, Nat.not_lt.mp printable, rfl⟩)
  all_goals exact .inl ⟨by decide, _, by decide, by decide, by decide, rfl⟩

/-- The bytes that a character takes in a string. -/
def escapedCharSize (c : Char) : Nat :=
  if c ∈ lettered then 2 else if c.toNat < 0x20 then 6 else c.utf8Size

/-- The bytes that a string takes between its quotes. -/
def escapedSize (s : String) : Nat := (s.toList.map escapedCharSize).sum

theorem utf8Size_hexDigit {n : Nat} (h : n < 16) : (Text.hexDigit n).utf8Size = 1 := by
  have all : ∀ m : Fin 16, (Text.hexDigit m).utf8Size = 1 := by decide
  exact all ⟨n, h⟩

theorem sum_utf8Size_escapedChar (c : Char) :
    ((escapedChar c).map Char.utf8Size).sum = escapedCharSize c := by
  unfold escapedCharSize
  obtain ⟨mem, letter, -, one, -, written⟩ | ⟨plain, control, written⟩ | ⟨plain, printable, written⟩ :=
    escapedChar_cases c
  · rw [written, if_pos mem]
    simp only [List.map_cons, List.map_nil, List.sum_cons, List.sum_nil, one]
    rfl
  · have high : c.toNat / 16 < 16 := by omega
    have low : c.toNat % 16 < 16 := by omega
    rw [written, if_neg plain, if_pos control]
    simp only [List.map_cons, List.map_nil, List.sum_cons, List.sum_nil, utf8Size_hexDigit high,
      utf8Size_hexDigit low]
    rfl
  · rw [written, if_neg plain, if_neg (Nat.not_lt.mpr printable)]
    simp only [List.map_cons, List.map_nil, List.sum_cons, List.sum_nil, Nat.add_zero]

theorem utf8ByteSize_eq_sum (s : String) :
    s.utf8ByteSize = (s.toList.map Char.utf8Size).sum := by
  rw [← Text.length_utf8, Text.utf8, List.length_flatMap]
  simp only [String.length_utf8EncodeChar]

theorem utf8ByteSize_escaped (s : String) :
    (String.ofList (escaped s)).utf8ByteSize = escapedSize s := by
  rw [utf8ByteSize_eq_sum, String.toList_ofList, escaped, escapedSize]
  induction s.toList with
  | nil => rfl
  | cons c cs ih =>
    rw [List.flatMap_cons, List.map_append, List.sum_append, sum_utf8Size_escapedChar, ih,
      List.map_cons, List.sum_cons]

theorem utf8ByteSize_stringText (s : String) :
    (stringText s).utf8ByteSize = escapedSize s + 2 := by
  have quote : "\"".utf8ByteSize = 1 := by decide
  rw [stringText, String.utf8ByteSize_append, String.utf8ByteSize_append, utf8ByteSize_escaped, quote]
  omega

theorem utf8ByteSize_text_string (s : String) :
    (Json.string s).text.utf8ByteSize = escapedSize s + 2 := by
  rw [text, utf8ByteSize_stringText]

/-! ## Strings -/

namespace Scan

theorem fourDigits_of_lt {n : Nat} (h : n < 0x20) (cs : List Char) :
    fourDigits ('0' :: '0' :: Text.hexDigit (n / 16) :: Text.hexDigit (n % 16) :: cs) = .ok n := by
  have high : n / 16 < 16 := by omega
  have low : n % 16 < 16 := by omega
  have zero : Text.hexValue? '0' = some 0 := by decide
  have whole : ((0 * 16 + 0) * 16 + n / 16) * 16 + n % 16 = n := by omega
  simp only [fourDigits, zero, Text.hexValue?_hexDigit high, Text.hexValue?_hexDigit low, whole]

/-- A control that is escaped by number is meant by it. -/
theorem numberedEscape_control {c : Char} (control : c.toNat < 0x20) (cs : List Char) :
    numberedEscape ('0' :: '0' :: Text.hexDigit (c.toNat / 16) :: Text.hexDigit (c.toNat % 16) :: cs) =
      .ok (c, 4) := by
  have noHigh : isHighSurrogate c.toNat = false := by
    simp only [isHighSurrogate, Bool.and_eq_false_iff, decide_eq_false_iff_not]
    omega
  have noLow : isLowSurrogate c.toNat = false := by
    simp only [isLowSurrogate, Bool.and_eq_false_iff, decide_eq_false_iff_not]
    omega
  simp only [numberedEscape, fourDigits_of_lt control, noHigh, noLow, Char.ofNat_toNat, bind,
    Except.bind]
  rfl

/-- The reader of a string takes what is written for a character for this character. -/
theorem stringFrom_escapedChar (read : List Char) (c : Char) (cs : List Char) :
    stringFrom read 0 (escapedChar c ++ cs) = stringFrom (c :: read) 0 cs := by
  obtain ⟨-, letter, noNumber, -, meaning, written⟩ | ⟨-, control, written⟩ |
    ⟨plain, printable, written⟩ := escapedChar_cases c
  · have escaped : escape (letter :: cs) = .ok (c, 1) := by
      unfold escape
      split
      case h_1 none => cases none
      case h_2 same =>
        injection same with head
        exact absurd head noNumber
      case h_3 same =>
        injection same with head
        rw [← head, meaning]
    rw [written]
    simp only [List.cons_append, List.nil_append, stringFrom, escaped]
    rfl
  · rw [written]
    simp only [List.cons_append, List.nil_append, stringFrom, escape, numberedEscape_control control,
      Except.map]
    rfl
  · have noQuote : c ≠ '"' := by
      rintro rfl
      exact plain (by decide)
    have noBackslash : c ≠ '\\' := by
      rintro rfl
      exact plain (by decide)
    rw [written]
    simp only [List.cons_append, List.nil_append, stringFrom, noQuote, noBackslash,
      Nat.not_lt.mpr printable, ↓reduceIte]

/-- **A string** reads back as it was written. -/
theorem string_escaped (s : String) (rest : List Char) :
    string (escaped s ++ '"' :: rest) = .ok (s, rest) := by
  have each : ∀ read cs : List Char, stringFrom read 0 (cs.flatMap escapedChar ++ '"' :: rest) =
      .ok (String.ofList (read.reverse ++ cs), rest) := by
    intro read cs
    induction cs generalizing read with
    | nil => simp only [List.flatMap_nil, List.nil_append, List.append_nil, stringFrom, ↓reduceIte]
    | cons c cs ih =>
      rw [List.flatMap_cons, List.append_assoc, stringFrom_escapedChar, ih, List.reverse_cons,
        List.append_assoc, List.singleton_append]
  rw [string, escaped, each, List.reverse_nil, List.nil_append, String.ofList_toList]

end Scan

/-! ## Objects -/

/-- The text of a value reads back in front of any other text, where `depth` more brackets are allowed. -/
def Reads (v : Json) (depth : Nat) : Prop :=
  ∀ (rounds : Nat) (rest : List Char), v.text.length < rounds →
    Scan.value rounds depth (v.text.toList ++ rest) = .ok (v, rest)

theorem toList_stringText (s : String) : (stringText s).toList = '"' :: (escaped s ++ ['"']) := by
  simp only [stringText, String.toList_append, String.toList_ofList]
  rfl

theorem Scan.value_quote (rounds depth : Nat) (cs : List Char) :
    value rounds depth ('"' :: cs) = (string cs).map fun (s, rest) => (.string s, rest) := by
  have noBlank : skipSpace ('"' :: cs) = '"' :: cs := rfl
  unfold value
  simp only [noBlank, Char.reduceEq, ↓reduceIte]

theorem Scan.value_brace (rounds depth : Nat) (cs : List Char) :
    value rounds (depth + 1) ('\x7b' :: cs) =
      (members (member (value rounds depth)) rounds true [] cs).map
        fun (sorted, rest) => (.object sorted, rest) := by
  have noBlank : skipSpace ('\x7b' :: cs) = '\x7b' :: cs := rfl
  have noDigit : '\x7b'.isDigit = false := by decide
  rw [value]
  simp only [noBlank, noDigit, Char.reduceEq, Bool.false_eq_true, or_self, ↓reduceIte]

theorem reads_string (s : String) (depth : Nat) : Reads (.string s) depth := by
  intro rounds rest _
  rw [text, toList_stringText, List.cons_append, List.append_assoc, List.singleton_append,
    Scan.value_quote, Scan.string_escaped]
  rfl

/-- The text of a member. -/
def memberText (member : String × Json) : List Char :=
  (stringText member.1).toList ++ ':' :: member.2.text.toList

/-- The text of an object past its opening bracket, or past a member of it. -/
def membersText : (first : Bool) → List (String × Json) → List Char
  | _, [] => ['\x7d']
  | first, m :: rest => (if first then [] else [',']) ++ memberText m ++ membersText false rest

theorem toList_member (m : String × Json) :
    (stringText m.1 ++ ":" ++ m.2.text).toList = memberText m := by
  have colon : ":".toList = [':'] := by decide
  rw [String.toList_append, String.toList_append, colon, memberText, List.append_assoc,
    List.singleton_append]

/-- A comma between two members is a comma before each member but the first. -/
theorem intercalate_memberTexts (m : String × Json) (rest : List (String × Json)) :
    [','].intercalate ((memberTexts (m :: rest)).map String.toList) ++ ['\x7d'] =
      memberText m ++ membersText false rest := by
  induction rest generalizing m with
  | nil =>
    rw [memberTexts, memberTexts, List.map_cons, List.map_nil, List.intercalate_singleton, toList_member,
      membersText]
  | cons next rest ih =>
    have tail := ih next
    rw [memberTexts, List.map_cons] at tail
    rw [memberTexts, memberTexts, List.map_cons, List.map_cons, List.intercalate_cons_cons,
      toList_member, List.append_assoc, tail, membersText, List.append_assoc, List.append_assoc]
    rfl

theorem toList_text_object (members : List (String × Json)) :
    (Json.object members).text.toList = '\x7b' :: membersText true members := by
  have opening : "\x7b".toList = ['\x7b'] := by decide
  have closing : "\x7d".toList = ['\x7d'] := by decide
  have comma : ",".toList = [','] := by decide
  rw [text, String.toList_append, String.toList_append, String.toList_intercalate, opening, closing,
    comma, List.append_assoc, List.singleton_append]
  cases members with
  | nil => rfl
  | cons m rest => rw [intercalate_memberTexts, membersText, if_pos rfl, List.nil_append]

/-- There is room for each value of an object in its text, and for all its members. -/
theorem lt_length_membersText (first : Bool) (members : List (String × Json)) :
    members.length < (membersText first members).length ∧
      ∀ m ∈ members, m.2.text.length < (membersText first members).length := by
  induction members generalizing first with
  | nil => exact ⟨Nat.zero_lt_one, fun _ hm => absurd hm List.not_mem_nil⟩
  | cons m rest ih =>
    obtain ⟨fewer, shorter⟩ := ih false
    have own : m.2.text.length < (memberText m).length := by
      simp only [memberText, List.length_append, List.length_cons, String.length_toList]
      omega
    rw [membersText, List.length_append, List.length_append, List.length_cons]
    refine ⟨by omega, ?_⟩
    intro m' hm'
    obtain rfl | later := List.mem_cons.mp hm'
    · omega
    · have := shorter m' later
      omega

/-- The bytes of a member: its key, its value, two quotes and a colon. -/
theorem sum_utf8Size_memberText (m : String × Json) : ((memberText m).map Char.utf8Size).sum =
    escapedSize m.1 + m.2.text.utf8ByteSize + 3 := by
  have colon : ':'.utf8Size = 1 := by decide
  rw [memberText, List.map_append, List.sum_append, List.map_cons, List.sum_cons,
    ← utf8ByteSize_eq_sum, ← utf8ByteSize_eq_sum, utf8ByteSize_stringText, colon]
  omega

/-- Each later member takes a comma too, and the closing bracket one byte. -/
theorem sum_utf8Size_membersText (members : List (String × Json)) :
    ((membersText false members).map Char.utf8Size).sum =
      1 + (members.map fun m => escapedSize m.1 + m.2.text.utf8ByteSize + 4).sum := by
  induction members with
  | nil => decide
  | cons m rest ih =>
    have comma : ','.utf8Size = 1 := by decide
    simp only [membersText, Bool.false_eq_true, ↓reduceIte, List.map_append, List.sum_append,
      List.map_cons, List.map_nil, List.sum_cons, List.sum_nil, sum_utf8Size_memberText, ih, comma]
    omega

/-- The bytes of an object with members: its opening bracket, and for each member its key and its value
with two quotes, a colon, and the comma or the bracket after it. -/
theorem utf8ByteSize_text_object (m : String × Json) (rest : List (String × Json)) :
    (Json.object (m :: rest)).text.utf8ByteSize =
      1 + ((m :: rest).map fun m => escapedSize m.1 + m.2.text.utf8ByteSize + 4).sum := by
  have bracket : '\x7b'.utf8Size = 1 := by decide
  rw [utf8ByteSize_eq_sum, toList_text_object]
  simp only [membersText, ↓reduceIte, List.map_append, List.sum_append, List.map_cons, List.map_nil,
    List.sum_cons, List.sum_nil, sum_utf8Size_memberText, sum_utf8Size_membersText, bracket]
  omega

/-- A member whose key is greater than all before it joins them at the end. -/
theorem insertMember_of_lt {key : String} {members : List (String × Json)} (v : Json)
    (after : ∀ m ∈ members, m.1 < key) : insertMember key v members = members ++ [(key, v)] := by
  induction members with
  | nil => rfl
  | cons m rest ih =>
    have less := after m List.mem_cons_self
    have noLess : ¬ key < m.1 := String.lt_asymm less
    have other : key ≠ m.1 := by
      rintro rfl
      exact String.lt_irrefl _ less
    obtain ⟨k, w⟩ := m
    rw [insertMember, if_neg noLess, if_neg other, ih fun m hm => after m (List.mem_cons_of_mem _ hm),
      List.cons_append]

namespace Scan

theorem nextMember_quote (first : Bool) (cs : List Char) :
    nextMember first ((if first then [] else [',']) ++ '"' :: cs) = .ok (.item cs) := by
  cases first <;> rfl

/-- One round takes one member. -/
theorem members_member {value : List Char → Scan Json} {key : String} {v : Json} {rest : List Char}
    (read : value (v.text.toList ++ rest) = .ok (v, rest)) (rounds : Nat) (first : Bool)
    (sorted : List (String × Json)) :
    members (member value) (rounds + 1) first sorted
        ((if first then [] else [',']) ++ (memberText (key, v) ++ rest)) =
      members (member value) rounds false (insertMember key v sorted) rest := by
  have opened : nextMember first ((if first then [] else [',']) ++ (memberText (key, v) ++ rest)) =
      .ok (.item (escaped key ++ '"' :: ':' :: (v.text.toList ++ rest))) := by
    rw [memberText, toList_stringText, List.cons_append, List.cons_append, nextMember_quote]
    simp only [List.append_assoc, List.cons_append, List.nil_append]
  have joined : member value key sorted (':' :: (v.text.toList ++ rest)) =
      .ok (insertMember key v sorted, rest) := by
    have past : colon (':' :: (v.text.toList ++ rest)) = .ok (v.text.toList ++ rest) := rfl
    simp only [member, past, read]
    rfl
  simp only [members, opened, string_escaped, joined]

/-- **The members of an object** read back when they stand in the order of their keys. -/
theorem members_membersText {value : List Char → Scan Json} {todo : List (String × Json)}
    (read : ∀ m ∈ todo, ∀ rest, value (m.2.text.toList ++ rest) = .ok (m.2, rest))
    (done : List (String × Json)) (sorted : (done ++ todo).Pairwise fun m m' => m.1 < m'.1)
    {rounds : Nat} (enough : todo.length < rounds) (first : Bool) (rest : List Char) :
    members (member value) rounds first done (membersText first todo ++ rest) =
      .ok (done ++ todo, rest) := by
  induction todo generalizing done rounds first with
  | nil =>
    obtain ⟨rounds, rfl⟩ := Nat.exists_eq_succ_of_ne_zero (Nat.ne_of_gt enough)
    rw [List.append_nil]
    rfl
  | cons m todo ih =>
    obtain ⟨rounds, rfl⟩ := Nat.exists_eq_succ_of_ne_zero (Nat.ne_of_gt (Nat.zero_lt_of_lt enough))
    have fewer : todo.length < rounds := Nat.lt_of_succ_lt_succ enough
    have last : insertMember m.1 m.2 done = done ++ [m] :=
      insertMember_of_lt m.2 fun earlier he =>
        (List.pairwise_append.mp sorted).2.2 earlier he m List.mem_cons_self
    have sorted' : ((done ++ [m]) ++ todo).Pairwise fun m m' => m.1 < m'.1 := by
      rwa [List.append_assoc]
    rw [membersText, List.append_assoc, List.append_assoc,
      members_member (read m List.mem_cons_self _) rounds first done, last,
      ih (fun later hl => read later (List.mem_cons_of_mem m hl)) (done ++ [m]) sorted' fewer,
      List.append_assoc, List.singleton_append]

end Scan

/-- An object reads back when its members do and stand in the order of their keys. -/
theorem reads_object {members : List (String × Json)} {depth : Nat}
    (sorted : members.Pairwise fun m m' => m.1 < m'.1) (read : ∀ m ∈ members, Reads m.2 depth) :
    Reads (.object members) (depth + 1) := by
  intro rounds rest enough
  have size : (membersText true members).length < rounds := by
    rw [← String.length_toList, toList_text_object] at enough
    exact Nat.lt_of_succ_lt enough
  obtain ⟨few, short⟩ := lt_length_membersText true members
  have each : ∀ m ∈ members, ∀ rest,
      Scan.value rounds depth (m.2.text.toList ++ rest) = .ok (m.2, rest) := fun m hm rest =>
    read m hm rounds rest (Nat.lt_trans (short m hm) size)
  have inside := Scan.members_membersText each [] sorted (Nat.lt_trans few size) true rest
  rw [toList_text_object, List.cons_append, Scan.value_brace, inside]
  rfl

/-- **A value that reads back** is the value of its text. -/
theorem ofText_text {v : Json} (read : Reads v depthLimit) : ofText v.text = .ok v := by
  have whole := read (v.text.toList.length + 1) [] (Nat.lt_succ_self _)
  rw [List.append_nil] at whole
  rw [ofText, ofChars, whole]
  rfl

end SatelliteTrack.Json
