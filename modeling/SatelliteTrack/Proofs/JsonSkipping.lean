import SatelliteTrack.Json.Skip
import SatelliteTrack.Proofs.JsonNumbers
import SatelliteTrack.Proofs.JsonSpelling

/-!
# Every value is passed over

A member that nobody asks for may hold any value. `Written .value` is the syntax of JSON, as a grammar
without a reader: a name, a string, a number, or brackets around items, to any depth. The theorem is that
`Scan.passValue` takes exactly such a value off the front of a text, whatever follows it, if the text was
no shorter than the value and the value, being perhaps a number, ends there (`Scan.passValue_written`).

The reader keeps its own list of open brackets and counts its rounds. So the law of a value is one about
all lists of open brackets and all counts of rounds to come: reading the value closes what it opened and
costs less than two rounds for each of its characters (`Passed`). It goes by induction on the grammar, and
each rule of the grammar is one or two steps of the reader.

What is passed over is checked for its syntax only. A string may name half of a character and a number may
be too large for a double; as wanted values they are refused.
-/

namespace SatelliteTrack.Json

open Scan

/-! ## The syntax -/

/-- The bracket at the front. -/
def Scan.Frame.opening : Frame → Char
  | .list => '['
  | .object => '\x7b'

/-- What stands before the value of an item: blanks in a list, and in an object also a key with a colon. -/
inductive Lead : Frame → List Char → Prop
  | list {blank : List Char} (isBlank : Blank blank) : Lead .list blank
  | object {first second third body : List Char} (isFirst : Blank first) (key : StringBody body)
      (isSecond : Blank second) (isThird : Blank third) :
      Lead .object (first ++ '"' :: body ++ '"' :: second ++ ':' :: third)

/-- A part of a text: a value, or all that follows an item of a bracket up to its end. -/
inductive Phrase where
  | value
  | tail (frame : Frame)

/-- **The syntax of JSON.** -/
inductive Written : Phrase → List Char → Prop
  | null : Written .value ['n', 'u', 'l', 'l']
  | true : Written .value ['t', 'r', 'u', 'e']
  | false : Written .value ['f', 'a', 'l', 's', 'e']
  | string {body : List Char} (chars : StringBody body) : Written .value ('"' :: body ++ ['"'])
  | number {l : Literal} {text : List Char} (writes : l.Writes text) : Written .value text
  | empty (frame : Frame) {blank : List Char} (isBlank : Blank blank) :
      Written .value (frame.opening :: blank ++ [frame.close])
  | filled {frame : Frame} {lead item more : List Char} (leads : Lead frame lead)
      (first : Written .value item) (others : Written (.tail frame) more) :
      Written .value (frame.opening :: lead ++ item ++ more)
  | close (frame : Frame) {blank : List Char} (isBlank : Blank blank) :
      Written (.tail frame) (blank ++ [frame.close])
  | next {frame : Frame} {blank lead item more : List Char} (isBlank : Blank blank)
      (leads : Lead frame lead) (first : Written .value item) (others : Written (.tail frame) more) :
      Written (.tail frame) (blank ++ ',' :: lead ++ item ++ more)

namespace Scan

/-! ## Where words begin and end -/

theorem Frame.close_not_mem_blanks (frame : Frame) : frame.close ∉ blanks := by
  cases frame <;> decide

/-- A bracket, a comma or a blank is no part of a number. -/
theorem delimits_blank {blank : List Char} (h : Blank blank) {c : Char} {rest : List Char}
    (ends : Delimits (c :: rest)) : Delimits (blank ++ c :: rest) := by
  cases blank with
  | nil => exact ends
  | cons b blank =>
    have ofBlank : ∀ b ∈ blanks, b.isDigit = false ∧ b ≠ '.' ∧ b ≠ 'e' ∧ b ≠ 'E' :=
      List.all_iff_forall_prop.mp (by decide)
    exact delimits_cons.mpr (ofBlank b (h b List.mem_cons_self))

theorem delimits_close (frame : Frame) (rest : List Char) : Delimits (frame.close :: rest) := by
  rw [delimits_cons]
  cases frame <;> decide

theorem delimits_comma (rest : List Char) : Delimits (',' :: rest) := by
  rw [delimits_cons]
  decide

/-- The items of a bracket end where the tail begins. -/
theorem delimits_tail {frame : Frame} {cs : List Char} (h : Written (.tail frame) cs) (rest : List Char) :
    Delimits (cs ++ rest) := by
  cases h with
  | close _ isBlank =>
    rw [List.append_assoc]
    exact delimits_blank isBlank (delimits_close frame rest)
  | next isBlank _ _ _ =>
    rw [List.append_assoc, List.append_assoc, List.append_assoc]
    exact delimits_blank isBlank (delimits_comma _)

/-- The character may stand at the front of a value: it is no blank, and it closes no bracket. -/
def Opens (c : Char) : Prop := c ∉ blanks ∧ ∀ frame : Frame, c ≠ frame.close

theorem opens_of_ne {c : Char} (h : c ∉ blanks ∧ c ≠ ']' ∧ c ≠ '\x7d') : Opens c := by
  refine ⟨h.1, fun frame => ?_⟩
  cases frame with
  | list => exact h.2.1
  | object => exact h.2.2

theorem opens_of_digit {c : Char} (digit : c.isDigit = true) : Opens c := by
  refine opens_of_ne ⟨fun blank => ?_, ne_of_isDigit digit (by decide), ne_of_isDigit digit (by decide)⟩
  have noDigit : ∀ b ∈ blanks, b.isDigit = false := List.all_iff_forall_prop.mp (by decide)
  exact ne_of_isDigit digit (noDigit c blank) rfl

theorem opens_opening (frame : Frame) : Opens frame.opening := by
  cases frame <;> exact opens_of_ne (by decide)

theorem written_cons {v : List Char} (h : Written .value v) : ∃ c more, v = c :: more ∧ Opens c := by
  cases h with
  | null => exact ⟨'n', _, rfl, opens_of_ne (by decide)⟩
  | true => exact ⟨'t', _, rfl, opens_of_ne (by decide)⟩
  | false => exact ⟨'f', _, rfl, opens_of_ne (by decide)⟩
  | string => exact ⟨'"', _, rfl, opens_of_ne (by decide)⟩
  | number writes =>
    obtain ⟨c, more, rfl, rfl | digit⟩ := writes_cons writes
    · exact ⟨'-', more, rfl, opens_of_ne (by decide)⟩
    · exact ⟨c, more, rfl, opens_of_digit digit⟩
  | empty frame => exact ⟨frame.opening, _, rfl, opens_opening frame⟩
  | @filled frame _ _ _ _ _ _ => exact ⟨frame.opening, _, rfl, opens_opening frame⟩

/-! ## One step -/

variable {steps : Nat} {frames : List Frame}

/-- Only what stands after the blanks counts before a value. -/
theorem pass_before_congr {cs ds : List Char} (h : skipSpace cs = skipSpace ds) :
    pass steps .before frames cs = pass steps .before frames ds := by
  cases steps with
  | zero => rfl
  | succ steps => rw [pass, pass, h]

theorem pass_opening (frame : Frame) (cs : List Char) :
    pass (steps + 1) .before frames (frame.opening :: cs) = pass steps .opened (frame :: frames) cs := by
  rw [pass, skipSpace_cons (opens_opening frame).1]
  cases frame with
  | list => exact if_pos rfl
  | object =>
    show (if _ then _ else _) = _
    rw [if_neg (by decide), if_pos (by rfl)]

/-- A value without brackets takes one step. -/
theorem pass_word {c : Char} {more past : List Char} (blank : c ∉ blanks) (noList : c ≠ '[')
    (noObject : c ≠ '\x7b') (word : passWord (c :: more) = .ok past) :
    pass (steps + 1) .before frames (c :: more) = pass steps .past frames past := by
  rw [pass, skipSpace_cons blank]
  show (if _ then _ else _) = _
  rw [if_neg noList, if_neg noObject, word]

theorem pass_empty (frame : Frame) {blank : List Char} (isBlank : Blank blank) (cs : List Char) :
    pass (steps + 1) .opened (frame :: frames) (blank ++ frame.close :: cs) = pass steps .past frames cs := by
  rw [pass, skipSpace_blank isBlank frame.close_not_mem_blanks]
  exact if_pos rfl

theorem pass_close (frame : Frame) {blank : List Char} (isBlank : Blank blank) (cs : List Char) :
    pass (steps + 1) .past (frame :: frames) (blank ++ frame.close :: cs) = pass steps .past frames cs := by
  rw [pass, skipSpace_blank isBlank frame.close_not_mem_blanks]
  exact if_pos rfl

theorem colon_blank {blank : List Char} (isBlank : Blank blank) (cs : List Char) :
    colon (blank ++ ':' :: cs) = .ok cs := by
  rw [colon, skipSpace_blank isBlank (by decide)]
  exact if_pos rfl

/-- What leads to a value is read up to the value, or to blanks before it, whether the blanks at its front
have been passed over or not. -/
theorem beforeValue_lead {frame : Frame} {lead : List Char} (h : Lead frame lead) {c : Char}
    (opens : Opens c) (cs : List Char) :
    (∃ past, frame.beforeValue (lead ++ c :: cs) = .ok past ∧ skipSpace past = c :: cs) ∧
      ∃ d more past, skipSpace (lead ++ c :: cs) = d :: more ∧ d ≠ frame.close ∧
        frame.beforeValue (d :: more) = .ok past ∧ skipSpace past = c :: cs := by
  cases h with
  | list isBlank =>
    have skipped := skipSpace_blank isBlank opens.1 cs
    exact ⟨⟨_, rfl, skipped⟩, c, cs, c :: cs, skipped, opens.2 .list, rfl, skipSpace_cons opens.1 cs⟩
  | @object first second third body isFirst key isSecond isThird =>
    have text : first ++ '"' :: body ++ '"' :: second ++ ':' :: third ++ c :: cs =
        first ++ '"' :: (body ++ '"' :: (second ++ ':' :: (third ++ c :: cs))) := by
      simp only [List.append_assoc, List.cons_append]
    have skipped := skipSpace_blank isFirst (by decide : '"' ∉ blanks)
      (body ++ '"' :: (second ++ ':' :: (third ++ c :: cs)))
    have skipped' := skipSpace_cons (by decide : '"' ∉ blanks)
      (body ++ '"' :: (second ++ ':' :: (third ++ c :: cs)))
    have past := skipSpace_blank isThird opens.1 cs
    rw [text]
    refine ⟨⟨_, ?_, past⟩, '"', _, _, skipped, by decide, ?_, past⟩
    · simp only [Frame.beforeValue, skipped, ↓reduceIte, passString_stringBody key, colon_blank isSecond]
    · simp only [Frame.beforeValue, skipped', ↓reduceIte, passString_stringBody key, colon_blank isSecond]

theorem pass_first {frame : Frame} {lead : List Char} (h : Lead frame lead) {c : Char} (opens : Opens c)
    (cs : List Char) : pass (steps + 1) .opened (frame :: frames) (lead ++ c :: cs) =
      pass steps .before (frame :: frames) (c :: cs) := by
  obtain ⟨d, more, past, skipped, noClose, before, ends⟩ := (beforeValue_lead h opens cs).2
  rw [pass, skipped]
  show (if _ then _ else _) = _
  rw [if_neg noClose, before]
  exact pass_before_congr (by rw [ends, skipSpace_cons opens.1])

theorem pass_comma {frame : Frame} {blank lead : List Char} (isBlank : Blank blank) (h : Lead frame lead)
    {c : Char} (opens : Opens c) (cs : List Char) :
    pass (steps + 1) .past (frame :: frames) (blank ++ ',' :: (lead ++ c :: cs)) =
      pass steps .before (frame :: frames) (c :: cs) := by
  obtain ⟨past, before, ends⟩ := (beforeValue_lead h opens cs).1
  have noClose : ',' ≠ frame.close := by cases frame <;> decide
  rw [pass, skipSpace_blank isBlank (by decide)]
  show (if _ then _ else _) = _
  rw [if_neg noClose, if_pos rfl, before]
  exact pass_before_congr (by rw [ends, skipSpace_cons opens.1])

/-! ## Words -/

theorem passWord_null (rest : List Char) : passWord (['n', 'u', 'l', 'l'] ++ rest) = .ok rest := rfl

theorem passWord_true (rest : List Char) : passWord (['t', 'r', 'u', 'e'] ++ rest) = .ok rest := rfl

theorem passWord_false (rest : List Char) : passWord (['f', 'a', 'l', 's', 'e'] ++ rest) = .ok rest := rfl

theorem passWord_string {body : List Char} (chars : StringBody body) (rest : List Char) :
    passWord ('"' :: body ++ ['"'] ++ rest) = .ok rest := by
  rw [List.append_assoc, List.singleton_append]
  exact passString_stringBody chars rest

theorem passWord_number {l : Literal} {text rest : List Char} (writes : l.Writes text)
    (ends : Delimits rest) : passWord (text ++ rest) = .ok rest := by
  have number := passNumber_of_writes writes ends
  obtain ⟨c, more, rfl, first⟩ := writes_cons writes
  have noName : c ≠ 'n' ∧ c ≠ 't' ∧ c ≠ 'f' ∧ c ≠ '"' := by
    obtain rfl | digit := first
    · decide
    · exact ⟨ne_of_isDigit digit (by decide), ne_of_isDigit digit (by decide),
        ne_of_isDigit digit (by decide), ne_of_isDigit digit (by decide)⟩
  rw [List.cons_append, passWord, if_neg noName.1, if_neg noName.2.1, if_neg noName.2.2.1,
    if_neg noName.2.2.2, if_pos first]
  exact number

/-! ## The whole value -/

/-- The reader takes the phrase off the front of a text within a bounded number of steps and comes out
with the brackets that were open before. -/
def Passed : Phrase → List Char → Prop
  | .value, cs => ∃ k < 2 * cs.length, ∀ (steps : Nat) (frames : List Frame) (rest : List Char),
      Delimits rest → pass (steps + k) .before frames (cs ++ rest) = pass steps .past frames rest
  | .tail frame, cs => ∃ k ≤ 2 * cs.length, ∀ (steps : Nat) (frames : List Frame) (rest : List Char),
      pass (steps + k) .past (frame :: frames) (cs ++ rest) = pass steps .past frames rest

theorem passed_word {c : Char} {more : List Char} (blank : c ∉ blanks) (noList : c ≠ '[')
    (noObject : c ≠ '\x7b')
    (word : ∀ rest, Delimits rest → passWord (c :: more ++ rest) = .ok rest) :
    Passed .value (c :: more) := by
  refine ⟨1, ?_, fun steps frames rest ends => pass_word blank noList noObject (word rest ends)⟩
  rw [List.length_cons]
  omega

/-- Each rule of the syntax is a step of the reader, and a bracket with items is two. -/
theorem passed_of_written {phrase : Phrase} {cs : List Char} (h : Written phrase cs) :
    Passed phrase cs := by
  induction h with
  | null => exact passed_word (by decide) (by decide) (by decide) fun rest _ => passWord_null rest
  | true => exact passed_word (by decide) (by decide) (by decide) fun rest _ => passWord_true rest
  | false => exact passed_word (by decide) (by decide) (by decide) fun rest _ => passWord_false rest
  | string chars =>
    exact passed_word (by decide) (by decide) (by decide) fun rest _ => passWord_string chars rest
  | number writes =>
    have read := fun rest (ends : Delimits rest) => passWord_number writes ends
    obtain ⟨c, more, rfl, rfl | digit⟩ := writes_cons writes
    · exact passed_word (by decide) (by decide) (by decide) read
    · exact passed_word (opens_of_digit digit).1 (ne_of_isDigit digit (by decide))
        (ne_of_isDigit digit (by decide)) read
  | @empty frame blank isBlank =>
    refine ⟨2, ?_, fun steps frames rest _ => ?_⟩
    · simp only [List.length_append, List.length_cons, List.length_nil]
      omega
    · rw [List.append_assoc, List.cons_append, List.singleton_append, pass_opening, pass_empty frame isBlank]
  | @filled frame lead item more leads first others ihFirst ihOthers =>
    obtain ⟨k, bound, passItem⟩ := ihFirst
    obtain ⟨l, bound', passOthers⟩ := ihOthers
    refine ⟨l + k + 2, ?_, fun steps frames rest _ => ?_⟩
    · simp only [List.length_append, List.length_cons]
      omega
    · have ends := delimits_tail others rest
      obtain ⟨c, item, rfl, opens⟩ := written_cons first
      have text : frame.opening :: lead ++ c :: item ++ more ++ rest =
          frame.opening :: (lead ++ c :: (item ++ (more ++ rest))) := by
        simp only [List.append_assoc, List.cons_append]
      rw [text, ← Nat.add_assoc, ← Nat.add_assoc, pass_opening, pass_first leads opens]
      exact (passItem (steps + l) (frame :: frames) (more ++ rest) ends).trans
        (passOthers steps frames rest)
  | @close frame blank isBlank =>
    refine ⟨1, ?_, fun steps frames rest => ?_⟩
    · simp only [List.length_append, List.length_cons, List.length_nil]
      omega
    · rw [List.append_assoc, List.singleton_append, pass_close frame isBlank]
  | @next frame blank lead item more isBlank leads first others ihFirst ihOthers =>
    obtain ⟨k, bound, passItem⟩ := ihFirst
    obtain ⟨l, bound', passOthers⟩ := ihOthers
    refine ⟨l + k + 1, ?_, fun steps frames rest => ?_⟩
    · simp only [List.length_append, List.length_cons]
      omega
    · have ends := delimits_tail others rest
      obtain ⟨c, item, rfl, opens⟩ := written_cons first
      have text : blank ++ ',' :: lead ++ c :: item ++ more ++ rest =
          blank ++ ',' :: (lead ++ c :: (item ++ (more ++ rest))) := by
        simp only [List.append_assoc, List.cons_append]
      rw [text, ← Nat.add_assoc, ← Nat.add_assoc, pass_comma isBlank leads opens]
      exact (passItem (steps + l) (frame :: frames) (more ++ rest) ends).trans
        (passOthers steps frames rest)

/-- **A value is passed over**, with blanks before it and whatever follows, when there are rounds for its
characters. -/
theorem passValue_written {blank v rest : List Char} {rounds : Nat} (isBlank : Blank blank)
    (h : Written .value v) (ends : Delimits rest) (enough : v.length ≤ rounds) :
    passValue rounds (blank ++ v ++ rest) = .ok rest := by
  obtain ⟨k, bound, passes⟩ := passed_of_written h
  obtain ⟨steps, count⟩ : ∃ steps, 2 * rounds = steps + 1 + k := ⟨2 * rounds - 1 - k, by omega⟩
  rw [passValue, count, List.append_assoc, pass_before_congr (skipSpace_append isBlank _),
    passes (steps + 1) [] rest ends, pass_done]

end Scan

end SatelliteTrack.Json
