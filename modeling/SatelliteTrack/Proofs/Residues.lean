import Mathlib
import SatelliteTrack.Failure
import SatelliteTrack.Proofs.SlotSizes
import SatelliteTrack.Proofs.WholeNumbers

/-!
# What a layout could not use

A layout takes its fields off the front of some bytes, one after another, and the bytes must be used up by
then. `Unused` says, from the widths of the fields alone, what is left over otherwise: the bytes from the
first field on that does not fit, or those behind the last field.

**The law** (`Slot.layouts_refuse_with_rest`): each of the three layouts reads the bytes of its own size
and no others, and refuses all others with just what is unused. The text of the refusal lists these bytes
in decimal, and no two refusals have one text.

A reader follows a list of widths (`FieldReader.Follows`) if it is made of fields of these widths in turn,
so the law is proved once for all layouts; a layout brings in its list of fields and nothing more.
-/

namespace SatelliteTrack

/-! ## The bytes that are unused -/

/-- What fields of these widths, one after another, leave of bytes that they do not use up. -/
inductive Unused (widths : List Nat) (bytes : Bytes) : Bytes → Prop
  /-- All fields before this one are complete, and there are too few bytes for it. -/
  | short {before after : List Nat} {width : Nat} (layout : widths = before ++ width :: after)
      (complete : before.sum ≤ bytes.length) (lacking : bytes.length < before.sum + width) :
      Unused widths bytes (bytes.drop before.sum)
  /-- All fields are complete, and there are more bytes. -/
  | long (surplus : widths.sum < bytes.length) : Unused widths bytes (bytes.drop widths.sum)

namespace Unused

variable {widths : List Nat} {bytes unused : Bytes}

/-- The unused bytes are an end of the bytes. -/
theorem isSuffix (h : Unused widths bytes unused) : unused <:+ bytes := by
  cases h with
  | short => exact List.drop_suffix _ _
  | long => exact List.drop_suffix _ _

/-- The bytes from a field on that does not fit are fewer than its width. -/
theorem length_drop_le {before width : Nat} (complete : before ≤ bytes.length)
    (lacking : bytes.length < before + width) : (bytes.drop before).length ≤ width - 1 := by
  rw [List.length_drop]
  omega

/-- Where there are too few bytes, there is a first field that does not fit. -/
theorem exists_lacking {widths : List Nat} {n : Nat} (few : n < widths.sum) :
    ∃ before width after, widths = before ++ width :: after ∧ before.sum ≤ n ∧ n < before.sum + width := by
  induction widths generalizing n with
  | nil => exact absurd few (Nat.not_lt_zero n)
  | cons width widths ih =>
    by_cases lacking : n < width
    · exact ⟨[], width, widths, rfl, Nat.zero_le n, by rwa [List.sum_nil, Nat.zero_add]⟩
    · rw [List.sum_cons] at few
      obtain ⟨before, next, after, rfl, complete, lacks⟩ := ih (n := n - width) (by omega)
      refine ⟨width :: before, next, after, rfl, ?_, ?_⟩ <;> rw [List.sum_cons] <;> omega

/-- Something is unused unless the bytes are as many as the layout takes. -/
theorem exists_of_ne (differs : bytes.length ≠ widths.sum) : ∃ unused, Unused widths bytes unused := by
  obtain few | surplus := Nat.lt_or_gt_of_ne differs
  · obtain ⟨before, width, after, layout, complete, lacking⟩ := exists_lacking few
    exact ⟨_, .short layout complete lacking⟩
  · exact ⟨_, .long surplus⟩

end Unused

/-! ## Readers that follow a layout -/

namespace FieldReader

variable {α β : Type} {reader : FieldReader α} {width : Nat} {widths : List Nat} {bytes : Bytes}

/-- The reader takes a field of this width, and where there are too few bytes it takes none. -/
structure IsField (reader : FieldReader α) (width : Nat) : Prop where
  takes : Takes reader width
  lacking : ∀ bytes : Bytes, bytes.length < width → reader bytes = .error ⟨bytes⟩

theorem isField_byte : IsField byte 1 where
  takes := takes_byte
  lacking := by
    intro bytes few
    obtain rfl := List.eq_nil_of_length_eq_zero (Nat.lt_one_iff.mp few)
    rfl

theorem isField_word : IsField word 4 where
  takes := takes_word
  lacking := by
    intro bytes few
    match bytes, few with
    | [], _ => rfl
    | [_], _ => rfl
    | [_, _], _ => rfl
    | [_, _, _], _ => rfl

theorem isField_block (n : Nat) : IsField (block n) n where
  takes := by
    intro bytes enough
    rw [block, dif_pos enough]
    exact ⟨_, rfl⟩
  lacking := by
    intro bytes few
    rw [block, dif_neg (Nat.not_le.mpr few)]

/-- The reader takes fields of these widths in turn, and fails in front of the first that does not fit. -/
structure Follows (reader : FieldReader α) (widths : List Nat) : Prop where
  takes : Takes reader widths.sum
  lacking : ∀ (bytes : Bytes) {before after : List Nat} {width : Nat}, widths = before ++ width :: after →
    before.sum ≤ bytes.length → bytes.length < before.sum + width →
    reader bytes = .error ⟨bytes.drop before.sum⟩

theorem follows_pure (x : α) : Follows (pure x) [] where
  takes := takes_pure x
  lacking := by
    intro bytes before after width layout
    exact absurd layout.symm (List.append_ne_nil_of_right_ne_nil _ (List.cons_ne_nil _ _))

/-- A field and then a reader that follows the other widths. -/
theorem IsField.bind {next : α → FieldReader β} (first : IsField reader width)
    (others : ∀ x, Follows (next x) widths) : Follows (reader >>= next) (width :: widths) where
  takes := by
    rw [List.sum_cons]
    exact first.takes.bind fun x => (others x).takes
  lacking := by
    intro bytes before after lacked layout complete lacking
    show (reader bytes >>= fun p => next p.1 p.2) = _
    cases before with
    | nil =>
      obtain ⟨rfl, rfl⟩ := List.cons.inj layout
      rw [List.sum_nil, Nat.zero_add] at lacking
      rw [first.lacking bytes lacking]
      rfl
    | cons own before =>
      obtain ⟨rfl, rfl⟩ := List.cons.inj layout
      rw [List.sum_cons] at complete lacking ⊢
      obtain ⟨x, read⟩ := first.takes bytes (by omega)
      have rest := (others x).lacking (bytes.drop width) rfl
        (by rw [List.length_drop]; omega) (by rw [List.length_drop]; omega)
      rw [List.drop_drop] at rest
      rw [read]
      exact rest

/-- **A reader that follows a layout** refuses bytes of which something is unused, with that. -/
theorem Follows.whole_of_unused (h : Follows reader widths) {unused : Bytes}
    (left : Unused widths bytes unused) : whole reader bytes = .error ⟨unused⟩ := by
  cases left with
  | short layout complete lacking => rw [whole, h.lacking bytes layout complete lacking]
  | long surplus =>
    obtain ⟨x, read⟩ := h.takes bytes (Nat.le_of_lt surplus)
    obtain ⟨b, rest, more⟩ := List.exists_cons_of_length_pos (l := bytes.drop widths.sum)
      (by rw [List.length_drop]; exact Nat.sub_pos_of_lt surplus)
    rw [more] at read ⊢
    rw [whole, read]

theorem Follows.whole_ok_iff (h : Follows reader widths) (bytes : Bytes) :
    (∃ x, whole reader bytes = .ok x) ↔ bytes.length = widths.sum := by
  constructor
  · rintro ⟨x, read⟩
    refine Decidable.byContradiction fun differs => ?_
    obtain ⟨unused, left⟩ := Unused.exists_of_ne differs
    cases read.symm.trans (h.whole_of_unused left)
  · exact h.takes.whole

theorem Follows.whole_error_iff (h : Follows reader widths) (bytes : Bytes) (residue : Residue) :
    whole reader bytes = .error residue ↔ Unused widths bytes residue.bytes := by
  constructor
  · intro refused
    have differs : bytes.length ≠ widths.sum := by
      intro same
      obtain ⟨x, read⟩ := h.takes.whole same
      cases read.symm.trans refused
    obtain ⟨unused, left⟩ := Unused.exists_of_ne differs
    cases refused.symm.trans (h.whole_of_unused left)
    exact left
  · exact h.whole_of_unused

end FieldReader

open FieldReader

/-- The widths of the fields of the three layouts, in order. -/
def SensorReport.widths : List Nat := [1, 1, 4]

def FixSlot.widths : List Nat := [1, 4, 4, 4, 1, 4, 1, 1]

def RawSlot.widths : List Nat := [1, measurementSize]

theorem SensorReport.follows_fields : Follows SensorReport.fields SensorReport.widths :=
  isField_byte.bind fun _ => isField_byte.bind fun _ => isField_word.bind fun _ => follows_pure _

theorem FixSlot.follows_fields : Follows FixSlot.fields FixSlot.widths :=
  isField_byte.bind fun _ => isField_word.bind fun _ => isField_word.bind fun _ => isField_word.bind fun _ =>
    isField_byte.bind fun _ => isField_word.bind fun _ => isField_byte.bind fun _ =>
      isField_byte.bind fun _ => follows_pure _

theorem RawSlot.follows_fields : Follows RawSlot.fields RawSlot.widths :=
  isField_byte.bind fun _ => (isField_block measurementSize).bind fun _ => follows_pure _

/-! ## The text of a refusal -/

/-- A byte in decimal. -/
def byteText (b : UInt8) : List Char := (toString b.toNat).toList

/-- Bytes behind the first, each with its separator before it. -/
def laterBytesText (bytes : Bytes) : List Char := bytes.flatMap fun b => ',' :: ' ' :: byteText b

/-- A separator between two bytes is a separator before each byte but the first. -/
theorem intercalate_byteText (b : UInt8) (rest : Bytes) :
    [',', ' '].intercalate ((b :: rest).map byteText) = byteText b ++ laterBytesText rest := by
  induction rest generalizing b with
  | nil => simp [laterBytesText]
  | cons next rest ih =>
    have later := ih next
    rw [List.map_cons] at later
    rw [List.map_cons, List.map_cons, List.intercalate_cons_cons, later, laterBytesText, laterBytesText,
      List.flatMap_cons]
    simp only [List.append_assoc, List.cons_append, List.nil_append]

/-- The first of some bytes can be told from their text, and so can the text of the others. -/
theorem byteText_append_injective {a b : UInt8} {as bs : Bytes}
    (same : byteText a ++ laterBytesText as = byteText b ++ laterBytesText bs) :
    a = b ∧ laterBytesText as = laterBytesText bs := by
  have ends (bytes : Bytes) : Text.DigitsEnd (laterBytesText bytes) := by
    cases bytes with
    | nil => exact Text.digitsEnd_nil
    | cons _ _ => exact Text.digitsEnd_cons.mpr rfl
  have read := congrArg Text.natural? same
  rw [byteText, byteText, Text.natural?_toString _ (ends as), Text.natural?_toString _ (ends bs)] at read
  obtain ⟨number, rest⟩ := Prod.mk.inj (Option.some.inj read)
  exact ⟨UInt8.toNat_inj.mp number, rest⟩

theorem laterBytesText_injective {as bs : Bytes} (same : laterBytesText as = laterBytesText bs) :
    as = bs := by
  induction as generalizing bs with
  | nil =>
    cases bs with
    | nil => rfl
    | cons b bs => cases same
  | cons a as ih =>
    cases bs with
    | nil => cases same
    | cons b bs =>
      simp only [laterBytesText, List.flatMap_cons, List.cons_append, List.cons.injEq, true_and] at same
      obtain ⟨rfl, later⟩ := byteText_append_injective same
      rw [ih later]

/-- Bytes can be told from the text that lists them. -/
theorem bytesText_injective {as bs : Bytes} (same : bytesText as = bytesText bs) : as = bs := by
  have listing (bytes : Bytes) :
      (bytesText bytes).toList = '[' :: [',', ' '].intercalate (bytes.map byteText) ++ [']'] := by
    rw [bytesText, String.toList_append, String.toList_append, String.toList_intercalate, List.map_map]
    rfl
  have nonempty (b : UInt8) (rest : List Char) : byteText b ++ rest ≠ [] := by
    rw [byteText, Text.toList_toString]
    exact List.append_ne_nil_of_left_ne_nil Nat.toDigits_ne_nil _
  have texts := congrArg String.toList same
  rw [listing, listing] at texts
  have listed := List.append_cancel_right (List.cons.inj texts).2
  cases as with
  | nil =>
    cases bs with
    | nil => rfl
    | cons b bs =>
      rw [intercalate_byteText] at listed
      exact absurd listed.symm (nonempty b _)
  | cons a as =>
    cases bs with
    | nil =>
      rw [intercalate_byteText] at listed
      exact absurd listed (nonempty a _)
    | cons b bs =>
      rw [intercalate_byteText, intercalate_byteText] at listed
      obtain ⟨rfl, later⟩ := byteText_append_injective listed
      rw [laterBytesText_injective later]

theorem message_parse (residue : Residue) : (Failure.parse residue).message =
    "Parse error: Error \x7b input: " ++ bytesText residue.bytes ++ ", code: Eof \x7d" := rfl

/-! ## The three layouts -/

/-- A layout with fields of these widths, as its reader takes it. -/
structure RefusesWithRest {α : Type} (decode : Bytes → Except Residue α) (widths : List Nat) : Prop where
  /-- It reads bytes of the right number, whatever they are, and no others. -/
  read : ∀ bytes, (∃ x, decode bytes = .ok x) ↔ bytes.length = widths.sum
  /-- It refuses bytes with what is unused of them. -/
  refused : ∀ bytes residue, decode bytes = .error residue ↔ Unused widths bytes residue.bytes
  /-- If that begins with a field that does not fit, it is shorter than this field. -/
  brief : ∀ (bytes : Bytes) {before after : List Nat} {width : Nat}, widths = before ++ width :: after →
    before.sum ≤ bytes.length → bytes.length < before.sum + width →
    ∃ residue, decode bytes = .error residue ∧ residue.bytes = bytes.drop before.sum ∧
      residue.bytes.length ≤ width - 1
  /-- In any case it is an end of the bytes. -/
  ending : ∀ bytes residue, decode bytes = .error residue → residue.bytes <:+ bytes

theorem FieldReader.Follows.refusesWithRest {α : Type} {reader : FieldReader α} {widths : List Nat}
    (h : Follows reader widths) : RefusesWithRest (whole reader) widths where
  read := h.whole_ok_iff
  refused := h.whole_error_iff
  brief := by
    intro bytes before after width layout complete lacking
    exact ⟨_, h.whole_of_unused (.short layout complete lacking), rfl,
      Unused.length_drop_le complete lacking⟩
  ending := by
    intro bytes residue refused
    exact ((h.whole_error_iff bytes residue).mp refused).isSuffix

namespace Slot

/-- **Each layout reads the bytes of its size, and names the rest of all others.** The text of a refusal
lists the rest in decimal, so that it can be told from the text. -/
theorem layouts_refuse_with_rest :
    (SensorReport.widths.sum = 6 ∧ RefusesWithRest SensorReport.decode SensorReport.widths) ∧
    (FixSlot.widths.sum = 20 ∧ RefusesWithRest FixSlot.decode FixSlot.widths) ∧
    (RawSlot.widths.sum = 21 ∧ RefusesWithRest RawSlot.decode RawSlot.widths) ∧
    (∀ residue, (Failure.parse residue).message = "Parse error: Error \x7b input: [" ++
      ", ".intercalate (residue.bytes.map fun b => toString b.toNat) ++ "], code: Eof \x7d") ∧
    ∀ residue other, (Failure.parse residue).message = (Failure.parse other).message → residue = other := by
  refine ⟨⟨rfl, SensorReport.follows_fields.refusesWithRest⟩, ⟨rfl, FixSlot.follows_fields.refusesWithRest⟩,
    ⟨rfl, RawSlot.follows_fields.refusesWithRest⟩, ?listed, ?told⟩
  case listed =>
    intro residue
    have opening : "Parse error: Error \x7b input: [" = "Parse error: Error \x7b input: " ++ "[" := by decide
    have closing : "], code: Eof \x7d" = "]" ++ ", code: Eof \x7d" := by decide
    simp only [message_parse, bytesText, opening, closing, String.append_assoc]
  case told =>
    intro residue other same
    rw [message_parse, message_parse] at same
    have texts := congrArg String.toList same
    rw [String.toList_append, String.toList_append, String.toList_append, String.toList_append] at texts
    have listed := List.append_cancel_left (List.append_cancel_right texts)
    exact congrArg Residue.mk (bytesText_injective (String.toList_inj.mp listed))

/-- Three bytes are too few for the second field of a fix, and seven too many for a sensor report. -/
example : FixSlot.decode [1, 2, 3] = .error ⟨[2, 3]⟩ ∧ SensorReport.decode [1, 2, 3, 4, 5, 6, 7] = .error ⟨[7]⟩ :=
  ⟨rfl, rfl⟩

end Slot

end SatelliteTrack
