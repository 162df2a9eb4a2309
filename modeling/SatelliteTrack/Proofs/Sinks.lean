import SatelliteTrack.Sink

/-!
# What a sink takes

A sink is given a text in pieces. How the text is cut does not matter (`Sink.write_eq`): if the sink has
room for the whole text it takes the whole text, and otherwise it takes as much of the text as fits and
reports that. So no piece is taken twice, out of its place, or after the first one that did not fit.

The induction is on the pieces. Each step gives the sink that is left, and what fits into that is what
fits into the sink after the first piece.
-/

namespace SatelliteTrack

namespace Text

/-- The bytes of a text in pieces are the bytes of its pieces. -/
theorem utf8_join (pieces : List String) : utf8 (String.join pieces) = pieces.flatMap utf8 := by
  rw [utf8, String.toList_join, List.flatMap_assoc]
  rfl

end Text

namespace Sink

variable {sink : Sink} {bytes more : Bytes}

/-- Two texts fit if the first one does and the second one fits into what is left. -/
theorem fits_append (h : sink.fits bytes = true) :
    sink.fits (bytes ++ more) = (sink.shrink bytes.length).fits more := by
  cases hr : sink.room with
  | none => simp [fits, shrink, hr]
  | some room =>
    simp only [fits, hr, Option.all_some, decide_eq_true_eq] at h
    simp only [fits, shrink, hr, Option.all_some, Option.map_some, List.length_append,
      decide_eq_decide]
    omega

/-- A text does not fit if its beginning does not. -/
theorem not_fits_append (h : sink.fits bytes = false) : sink.fits (bytes ++ more) = false := by
  cases hr : sink.room with
  | none => simp [fits, hr] at h
  | some room =>
    simp only [fits, hr, Option.all_some, decide_eq_false_iff_not] at h ⊢
    rw [List.length_append]
    omega

/-- What fits of a text whose beginning fits: that, and what fits of the rest into what is left. -/
theorem take_append (h : sink.fits bytes = true) (full : sink.fits (bytes ++ more) = false) :
    (bytes ++ more).take (sink.room.getD 0) =
      bytes ++ more.take ((sink.shrink bytes.length).room.getD 0) := by
  cases hr : sink.room with
  | none => simp [fits, hr] at full
  | some room =>
    simp only [fits, hr, Option.all_some, decide_eq_true_eq] at h
    simp only [shrink, hr, Option.getD_some, Option.map_some, List.take_append,
      List.take_of_length_le h]

/-- What fits of a text whose beginning does not fit. -/
theorem take_append_of_not_fits (h : sink.fits bytes = false) :
    (bytes ++ more).take (sink.room.getD 0) = bytes.take (sink.room.getD 0) := by
  cases hr : sink.room with
  | none => simp [fits, hr] at h
  | some room =>
    simp only [fits, hr, Option.all_some, decide_eq_false_iff_not] at h
    rw [Option.getD_some, List.take_append_of_le_length (by omega)]

/-- **What a sink takes** of a text depends on the text and the room alone, not on the pieces. -/
theorem write_eq (sink : Sink) (pieces : List String) :
    sink.write pieces =
      if sink.fits (Text.utf8 (String.join pieces)) then { bytes := Text.utf8 (String.join pieces) }
      else {
        bytes := (Text.utf8 (String.join pieces)).take (sink.room.getD 0), fault := some sink.full } := by
  simp only [Text.utf8_join]
  induction pieces generalizing sink with
  | nil =>
    have empty : sink.fits [] = true := by cases hr : sink.room <;> simp [fits, hr]
    simp [write, empty]
  | cons text rest ih =>
    rw [write, List.flatMap_cons]
    by_cases first : sink.fits (Text.utf8 text) = true
    · rw [if_pos first, ih, fits_append first]
      by_cases whole : (sink.shrink (Text.utf8 text).length).fits (rest.flatMap Text.utf8) = true
      · rw [if_pos whole, if_pos whole]
      · rw [Bool.not_eq_true] at whole
        rw [if_neg (by simp [whole]), if_neg (by simp [whole]),
          take_append first (by rw [fits_append first, whole])]
        rfl
    · rw [Bool.not_eq_true] at first
      rw [if_neg (by simp [first]), if_neg (by simp [not_fits_append first]),
        take_append_of_not_fits first]

/-- What a sink has taken fits into it. -/
theorem fits_write (sink : Sink) (pieces : List String) : sink.fits (sink.write pieces).bytes = true := by
  rw [write_eq]
  split
  · next whole => exact whole
  · cases hr : sink.room with
    | none => simp [fits, hr]
    | some room =>
      simp only [fits, hr, Option.all_some, Option.getD_some, List.length_take, decide_eq_true_eq]
      exact Nat.min_le_left _ _

/-- A sink without a limit takes everything. -/
theorem write_unlimited (pieces : List String) :
    write {} pieces = { bytes := Text.utf8 (String.join pieces) } := by
  have fits : fits {} (Text.utf8 (String.join pieces)) = true := rfl
  rw [write_eq, if_pos fits]

end Sink

end SatelliteTrack
