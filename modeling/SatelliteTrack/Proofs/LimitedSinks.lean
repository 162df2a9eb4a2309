import SatelliteTrack.Proofs.Sinks
import SatelliteTrack.Track.Csv

/-!
# A table in a sink with a limit

A table is written piece by piece, and a sink need not take a piece at once: it takes some of the bytes it
is offered, and is offered the rest again. A sink with a limit may refuse what does not fit into it, with
or without taking a part of it, and nothing is offered to it after that. `Stores` holds of all that such a
sink may do with given pieces.

**The law** (`Csv.write_limited`): writing succeeds exactly if the whole table is within the limit, and
then the sink holds the table. Otherwise the failure is reported and the sink holds a beginning of the
table that is within the limit. It does not matter how the table is cut into pieces, nor how much the sink
takes at a time; the sink of this program (`Sink.ofRoom`) is the one that takes as much as it can.
-/

namespace SatelliteTrack

/-- The bytes of texts that are written one after another. -/
theorem Text.flatten_map_utf8 (texts : List String) :
    (texts.map utf8).flatten = utf8 (String.join texts) := by
  rw [utf8_join, List.flatMap_def]

/-- What is reported to the one who writes. -/
def Taken.result (taken : Taken) : Except Failure Unit :=
  match taken.fault with
  | none => .ok ()
  | some fault => .error (.io fault)

/-- What a sink with room for so many bytes may take of pieces that are offered to it one after another. -/
inductive Stores (full : IoFault) : (room : Nat) → (pieces : List Bytes) → Taken → Prop
  | done {room : Nat} : Stores full room [] {}
  /-- Nothing is left of a piece. -/
  | next {room : Nat} {rest : List Bytes} {taken : Taken} (tail : Stores full room rest taken) :
      Stores full room ([] :: rest) taken
  /-- A part of a piece is taken, and what is left of it is offered again. -/
  | part {room : Nat} {piece : Bytes} {rest : List Bytes} {taken : Taken} (n : Nat) (some : 0 < n)
      (offered : n ≤ piece.length) (fits : n ≤ room)
      (tail : Stores full (room - n) (piece.drop n :: rest) taken) :
      Stores full room (piece :: rest) { taken with bytes := piece.take n ++ taken.bytes }
  /-- A piece that does not fit is refused. -/
  | refused {room : Nat} {piece : Bytes} {rest : List Bytes} (large : room < piece.length) :
      Stores full room (piece :: rest) { fault := some full }

namespace Stores

variable {full : IoFault} {room : Nat} {pieces : List Bytes} {taken : Taken}

/-- A piece that fits may be taken at once. -/
theorem whole {piece : Bytes} (fits : piece.length ≤ room)
    (tail : Stores full (room - piece.length) pieces taken) :
    Stores full room (piece :: pieces) { taken with bytes := piece ++ taken.bytes } := by
  cases piece with
  | nil => exact .next tail
  | cons b rest =>
    have taking := Stores.part (b :: rest).length (Nat.succ_pos _) (Nat.le_refl _) fits
      (by rw [List.drop_length]; exact .next tail)
    rwa [List.take_length] at taking

/-- Of a piece that does not fit as much may be taken as there is room for. -/
theorem filled {piece : Bytes} (large : room < piece.length) :
    Stores full room (piece :: pieces) { bytes := piece.take room, fault := some full } := by
  cases room with
  | zero => exact .refused large
  | succ more =>
    have left : Stores full (more + 1 - (more + 1)) (piece.drop (more + 1) :: pieces)
        { fault := some full } := by
      refine .refused ?_
      rw [List.length_drop]
      omega
    have taking := Stores.part (more + 1) (Nat.succ_pos more) (Nat.le_of_lt large) (Nat.le_refl _) left
    rwa [List.append_nil] at taking

/-- Pieces that fit together may all be taken at once. -/
theorem all (fits : pieces.flatten.length ≤ room) : Stores full room pieces { bytes := pieces.flatten } := by
  induction pieces generalizing room with
  | nil => exact .done
  | cons piece rest ih =>
    rw [List.flatten_cons, List.length_append] at fits
    exact .whole (by omega) (ih (by omega))

/-- **Everything is taken, or a beginning**: the first if everything fits, the second if not. -/
theorem whole_or_beginning (h : Stores full room pieces taken) :
    taken.fault = none ∧ pieces.flatten.length ≤ room ∧ taken.bytes = pieces.flatten ∨
      taken.fault = some full ∧ room < pieces.flatten.length ∧
        taken.bytes <+: pieces.flatten ∧ taken.bytes.length ≤ room := by
  induction h with
  | done => exact .inl ⟨rfl, Nat.zero_le _, rfl⟩
  | next tail ih => exact ih
  | @part room piece rest taken n some offered fits tail ih =>
    -- what is offered next is what is left, and it fits into what is left of the room
    have parts : piece.take n ++ (piece.drop n :: rest).flatten = (piece :: rest).flatten := by
      rw [List.flatten_cons, List.flatten_cons, ← List.append_assoc, List.take_append_drop]
    have taking : (piece.take n).length = n := List.length_take_of_le offered
    rw [← parts, List.length_append, List.length_append, taking]
    rcases ih with ⟨none, small, same⟩ | ⟨failed, large, beginning, within⟩
    · refine .inl ⟨none, by omega, ?_⟩
      exact congrArg (piece.take n ++ ·) same
    · refine .inr ⟨failed, by omega, ?_, by omega⟩
      exact (List.prefix_append_right_inj _).mpr beginning
  | @refused room piece rest large =>
    refine .inr ⟨rfl, ?_, List.nil_prefix, Nat.zero_le _⟩
    rw [List.flatten_cons, List.length_append]
    omega

end Stores

namespace Sink

variable (limit : Nat) (full : IoFault)

theorem fits_iff_of_room (bytes : Bytes) :
    fits { room := some limit, full } bytes = true ↔ bytes.length ≤ limit := by
  rw [fits, Option.all_some, decide_eq_true_eq]

/-- The sink of this program takes of each piece as much as it can. -/
theorem stores_write (texts : List String) :
    Stores full limit (texts.map Text.utf8) (write { room := some limit, full } texts) := by
  induction texts generalizing limit with
  | nil => exact .done
  | cons text rest ih =>
    rw [write, List.map_cons]
    by_cases small : (Text.utf8 text).length ≤ limit
    · rw [if_pos ((fits_iff_of_room limit full _).mpr small)]
      exact .whole small (ih (limit - (Text.utf8 text).length))
    · rw [if_neg (mt (fits_iff_of_room limit full _).mp small)]
      exact .filled (Nat.lt_of_not_le small)

/-- It takes as much of the text as there is room for. -/
theorem bytes_write (texts : List String) :
    (write { room := some limit, full } texts).bytes = (Text.utf8 (String.join texts)).take limit := by
  rw [write_eq]
  by_cases small : (Text.utf8 (String.join texts)).length ≤ limit
  · rw [if_pos ((fits_iff_of_room limit full _).mpr small), List.take_of_length_le small]
  · rw [if_neg (mt (fits_iff_of_room limit full _).mp small)]
    rfl

end Sink

/-- What has become of a text in a sink with a limit: it is there as a whole and the writing succeeded, if
it is within the limit; otherwise a beginning of it is, and the writing failed. -/
structure Taken.Holds (taken : Taken) (text : Bytes) (limit : Nat) : Prop where
  ok_iff : taken.result = .ok () ↔ text.length ≤ limit
  whole : taken.result = .ok () → taken.bytes = text
  beginning : ∀ failure, taken.result = .error failure →
    (∃ fault, failure = .io fault) ∧ taken.bytes <+: text ∧ taken.bytes.length ≤ limit

theorem Stores.holds {full : IoFault} {limit : Nat} {pieces : List Bytes} {taken : Taken}
    (h : Stores full limit pieces taken) : taken.Holds pieces.flatten limit := by
  rcases h.whole_or_beginning with ⟨none, small, same⟩ | ⟨failed, large, beginning, within⟩
  · have done : taken.result = .ok () := by rw [Taken.result, none]
    refine ⟨⟨fun _ => small, fun _ => done⟩, fun _ => same, fun failure other => ?_⟩
    cases done.symm.trans other
  · have refused : taken.result = .error (.io full) := by rw [Taken.result, failed]
    refine ⟨⟨fun done => ?_, fun small => absurd small (Nat.not_le.mpr large)⟩, fun done => ?_,
      fun failure other => ?_⟩
    · cases refused.symm.trans done
    · cases refused.symm.trans done
    · cases refused.symm.trans other
      exact ⟨⟨full, rfl⟩, beginning, within⟩

/-- **A table in a sink with a limit.** Without a limit the whole table is written. A sink with one holds
the whole table if that is within the limit, and otherwise the first bytes of it, as many as the limit
says, and the writing fails. Any other sink with this limit holds the whole table or a beginning of it,
too, however the table is cut into pieces and whatever it takes of them at a time. -/
theorem Csv.write_limited (rows : List TrackRow) (limit : Nat) :
    let whole := Csv.write rows {}
    whole.result = .ok () ∧ whole.bytes = Text.utf8 (Csv.text rows) ∧
    (Csv.write rows (.ofRoom limit)).Holds whole.bytes limit ∧
    (Csv.write rows (.ofRoom limit)).bytes = whole.bytes.take limit ∧
    ∀ (full : IoFault) (pieces : List Bytes) (taken : Taken), pieces.flatten = whole.bytes →
      Stores full limit pieces taken → taken.Holds whole.bytes limit := by
  intro whole
  have all : whole = { bytes := Text.utf8 (Csv.text rows) } := Sink.write_unlimited (Csv.pieces rows)
  have stores : Stores .sinkFull limit ((Csv.pieces rows).map Text.utf8) (Csv.write rows (.ofRoom limit)) :=
    Sink.stores_write limit .sinkFull (Csv.pieces rows)
  rw [all]
  refine ⟨rfl, rfl, ?_, ?_, fun full pieces taken same stored => ?_⟩
  · have law := stores.holds
    rwa [Text.flatten_map_utf8] at law
  · exact Sink.bytes_write limit .sinkFull (Csv.pieces rows)
  · rw [← same]
    exact stored.holds

/-- A sink with room for two bytes that takes one at a time, for a table without rows given as a whole. -/
theorem Csv.write_limited_bytewise :
    Stores .sinkFull 2 [Text.utf8 (Csv.text [])] { bytes := [0x2c, 0x6c], fault := some .sinkFull } ∧
      Taken.Holds { bytes := [0x2c, 0x6c], fault := some .sinkFull } (Csv.write [] {}).bytes 2 := by
  have stored : Stores .sinkFull 2 [Text.utf8 (Csv.text [])]
      { bytes := [0x2c, 0x6c], fault := some .sinkFull } :=
    .part 1 (by decide) (by decide) (by decide) (.part 1 (by decide) (by decide) (by decide)
      (.refused (by decide)))
  obtain ⟨-, same, -, -, law⟩ := Csv.write_limited [] 2
  exact ⟨stored, law .sinkFull _ _ (by rw [same]; rfl) stored⟩

end SatelliteTrack
