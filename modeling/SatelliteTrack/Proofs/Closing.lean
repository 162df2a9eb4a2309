import SatelliteTrack.Proofs.Logbook

/-!
# The track of any notes

A run notes each message once and in order, but a logbook does not rely on that. Whatever is entered and
skipped, under whatever numbers and as often as one likes, closing the logbook gives a track that is
`Track.Closes`: the complete points that were entered, each as often as it was, by their dates, and
points of one date in the order of entry. Entries and skips do not meet, so the track is the same however
they were mixed (`Logbook.toTrack_closes`).

The order of entry is no part of a row, and two rows may be the same, so it is said of the rows of each
date by themselves: they are the entries of that date, as a list. What makes it true is that a stable sort
leaves alone whatever the order does not tell apart (`filter_mergeSort_of_tied`), and that leaving out the
incomplete points afterwards does not move the others.
-/

namespace SatelliteTrack

/-- Two dates stand in the order of a track: the first is not the later one, and an unset date comes
after all others. -/
inductive DatesInOrder : Option Int → Option Int → Prop
  | ascending {s t : Int} (le : s ≤ t) : DatesInOrder (some s) (some t)
  | unset (date : Option Int) : DatesInOrder date none

theorem dateLe_iff (a b : Option Int) : dateLe a b = true ↔ DatesInOrder a b := by
  constructor
  · intro ordered
    cases b with
    | none => exact .unset a
    | some t =>
      cases a with
      | none => cases ordered
      | some s => exact .ascending (of_decide_eq_true ordered)
  · intro ordered
    cases ordered with
    | ascending le => exact decide_eq_true le
    | unset => cases a <;> rfl

/-- **A stable sort leaves alone what the order does not tell apart**: such elements are the same list
before it and after it. -/
theorem filter_mergeSort_of_tied {α : Type} {le : α → α → Bool}
    (trans : ∀ a b c, le a b → le b c → le a c) (total : ∀ a b, le a b || le b a) {p : α → Bool}
    (tied : ∀ a b, p a → p b → le a b) (l : List α) : (l.mergeSort le).filter p = l.filter p := by
  have ordered : (l.filter p).Pairwise fun a b => le a b := by
    rw [List.pairwise_filter]
    exact List.pairwise_of_forall fun {a b} => tied a b
  have inside : (l.filter p).Sublist (l.mergeSort le) :=
    List.sublist_mergeSort trans total ordered List.filter_sublist
  have kept : (l.filter p).Sublist ((l.mergeSort le).filter p) := by
    have again := inside.filter p
    simpa only [List.filter_filter, Bool.and_self] using again
  exact (kept.eq_of_length ((l.mergeSort_perm le).filter p).length_eq.symm).symm

/-- A track is what notes come to. -/
structure Track.Closes (track : Track) (notes : List LogbookNote) : Prop where
  /-- The rows are the complete points that were entered, each as often as it was. -/
  rows : track.rows.Perm ((notes.filterMap LogbookNote.row?).filter fun row => row.point.isComplete)
  ordered : track.rows.Pairwise fun a b => DatesInOrder a.point.date b.point.date
  /-- The rows of one date, or without one, stand in the order of entry. -/
  tied : ∀ date : Option Int, (track.rows.filter fun row => row.point.date = date) =
    (notes.filterMap LogbookNote.row?).filter fun row => row.point.isComplete && row.point.date = date
  /-- Every point that was entered counts, complete or not. -/
  collected : track.collected = (notes.filterMap LogbookNote.row?).length
  skipped : track.skipped = notes.filterMap LogbookNote.skip?

attribute [ext] Logbook

namespace Logbook

/-- Notes make a track, and it is what they come to. -/
theorem exists_closes {notes : List LogbookNote} (filled : notes ≠ []) :
    ∃ track, (ofNotes notes).toTrack = .ok track ∧ track.Closes notes := by
  have perm := (notes.filterMap LogbookNote.row?).mergeSort_perm TrackRow.le
  have sorted := (notes.filterMap LogbookNote.row?).pairwise_mergeSort TrackRow.le_trans TrackRow.le_total
  refine ⟨_, toTrack_ofNotes filled, {
    rows := perm.filter _
    ordered := (sorted.imp fun {a b} le => (dateLe_iff _ _).mp le).filter _
    tied := ?_
    collected := rfl
    skipped := rfl }⟩
  intro date
  have tied : ∀ a b : TrackRow, (a.point.date = date && a.point.isComplete) →
      (b.point.date = date && b.point.isComplete) → a.le b := by
    intro a b ha hb
    simp only [Bool.and_eq_true, decide_eq_true_eq] at ha hb
    rw [TrackRow.le, ha.1, hb.1, ← Bool.or_self (dateLe date date)]
    exact dateLe_total date date
  have left := filter_mergeSort_of_tied TrackRow.le_trans TrackRow.le_total tied
    (notes.filterMap LogbookNote.row?)
  simp only [List.filter_filter, Bool.and_comm (TrackPoint.isComplete _)]
  exact left

/-- **The track of any notes.** A logbook holds as many points as were entered, it is empty and makes no
track only if nothing was noted, and it makes the track of its notes otherwise. Notes with the same points
and the same skips, each in their order, make the same track. -/
theorem toTrack_closes (notes : List LogbookNote) :
    (ofNotes notes).size = (notes.filterMap LogbookNote.row?).length ∧
      ((ofNotes notes).isEmpty ↔ notes = []) ∧
      ((ofNotes notes).toTrack = .error .emptyResult ↔ notes = []) ∧
      (notes ≠ [] → ∃ track, (ofNotes notes).toTrack = .ok track ∧ track.Closes notes) ∧
      ∀ others : List LogbookNote,
        others.filterMap LogbookNote.row? = notes.filterMap LogbookNote.row? →
        others.filterMap LogbookNote.skip? = notes.filterMap LogbookNote.skip? →
          (ofNotes others).toTrack = (ofNotes notes).toTrack := by
  refine ⟨by rw [size, rows_ofNotes], ?_, ?_, exists_closes, ?_⟩
  · rw [isEmpty_ofNotes, List.isEmpty_iff]
  · constructor
    · intro failed
      by_cases filled : notes = []
      · exact filled
      · obtain ⟨track, closed, -⟩ := exists_closes filled
        rw [closed] at failed
        cases failed
    · rintro rfl
      rfl
  · intro others rows skipped
    rw [← rows_ofNotes, ← rows_ofNotes] at rows
    rw [← skipped_ofNotes, ← skipped_ofNotes] at skipped
    rw [Logbook.ext rows skipped]

/-- One point entered twice under one number, an incomplete one between them, and an earlier one last. -/
def repeatedNotes : List LogbookNote :=
  [ .enter 4 { latitude := some 9.0 }, .skip 2 8, .enter 4 { date := some 100 },
    .enter 4 { latitude := some 9.0 }, .enter 0 { latitude := some 1.0, date := some (-5) } ]

/-- Both entries are kept, and all four points count. -/
theorem toTrack_closes_repeated : ∃ track, (ofNotes repeatedNotes).toTrack = .ok track ∧
    track.collected = 4 ∧ track.skipped = [⟨2, 8⟩] ∧
    (track.rows.filter fun row => row.point.date = none) =
      [⟨4, { latitude := some 9.0 }⟩, ⟨4, { latitude := some 9.0 }⟩] := by
  obtain ⟨track, closed, law⟩ := (toTrack_closes repeatedNotes).2.2.2.1 (List.cons_ne_nil _ _)
  exact ⟨track, closed, law.collected, law.skipped, law.tied none⟩

end Logbook

end SatelliteTrack
