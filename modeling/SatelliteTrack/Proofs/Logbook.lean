import SatelliteTrack.Track.Logbook

/-!
# What a logbook makes of its notes

The rows of a logbook are the points among its notes and its skips are the other notes, each in their
order (`rows_ofNotes`, `skipped_ofNotes`); every note is one or the other (`length_row?_skip?`). Closing
it sorts the rows by a stable sort: what holds between any row and a later one of the logbook still
holds between rows of equal dates in the track (`pairwise_mergeSort_stable`).
-/

namespace SatelliteTrack

namespace LogbookNote

/-- The row of a note about a point. -/
def row? : LogbookNote → Option TrackRow
  | .enter index point => some { index, point }
  | .skip _ _ => none

/-- The skip of a note about a skipped message. -/
def skip? : LogbookNote → Option Skip
  | .enter _ _ => none
  | .skip index size => some { message := index, size }

/-- Every note is about a point or about a skipped message. -/
theorem length_row?_skip? (notes : List LogbookNote) :
    (notes.filterMap row?).length + (notes.filterMap skip?).length = notes.length := by
  induction notes with
  | nil => rfl
  | cons note notes ih =>
    cases note <;> simp only [List.filterMap_cons, row?, skip?, List.length_cons] <;> omega

end LogbookNote

namespace Logbook

theorem rows_foldl_note (notes : List LogbookNote) (book : Logbook) :
    (notes.foldl note book).rows = book.rows ++ notes.filterMap LogbookNote.row? := by
  induction notes generalizing book with
  | nil => exact (List.append_nil _).symm
  | cons n notes ih =>
    rw [List.foldl_cons, ih]
    cases n <;> simp [note, enter, skip, LogbookNote.row?, List.filterMap_cons]

theorem skipped_foldl_note (notes : List LogbookNote) (book : Logbook) :
    (notes.foldl note book).skipped = book.skipped ++ notes.filterMap LogbookNote.skip? := by
  induction notes generalizing book with
  | nil => exact (List.append_nil _).symm
  | cons n notes ih =>
    rw [List.foldl_cons, ih]
    cases n <;> simp [note, enter, skip, LogbookNote.skip?, List.filterMap_cons]

theorem rows_ofNotes (notes : List LogbookNote) :
    (ofNotes notes).rows = notes.filterMap LogbookNote.row? := rows_foldl_note notes empty

theorem skipped_ofNotes (notes : List LogbookNote) :
    (ofNotes notes).skipped = notes.filterMap LogbookNote.skip? := skipped_foldl_note notes empty

theorem isEmpty_ofNotes (notes : List LogbookNote) : (ofNotes notes).isEmpty = notes.isEmpty := by
  unfold isEmpty
  rw [rows_ofNotes, skipped_ofNotes]
  cases notes with
  | nil => rfl
  | cons n notes => cases n <;> simp [LogbookNote.row?, LogbookNote.skip?, List.filterMap_cons]

/-- **Closing a logbook with notes gives a track.** -/
theorem toTrack_ofNotes {notes : List LogbookNote} (h : notes ≠ []) :
    (ofNotes notes).toTrack = .ok {
      rows := ((notes.filterMap LogbookNote.row?).mergeSort TrackRow.le).filter fun row =>
        row.point.isComplete
      collected := (notes.filterMap LogbookNote.row?).length
      skipped := notes.filterMap LogbookNote.skip? } := by
  have filled : (ofNotes notes).isEmpty = false := by
    rw [isEmpty_ofNotes]
    exact List.isEmpty_eq_false_iff.mpr h
  unfold toTrack size
  rw [filled, rows_ofNotes, skipped_ofNotes]
  rfl

end Logbook

/-! ## The order of the rows -/

theorem dateLe_total (a b : Option Int) : dateLe a b || dateLe b a := by
  cases a <;> cases b <;> simp [dateLe, Int.le_total]

theorem dateLe_trans (a b c : Option Int) (hab : dateLe a b) (hbc : dateLe b c) : dateLe a c := by
  cases a <;> cases b <;> cases c <;> simp_all [dateLe]
  exact Int.le_trans hab hbc

theorem TrackRow.le_total (a b : TrackRow) : a.le b || b.le a := dateLe_total a.point.date b.point.date

theorem TrackRow.le_trans (a b c : TrackRow) (hab : a.le b) (hbc : b.le c) : a.le c :=
  dateLe_trans a.point.date b.point.date c.point.date hab hbc

/-- **A stable sort** keeps, between elements that the order does not tell apart, whatever held between
each element and the later ones. -/
theorem pairwise_mergeSort_stable {α : Type} {le : α → α → Bool} {R : α → α → Prop} {l : List α}
    (trans : ∀ a b c, le a b → le b c → le a c) (total : ∀ a b, le a b || le b a)
    (h : l.Pairwise R) : (l.mergeSort le).Pairwise fun a b => le a b ∧ (le b a → R a b) := by
  -- the sort is that of the elements paired with their places, where ties go by the place
  rw [← List.mergeSort_zipIdx, List.pairwise_map]
  have perm := List.mergeSort_perm l.zipIdx (List.zipIdxLE le)
  have sorted := List.pairwise_mergeSort (List.zipIdxLE_trans trans) (List.zipIdxLE_total total) l.zipIdx
  have apart : (l.zipIdx.mergeSort (List.zipIdxLE le)).Pairwise fun a b => a.2 ≠ b.2 := by
    rw [← List.pairwise_map (f := Prod.snd) (R := fun i j => i ≠ j)]
    refine (perm.map Prod.snd).nodup_iff.mpr ?_
    rw [List.zipIdx_map_snd]
    exact List.nodup_range'
  refine (sorted.and apart).imp_of_mem ?_
  intro a b ha hb ⟨ordered, different⟩
  have ha := List.mem_zipIdx_iff_getElem?.mp (perm.mem_iff.mp ha)
  have hb := List.mem_zipIdx_iff_getElem?.mp (perm.mem_iff.mp hb)
  unfold List.zipIdxLE at ordered
  split at ordered
  · next forward =>
    refine ⟨forward, fun back => ?_⟩
    rw [if_pos back, decide_eq_true_eq] at ordered
    obtain ⟨_, ha⟩ := List.getElem?_eq_some_iff.mp ha
    obtain ⟨_, hb⟩ := List.getElem?_eq_some_iff.mp hb
    rw [← ha, ← hb]
    exact List.pairwise_iff_getElem.mp h _ _ _ _ (Nat.lt_of_le_of_ne ordered different)
  · exact absurd ordered Bool.false_ne_true

end SatelliteTrack
