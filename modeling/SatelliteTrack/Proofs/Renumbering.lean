import Mathlib.Data.List.Nodup
import SatelliteTrack.Proofs.Numbering

/-!
# Contributions at other places

The number of a message has no part in what is made of the message. When contributions stand at other
places of a list, and each is laid over the same point as before (`Extractor.Renumbers`), the rows of the
track are the old rows under their new numbers (`track_rows_perm`). They may stand in another order then,
since rows of one date stand in the order of their messages. They keep their order when the new numbers
do not turn such rows round (`track_rows_eq`).
-/

namespace SatelliteTrack

/-- A row under the number that its message has got. -/
def TrackRow.renumber (place : Nat → Nat) (row : TrackRow) : TrackRow :=
  { row with index := place row.index }

/-- A skip under the number that its message has got. -/
def Skip.renumber (place : Nat → Nat) (skip : Skip) : Skip :=
  { skip with message := place skip.message }

theorem TrackRow.renumber_injective {place : Nat → Nat} (h : Function.Injective place) :
    Function.Injective (TrackRow.renumber place) := by
  rintro ⟨i, p⟩ ⟨j, q⟩ same
  obtain ⟨numbers, points⟩ := TrackRow.mk.inj same
  exact congrArg₂ TrackRow.mk (h numbers) points

theorem Skip.renumber_injective {place : Nat → Nat} (h : Function.Injective place) :
    Function.Injective (Skip.renumber place) := by
  rintro ⟨i, m⟩ ⟨j, n⟩ same
  obtain ⟨numbers, sizes⟩ := Skip.mk.inj same
  exact congrArg₂ Skip.mk (h numbers) sizes

/-- Rows keep their order under new numbers that do not turn rows of one date round. -/
theorem TrackRow.Before.renumber {place : Nat → Nat} {a b : TrackRow} (h : a.Before b)
    (keeps : a.point.date = b.point.date → a.index < b.index → place a.index < place b.index) :
    (a.renumber place).Before (b.renumber place) := by
  cases h with
  | earlier first second lt => exact .earlier first second lt
  | undated first second => exact .undated first second
  | tied same lt => exact .tied same (keeps same lt)

namespace Extractor

/-- The points among contributions stand at other places, and nothing else is carried to them. -/
structure Renumbers (x : Extractor) (place : Nat → Nat) (cs ds : List Contribution) : Prop where
  injective : Function.Injective place
  points : ∀ j own, ds[j]? = some (.point own) ↔ ∃ i, place i = j ∧ cs[i]? = some (.point own)
  carried : ∀ i, x.carriedAfter (ds.take (place i)) = x.carriedAfter (cs.take i)

section

variable {x : Extractor} {place : Nat → Nat} {cs ds : List Contribution}

theorem Renumbers.mem_rows (h : x.Renumbers place cs ds) (row : TrackRow) :
    row ∈ x.rows ds ↔ ∃ old ∈ x.rows cs, old.renumber place = row := by
  rw [x.mem_rows]
  constructor
  · rintro ⟨own, there, laid⟩
    obtain ⟨i, moved, here⟩ := (h.points row.index own).mp there
    rw [← moved, h.carried] at laid
    refine ⟨⟨i, row.point⟩, (x.mem_rows cs _).mpr ⟨own, here, laid⟩, ?_⟩
    rw [TrackRow.renumber, moved]
  · rintro ⟨old, mem, rfl⟩
    obtain ⟨own, here, laid⟩ := (x.mem_rows cs old).mp mem
    refine ⟨own, (h.points _ own).mpr ⟨old.index, rfl, here⟩, ?_⟩
    rw [TrackRow.renumber, h.carried]
    exact laid

theorem nodup_rows (x : Extractor) (cs : List Contribution) : (x.rows cs).Nodup := by
  refine (x.pairwise_rows cs).imp ?_
  rintro a _ lt rfl
  exact Nat.lt_irrefl _ lt

theorem Renumbers.rows_perm (h : x.Renumbers place cs ds) :
    (x.rows ds).Perm ((x.rows cs).map (TrackRow.renumber place)) := by
  have distinct := (x.nodup_rows cs).map (TrackRow.renumber_injective h.injective)
  refine (List.perm_ext_iff_of_nodup (x.nodup_rows ds) distinct).mpr ?_
  intro row
  rw [h.mem_rows, List.mem_map]

/-- **The rows of a track** are the old ones under their new numbers. -/
theorem Renumbers.track_rows_perm (h : x.Renumbers place cs ds) :
    (x.track ds).rows.Perm ((x.track cs).rows.map (TrackRow.renumber place)) := by
  have sorted : ∀ es : List Contribution,
      (x.track es).rows.Perm ((x.rows es).filter fun row => row.point.isComplete) := by
    intro es
    exact ((x.rows es).mergeSort_perm TrackRow.le).filter _
  have complete : ((x.rows cs).map (TrackRow.renumber place)).filter (fun row => row.point.isComplete) =
      ((x.rows cs).filter fun row => row.point.isComplete).map (TrackRow.renumber place) :=
    List.filter_map
  have renumbered := h.rows_perm.filter fun row => row.point.isComplete
  rw [complete] at renumbered
  exact (sorted ds).trans (renumbered.trans ((sorted cs).symm.map _))

theorem Renumbers.collected_eq (h : x.Renumbers place cs ds) :
    (x.track ds).collected = (x.track cs).collected := by
  show (x.rows ds).length = (x.rows cs).length
  rw [h.rows_perm.length_eq, List.length_map]

/-- **The order of the rows** stays when the new numbers do not turn rows of one date round. -/
theorem Renumbers.track_rows_eq (h : x.Renumbers place cs ds)
    (keeps : (x.track cs).rows.Pairwise fun a b =>
      a.point.date = b.point.date → a.index < b.index → place a.index < place b.index) :
    (x.track ds).rows = (x.track cs).rows.map (TrackRow.renumber place) := by
  have sorted : ((x.track cs).rows.map (TrackRow.renumber place)).Pairwise TrackRow.Before := by
    rw [List.pairwise_map]
    refine ((x.pairwise_track_rows cs).and keeps).imp ?_
    intro a b ⟨before, keep⟩
    exact before.renumber keep
  exact TrackRow.eq_of_pairwise_before sorted (x.pairwise_track_rows ds) fun row =>
    h.track_rows_perm.mem_iff

end

end Extractor

end SatelliteTrack
