import SatelliteTrack.Proofs.Gathering
import SatelliteTrack.Proofs.Numbering

/-!
# Later messages change nothing earlier

A run over a longer list of messages begins as the run over the beginning of the list does. It asks the
same questions first, so it fails where the shorter run fails. If it makes a track, the shorter run makes
the part of that track which is about its own messages (`Track.Begins`): the rows stand there in the same
relative order, since sorting puts the later rows between the earlier ones and moves none of them past
another.

The rows are compared by which rows they are (`mem_rows_append`), and their order follows from
`TrackRow.eq_of_pairwise_before`: rows in the order of a track can stand in one order only.
-/

namespace SatelliteTrack

variable {σ : Type}

/-- A track is the part of a longer one that is about the first messages, so many of them. -/
structure Track.Begins (track longer : Track) (count : Nat) : Prop where
  /-- The rows of the first messages, in the order in which they stand among all rows. -/
  rows : track.rows = longer.rows.filter fun row => row.index < count
  skipped : track.skipped = longer.skipped.filter fun skip => skip.message < count
  /-- The skips of the first messages stand before all others. -/
  first : track.skipped <+: longer.skipped

namespace Extractor

/-! ## The track of more contributions -/

theorem notes_append (x : Extractor) (index : Nat) (previous : TrackPoint)
    (first second : List Contribution) :
    x.notes index previous (first ++ second) = x.notes index previous first ++
      x.notes (index + first.length) (first.foldl x.carried previous) second := by
  induction first generalizing index previous with
  | nil => rfl
  | cons c cs ih =>
    rw [List.cons_append, notes, notes, ih, List.cons_append, List.length_cons, List.foldl_cons,
      Nat.add_assoc, Nat.add_comm 1]

/-- The rows of the first contributions are those that have a number below theirs. -/
theorem mem_rows_append (x : Extractor) (first second : List Contribution) (row : TrackRow) :
    row ∈ x.rows first ↔ row ∈ x.rows (first ++ second) ∧ row.index < first.length := by
  rw [mem_rows, mem_rows]
  constructor
  · rintro ⟨own, place, laid⟩
    have inside := (List.getElem?_eq_some_iff.mp place).1
    refine ⟨⟨own, ?_, ?_⟩, inside⟩
    · rw [List.getElem?_append_left inside, place]
    · rw [List.take_append_of_le_length (Nat.le_of_lt inside), laid]
  · rintro ⟨⟨own, place, laid⟩, inside⟩
    rw [List.getElem?_append_left inside] at place
    rw [List.take_append_of_le_length (Nat.le_of_lt inside)] at laid
    exact ⟨own, place, laid⟩

/-- The skips of the first contributions are those that have a number below theirs. -/
theorem mem_skipped_append (x : Extractor) (first second : List Contribution) (skip : Skip) :
    skip ∈ (x.track first).skipped ↔
      skip ∈ (x.track (first ++ second)).skipped ∧ skip.message < first.length := by
  rw [mem_skipped, mem_skipped]
  constructor
  · intro place
    have inside := (List.getElem?_eq_some_iff.mp place).1
    rw [List.getElem?_append_left inside]
    exact ⟨place, inside⟩
  · rintro ⟨place, inside⟩
    rwa [List.getElem?_append_left inside] at place

theorem skipped_isPrefix_append (x : Extractor) (first second : List Contribution) :
    (x.track first).skipped <+: (x.track (first ++ second)).skipped := by
  simp only [track, notes_append, List.filterMap_append]
  exact List.prefix_append _ _

/-- **The track of more contributions** begins with that of the first ones. -/
theorem track_begins (x : Extractor) (first second : List Contribution) :
    (x.track first).Begins (x.track (first ++ second)) first.length where
  rows := by
    refine TrackRow.eq_of_pairwise_before ((x.pairwise_track_rows _).filter _)
      (x.pairwise_track_rows _) ?_
    intro row
    rw [List.mem_filter, decide_eq_true_eq, mem_track_rows, mem_track_rows, x.mem_rows_append first second]
    exact and_right_comm
  skipped := by
    refine (x.pairwise_skipped _).eq_of_mem_iff ((x.pairwise_skipped _).filter _) ?_
    intro skip
    rw [List.mem_filter, decide_eq_true_eq, x.mem_skipped_append first second]
  first := x.skipped_isPrefix_append first second

/-! ## The run over more messages -/

/-- **Later messages change nothing earlier.** A run over a longer list makes the calls of the run over
its beginning first. If it makes a track, the shorter run makes the beginning of it; if the shorter run
fails, the longer one fails with the same failure and makes no further call. -/
theorem run_append_begins (x : Extractor) (service : Service σ) (state : σ)
    {first second : List Message} {run longer : Run σ} (nonempty : first ≠ [])
    (short : x.RunsOver service state first run)
    (long : x.RunsOver service state (first ++ second) longer) :
    run.calls <+: longer.calls ∧
      (∀ track, longer.result = .ok track →
        ∃ beginning, run.result = .ok beginning ∧ beginning.Begins track first.length) ∧
      ∀ failure, run.result = .error failure →
        longer.result = .error failure ∧ longer.calls = run.calls := by
  obtain ⟨result, calls⟩ := short.ends.eq_gather nonempty
  obtain ⟨result', calls'⟩ := long.ends.eq_gather (List.append_ne_nil_of_left_ne_nil nonempty second)
  rw [gather_append] at result' calls'
  rw [result, calls, result', calls']
  -- the first part decides: after its failure the second part is not asked for
  cases given : (x.gather service state first).result with
  | error failure =>
    rw [Gathering.append_of_error given, given]
    refine ⟨List.prefix_rfl, ?_, ?_⟩
    · intro track done
      cases done
    · intro failure' failed
      exact ⟨failed, rfl⟩
  | ok cs =>
    rw [Gathering.append_of_ok given]
    refine ⟨List.prefix_append _ _, ?_, ?_⟩
    · intro track done
      cases later : (x.gather service (service.after state _) second).result with
      | error failure =>
        rw [later] at done
        cases done
      | ok ds =>
        rw [later] at done
        cases done
        rw [← (gathers_of_gather given).length_eq]
        exact ⟨x.track cs, rfl, x.track_begins cs ds⟩
    · intro failure failed
      cases failed

end Extractor

/-- The first two mixed messages make the beginning of the track of all four: the row of the fix and the
skip of the message after it. -/
theorem run_append_begins_mixed :
    ∃ track beginning, (mixedRun sampleExtractor).result = .ok track ∧
      (sampleExtractor.runOn Service.ofList [samplePosition] (mixedMessages.take 2)).result =
        .ok beginning ∧
      beginning.skipped = [⟨1, 3⟩] ∧ ∃ row ∈ beginning.rows, row.index = 0 := by
  obtain ⟨track, done, skips, row, mem, index⟩ : ∃ track, (mixedRun sampleExtractor).result = .ok track ∧
      track.skipped = [⟨1, 3⟩] ∧ ∃ row ∈ track.rows, row.index = 0 := by
    refine ⟨_, rfl, rfl, ?_⟩
    simp only [List.mem_filter, List.mem_mergeSort]
    exact ⟨_, ⟨List.mem_of_getElem? (i := 0) rfl, rfl⟩, rfl⟩
  have short := sampleExtractor.runsOver_runOn Service.ofList [samplePosition] (mixedMessages.take 2)
  have long : sampleExtractor.RunsOver Service.ofList [samplePosition]
      (mixedMessages.take 2 ++ mixedMessages.drop 2) (mixedRun sampleExtractor) :=
    .of_fetched Feed.ofList _ [(.ok mixedMessages, [])] rfl
  have nonempty : mixedMessages.take 2 ≠ [] := List.cons_ne_nil _ _
  obtain ⟨-, law, -⟩ := Extractor.run_append_begins _ _ _ nonempty short long
  obtain ⟨beginning, begun, begins⟩ := law track done
  refine ⟨track, beginning, done, begun, ?_, row, ?_, index⟩
  · rw [begins.skipped, skips]
    rfl
  · rw [begins.rows, List.mem_filter, index]
    exact ⟨mem, rfl⟩

end SatelliteTrack
