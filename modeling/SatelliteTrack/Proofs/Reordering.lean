import Mathlib.Logic.Equiv.Basic
import SatelliteTrack.Proofs.Gathering
import SatelliteTrack.Proofs.Renumbering

/-!
# The order of the messages

Without carrying, and with a position service that answers by the envelope alone, a message gives the
same point wherever it stands in the list. `run_reordering` says so of whole runs, by comparing a run
with a run over the same messages in another order: both make a track or none does, and the rows and the
skips of the one are those of the other under the numbers that the messages have got (`Reordering`).

The order of the messages is seen in one place only, the order of rows with equal dates. So where no two
rows have one date, the rows stand in the same order too.

What is not said is that both runs fail alike. The first message that fails ends a run, and which one is
the first depends on the order.
-/

namespace SatelliteTrack

variable {σ : Type}

/-- The service answers by the envelope alone, in whatever state it is. -/
def Service.AnswersBy (service : Service σ) (answerTo : String → Answer) : Prop :=
  ∀ call state, (service call state).1 = answerTo call.envelope

/-! ## Lists in another order -/

/-- How the messages of a list stand in a list of another order. -/
structure Reordering (messages reordered : List Message) where
  /-- Where a message goes; places past the end go past the end. -/
  place : Equiv.Perm Nat
  getElem?_place : ∀ i, reordered[place i]? = messages[i]?

namespace Reordering

/-- The first place stays, the others are moved behind it. -/
def shift (place : Equiv.Perm Nat) : Equiv.Perm Nat where
  toFun
    | 0 => 0
    | i + 1 => place i + 1
  invFun
    | 0 => 0
    | i + 1 => place.symm i + 1
  left_inv i := by cases i <;> simp
  right_inv i := by cases i <;> simp

/-- Any other order of a list is reached by moving its messages. -/
theorem nonempty_of_perm {messages reordered : List Message} (h : messages.Perm reordered) :
    Nonempty (Reordering messages reordered) := by
  induction h with
  | nil => exact ⟨Equiv.refl Nat, fun i => rfl⟩
  | cons m _ ih =>
    obtain ⟨place, moved⟩ := ih
    refine ⟨shift place, ?_⟩
    intro i
    cases i with
    | zero => rfl
    | succ i => exact moved i
  | swap m n messages =>
    refine ⟨Equiv.swap 0 1, ?_⟩
    intro i
    match i with
    | 0 => rfl
    | 1 => rfl
    | i + 2 =>
      rw [Equiv.swap_apply_of_ne_of_ne (by omega) (by omega)]
      rfl
  | trans _ _ ih ih' =>
    obtain ⟨place, moved⟩ := ih
    obtain ⟨place', moved'⟩ := ih'
    exact ⟨place.trans place', fun i => (moved' (place i)).trans (moved i)⟩

end Reordering

namespace Extractor

/-! ## What messages give in any order -/

section

variable {x : Extractor} {service : Service σ} {answerTo : String → Answer}
  {messages reordered : List Message} {cs ds : List Contribution}

/-- A contribution depends on its message alone. -/
theorem Gathers.map_getElem? {state : σ} (memoryless : service.AnswersBy answerTo)
    (h : x.Gathers service state messages cs) (i : Nat) :
    cs[i]?.map Except.ok = messages[i]?.map fun m => m.contribution (answerTo m.envelopeText) := by
  cases place : messages[i]? with
  | none =>
    have past : cs.length ≤ i := by
      rw [h.length_eq]
      exact List.getElem?_eq_none_iff.mp place
    rw [List.getElem?_eq_none past]
    rfl
  | some m =>
    obtain ⟨c, there, given⟩ := h.getElem? place
    rw [answer, memoryless] at given
    rw [there, Option.map_some, Option.map_some]
    exact congrArg some given.symm

/-- All messages give something when each does. -/
theorem exists_gathers_iff (memoryless : service.AnswersBy answerTo) (state : σ) :
    (∃ cs, x.Gathers service state messages cs) ↔
      ∀ m ∈ messages, ∃ c, m.contribution (answerTo m.envelopeText) = .ok c := by
  induction messages generalizing state with
  | nil => exact ⟨fun _ m mem => absurd mem List.not_mem_nil, fun _ => ⟨[], .nil⟩⟩
  | cons m ms ih =>
    rw [List.forall_mem_cons, ← ih (service.after state (x.callsOf m))]
    constructor
    · rintro ⟨_, gathers⟩
      cases gathers with
      | cons head tail =>
        rw [memoryless] at head
        exact ⟨⟨_, head⟩, _, tail⟩
    · rintro ⟨⟨c, given⟩, cs, tail⟩
      refine ⟨c :: cs, .cons ?_ tail⟩
      rw [memoryless]
      exact given

/-- The contributions go where their messages go. -/
theorem Gathers.getElem?_reordering {state state' : σ} (memoryless : service.AnswersBy answerTo)
    (h : x.Gathers service state messages cs) (h' : x.Gathers service state' reordered ds)
    (r : Reordering messages reordered) (i : Nat) : ds[r.place i]? = cs[i]? := by
  have ok_injective : Function.Injective (Except.ok : Contribution → Except Failure Contribution) := by
    intro a b same
    cases same
    rfl
  refine Option.map_injective ok_injective ?_
  rw [h'.map_getElem? memoryless, h.map_getElem? memoryless, r.getElem?_place]

/-- Without carrying nothing is laid over another point, wherever it stands. -/
theorem Gathers.renumbers {state state' : σ} (memoryless : service.AnswersBy answerTo)
    (carry : x.carryForward = false) (h : x.Gathers service state messages cs)
    (h' : x.Gathers service state' reordered ds) (r : Reordering messages reordered) :
    x.Renumbers r.place cs ds where
  injective := r.place.injective
  points := by
    intro j own
    have moved := h.getElem?_reordering memoryless h' r
    constructor
    · intro there
      have back := moved (r.place.symm j)
      rw [Equiv.apply_symm_apply] at back
      exact ⟨r.place.symm j, Equiv.apply_symm_apply _ j, back.symm.trans there⟩
    · rintro ⟨i, rfl, here⟩
      exact (moved i).trans here
  carried := by
    intro i
    rw [carriedAfter, carriedAfter, foldl_carried_of_off carry, foldl_carried_of_off carry]

theorem Gathers.skipped_perm {state state' : σ} (memoryless : service.AnswersBy answerTo)
    (h : x.Gathers service state messages cs) (h' : x.Gathers service state' reordered ds)
    (r : Reordering messages reordered) :
    (x.track ds).skipped.Perm ((x.track cs).skipped.map (Skip.renumber r.place)) := by
  have moved := h.getElem?_reordering memoryless h' r
  have distinct := (x.pairwise_skipped cs).nodup.map (Skip.renumber_injective r.place.injective)
  refine (List.perm_ext_iff_of_nodup (x.pairwise_skipped ds).nodup distinct).mpr ?_
  intro skip
  rw [x.mem_skipped, List.mem_map]
  constructor
  · intro there
    have back := moved (r.place.symm skip.message)
    rw [Equiv.apply_symm_apply, there] at back
    refine ⟨⟨r.place.symm skip.message, skip.size⟩, (x.mem_skipped cs _).mpr back.symm, ?_⟩
    rw [Skip.renumber, Equiv.apply_symm_apply]
  · rintro ⟨old, mem, rfl⟩
    exact (moved old.message).trans ((x.mem_skipped cs old).mp mem)

end

end Extractor

/-! ## Both runs -/

/-- The tracks of messages in one order and in another one. -/
structure Reordering.Moves {messages reordered : List Message} (r : Reordering messages reordered)
    (track moved : Track) : Prop where
  collected : moved.collected = track.collected
  skipped : moved.skipped.Perm (track.skipped.map (Skip.renumber r.place))
  rows : moved.rows.Perm (track.rows.map (TrackRow.renumber r.place))
  /-- Where all dates differ, one of them unset perhaps, the rows stand in the same order. -/
  order : (track.rows.Pairwise fun a b => a.point.date ≠ b.point.date) →
    moved.rows = track.rows.map (TrackRow.renumber r.place)

/-- **The order of the messages does not matter**, without carrying and with a service that answers by the
envelope alone. A run makes a track when the run over the messages in another order does, in whatever
states the service starts; and the tracks are the same under the numbers that the messages have got,
however they are said to have moved. -/
theorem Extractor.run_reordering (x : Extractor) (carry : x.carryForward = false) (service : Service σ)
    {answerTo : String → Answer} (memoryless : service.AnswersBy answerTo) (state state' : σ)
    {messages reordered : List Message} (perm : messages.Perm reordered) (nonempty : messages ≠ [])
    {run other : Run σ} (plain : x.RunsOver service state messages run)
    (moved : x.RunsOver service state' reordered other) :
    ((∃ track, run.result = .ok track) ↔ ∃ track, other.result = .ok track) ∧
      Nonempty (Reordering messages reordered) ∧
      ∀ track otherTrack, run.result = .ok track → other.result = .ok otherTrack →
        ∀ r : Reordering messages reordered, r.Moves track otherTrack := by
  have nonempty' : reordered ≠ [] := by
    rintro rfl
    exact nonempty perm.eq_nil
  refine ⟨?_, Reordering.nonempty_of_perm perm, ?_⟩
  · rw [plain.ends.exists_ok_iff nonempty, moved.ends.exists_ok_iff nonempty',
      exists_gathers_iff memoryless, exists_gathers_iff memoryless]
    simp only [perm.mem_iff]
  · intro track otherTrack made made' r
    obtain ⟨cs, gathers, rfl⟩ := (plain.ends.result_eq_ok_iff nonempty track).mp made
    obtain ⟨ds, gathers', rfl⟩ := (moved.ends.result_eq_ok_iff nonempty' otherTrack).mp made'
    have renumbers := gathers.renumbers memoryless carry gathers' r
    refine {
      collected := renumbers.collected_eq
      skipped := gathers.skipped_perm memoryless gathers' r
      rows := renumbers.track_rows_perm
      order := ?_ }
    intro different
    refine renumbers.track_rows_eq (different.imp ?_)
    intro a b differ same
    exact absurd same differ

/-- A service that has one position for all measurements. -/
def constantService : Service Unit := fun _ state => (samplePosition, state)

/-- An extractor that carries nothing on. -/
def plainExtractor : Extractor := { sampleExtractor with carryForward := false }

/-- From the last one to the first, the mixed messages give the same three points in the same order:
their dates differ, that of the raw measurements being unset. -/
theorem run_reordering_mixed :
    ∃ track other, (plainExtractor.runOn constantService () mixedMessages).result = .ok track ∧
      (plainExtractor.runOn constantService () mixedMessages.reverse).result = .ok other ∧
      track.rows.length = 3 ∧ other.rows.map TrackRow.point = track.rows.map TrackRow.point := by
  obtain ⟨track, done, count, different⟩ : ∃ track,
      (plainExtractor.runOn constantService () mixedMessages).result = .ok track ∧
        track.rows.length = 3 ∧ track.rows.Pairwise fun a b => a.point.date ≠ b.point.date := by
    refine ⟨_, rfl, ?_, ?_⟩
    · exact ((List.mergeSort_perm _ _).filter _).length_eq.trans rfl
    · refine List.Pairwise.filter _ (((List.mergeSort_perm _ _).pairwise_iff ?_).mpr ?_)
      · intro a b differ
        exact differ.symm
      · decide
  have memoryless : constantService.AnswersBy fun _ => samplePosition := fun _ _ => rfl
  have perm : mixedMessages.Perm mixedMessages.reverse := (List.reverse_perm _).symm
  obtain ⟨both, ⟨r⟩, law⟩ := plainExtractor.run_reordering rfl constantService memoryless () () perm
    (List.cons_ne_nil _ _) (plainExtractor.runsOver_runOn constantService () mixedMessages)
    (plainExtractor.runsOver_runOn constantService () mixedMessages.reverse)
  obtain ⟨other, made⟩ := both.mp ⟨track, done⟩
  refine ⟨track, other, done, made, count, ?_⟩
  rw [(law track other done made r).order different, List.map_map]
  rfl

end SatelliteTrack
