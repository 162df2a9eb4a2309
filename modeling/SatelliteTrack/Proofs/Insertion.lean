import Mathlib.Data.Nat.Basic
import Mathlib.Data.Set.Operations
import Mathlib.Order.Monotone.Basic
import SatelliteTrack.Proofs.Gathering
import SatelliteTrack.Proofs.Renumbering

/-!
# Messages without a slot leave no trace

A message without a slot is skipped, and that is all that becomes of it: no field of the message before
it is taken for its own, no call is made for it, and nothing that comes later is changed by it. This is
said by comparing two runs, one over some messages and one over the same messages with others put in
(`Insertion`). `Insertion.place` is where the messages go, and `run_insertion` says that the second run
is the first one under these numbers, with the skips of the inserted messages added.

The contributions go to the same places as their messages (`Insertion.spread`), between them stand those
of the inserted messages, which hold nothing. What is carried passes over them
(`Insertion.foldl_carried_take_spread`).
-/

namespace SatelliteTrack

variable {σ : Type}

/-- A way of putting messages without a slot into a list. -/
inductive Insertion : List Message → List Message → Type
  | nil : Insertion [] []
  | keep {messages enlarged : List Message} (m : Message) (rest : Insertion messages enlarged) :
      Insertion (m :: messages) (m :: enlarged)
  | insert {messages enlarged : List Message} (m : Message) (other : m.payload.length ∉ [6, 20, 21])
      (rest : Insertion messages enlarged) : Insertion messages (m :: enlarged)

namespace Insertion

variable {messages enlarged : List Message}

/-- Where a message of the first list stands in the second one. -/
def place {messages enlarged : List Message} : Insertion messages enlarged → Nat → Nat
  | .nil, i => i
  | .keep _ _, 0 => 0
  | .keep _ rest, i + 1 => rest.place i + 1
  | .insert _ _ rest, i => rest.place i + 1

/-- The contributions of the second list, given those of the first one. -/
def spread {messages enlarged : List Message} :
    Insertion messages enlarged → List Contribution → List Contribution
  | .nil, cs => cs
  | .keep _ _, [] => []
  | .keep _ rest, c :: cs => c :: rest.spread cs
  | .insert m _ rest, cs => .nothing m.payload.length :: rest.spread cs

/-! ## Where the messages go -/

theorem place_strictMono (insertion : Insertion messages enlarged) : StrictMono insertion.place := by
  induction insertion with
  | nil => exact fun i j lt => lt
  | keep m rest ih =>
    intro i j lt
    cases j with
    | zero => exact absurd lt (Nat.not_lt_zero i)
    | succ j =>
      cases i with
      | zero => exact Nat.succ_pos _
      | succ i => exact Nat.succ_lt_succ (ih (Nat.lt_of_succ_lt_succ lt))
  | insert m other rest ih =>
    intro i j lt
    exact Nat.succ_lt_succ (ih lt)

theorem getElem?_place (insertion : Insertion messages enlarged) (i : Nat) :
    enlarged[insertion.place i]? = messages[i]? := by
  induction insertion generalizing i with
  | nil => rfl
  | keep m rest ih =>
    cases i with
    | zero => rfl
    | succ i => exact ih i
  | insert m other rest ih => exact ih i

/-- The messages at other places are the ones that were put in. -/
theorem other_of_not_mem_range (insertion : Insertion messages enlarged) {j : Nat} {m : Message}
    (there : enlarged[j]? = some m) (new : j ∉ Set.range insertion.place) :
    m.payload.length ∉ [6, 20, 21] := by
  induction insertion generalizing j with
  | nil => cases there
  | keep n rest ih =>
    cases j with
    | zero => exact absurd ⟨0, rfl⟩ new
    | succ j =>
      refine ih there ?_
      rintro ⟨i, rfl⟩
      exact new ⟨i + 1, rfl⟩
  | insert n other rest ih =>
    cases j with
    | zero =>
      cases there
      exact other
    | succ j =>
      refine ih there ?_
      rintro ⟨i, rfl⟩
      exact new ⟨i, rfl⟩

theorem ne_nil (insertion : Insertion messages enlarged) (h : messages ≠ []) : enlarged ≠ [] := by
  cases insertion with
  | nil => exact h
  | keep => exact List.cons_ne_nil _ _
  | insert => exact List.cons_ne_nil _ _

/-! ## Where the contributions go -/

/-- The points go where their messages go. -/
theorem getElem?_spread (insertion : Insertion messages enlarged) (cs : List Contribution) (j : Nat)
    (own : TrackPoint) : (insertion.spread cs)[j]? = some (.point own) ↔
      ∃ i, insertion.place i = j ∧ cs[i]? = some (.point own) := by
  induction insertion generalizing cs j with
  | nil => exact ⟨fun here => ⟨j, rfl, here⟩, fun ⟨_, rfl, here⟩ => here⟩
  | keep m rest ih =>
    cases cs with
    | nil => simp [spread]
    | cons c cs =>
      cases j with
      | zero =>
        constructor
        · intro here
          exact ⟨0, rfl, here⟩
        · rintro ⟨i, moved, here⟩
          cases i with
          | zero => exact here
          | succ i => cases moved
      | succ j =>
        -- behind the head that was kept, both places are one further on
        refine (ih cs j).trans ?_
        constructor
        · rintro ⟨i, rfl, here⟩
          exact ⟨i + 1, rfl, here⟩
        · rintro ⟨i, moved, here⟩
          cases i with
          | zero => cases moved
          | succ i => exact ⟨i, Nat.succ.inj moved, here⟩
  | insert m other rest ih =>
    cases j with
    | zero =>
      constructor
      · intro here
        cases here
      · rintro ⟨i, moved, -⟩
        cases moved
    | succ j =>
      -- behind a head that was put in, only the new place is
      refine (ih cs j).trans ?_
      constructor
      · rintro ⟨i, rfl, here⟩
        exact ⟨i, rfl, here⟩
      · rintro ⟨i, moved, here⟩
        exact ⟨i, Nat.succ.inj moved, here⟩

/-- What is carried to a message passes over the messages that were put in before it. -/
theorem foldl_carried_take_spread (x : Extractor) (insertion : Insertion messages enlarged)
    (cs : List Contribution) (previous : TrackPoint) (i : Nat) :
    ((insertion.spread cs).take (insertion.place i)).foldl x.carried previous =
      (cs.take i).foldl x.carried previous := by
  -- the carried point changes at a head that was kept, so it is generalized
  induction insertion generalizing cs previous i with
  | nil => rfl
  | keep m rest ih =>
    cases cs with
    | nil => simp [spread]
    | cons c cs =>
      cases i with
      | zero => rfl
      | succ i => exact ih cs (x.carried previous c) i
  | insert m other rest ih => exact ih cs previous i

theorem renumbers (x : Extractor) (insertion : Insertion messages enlarged) (cs : List Contribution) :
    x.Renumbers insertion.place cs (insertion.spread cs) where
  injective := insertion.place_strictMono.injective
  points := insertion.getElem?_spread cs
  carried := insertion.foldl_carried_take_spread x cs .empty

/-- **What is gathered** is the same, but for the contributions of the messages that were put in. -/
theorem gather_enlarged (x : Extractor) (service : Service σ) (state : σ)
    (insertion : Insertion messages enlarged) :
    x.gather service state enlarged =
      { result := (x.gather service state messages).result.map insertion.spread
        calls := (x.gather service state messages).calls } := by
  induction insertion generalizing state with
  | nil => rfl
  | keep m rest ih =>
    cases given : m.contribution (service (x.call m) state).1 with
    | error failure =>
      rw [Extractor.gather_cons_of_error given, Extractor.gather_cons_of_error given]
      rfl
    | ok c =>
      rw [Extractor.gather_cons_of_ok given, Extractor.gather_cons_of_ok given, ih]
      simp only [Gathering.mk.injEq, and_true]
      cases (x.gather service (service.after state (x.callsOf m)) _).result <;> rfl
  | insert m other rest ih =>
    have nothing := m.contribution_unsupported (Slot.decode_of_length_other other)
      (service (x.call m) state).1
    have uncalled : x.callsOf m = [] := x.callsOf_of_length_ne fun size => other (by simp [size])
    rw [Extractor.gather_cons_of_ok nothing, uncalled, Service.after_nil, ih]
    simp only [List.nil_append, Gathering.mk.injEq, and_true]
    cases (x.gather service state _).result <;> rfl

/-- A track of the first list and one of the second list differ by the messages that were put in. -/
structure Enlarges (insertion : Insertion messages enlarged) (track larger : Track) : Prop where
  rows : larger.rows = track.rows.map (TrackRow.renumber insertion.place)
  collected : larger.collected = track.collected
  /-- The skips stand in the order of their messages. -/
  ascending : larger.skipped.Pairwise fun a b => a.message < b.message
  /-- They are the old skips under their new numbers, and one for each message that was put in. -/
  mem_skipped : ∀ skip, skip ∈ larger.skipped ↔
    (∃ old ∈ track.skipped, old.renumber insertion.place = skip) ∨
      ∃ m, enlarged[skip.message]? = some m ∧ skip.message ∉ Set.range insertion.place ∧
        m.payload.length = skip.size

/-- A message without a slot is an old one, or it was put in. -/
theorem mem_skipped_spread {x : Extractor} {service : Service σ} {state : σ} {cs : List Contribution}
    (insertion : Insertion messages enlarged) (gathers : x.Gathers service state messages cs)
    (spread : x.Gathers service state enlarged (insertion.spread cs)) (skip : Skip) :
    skip ∈ (x.track (insertion.spread cs)).skipped ↔
      (∃ old ∈ (x.track cs).skipped, old.renumber insertion.place = skip) ∨
        ∃ m, enlarged[skip.message]? = some m ∧ skip.message ∉ Set.range insertion.place ∧
          m.payload.length = skip.size := by
  rw [spread.mem_skipped_iff]
  constructor
  · rintro ⟨m, there, other, size⟩
    by_cases old : skip.message ∈ Set.range insertion.place
    · obtain ⟨i, moved⟩ := old
      rw [← moved, insertion.getElem?_place] at there
      refine .inl ⟨⟨i, skip.size⟩, (gathers.mem_skipped_iff _).mpr ⟨m, there, other, size⟩, ?_⟩
      rw [Skip.renumber, moved]
    · exact .inr ⟨m, there, old, size⟩
  · rintro (⟨old, mem, rfl⟩ | ⟨m, there, new, size⟩)
    · obtain ⟨m, here, other, size⟩ := (gathers.mem_skipped_iff old).mp mem
      refine ⟨m, ?_, other, size⟩
      rw [Skip.renumber, insertion.getElem?_place, here]
    · exact ⟨m, there, insertion.other_of_not_mem_range there new, size⟩

theorem enlarges {x : Extractor} {service : Service σ} {state : σ} {cs : List Contribution}
    (insertion : Insertion messages enlarged) (gathers : x.Gathers service state messages cs)
    (spread : x.Gathers service state enlarged (insertion.spread cs)) :
    insertion.Enlarges (x.track cs) (x.track (insertion.spread cs)) where
  rows := by
    refine (insertion.renumbers x cs).track_rows_eq (List.pairwise_of_forall ?_)
    intro a b _ lt
    exact insertion.place_strictMono lt
  collected := (insertion.renumbers x cs).collected_eq
  ascending := x.pairwise_skipped _
  mem_skipped := insertion.mem_skipped_spread gathers spread

end Insertion

/-- **Messages without a slot leave no trace.** Wherever they are put in, the run makes the same calls and
fails with the same failure, or makes the same rows in the same order under the numbers that their
messages have got; only the skips are more. -/
theorem Extractor.run_insertion (x : Extractor) (service : Service σ) (state : σ)
    {messages enlarged : List Message} (insertion : Insertion messages enlarged) {run larger : Run σ}
    (nonempty : messages ≠ []) (plain : x.RunsOver service state messages run)
    (filled : x.RunsOver service state enlarged larger) :
    StrictMono insertion.place ∧ (∀ i, enlarged[insertion.place i]? = messages[i]?) ∧
      larger.calls = run.calls ∧
      (∀ failure, run.result = .error failure → larger.result = .error failure) ∧
      ∀ track, run.result = .ok track →
        ∃ largerTrack, larger.result = .ok largerTrack ∧ insertion.Enlarges track largerTrack := by
  obtain ⟨result, calls⟩ := plain.ends.eq_gather nonempty
  obtain ⟨result', calls'⟩ := filled.ends.eq_gather (insertion.ne_nil nonempty)
  have gathered := insertion.gather_enlarged x service state
  rw [gathered] at result' calls'
  refine ⟨insertion.place_strictMono, insertion.getElem?_place, calls'.trans calls.symm, ?_⟩
  rw [result, result']
  cases given : (x.gather service state messages).result with
  | error failure =>
    refine ⟨fun failure' failed => failed, fun track done => ?_⟩
    cases done
  | ok cs =>
    refine ⟨fun failure failed => ?_, fun track done => ?_⟩
    · cases failed
    · cases done
      refine ⟨_, rfl, insertion.enlarges (gathers_of_gather given) (gathers_of_gather ?_)⟩
      rw [gathered, given]
      rfl

/-- The mixed messages are three messages with a fourth one put in. -/
def mixedInsertion : Insertion (mixedMessages.eraseIdx 1) mixedMessages :=
  .keep _ (.insert _ (by decide) (.keep _ (.keep _ .nil)))

/-- The sensor report at the end of the mixed messages has the same row without the message that is
skipped, under a number one less. -/
theorem run_insertion_mixed :
    ∃ track larger, (sampleExtractor.runOn Service.ofList [samplePosition]
        (mixedMessages.eraseIdx 1)).result = .ok track ∧
      (mixedRun sampleExtractor).result = .ok larger ∧
      (∃ row ∈ track.rows, row.index = 2 ∧ ⟨3, row.point⟩ ∈ larger.rows) ∧
      ⟨1, 3⟩ ∈ larger.skipped := by
  have plain := sampleExtractor.runsOver_runOn Service.ofList [samplePosition]
    (mixedMessages.eraseIdx 1)
  have filled : sampleExtractor.RunsOver Service.ofList [samplePosition] mixedMessages
      (mixedRun sampleExtractor) := .of_fetched Feed.ofList _ [(.ok mixedMessages, [])] rfl
  have nonempty : mixedMessages.eraseIdx 1 ≠ [] := List.cons_ne_nil _ _
  obtain ⟨-, -, -, -, law⟩ := Extractor.run_insertion _ _ _ mixedInsertion nonempty plain filled
  obtain ⟨track, done, row, mem, index⟩ :
      ∃ track, (sampleExtractor.runOn Service.ofList [samplePosition]
        (mixedMessages.eraseIdx 1)).result = .ok track ∧ ∃ row ∈ track.rows, row.index = 2 := by
    refine ⟨_, rfl, ?_⟩
    simp only [List.mem_filter, List.mem_mergeSort]
    exact ⟨_, ⟨List.mem_of_getElem? (i := 2) rfl, rfl⟩, rfl⟩
  obtain ⟨larger, made, enlarges⟩ := law track done
  refine ⟨track, larger, done, made, ⟨row, mem, index, ?_⟩, ?_⟩
  · rw [enlarges.rows, List.mem_map]
    refine ⟨row, mem, ?_⟩
    rw [TrackRow.renumber, index]
    rfl
  · refine (enlarges.mem_skipped _).mpr (.inr ⟨_, rfl, ?_, rfl⟩)
    rintro ⟨i, moved⟩
    cases i <;> cases moved

end SatelliteTrack
