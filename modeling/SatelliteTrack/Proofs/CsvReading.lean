import Mathlib.Data.Bool.AllAny
import SatelliteTrack.Proofs.DecimalText
import SatelliteTrack.Proofs.MomentText
import SatelliteTrack.Proofs.Sinks
import SatelliteTrack.Track.Csv

/-!
# The table of a track reads back

The table is written without quotes. `Csv.read?` is the plainest reader of such a text: it cuts it at
the line feeds and each line at the commas, and reads every cell by itself. **The law**
(`Csv.text_unambiguous`): it finds the rows again, as far as a table tells them (`TrackRow.told`), so
two lists of rows with one text agree in all that. The numbers with a point are told by their texts; that
these texts stand for the numbers is not said here. `Csv.column` takes a single column out of the text, by
the name in the header.

It rests on one fact about cells (`TrackRow.cells_clean`): whatever a row holds, no cell has a comma or
a line feed in it, and only the cell of an unset field is empty.
-/

namespace SatelliteTrack

/-- What a table tells of a row: of the numbers with a point their texts, and everything else. -/
structure ToldRow where
  index : Nat
  latitude : Option String
  longitude : Option String
  battery : Option String
  temperature : Option Nat
  date : Option Int
  satellites : Option Nat
  speed : Option Int
deriving DecidableEq, Repr

def TrackRow.told (row : TrackRow) : ToldRow where
  index := row.index
  latitude := row.point.latitude.map Decimal.fractional.text
  longitude := row.point.longitude.map Decimal.fractional.text
  battery := row.point.battery.map Decimal.fractional.text
  temperature := row.point.temperature.map UInt8.toNat
  date := row.point.date
  satellites := row.point.satellites.map UInt8.toNat
  speed := row.point.speed.map Int32.toInt

/-- Which fields of a point are set, in the order of the columns. -/
def TrackPoint.fieldsSet (p : TrackPoint) : List Bool :=
  [ p.latitude.isSome, p.longitude.isSome, p.battery.isSome, p.temperature.isSome, p.date.isSome,
    p.satellites.isSome, p.speed.isSome ]

namespace Csv

/-! ## Reading -/

/-- A reader of the beginning of a text, for a cell as a whole. -/
def whole? {α : Type} (read : List Char → Option (α × List Char)) (cs : List Char) : Option α :=
  match read cs with
  | some (x, []) => some x
  | _ => none

/-- A cell that may be empty. -/
def optional? {α : Type} (read : List Char → Option α) : List Char → Option (Option α)
  | [] => some none
  | c :: cs => (read (c :: cs)).map some

/-- The row that eight cells tell. -/
def row? : List (List Char) → Option ToldRow
  | [index, latitude, longitude, battery, temperature, date, satellites, speed] => do
    return {
      index := ← whole? Text.natural? index
      latitude := ← optional? (fun cs => some (String.ofList cs)) latitude
      longitude := ← optional? (fun cs => some (String.ofList cs)) longitude
      battery := ← optional? (fun cs => some (String.ofList cs)) battery
      temperature := ← optional? (whole? Text.natural?) temperature
      date := ← optional? (Calendar.moment? ' ') date
      satellites := ← optional? (whole? Text.natural?) satellites
      speed := ← optional? (whole? Text.integer?) speed }
  | _ => none

/-- The rows that a table tells: the lines between the header and the end of the last line. -/
def read? (cs : List Char) : Option (List ToldRow) :=
  match cs.splitOn '\n' with
  | [] => none
  | first :: rest =>
    if first = header.toList ∧ rest.getLast? = some [] then
      rest.dropLast.mapM fun line => row? (line.splitOn ',')
    else none

/-! ## Cells -/

/-- A text that can stand between separators, and is there. -/
structure Clean (cs : List Char) : Prop where
  nonempty : cs ≠ []
  comma : ',' ∉ cs
  lineFeed : '\n' ∉ cs

/-- What `Clean` rules out of a text is in no number. -/
theorem coversNumbers : Decimal.CoversNumbers fun c => c ≠ ',' ∧ c ≠ '\n' where
  digit c h := by
    constructor <;> rintro rfl <;> cases h
  point := by decide
  minus := by decide
  plus := by decide
  exponent := by decide

theorem Clean.of_forall {cs : List Char} (nonempty : cs ≠ []) (all : ∀ c ∈ cs, c ≠ ',' ∧ c ≠ '\n') :
    Clean cs where
  nonempty
  comma h := (all _ h).1 rfl
  lineFeed h := (all _ h).2 rfl

theorem clean_natural (n : Nat) : Clean (toString n).toList :=
  .of_forall (by rw [Text.toList_toString]; exact Nat.toDigits_ne_nil)
    (Decimal.forall_mem_toString coversNumbers n)

theorem clean_integer (n : Int) : Clean (toString n).toList := by
  rw [Text.toList_toString_int]
  split
  · exact clean_natural _
  · refine .of_forall (List.cons_ne_nil _ _) fun c h => ?_
    obtain rfl | h := List.mem_cons.mp h
    · exact coversNumbers.minus
    · exact Decimal.forall_mem_toString coversNumbers _ c h

theorem clean_fractional (x : Float) : Clean (Decimal.fractional.text x).toList :=
  .of_forall (Decimal.Layout.text_ne _ (by decide) (by decide) (by decide) x)
    (Decimal.Layout.forall_mem_text coversNumbers _ (List.all_iff_forall_prop.mp (by decide))
      (List.all_iff_forall_prop.mp (by decide)) (List.all_iff_forall_prop.mp (by decide)) x)

theorem forall_mem_padded (width n : Nat) :
    ∀ c ∈ (Calendar.padded width n).toList, c ≠ ',' ∧ c ≠ '\n' :=
  fun c h => coversNumbers.digit c (Text.isDigit_of_mem_padded h)

theorem forall_mem_yearText (year : Int) :
    ∀ c ∈ (Calendar.yearText year).toList, c ≠ ',' ∧ c ≠ '\n' := by
  intro c h
  unfold Calendar.yearText at h
  split at h
  · exact forall_mem_padded 4 _ c h
  · rw [String.toList_append, List.mem_append] at h
    obtain h | h := h
    · split at h
      · obtain rfl : c = '-' := List.mem_singleton.mp h
        exact coversNumbers.minus
      · obtain rfl : c = '+' := List.mem_singleton.mp h
        exact coversNumbers.plus
    · exact forall_mem_padded 4 _ c h

theorem clean_tableText (seconds : Int) : Clean (Calendar.tableText seconds).toList := by
  have mark : ∀ c ∈ ['-', ':', ' '], c ≠ ',' ∧ c ≠ '\n' := List.all_iff_forall_prop.mp (by decide)
  have space : " ".toList = [' '] := rfl
  have offset : ∀ c ∈ "+00:00".toList, c ≠ ',' ∧ c ≠ '\n' := List.all_iff_forall_prop.mp (by decide)
  refine .of_forall ?_ fun c h => ?_
  · simp [Calendar.tableText, Calendar.momentText]
  · simp only [Calendar.tableText, Calendar.momentText, String.toList_append, Calendar.Date.toList_text,
      Calendar.Time.toList_text, space, List.mem_append, List.mem_cons, List.not_mem_nil,
      or_false] at h
    obtain (((h | rfl | h | rfl | h) | rfl) | h | rfl | h | rfl | h) | h := h
    · exact forall_mem_yearText _ c h
    · exact mark _ (by simp)
    · exact forall_mem_padded 2 _ c h
    · exact mark _ (by simp)
    · exact forall_mem_padded 2 _ c h
    · exact mark _ (by simp)
    · exact forall_mem_padded 2 _ c h
    · exact mark _ (by simp)
    · exact forall_mem_padded 2 _ c h
    · exact mark _ (by simp)
    · exact forall_mem_padded 2 _ c h
    · exact offset c h

/-- The text of a set field has a text of its own, and that of an unset field is empty. -/
theorem clean_cell {α : Type} (text : α → String) (clean : ∀ x, Clean (text x).toList)
    (field : Option α) : ',' ∉ (cell text field).toList ∧ '\n' ∉ (cell text field).toList ∧
      (!(cell text field).toList.isEmpty) = field.isSome := by
  cases field with
  | none => exact ⟨List.not_mem_nil, List.not_mem_nil, rfl⟩
  | some x =>
    refine ⟨(clean x).comma, (clean x).lineFeed, ?_⟩
    have filled : (text x).toList.isEmpty = false := by simpa using (clean x).nonempty
    rw [cell, filled]
    rfl

/-- A cell tells its field when the text of every value reads back. -/
theorem optional?_cell {α β : Type} (text : α → String) (read : List Char → Option β) (value : α → β)
    (clean : ∀ x, Clean (text x).toList) (reads : ∀ x, read (text x).toList = some (value x))
    (field : Option α) : optional? read (cell text field).toList = some (field.map value) := by
  cases field with
  | none => rfl
  | some x =>
    have read := reads x
    rw [cell]
    cases h : (text x).toList with
    | nil => exact absurd h (clean x).nonempty
    | cons c cs => rw [optional?, ← h, read, Option.map_some, Option.map_some]

theorem whole?_natural (n : Nat) : whole? Text.natural? (toString n).toList = some n := by
  have read := Text.natural?_toString n Text.digitsEnd_nil
  rw [List.append_nil] at read
  rw [whole?, read]

theorem whole?_integer (n : Int) : whole? Text.integer? (toString n).toList = some n := by
  have read := Text.integer?_toString n Text.digitsEnd_nil
  rw [List.append_nil] at read
  rw [whole?, read]

end Csv

/-- **No cell holds a separator**, whatever the row holds. -/
theorem TrackRow.cells_clean (row : TrackRow) :
    ∀ text ∈ row.cells, ',' ∉ text.toList ∧ '\n' ∉ text.toList := by
  have index := Csv.clean_natural row.index
  have cells {α : Type} (text : α → String) (clean : ∀ x, Csv.Clean (text x).toList)
      (field : Option α) : ',' ∉ (cell text field).toList ∧ '\n' ∉ (cell text field).toList :=
    ⟨(Csv.clean_cell text clean field).1, (Csv.clean_cell text clean field).2.1⟩
  intro text h
  simp only [TrackRow.cells, List.mem_cons, List.not_mem_nil, or_false] at h
  obtain rfl | rfl | rfl | rfl | rfl | rfl | rfl | rfl := h
  · exact ⟨index.comma, index.lineFeed⟩
  · exact cells _ Csv.clean_fractional _
  · exact cells _ Csv.clean_fractional _
  · exact cells _ Csv.clean_fractional _
  · exact cells _ (fun n : UInt8 => Csv.clean_natural n.toNat) _
  · exact cells _ Csv.clean_tableText _
  · exact cells _ (fun n : UInt8 => Csv.clean_natural n.toNat) _
  · exact cells _ (fun n : Int32 => Csv.clean_integer n.toInt) _

/-- **An empty cell is an unset field.** -/
theorem TrackRow.filled_cells (row : TrackRow) :
    row.cells.tail.map (fun text => !text.toList.isEmpty) = row.point.fieldsSet := by
  have filled {α : Type} (text : α → String) (clean : ∀ x, Csv.Clean (text x).toList)
      (field : Option α) : (!(cell text field).toList.isEmpty) = field.isSome :=
    (Csv.clean_cell text clean field).2.2
  simp only [TrackRow.cells, List.tail_cons, List.map_cons, List.map_nil, TrackPoint.fieldsSet,
    filled _ Csv.clean_fractional, filled _ fun n : UInt8 => Csv.clean_natural n.toNat,
    filled _ Csv.clean_tableText, filled _ fun n : Int32 => Csv.clean_integer n.toInt]

/-- **The cells of a row tell the row.** -/
theorem TrackRow.row?_cells (row : TrackRow) :
    Csv.row? (row.cells.map String.toList) = some row.told := by
  have decimals := Csv.optional?_cell _ (fun cs => some (String.ofList cs)) Decimal.fractional.text
    Csv.clean_fractional fun x => by rw [String.ofList_toList]
  have naturals := Csv.optional?_cell _ _ UInt8.toNat
    (fun n => Csv.clean_natural n.toNat) fun n => Csv.whole?_natural n.toNat
  have integers := Csv.optional?_cell _ _ Int32.toInt
    (fun n => Csv.clean_integer n.toInt) fun n => Csv.whole?_integer n.toInt
  have moments := Csv.optional?_cell _ _ id Csv.clean_tableText Calendar.moment?_tableText
  simp only [TrackRow.cells, List.map_cons, List.map_nil, Csv.row?, Csv.whole?_natural, decimals,
    naturals, integers, moments, Option.bind_eq_bind, Option.bind_some, Option.map_id_fun, id,
    TrackRow.told]
  rfl

namespace Csv

/-! ## Lines -/

theorem splitOn_intercalate (mark : Char) {texts : List String} (nonempty : texts ≠ [])
    (clean : ∀ text ∈ texts, mark ∉ text.toList) :
    ((String.singleton mark).intercalate texts).toList.splitOn mark = texts.map String.toList := by
  rw [String.toList_intercalate, String.toList_singleton]
  refine List.splitOn_intercalate mark (fun cs h => ?_) (by simpa using nonempty)
  obtain ⟨text, mem, rfl⟩ := List.mem_map.mp h
  exact clean text mem

/-- **A line is cut at its commas into the cells of its row.** -/
theorem splitOn_line (row : TrackRow) : (line row).toList.splitOn ',' = row.cells.map String.toList :=
  splitOn_intercalate ',' (List.cons_ne_nil _ _) fun text h => (row.cells_clean text h).1

/-- A separator is the only thing that is new between texts. -/
theorem mem_intercalate {mark c : Char} {texts : List (List Char)}
    (h : c ∈ [mark].intercalate texts) : c = mark ∨ ∃ text ∈ texts, c ∈ text := by
  induction texts with
  | nil => cases h
  | cons first rest ih =>
    cases rest with
    | nil => exact .inr ⟨first, List.mem_cons_self, by simpa using h⟩
    | cons second rest =>
      rw [List.intercalate_cons_cons, List.mem_append, List.mem_append, List.mem_singleton] at h
      obtain (h | rfl) | h := h
      · exact .inr ⟨first, List.mem_cons_self, h⟩
      · exact .inl rfl
      · exact (ih h).imp_right fun ⟨text, mem, h⟩ => ⟨text, List.mem_cons_of_mem _ mem, h⟩

/-- No line goes on in the next one. -/
theorem lineFeed_notMem_lines (rows : List TrackRow) : ∀ line ∈ lines rows, '\n' ∉ line.toList := by
  intro text h
  obtain rfl | h := List.mem_cons.mp h
  · decide
  · obtain ⟨row, -, rfl⟩ := List.mem_map.mp h
    rw [line, String.toList_intercalate]
    intro inLine
    obtain comma | ⟨cs, mem, inCell⟩ := mem_intercalate inLine
    · exact absurd comma (by decide)
    · obtain ⟨text, cell, rfl⟩ := List.mem_map.mp mem
      exact (row.cells_clean text cell).2 inCell

/-- Lines that end in a mark are lines with the mark between them, and an empty one at the end. -/
theorem flatMap_concat (mark : Char) (texts : List (List Char)) :
    texts.flatMap (· ++ [mark]) = [mark].intercalate (texts ++ [[]]) := by
  induction texts with
  | nil => rfl
  | cons first rest ih =>
    rw [List.flatMap_cons, ih]
    cases rest with
    | nil => simp [List.intercalate_cons_cons]
    | cons second rest =>
      simp only [List.cons_append, List.intercalate_cons_cons]

/-- Lines that are closed by a mark are found again at the marks, and nothing stands behind the last one. -/
theorem splitOn_lines (mark : Char) {texts : List String} (clean : ∀ text ∈ texts, mark ∉ text.toList) :
    (texts.flatMap fun text => text.toList ++ [mark]).splitOn mark = texts.map String.toList ++ [[]] := by
  rw [← List.flatMap_map (f := String.toList) (g := (· ++ [mark])), flatMap_concat,
    List.splitOn_intercalate]
  · intro cs h
    obtain h | h := List.mem_append.mp h
    · obtain ⟨text, mem, rfl⟩ := List.mem_map.mp h
      exact clean text mem
    · obtain rfl := List.mem_singleton.mp h
      exact List.not_mem_nil
  · simp

theorem toList_text (rows : List TrackRow) :
    (text rows).toList = (lines rows).flatMap fun line => line.toList ++ ['\n'] := by
  have lineFeed : "\n".toList = ['\n'] := rfl
  rw [text, pieces, String.toList_join, List.flatMap_map]
  simp only [String.toList_append, lineFeed]

/-- **The table is cut at its line feeds into its lines.** -/
theorem splitOn_text (rows : List TrackRow) : (text rows).toList.splitOn '\n' =
    header.toList :: rows.map (fun row => (line row).toList) ++ [[]] := by
  rw [toList_text, splitOn_lines '\n' (lineFeed_notMem_lines rows), lines, List.map_cons, List.map_map]
  rfl

/-- **The table is read as its rows.** -/
theorem read?_text (rows : List TrackRow) : read? (text rows).toList = some (rows.map TrackRow.told) := by
  rw [read?, splitOn_text, List.cons_append]
  dsimp only
  rw [if_pos ⟨rfl, List.getLast?_concat⟩, List.dropLast_concat, List.mapM_map]
  have each : (fun line => row? (line.splitOn ',')) ∘ (fun row => (line row).toList) =
      fun row => pure (TrackRow.told row) := by
    funext row
    rw [Function.comp, splitOn_line, row.row?_cells]
    rfl
  rw [each, List.mapM_pure]
  rfl

/-- The cells of the column with this name, from the first row down. -/
def column (name : String) (cs : List Char) : List String :=
  match cs.splitOn '\n' with
  | [] => []
  | first :: rest =>
    rest.dropLast.map fun line =>
      String.ofList ((line.splitOn ',').getD ((first.splitOn ',').idxOf name.toList) [])

/-- A column of the table holds the cells that stand at its place in the rows. -/
theorem column_text (rows : List TrackRow) {name : String} {i : Nat}
    (place : (header.toList.splitOn ',').idxOf name.toList = i) :
    column name (text rows).toList = rows.map fun row => row.cells.getD i "" := by
  rw [column, splitOn_text, List.cons_append]
  dsimp only
  rw [List.dropLast_concat, place, List.map_map]
  refine List.map_congr_left fun row _ => ?_
  rw [Function.comp, splitOn_line, List.getD_eq_getElem?_getD, List.getD_eq_getElem?_getD,
    List.getElem?_map]
  cases row.cells[i]? with
  | none => rfl
  | some text => exact String.ofList_toList

/-- **A table is unambiguous.** The text that is written is cut at its line feeds into the header, a line
for each row in their order, and nothing after the last line feed. Each line is cut at its commas into
eight cells; but for the first one a cell is empty where its field is unset; and the cells tell what the
row holds. So the whole text reads back, and two tables with one text tell the same. -/
theorem text_unambiguous (rows : List TrackRow) :
    write rows {} = { bytes := Text.utf8 (text rows) } ∧
    (text rows).toList.splitOn '\n' =
      header.toList :: rows.map (fun row => (line row).toList) ++ [[]] ∧
    (∀ row ∈ rows, let cells := (line row).toList.splitOn ','
      cells.length = 8 ∧
      cells.tail.map (fun cell => !cell.isEmpty) = row.point.fieldsSet ∧
      row? cells = some row.told) ∧
    read? (text rows).toList = some (rows.map TrackRow.told) ∧
    ∀ others, text rows = text others → rows.map TrackRow.told = others.map TrackRow.told := by
  refine ⟨Sink.write_unlimited _, splitOn_text rows, fun row _ => ?_, read?_text rows,
    fun others same => ?_⟩
  · dsimp only
    rw [splitOn_line]
    refine ⟨rfl, ?_, row.row?_cells⟩
    rw [← row.filled_cells, ← List.map_tail, List.map_map]
    rfl
  · have read := read?_text rows
    rw [same, read?_text others] at read
    exact (Option.some.inj read).symm

end Csv

end SatelliteTrack
