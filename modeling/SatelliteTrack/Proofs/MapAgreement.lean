import SatelliteTrack.Proofs.CsvReading
import SatelliteTrack.Proofs.Logbook
import SatelliteTrack.Proofs.PagePlaces

/-!
# The map and the table tell of one track

The table has a line for every row of a track, with empty cells for what is unset; the map goes through the
same rows three times, for the latitudes, for the longitudes and for the rows that have both. **The theorem**
(`MapPage.toTrack_depicted`): for the track of any logbook the page `Depicts` what the table says. Its points
are the rows whose two cells are filled, in the order of the lines; the view is centred and zoomed by all
rows. Since every row of a track has a latitude, the page without a mean latitude is the page without rows.

The page is read here as it is written, line by line. That the three texts can be put in at all, in any order,
is what `PagePlaces` says; they hold numbers, commas and brackets, and never a brace or a line feed.
-/

namespace SatelliteTrack

theorem Json.texts_eq_map (items : List Json) : Json.texts items = items.map Json.text := by
  induction items with
  | nil => rfl
  | cons item items ih => rw [Json.texts, ih, List.map_cons]

/-- The mean is missing only without values. -/
theorem mean_eq_none_iff (values : List Float) : mean values = none ↔ values = [] := by
  cases values with
  | nil => exact ⟨fun _ => rfl, fun _ => rfl⟩
  | cons x values =>
    constructor
    · intro missing
      cases missing
    · intro empty
      cases empty

/-- **Every row of a track is complete.** -/
theorem Logbook.isComplete_of_toTrack {book : Logbook} {track : Track} (h : book.toTrack = .ok track) :
    ∀ row ∈ track.rows, row.point.isComplete := by
  unfold toTrack at h
  split at h
  · cases h
  · obtain rfl := Except.ok.inj h
    exact fun row mem => (List.mem_filter.mp mem).2

namespace MapPage

variable {rows : List TrackRow}

/-! ## The texts that are put in -/

/-- What the page of a track has in its places. -/
def inserted (rows : List TrackRow) : Place → String
  | .center => (pair (center rows)).text
  | .zoom => toString (zoom rows)
  | .points => (Json.array ((points rows).map pair)).text

/-- Neither a brace nor a line feed. -/
def Harmless (c : Char) : Prop := c ≠ '\x7b' ∧ c ≠ '\n'

instance : DecidablePred Harmless := fun c => inferInstanceAs (Decidable (c ≠ '\x7b' ∧ c ≠ '\n'))

theorem coversNumbers : Decimal.CoversNumbers Harmless where
  digit c h := by
    constructor <;> rintro rfl <;> cases h
  point := by decide
  minus := by decide
  plus := by decide
  exponent := by decide

theorem harmless_number (x : Float) : ∀ c ∈ (Json.Number.real x).text.toList, Harmless c :=
  Decimal.Layout.forall_mem_text coversNumbers Json.numberLayout
    (List.all_iff_forall_prop.mp (by decide)) (List.all_iff_forall_prop.mp (by decide))
    (List.all_iff_forall_prop.mp (by decide)) x

/-- A list of harmless texts is harmless. -/
theorem harmless_array {items : List Json} (h : ∀ item ∈ items, ∀ c ∈ item.text.toList, Harmless c) :
    ∀ c ∈ (Json.array items).text.toList, Harmless c := by
  have start : ∀ c ∈ "[".toList, Harmless c := List.all_iff_forall_prop.mp (by decide)
  have stop : ∀ c ∈ "]".toList, Harmless c := List.all_iff_forall_prop.mp (by decide)
  have comma : ",".toList = [','] := rfl
  intro c mem
  rw [Json.text, Json.texts_eq_map, String.toList_append, String.toList_append, List.mem_append,
    List.mem_append, String.toList_intercalate, comma] at mem
  obtain (first | inside) | last := mem
  · exact start c first
  · obtain rfl | ⟨cs, listed, inText⟩ := Csv.mem_intercalate inside
    · decide
    · obtain ⟨text, among, rfl⟩ := List.mem_map.mp listed
      obtain ⟨item, itemMem, rfl⟩ := List.mem_map.mp among
      exact h item itemMem c inText
  · exact stop c last

theorem harmless_pair (p : Point) : ∀ c ∈ (pair p).text.toList, Harmless c := by
  refine harmless_array fun item mem => ?_
  obtain rfl | mem := List.mem_cons.mp mem
  · exact harmless_number p.latitude
  · obtain rfl := List.mem_singleton.mp mem
    exact harmless_number p.longitude

/-- **What is put in is harmless**, whatever the rows hold. -/
theorem harmless_inserted (rows : List TrackRow) (p : Place) : ∀ c ∈ (inserted rows p).toList, Harmless c := by
  cases p with
  | center => exact harmless_pair (center rows)
  | zoom => exact Decimal.forall_mem_toString coversNumbers (zoom rows)
  | points =>
    refine harmless_array fun item mem => ?_
    obtain ⟨p, -, rfl⟩ := List.mem_map.mp mem
    exact harmless_pair p

theorem brace_notMem_inserted (rows : List TrackRow) (p : Place) : '\x7b' ∉ (inserted rows p).toList :=
  fun mem => (harmless_inserted rows p _ mem).1 rfl

theorem lineFeed_notMem_inserted (rows : List TrackRow) (p : Place) : '\n' ∉ (inserted rows p).toList :=
  fun mem => (harmless_inserted rows p _ mem).2 rfl

theorem plain_inserted (rows : List TrackRow) (p : Place) : Plain (inserted rows p).toList :=
  Plain.of_notMem (brace_notMem_inserted rows p)

theorem foldl_places (values : Place → String) (page : List Char) :
    [Place.center, .zoom, .points].foldl (fun text p => fill p.name (values p) text) page =
      fill "POINTS" (values .points) (fill "ZOOM" (values .zoom) (fill "CENTER" (values .center) page)) :=
  rfl

/-- The page is the template with its three places filled one after another. -/
theorem toList_text_eq_foldl (rows : List TrackRow) : (text rows).toList =
    [Place.center, .zoom, .points].foldl (fun text p => fill p.name (inserted rows p) text) template := by
  rw [foldl_places, text, String.toList_ofList, inserted, inserted, inserted]

theorem toList_text (rows : List TrackRow) :
    (text rows).toList = stretches.flatMap (Stretch.settled (inserted rows)) := by
  rw [toList_text_eq_foldl]
  exact (foldl_fill_template (plain_inserted rows) fun p => by cases p <;> decide).1

/-! ## The lines of the page -/

/-- The lines of a text that begin with this one. -/
def linesWith (start : String) (cs : List Char) : List String :=
  ((cs.splitOn '\n').map String.ofList).filter fun line => start.toList.isPrefixOf line.toList

/-- What no fixed line is, only the two lines that were filled can be. -/
theorem filter_settledLines {values : Place → String} {p : String → Bool}
    (fixed : ∀ line ∈ linesBefore ++ linesBetween ++ linesAfter, p line = false) :
    (settledLines values).filter p =
      [ viewStart ++ values .center ++ ", " ++ values .zoom ++ ");",
        pointsStart ++ values .points ++ ";" ].filter p := by
  have none {lines : List String} (among : lines ⊆ linesBefore ++ linesBetween ++ linesAfter) :
      lines.filter p = [] :=
    List.filter_eq_nil_iff.mpr fun line mem => by rw [fixed line (among mem)]; exact Bool.false_ne_true
  have before := none fun line mem => List.mem_append_left _ (List.mem_append_left _ mem)
  have between := none fun line mem => List.mem_append_left _ (List.mem_append_right _ mem)
  have after := none fun line mem => List.mem_append_right _ mem
  rw [settledLines, List.filter_append, before, List.nil_append]
  simp only [List.filter_cons, List.filter_append, between, after, List.nil_append, List.filter_nil]

theorem linesWith_text {start : String} (filled : start.toList.isPrefixOf [] = false)
    (fixed : ∀ line ∈ linesBefore ++ linesBetween ++ linesAfter, ¬ start.toList <+: line.toList) :
    linesWith start (text rows).toList =
      [ viewStart ++ inserted rows .center ++ ", " ++ inserted rows .zoom ++ ");",
        pointsStart ++ inserted rows .points ++ ";" ].filter fun line =>
          start.toList.isPrefixOf line.toList := by
  have lines := Csv.splitOn_lines '\n' (lineFeed_notMem_settledLines (lineFeed_notMem_inserted rows))
  have back : String.ofList ∘ String.toList = id := funext fun line => String.ofList_toList
  have last : [String.ofList []].filter (fun line => start.toList.isPrefixOf line.toList) = [] := by
    rw [List.filter_singleton, String.toList_ofList, filled]
    rfl
  rw [linesWith, toList_text, settled_stretches, textOf, lines, List.map_append, List.map_map, back,
    List.map_id, List.filter_append, List.map_singleton, last, List.append_nil]
  exact filter_settledLines fun line mem =>
    Bool.eq_false_iff.mpr fun begins => fixed line mem (List.isPrefixOf_iff_prefix.mp begins)

/-- **One line sets the view.** -/
theorem linesWith_viewStart (rows : List TrackRow) : linesWith viewStart (text rows).toList =
    [viewStart ++ inserted rows .center ++ ", " ++ inserted rows .zoom ++ ");"] := by
  rw [linesWith_text (by decide) fun line mem => (fixedLine line mem).notView]
  have view (rest : List Char) : viewStart.toList.isPrefixOf (viewStart.toList ++ rest) = true :=
    List.isPrefixOf_iff_prefix.mpr (List.prefix_append _ _)
  have other (rest : List Char) : viewStart.toList.isPrefixOf (pointsStart.toList ++ rest) = false := rfl
  simp only [List.filter_cons, List.filter_nil, String.toList_append, List.append_assoc, view, other,
    if_pos, Bool.false_eq_true, if_false]

/-- **One line lists the points.** -/
theorem linesWith_pointsStart (rows : List TrackRow) : linesWith pointsStart (text rows).toList =
    [pointsStart ++ inserted rows .points ++ ";"] := by
  rw [linesWith_text (by decide) fun line mem => (fixedLine line mem).notPoints]
  have points (rest : List Char) : pointsStart.toList.isPrefixOf (pointsStart.toList ++ rest) = true :=
    List.isPrefixOf_iff_prefix.mpr (List.prefix_append _ _)
  have other (rest : List Char) : pointsStart.toList.isPrefixOf (viewStart.toList ++ rest) = false := rfl
  simp only [List.filter_cons, List.filter_nil, String.toList_append, List.append_assoc, points, other,
    if_pos, Bool.false_eq_true, if_false]

/-! ## The points and the cells -/

theorem text_pair (p : Point) : (pair p).text =
    "[" ++ (Json.Number.real p.latitude).text ++ "," ++ (Json.Number.real p.longitude).text ++ "]" := by
  have listed : (pair p).text = "[" ++ ((Json.Number.real p.latitude).text ++ "," ++
    (Json.Number.real p.longitude).text) ++ "]" := rfl
  simp only [listed, String.append_assoc]

/-- The two numbers of a row as a page lists them. -/
def Listed (row : TrackRow) (text : String) : Prop :=
  ∃ x y : Float, row.point.latitude = some x ∧ row.point.longitude = some y ∧
    text = "[" ++ (Json.Number.real x).text ++ "," ++ (Json.Number.real y).text ++ "]"

theorem listed_of_position? {row : TrackRow} {p : Point} (h : row.point.position? = some p) :
    Listed row (pair p).text := by
  unfold TrackPoint.position? at h
  split at h
  next x y latitude longitude =>
    obtain rfl := Option.some.inj h
    exact ⟨x, y, latitude, longitude, text_pair _⟩
  · cases h

/-- The rows of a table with their cells of the two coordinates, in the order of the lines. -/
def located (rows : List TrackRow) (table : List Char) : List (TrackRow × String × String) :=
  rows.zip ((Csv.column "latitude" table).zip (Csv.column "longitude" table))

theorem column_latitude (rows : List TrackRow) : Csv.column "latitude" (Csv.text rows).toList =
    rows.map fun row => cell Decimal.fractional.text row.point.latitude :=
  Csv.column_text rows (i := 1) (by decide)

theorem column_longitude (rows : List TrackRow) : Csv.column "longitude" (Csv.text rows).toList =
    rows.map fun row => cell Decimal.fractional.text row.point.longitude :=
  Csv.column_text rows (i := 2) (by decide)

theorem cell_ne_empty_iff (field : Option Float) :
    cell Decimal.fractional.text field ≠ "" ↔ field.isSome := by
  cases field with
  | none => exact ⟨fun filled => absurd rfl filled, fun isSome => by cases isSome⟩
  | some x =>
    refine ⟨fun _ => rfl, fun _ empty => (Csv.clean_fractional x).nonempty ?_⟩
    rw [cell] at empty
    rw [empty]
    rfl

/-- Two filled cells are a position. -/
theorem position?_isSome_iff (row : TrackRow) : row.point.position?.isSome ↔
    cell Decimal.fractional.text row.point.latitude ≠ "" ∧
      cell Decimal.fractional.text row.point.longitude ≠ "" := by
  rw [cell_ne_empty_iff, cell_ne_empty_iff, TrackPoint.position?]
  cases row.point.latitude <;> cases row.point.longitude <;> simp

/-- **The points are the rows with both cells filled**, one for each and in their order. -/
theorem forall₂_points (rows : List TrackRow) :
    List.Forall₂ (fun cells text => Listed cells.1 text)
      ((located rows (Csv.text rows).toList).filter fun cells => cells.2.1 ≠ "" ∧ cells.2.2 ≠ "")
      (((points rows).map pair).map Json.text) := by
  rw [located, column_latitude, column_longitude, List.zip_map', List.map_map]
  induction rows with
  | nil => exact .nil
  | cons row rows ih =>
    have filled := position?_isSome_iff row
    rw [List.map_cons, List.zip_cons_cons, points, List.filterMap_cons]
    cases position : row.point.position? with
    | none =>
      rw [position] at filled
      have unfilled := mt filled.mpr (by decide)
      rw [List.filter_cons_of_neg (by simpa using unfilled)]
      exact ih
    | some p =>
      rw [position] at filled
      rw [List.filter_cons_of_pos (by simpa using filled.mp rfl)]
      exact .cons (listed_of_position? position) ih

/-! ## The view -/

theorem zoom_eq (complete : ∀ row ∈ rows, row.point.isComplete) :
    toString (zoom rows) = if rows.isEmpty then "2" else "14" := by
  cases rows with
  | nil => rfl
  | cons row rows =>
    have first : row.point.latitude.isSome = true := complete row List.mem_cons_self
    have near : zoom (row :: rows) = 14 := by rw [zoom, List.any_cons, first]; rfl
    rw [near, List.isEmpty_cons, if_neg Bool.false_ne_true]
    decide

theorem center_latitude (rows : List TrackRow) : (center rows).latitude =
    (mean (rows.filterMap fun row => row.point.latitude)).getD 0.0 := by
  rw [center]
  cases mean (rows.filterMap fun row => row.point.latitude) with
  | none => rfl
  | some latitude => rfl

/-- Without a mean latitude there is no row, and no mean longitude either. -/
theorem center_longitude (complete : ∀ row ∈ rows, row.point.isComplete) : (center rows).longitude =
    (mean (rows.filterMap fun row => row.point.longitude)).getD 0.0 := by
  rw [center]
  cases missing : mean (rows.filterMap fun row => row.point.latitude) with
  | some latitude => rfl
  | none =>
    have without := List.filterMap_eq_nil_iff.mp ((mean_eq_none_iff _).mp missing)
    cases rows with
    | nil => rfl
    | cons row rows =>
      have first := complete row List.mem_cons_self
      rw [TrackPoint.isComplete, without row List.mem_cons_self] at first
      cases first

theorem latitudes_eq (complete : ∀ row ∈ rows, row.point.isComplete) :
    rows.map (fun row => row.point.latitude) =
      (rows.filterMap fun row => row.point.latitude).map some := by
  induction rows with
  | nil => rfl
  | cons row rows ih =>
    obtain ⟨latitude, first⟩ := Option.isSome_iff_exists.mp (complete row List.mem_cons_self)
    have rest := ih fun row mem => complete row (List.mem_cons_of_mem _ mem)
    rw [List.map_cons, List.filterMap_cons, first, rest]
    rfl

/-! ## The agreement -/

/-- A page and a table tell of the same rows. -/
structure Depicts (page table : List Char) (rows : List TrackRow) : Prop where
  latitudes : Csv.column "latitude" table =
    rows.map fun row => cell Decimal.fractional.text row.point.latitude
  longitudes : Csv.column "longitude" table =
    rows.map fun row => cell Decimal.fractional.text row.point.longitude
  /-- One line lists the points: one for each line of the table with both cells filled, in their order. -/
  points : ∃ pairs : List String,
    linesWith pointsStart page = [pointsStart ++ "[" ++ ",".intercalate pairs ++ "];"] ∧
    List.Forall₂ (fun cells text => Listed cells.1 text)
      ((located rows table).filter fun cells => cells.2.1 ≠ "" ∧ cells.2.2 ≠ "") pairs
  /-- One line sets the view: near if there are rows, and centred on the means of the two axes. -/
  view : ∃ x y : Float,
    linesWith viewStart page =
      [viewStart ++ "[" ++ (Json.Number.real x).text ++ "," ++ (Json.Number.real y).text ++ "], " ++
        (if rows.isEmpty then "2" else "14") ++ ");"] ∧
    (∃ latitudes : List Float, rows.map (fun row => row.point.latitude) = latitudes.map some ∧
      x = (mean latitudes).getD 0.0) ∧
    y = (mean (rows.filterMap fun row => row.point.longitude)).getD 0.0

theorem depicts (complete : ∀ row ∈ rows, row.point.isComplete) :
    Depicts (text rows).toList (Csv.text rows).toList rows where
  latitudes := column_latitude rows
  longitudes := column_longitude rows
  points := by
    refine ⟨((points rows).map pair).map Json.text, ?_, forall₂_points rows⟩
    have listed : inserted rows .points =
        "[" ++ ",".intercalate (((points rows).map pair).map Json.text) ++ "]" := by
      rw [inserted, Json.text, Json.texts_eq_map]
    have close : "];" = "]" ++ ";" := rfl
    rw [linesWith_pointsStart, listed, close]
    simp only [String.append_assoc]
  view := by
    refine ⟨(center rows).latitude, (center rows).longitude, ?_,
      ⟨_, latitudes_eq complete, center_latitude rows⟩, center_longitude complete⟩
    have close : "], " = "]" ++ ", " := rfl
    rw [linesWith_viewStart, inserted, inserted, text_pair, zoom_eq complete, close]
    simp only [String.append_assoc]

/-- **The map and the table tell of one track.** For the track of any logbook the page depicts what the table
says, and a number that is not finite is listed as `null`. Each of the three places stands in the template
once. What is put in holds no brace, so that the page is the template with each place replaced by its own
text, whichever order they are filled in, and no place is left in it. -/
theorem toTrack_depicted {book : Logbook} {track : Track} (h : book.toTrack = .ok track) :
    Depicts (text track.rows).toList (Csv.text track.rows).toList track.rows ∧
    (∀ x : Float, (∀ negative size, Decimal.Reading.ofFloat x ≠ .finite negative size) →
      (Json.Number.real x).text = "null") ∧
    (∀ p : Place, occurrences (place p.name) template = 1 ∧ '\x7b' ∉ (inserted track.rows p).toList) ∧
    (∃ before comma between after : List Char,
      template = before ++ place "CENTER" ++ comma ++ place "ZOOM" ++ between ++ place "POINTS" ++ after ∧
      (text track.rows).toList =
        before ++ (inserted track.rows .center).toList ++ comma ++ (inserted track.rows .zoom).toList ++
          between ++ (inserted track.rows .points).toList ++ after) ∧
    (∀ order : List Place, (∀ p, p ∈ order) →
      order.foldl (fun text p => fill p.name (inserted track.rows p) text) template =
        (text track.rows).toList) ∧
    ¬ opening <:+: (text track.rows).toList := by
  have plain := plain_inserted track.rows
  refine ⟨depicts (Logbook.isComplete_of_toTrack h), fun x notFinite => ?_,
    fun p => ⟨occurrences_template p, brace_notMem_inserted track.rows p⟩, ?_, ?_, ?_⟩
  · rw [Json.Number.text, Decimal.Layout.text]
    split
    · rfl
    · split <;> rfl
    next negative size finite => exact absurd finite (notFinite negative size)
  · rw [toList_text]
    exact exists_surroundings (inserted track.rows)
  · intro order all
    rw [toList_text]
    exact (foldl_fill_template plain all).1
  · rw [toList_text]
    have all : ∀ p : Place, p ∈ [Place.center, .zoom, .points] := fun p => by cases p <;> decide
    exact (foldl_fill_template plain all).2

/-- Two rows with a position, the later one first, a row without a longitude, and a point without a latitude,
which is no row. -/
def mixedNotes : List LogbookNote :=
  [ .enter 0 { latitude := some 46.5, longitude := some 7.25, date := some 50 },
    .enter 1 { latitude := some 47.0 }, .skip 2 8, .enter 3 { longitude := some 8.0, date := some 1 },
    .enter 4 { latitude := some 1.0, longitude := some 2.0, date := some (-5) } ]

/-- Three lines of the table, two of them points of the map. -/
theorem toTrack_depicted_mixed : ∃ track, (Logbook.ofNotes mixedNotes).toTrack = .ok track ∧
    Depicts (text track.rows).toList (Csv.text track.rows).toList track.rows ∧
    track.rows.map TrackRow.index = [4, 0, 1] ∧ points track.rows = [⟨1.0, 2.0⟩, ⟨46.5, 7.25⟩] ∧
    zoom track.rows = 14 := by
  have closed := Logbook.toTrack_ofNotes (show mixedNotes ≠ [] from List.cons_ne_nil _ _)
  have entered : mixedNotes.filterMap LogbookNote.row? =
      [ { index := 0, point := { latitude := some 46.5, longitude := some 7.25, date := some 50 } },
        { index := 1, point := { latitude := some 47.0 } },
        { index := 3, point := { longitude := some 8.0, date := some 1 } },
        { index := 4, point := { latitude := some 1.0, longitude := some 2.0, date := some (-5) } } ] := rfl
  refine ⟨_, closed, (toTrack_depicted closed).1, ?_⟩
  rw [entered]
  simp [List.mergeSort, List.MergeSort.Internal.splitInTwo, List.merge, TrackRow.le, dateLe,
    TrackPoint.isComplete, points, zoom, TrackPoint.position?]

end MapPage

end SatelliteTrack
