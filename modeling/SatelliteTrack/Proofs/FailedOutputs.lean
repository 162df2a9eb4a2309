import SatelliteTrack.Proofs.Execution
import SatelliteTrack.Proofs.JsonReading
import SatelliteTrack.Proofs.LimitedSinks

/-!
# What a failure leaves on the disk

The files of a track are written one after the other, each in place of what was there, and nothing is
taken back. Either of them may not be opened, for whatever reason, or the disk may stop taking its bytes,
at any byte (`FailsAt`).

**The law** (`writeOutputs_left`) says for each of these steps what is left. As long as the table is not
opened nothing has changed. Then the place of the table holds a beginning of the new table, and the map is
not touched before the table is complete; from then on the place of the map is as it was, or holds a
beginning of the new map. No other place is touched.

So writing is not all or nothing (`writeOutputs_not_atomic`): a failure can leave a table without its map
(`writeOutputs_of_longStem`) or with a part of it (`writeOutputs_of_noSpace`), and it can cost an older
table. All this is about runs that gave a track; a run that did not leaves the
disk alone.
-/

namespace SatelliteTrack

/-! ## Steps that fail -/

/-- Some sink with a limit takes this of a text. -/
def Taken.Of (taken : Taken) (text : Bytes) : Prop :=
  ∃ full room pieces, pieces.flatten = text ∧ Stores full room pieces taken

theorem Taken.Of.bytes_eq {taken : Taken} {text : Bytes} (h : taken.Of text) (done : taken.fault = none) :
    taken.bytes = text := by
  obtain ⟨full, room, pieces, rfl, stored⟩ := h
  rcases stored.whole_or_beginning with ⟨-, -, same⟩ | ⟨failed, -⟩
  · exact same
  · cases done.symm.trans failed

theorem Taken.Of.beginning {taken : Taken} {text : Bytes} (h : taken.Of text) : taken.bytes <+: text := by
  obtain ⟨full, room, pieces, rfl, stored⟩ := h
  rcases stored.whole_or_beginning with ⟨-, -, same⟩ | ⟨-, -, beginning, -⟩
  · exact same ▸ List.prefix_rfl
  · exact beginning

theorem Sink.write_of (sink : Sink) (texts : List String) :
    (sink.write texts).Of (Text.utf8 (String.join texts)) := by
  have same := Text.flatten_map_utf8 texts
  obtain ⟨room, full⟩ := sink
  cases room with
  | some limit => exact ⟨full, limit, _, same, stores_write limit full texts⟩
  | none =>
    have fits : fits { room := none, full } (Text.utf8 (String.join texts)) = true := rfl
    rw [write_eq, if_pos fits, ← same]
    exact ⟨full, _, _, rfl, .all (Nat.le_refl _)⟩

/-- The steps of writing the files of a track at which it can fail. -/
inductive OutputStep where
  | openTable
  | writeTable
  | openMap
  | writeMap
deriving DecidableEq, Repr

/-- A failure at a step, and the disk that it leaves. A file that is not opened leaves the disk alone; one
that is opened holds what was taken of its text. -/
inductive FailsAt (disk : Disk) (stem : String) (rows : List TrackRow) :
    OutputStep → IoFault → Disk → Prop
  | openTable (fault : IoFault) : FailsAt disk stem rows .openTable fault disk
  | writeTable {csv : Place} {table : Taken} {fault : IoFault}
      (toCsv : disk.target (OutputPaths.ofStem stem).csv = .ok csv)
      (written : table.Of (Text.utf8 (Csv.text rows))) (failed : table.fault = some fault) :
      FailsAt disk stem rows .writeTable fault (disk.save csv table.bytes)
  | openMap {csv : Place} {table : Taken} (fault : IoFault)
      (toCsv : disk.target (OutputPaths.ofStem stem).csv = .ok csv)
      (written : table.Of (Text.utf8 (Csv.text rows))) (done : table.fault = none) :
      FailsAt disk stem rows .openMap fault (disk.save csv table.bytes)
  | writeMap {csv html : Place} {table map : Taken} {fault : IoFault}
      (toCsv : disk.target (OutputPaths.ofStem stem).csv = .ok csv)
      (written : table.Of (Text.utf8 (Csv.text rows))) (done : table.fault = none)
      (toHtml : (disk.save csv table.bytes).target (OutputPaths.ofStem stem).html = .ok html)
      (drawn : map.Of (Text.utf8 (MapPage.text rows))) (failed : map.fault = some fault) :
      FailsAt disk stem rows .writeMap fault
        ((disk.save csv table.bytes).save html map.bytes)

/-- The two ways of writing a file: it is not opened, or it holds what was taken. -/
theorem Disk.write_cases (disk : Disk) (path : String) (pieces : List String) :
    (∃ fault, disk.write path pieces = (disk, some fault)) ∨
      ∃ place, ∃ taken : Taken, disk.target path = .ok place ∧ taken.Of (Text.utf8 (String.join pieces)) ∧
        disk.write path pieces = (disk.save place taken.bytes, taken.fault) := by
  unfold write
  split
  · next fault _ => exact .inl ⟨fault, rfl⟩
  · next place leads => exact .inr ⟨place, _, leads, Sink.write_of _ pieces, rfl⟩

section

variable {disk : Disk} {stem : String} {rows : List TrackRow}

/-- A failure is one at a step. -/
theorem writeOutputs_fails {failure : Failure} (failed : (writeOutputs disk stem rows).2 = .error failure) :
    ∃ step fault, failure = .io fault ∧ FailsAt disk stem rows step fault (writeOutputs disk stem rows).1 := by
  unfold writeOutputs at failed ⊢
  dsimp only at failed ⊢
  rcases disk.write_cases (OutputPaths.ofStem stem).csv (Csv.pieces rows) with
    ⟨fault, unopened⟩ | ⟨csv, table, toCsv, written, opened⟩
  · rw [unopened] at failed ⊢
    cases failed
    exact ⟨.openTable, fault, rfl, .openTable fault⟩
  rw [opened] at failed ⊢
  cases done : table.fault with
  | some fault =>
    rw [done] at failed
    cases failed
    exact ⟨.writeTable, fault, rfl, .writeTable toCsv written done⟩
  | none =>
    rw [done] at failed
    rcases (disk.save csv table.bytes).write_cases (OutputPaths.ofStem stem).html [MapPage.text rows]
      with ⟨fault, unopened⟩ | ⟨html, map, toHtml, drawn, opened⟩
    · simp only [unopened] at failed ⊢
      cases failed
      exact ⟨.openMap, fault, rfl, .openMap fault toCsv written done⟩
    · rw [join_singleton] at drawn
      simp only [opened] at failed ⊢
      cases broken : map.fault with
      | some fault =>
        simp only [broken] at failed ⊢
        cases failed
        exact ⟨.writeMap, fault, rfl, .writeMap toCsv written done toHtml drawn broken⟩
      | none =>
        simp only [broken] at failed
        cases failed

/-! ## What is left -/

/-- What a failure at a step leaves on the disk. -/
inductive LeftBehind (before : Disk) (stem : String) (rows : List TrackRow) (after : Disk) :
    OutputStep → Prop
  | openTable (same : ∀ place, after.node? place = before.node? place) :
      LeftBehind before stem rows after .openTable
  | writeTable {csv : Place} {content : Bytes}
      (toCsv : before.target (OutputPaths.ofStem stem).csv = .ok csv)
      (table : after.node? csv = some (.file content)) (part : content <+: Text.utf8 (Csv.text rows))
      (map : ∀ html, before.target (OutputPaths.ofStem stem).html = .ok html →
        after.node? html = before.node? html)
      (others : ∀ place, place ≠ csv → after.node? place = before.node? place) :
      LeftBehind before stem rows after .writeTable
  | openMap {csv : Place} (toCsv : before.target (OutputPaths.ofStem stem).csv = .ok csv)
      (table : after.node? csv = some (.file (Text.utf8 (Csv.text rows))))
      (map : ∀ html, before.target (OutputPaths.ofStem stem).html = .ok html →
        after.node? html = before.node? html)
      (others : ∀ place, place ≠ csv → after.node? place = before.node? place) :
      LeftBehind before stem rows after .openMap
  | writeMap {csv html : Place} {content : Bytes}
      (toCsv : before.target (OutputPaths.ofStem stem).csv = .ok csv)
      (toHtml : before.target (OutputPaths.ofStem stem).html = .ok html)
      (table : after.node? csv = some (.file (Text.utf8 (Csv.text rows))))
      (map : after.node? html = some (.file content)) (part : content <+: Text.utf8 (MapPage.text rows))
      (others : ∀ place, place ≠ csv → place ≠ html → after.node? place = before.node? place) :
      LeftBehind before stem rows after .writeMap

/-- A file at the place of the table leaves every other place alone, that of the map among them. -/
theorem node?_save_table {csv : Place} (toCsv : disk.target (OutputPaths.ofStem stem).csv = .ok csv)
    (content : Bytes) :
    let after := disk.save csv content
    after.node? csv = some (.file content) ∧
      (∀ html, disk.target (OutputPaths.ofStem stem).html = .ok html →
        after.node? html = disk.node? html) ∧
      ∀ place, place ≠ csv → after.node? place = disk.node? place := by
  refine ⟨Disk.node?_save (Disk.target_ne_root toCsv) _ _, ?_, ?_⟩
  · intro html toHtml
    exact Disk.node?_save_of_ne (target_ne toCsv toHtml) _ _
  · intro place other
    exact Disk.node?_save_of_ne other _ _

theorem FailsAt.leftBehind {step : OutputStep} {fault : IoFault} {after : Disk}
    (h : FailsAt disk stem rows step fault after) : LeftBehind disk stem rows after step := by
  cases h with
  | openTable => exact .openTable fun place => rfl
  | writeTable toCsv written failed =>
    obtain ⟨there, map, others⟩ := node?_save_table toCsv _
    exact .writeTable toCsv there written.beginning map others
  | openMap _ toCsv written done =>
    rw [written.bytes_eq done]
    obtain ⟨there, map, others⟩ := node?_save_table toCsv _
    exact .openMap toCsv there map others
  | writeMap toCsv written done toHtml drawn failed =>
    rw [written.bytes_eq done] at toHtml ⊢
    have first := (target_html_save toCsv _).mp toHtml
    obtain ⟨table, map, others⟩ := node?_save_save toCsv first _ _
    exact .writeMap toCsv first table map drawn.beginning others

end

/-! ## A disk that fills -/

/-- **A table with a part of its map**: there is space for the table, and not for all of the map. -/
theorem writeOutputs_of_noSpace {disk : Disk} {stem : String} {rows : List TrackRow} {csv html : Place}
    {left : Nat} (toCsv : disk.target (OutputPaths.ofStem stem).csv = .ok csv)
    (toHtml : disk.target (OutputPaths.ofStem stem).html = .ok html) (unlimited : disk.largest = none)
    (counted : disk.space = some left) :
    let table := Text.utf8 (Csv.text rows)
    let page := Text.utf8 (MapPage.text rows)
    let room := left + disk.sizeAt csv - table.length + disk.sizeAt html
    let after := (writeOutputs disk stem rows).1
    table.length ≤ left + disk.sizeAt csv → room < page.length →
      (writeOutputs disk stem rows).2 = .error (.io .noSpace) ∧ after.node? csv = some (.file table) ∧
        after.node? html = some (.file (page.take room)) := by
  intro table page room after enough lacks
  have apart := target_ne toCsv toHtml
  have takes : disk.Takes csv (Csv.text rows) := by
    constructor
    · rw [Disk.Allows, unlimited]
      nofun
    · rw [Disk.HasSpace, counted]
      rintro _ ⟨⟩
      exact enough
  let next := disk.save csv table
  have space : next.space = some (left + disk.sizeAt csv - table.length) :=
    congrArg (Option.map fun left => left + disk.sizeAt csv - table.length) counted
  have given : next.sizeAt html = disk.sizeAt html := Disk.sizeAt_save_of_ne apart disk table
  have second : next.write (OutputPaths.ofStem stem).html [MapPage.text rows] =
      (next.save html (page.take room), some .noSpace) := by
    have leads := (target_html_save toCsv table).mpr toHtml
    have cut := Disk.write_of_noSpace (join_singleton (MapPage.text rows)) leads unlimited space
    rw [given] at cut
    exact cut lacks
  have steps : writeOutputs disk stem rows = (next.save html (page.take room), .error (.io .noSpace)) := by
    rw [writeOutputs_of_csv toCsv takes, second]
  obtain ⟨there, part, -⟩ := node?_save_save toCsv toHtml table (page.take room)
  simp only [after, steps]
  exact ⟨trivial, there, part⟩

/-! ## A name that is too long -/

section

variable {disk : Disk} {name : String}

/-- A name alone is looked for in the directory where paths begin. -/
theorem Disk.target_name (noNul : '\x00' ∉ name.toList) (noSlash : '/' ∉ name.toList) (nonempty : name ≠ "")
    (short : name.utf8ByteSize ≤ pathLimit) : disk.target name = disk.targetIn disk.home name := by
  have chars : name.toList ≠ [] := fun none => nonempty (String.toList_eq_nil_iff.mp none)
  have relative : name.toList.head? ≠ some '/' := fun first => noSlash (List.mem_of_mem_head? first)
  unfold target
  dsimp only
  rw [if_neg (by simpa using noNul), if_neg (by simpa using chars), if_neg (Nat.not_lt.mpr short),
    Text.pieces_of_notMem noSlash, if_neg relative]
  show disk.targetIn disk.home (String.ofList name.toList) = _
  rw [String.ofList_toList]

theorem Disk.write_of_target_error {path : String} {fault : IoFault} (h : disk.target path = .error fault)
    (pieces : List String) : disk.write path pieces = (disk, some fault) := by
  rw [write, h]

/-- The names with a meaning of their own are short. -/
theorem not_special_of_size (size : 2 < name.utf8ByteSize) : ¬ (name = "" ∨ name = "." ∨ name = "..") := by
  rintro (rfl | rfl | rfl) <;> exact absurd size (by decide)

theorem Disk.targetIn_of_free {place : Place} (opened : place ∉ disk.closed) (size : 2 < name.utf8ByteSize)
    (short : name.utf8ByteSize ≤ nameLimit) (free : disk.node? (place ++ [name]) ≠ some .directory)
    (unlocked : disk.isLocked (place ++ [name]) = false) :
    disk.targetIn place name = .ok (place ++ [name]) := by
  unfold targetIn
  rw [if_neg opened, if_neg (not_special_of_size size), if_neg (Nat.not_lt.mpr short)]
  dsimp only
  rw [if_neg free, unlocked]
  rfl

theorem Disk.targetIn_of_long {place : Place} (opened : place ∉ disk.closed)
    (long : nameLimit < name.utf8ByteSize) : disk.targetIn place name = .error .nameTooLong := by
  have size : 2 < name.utf8ByteSize := Nat.lt_trans (by decide) long
  rw [targetIn, if_neg opened, if_neg (not_special_of_size size), if_pos long]

end

/-- **A table without a map**: a stem of 251 bytes is short enough for the name of the table, and a byte
too long for that of the map. -/
theorem writeOutputs_of_longStem {disk : Disk} {stem : String} {rows : List TrackRow}
    (noNul : '\x00' ∉ stem.toList) (noSlash : '/' ∉ stem.toList) (size : stem.utf8ByteSize = 251)
    (opened : disk.home ∉ disk.closed) (free : disk.node? (disk.home ++ [stem ++ ".csv"]) ≠ some .directory)
    (unlocked : disk.isLocked (disk.home ++ [stem ++ ".csv"]) = false)
    (takes : disk.Takes (disk.home ++ [stem ++ ".csv"]) (Csv.text rows)) :
    writeOutputs disk stem rows =
      (disk.save (disk.home ++ [stem ++ ".csv"]) (Text.utf8 (Csv.text rows)),
        .error (.io .nameTooLong)) := by
  have csvSize : (stem ++ ".csv").utf8ByteSize = 255 := by
    rw [String.utf8ByteSize_append, size]
    rfl
  have htmlSize : (stem ++ ".html").utf8ByteSize = 256 := by
    rw [String.utf8ByteSize_append, size]
    rfl
  have inHome (any : Disk) {name : String} (noNul : '\x00' ∉ name.toList) (noSlash : '/' ∉ name.toList)
      (least : 255 ≤ name.utf8ByteSize) (most : name.utf8ByteSize ≤ pathLimit) :
      any.target name = any.targetIn any.home name := by
    refine Disk.target_name noNul noSlash ?_ most
    rintro rfl
    exact absurd least (by decide)
  have toCsv : disk.target (OutputPaths.ofStem stem).csv = .ok (disk.home ++ [stem ++ ".csv"]) := by
    show disk.target (stem ++ ".csv") = _
    rw [inHome disk (by simp [noNul]) (by simp [noSlash]) (by omega) (by rw [csvSize]; decide)]
    exact Disk.targetIn_of_free opened (by omega) (by rw [csvSize]; decide) free unlocked
  let next := disk.save (disk.home ++ [stem ++ ".csv"]) (Text.utf8 (Csv.text rows))
  have toHtml : next.target (OutputPaths.ofStem stem).html = .error .nameTooLong := by
    show next.target (stem ++ ".html") = _
    rw [inHome next (by simp [noNul]) (by simp [noSlash]) (by omega) (by rw [htmlSize]; decide)]
    exact Disk.targetIn_of_long opened (by rw [htmlSize]; decide)
  rw [writeOutputs_of_csv toCsv takes, Disk.write_of_target_error toHtml]

/-- A stem whose table can be opened and whose map cannot. -/
def tooLongStem : String := String.ofList (List.replicate 251 'x')

theorem writeOutputs_tooLongStem : writeOutputs {} tooLongStem [] =
    (Disk.save {} [tooLongStem ++ ".csv"] (Text.utf8 (Csv.text [])),
      .error (.io .nameTooLong)) := by
  have chars : tooLongStem.toList = List.replicate 251 'x' := String.toList_ofList
  have size : tooLongStem.utf8ByteSize = 251 := by
    rw [Json.utf8ByteSize_eq_sum, chars, List.map_replicate, List.sum_replicate_nat]
    rfl
  have only {c : Char} (other : c ≠ 'x') : c ∉ tooLongStem.toList := by
    rw [chars]
    exact fun mem => other (List.eq_of_mem_replicate mem)
  have free : Disk.node? {} [tooLongStem ++ ".csv"] ≠ some .directory := nofun
  exact writeOutputs_of_longStem (only (by decide)) (only (by decide)) size nofun free rfl ⟨nofun, nofun⟩

/-- A disk that takes no byte of any file, with a table of an earlier track. -/
def fullDisk : Disk := { nodes := [(["t.csv"], .file [0x31])], largest := some 0 }

/-! ## The law -/

/-- **What a failure leaves.** A failure of writing the files of a track is one at a step, and at whatever
step writing fails, on whatever disk, what is left is what `LeftBehind` says. An execution whose run gives
no track does not get to the first step. -/
theorem writeOutputs_left (disk : Disk) (stem : String) (rows : List TrackRow) :
    (∀ failure, (writeOutputs disk stem rows).2 = .error failure → ∃ step fault, failure = .io fault ∧
      FailsAt disk stem rows step fault (writeOutputs disk stem rows).1) ∧
    (∀ step fault after, FailsAt disk stem rows step fault after →
      LeftBehind disk stem rows after step) ∧
    ∀ words environment settings, settingsOf words environment = .ok settings →
      ∀ (feed : FeedServer) (broker : BrokerPeer) failure,
        (Program.extraction settings { feed, broker, disk }).1.result = .error failure →
        (Program.execute words environment { feed, broker, disk }).world.disk = disk := by
  refine ⟨fun failure => writeOutputs_fails, fun step fault after => FailsAt.leftBehind, ?_⟩
  intro words environment settings accepted feed broker failure failed
  have executed : Program.execute words environment { feed, broker, disk } =
      Program.runWith settings { feed, broker, disk } := by
    rw [Program.execute, accepted]
  rw [executed]
  unfold Program.runWith
  simp only [failed]

/-- A failure of writing, and an execution that fails before, since there is no message service. -/
theorem writeOutputs_left_samples :
    (∃ step, LeftBehind {} tooLongStem [] (writeOutputs {} tooLongStem []).1 step) ∧
    (Program.execute Program.sampleWords Program.sampleEnvironment {}).world.disk.nodes = [] := by
  obtain ⟨steps, left, untouched⟩ := writeOutputs_left {} tooLongStem []
  constructor
  · have failed : (writeOutputs {} tooLongStem []).2 = .error (.io .nameTooLong) :=
      congrArg Prod.snd writeOutputs_tooLongStem
    obtain ⟨step, fault, -, fails⟩ := steps _ failed
    exact ⟨step, left step fault _ fails⟩
  · have accepted : settingsOf Program.sampleWords Program.sampleEnvironment =
        .ok Program.sampleSettings := by cbv
    have failed : (Program.extraction Program.sampleSettings {}).1.result =
        .error (.transport (.fetch .connectionRefused)) := rfl
    exact congrArg Disk.nodes (untouched _ _ _ accepted {} {} _ failed)

/-- **Writing is not all or nothing.** On an empty disk a table can be left without its map, and on a disk
that takes no bytes an earlier table is lost. -/
theorem writeOutputs_not_atomic :
    (writeOutputs {} tooLongStem []).2 = .error (.io .nameTooLong) ∧
    Disk.node? {} [tooLongStem ++ ".csv"] = none ∧
    (writeOutputs {} tooLongStem []).1.node? [tooLongStem ++ ".csv"] =
      some (.file (Text.utf8 (Csv.text []))) ∧
    (writeOutputs fullDisk "t" []).2 = .error (.io .fileTooLarge) ∧
    fullDisk.node? ["t.csv"] = some (.file [0x31]) ∧
    (writeOutputs fullDisk "t" []).1.node? ["t.csv"] = some (.file []) := by
  rw [writeOutputs_tooLongStem]
  refine ⟨rfl, rfl, ?_, ?_, rfl, ?_⟩
  · exact Disk.node?_save (List.cons_ne_nil _ _) _ _
  · rfl
  · rfl

end SatelliteTrack
