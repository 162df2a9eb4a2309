import SatelliteTrack.Proofs.Sinks
import SatelliteTrack.Track.Outputs

/-!
# What is left on the disk

A path can be written when it leads to a place where a file may be and the disk takes a file of that size
there (`Disk.CanWrite`). Then writing puts the whole text there and leaves every other place as it was;
otherwise it reports a fault (`Disk.write_of_canWrite`, `Disk.write_of_not_canWrite`). Either way no locked
file is changed (`Disk.node?_write_of_locked`), and no space is lost (`Disk.space_write`).

A track is written to two files, one after the other. **The law** (`writeOutputs_of_canWrite`,
`writeOutputs_of_not_canWrite`): if both can be written, as the disk is before the first of them
(`CanWriteOutputs`), both are, in two different places, and nothing else is touched; if not, there is a
fault. The first file is in the way of the second one only by its space (`canWriteOutputs_iff`): where a
path leads depends on the directories, on what is locked, and on the place it leads to
(`SameDirectories.target`); no directory comes or goes, and the two places differ.
-/

namespace SatelliteTrack

namespace Disk

/-! ## Putting a file -/

theorem find?_putNode_self (place : Place) (node : Node) (nodes : List (Place × Node)) :
    ((putNode place node nodes).find? fun (p, _) => p == place) = some (place, node) := by
  induction nodes with
  | nil => simp [putNode]
  | cons first rest ih =>
    unfold putNode
    split
    · simp
    · next other => rw [List.find?_cons_of_neg (by simpa using other), ih]

theorem find?_putNode_of_ne {place other : Place} (h : other ≠ place) (node : Node)
    (nodes : List (Place × Node)) :
    ((putNode place node nodes).find? fun (p, _) => p == other) =
      nodes.find? fun (p, _) => p == other := by
  induction nodes with
  | nil => simp [putNode, Ne.symm h]
  | cons first rest ih =>
    unfold putNode
    split
    · next here => simp [here, Ne.symm h]
    · simp only [List.find?_cons, ih]

theorem node?_put {place : Place} (h : place ≠ []) (disk : Disk) (node : Node) :
    (disk.put place node).node? place = some node := by
  simp only [node?, put, if_neg h, find?_putNode_self, Option.map_some]

/-- The other places stay as they are. -/
theorem node?_put_of_ne {place other : Place} (h : other ≠ place) (disk : Disk) (node : Node) :
    (disk.put place node).node? other = disk.node? other := by
  simp only [node?, put, find?_putNode_of_ne h]

theorem node?_save {place : Place} (h : place ≠ []) (disk : Disk) (content : Bytes) :
    (disk.save place content).node? place = some (.file content) :=
  node?_put h disk _

theorem node?_save_of_ne {place other : Place} (h : other ≠ place) (disk : Disk) (content : Bytes) :
    (disk.save place content).node? other = disk.node? other :=
  node?_put_of_ne h disk _

theorem sizeAt_save {place : Place} (h : place ≠ []) (disk : Disk) (content : Bytes) :
    (disk.save place content).sizeAt place = content.length := by
  rw [sizeAt, node?_save h]

theorem sizeAt_save_of_ne {place other : Place} (h : other ≠ place) (disk : Disk) (content : Bytes) :
    (disk.save place content).sizeAt other = disk.sizeAt other := by
  rw [sizeAt, sizeAt, node?_save_of_ne h]

/-! ## Where a path leads -/

/-- Two disks with the same directories, and the same ones and the same files closed or locked. -/
structure SameDirectories (a b : Disk) : Prop where
  home : a.home = b.home
  closed : a.closed = b.closed
  locked : a.locked = b.locked
  directory : ∀ place, a.node? place = some .directory ↔ b.node? place = some .directory

/-- The name that a path ends in. -/
def lastName (path : String) : String :=
  ((Text.pieces '/' path.toList).map String.ofList).getLastD ""

namespace SameDirectories

variable {a b : Disk}

theorem symm (h : SameDirectories a b) : SameDirectories b a where
  home := h.home.symm
  closed := h.closed.symm
  locked := h.locked.symm
  directory place := (h.directory place).symm

theorem step (h : SameDirectories a b) {place next : Place} {name : String}
    (ok : a.step place name = .ok next) : b.step place name = .ok next := by
  unfold Disk.step at ok ⊢
  rw [h.closed] at ok
  by_cases none : name = ""
  · rwa [if_pos none] at ok ⊢
  rw [if_neg none] at ok ⊢
  by_cases closed : place ∈ b.closed
  · rw [if_pos closed] at ok
    cases ok
  rw [if_neg closed] at ok ⊢
  by_cases stays : name = "."
  · rwa [if_pos stays] at ok ⊢
  rw [if_neg stays] at ok ⊢
  by_cases up : name = ".."
  · rwa [if_pos up] at ok ⊢
  rw [if_neg up] at ok ⊢
  by_cases long : nameLimit < name.utf8ByteSize
  · rw [if_pos long] at ok
    cases ok
  rw [if_neg long] at ok ⊢
  split at ok
  · cases ok
  · cases ok
  · next there => rwa [(h.directory _).mp there]

theorem walk (h : SameDirectories a b) {place next : Place} {names : List String}
    (ok : a.walk place names = .ok next) : b.walk place names = .ok next := by
  induction names generalizing place with
  | nil => exact ok
  | cons name rest ih =>
    rw [Disk.walk] at ok ⊢
    split at ok
    · cases ok
    · next there => rw [h.step there]; exact ih ok

/-- In a directory it matters what is at the place itself. -/
theorem targetIn (h : SameDirectories a b) {place : Place} {name : String}
    (same : a.node? (place ++ [name]) = b.node? (place ++ [name])) :
    a.targetIn place name = b.targetIn place name := by
  unfold Disk.targetIn Disk.isLocked
  dsimp only
  rw [h.closed, h.locked, same]

/-- **A path leads to the same place on disks with the same directories**, if they agree about the files
of its last name. -/
theorem target (h : SameDirectories a b) {path : String} {place : Place}
    (same : ∀ parent, a.node? (parent ++ [lastName path]) = b.node? (parent ++ [lastName path]))
    (ok : a.target path = .ok place) : b.target path = .ok place := by
  unfold Disk.target at ok ⊢
  dsimp only at ok ⊢
  by_cases nul : path.toList.contains '\x00' = true
  · rwa [if_pos nul] at ok ⊢
  rw [if_neg nul] at ok ⊢
  by_cases empty : path.toList.isEmpty = true
  · rwa [if_pos empty] at ok ⊢
  rw [if_neg empty] at ok ⊢
  by_cases long : pathLimit < path.utf8ByteSize
  · rwa [if_pos long] at ok ⊢
  rw [if_neg long] at ok ⊢
  split at ok
  · cases ok
  · next parent there =>
    rw [h.home] at there
    rw [h.walk there]
    exact (h.targetIn (same parent)).symm.trans ok

end SameDirectories

/-- A file in a directory can be written if there is no directory in its place, and it is not locked. -/
theorem targetIn_eq_ok {disk : Disk} {parent place : Place} {name : String}
    (ok : disk.targetIn parent name = .ok place) :
    place = parent ++ [name] ∧ disk.node? place ≠ some .directory ∧ disk.isLocked place = false := by
  unfold targetIn at ok
  split at ok
  · cases ok
  split at ok
  · cases ok
  split at ok
  · cases ok
  dsimp only at ok
  split at ok
  · cases ok
  next free =>
    split at ok
    · cases ok
    next unlocked =>
      cases ok
      exact ⟨rfl, free, Bool.not_eq_true _ ▸ unlocked⟩

/-- A path leads to a place of its last name, and there is no directory, and nothing locked. -/
theorem target_eq_ok {disk : Disk} {path : String} {place : Place} (ok : disk.target path = .ok place) :
    (∃ parent, place = parent ++ [lastName path]) ∧ disk.node? place ≠ some .directory ∧
      disk.isLocked place = false := by
  unfold target at ok
  dsimp only at ok
  split at ok
  · cases ok
  split at ok
  · cases ok
  split at ok
  · cases ok
  split at ok
  · cases ok
  next parent _ =>
    obtain ⟨here, free, unlocked⟩ := targetIn_eq_ok ok
    exact ⟨⟨parent, here⟩, free, unlocked⟩

/-- No path leads to the root. -/
theorem target_ne_root {disk : Disk} {path : String} {place : Place} (leads : disk.target path = .ok place) :
    place ≠ [] := by
  obtain ⟨⟨parent, name⟩, -⟩ := target_eq_ok leads
  simp [name]

/-- A file in place of anything but a directory does not change the directories. -/
theorem sameDirectories_save {disk : Disk} {place : Place} (free : disk.node? place ≠ some .directory)
    (h : place ≠ []) (content : Bytes) : SameDirectories disk (disk.save place content) where
  home := rfl
  closed := rfl
  locked := rfl
  directory other := by
    by_cases here : other = place
    · subst here
      rw [node?_save h]
      exact ⟨fun there => absurd there free, nofun⟩
    · rw [node?_save_of_ne here]

/-! ## Writing one file -/

/-- A file of a size is not too large for the disk. -/
def Allows (disk : Disk) (size : Nat) : Prop := ∀ most, disk.largest = some most → size ≤ most

/-- There is space for so many bytes when so many others are given back. -/
def HasSpace (disk : Disk) (size freed : Nat) : Prop := ∀ left, disk.space = some left → size ≤ left + freed

/-- A text can be the content of the file at a place. -/
def Takes (disk : Disk) (place : Place) (text : String) : Prop :=
  disk.Allows (Text.utf8 text).length ∧ disk.HasSpace (Text.utf8 text).length (disk.sizeAt place)

/-- A text can be written to a path. -/
def CanWrite (disk : Disk) (path text : String) : Prop :=
  ∃ place, disk.target path = .ok place ∧ disk.Takes place text

theorem fits_narrow (sink : Sink) (limit : Nat) (full : IoFault) (bytes : Bytes) :
    (sink.narrow limit full).fits bytes = true ↔ sink.fits bytes = true ∧ bytes.length ≤ limit := by
  obtain ⟨room, own⟩ := sink
  cases room with
  | none => simp [Sink.narrow, Sink.fits]
  | some room =>
    unfold Sink.narrow
    split
    · next nearer =>
      simp only [Sink.fits, Option.all_some, decide_eq_true_eq] at nearer ⊢
      omega
    · next farther =>
      simp only [Sink.fits, Option.all_some, decide_eq_true_eq] at farther ⊢
      omega

theorem fits_sinkAt_iff (disk : Disk) (place : Place) (text : String) :
    (disk.sinkAt place).fits (Text.utf8 text) = true ↔ disk.Takes place text := by
  have whole : Sink.fits { room := disk.largest, full := .fileTooLarge } (Text.utf8 text) = true ↔
      disk.Allows (Text.utf8 text).length := by
    unfold Sink.fits Allows
    cases disk.largest <;> simp
  unfold sinkAt Takes HasSpace
  cases disk.space with
  | none => simp [whole]
  | some left => simp [fits_narrow, whole]

/-- On a disk without a limit for one file only the space counts. -/
theorem sinkAt_of_space {disk : Disk} {left : Nat} (unlimited : disk.largest = none)
    (counted : disk.space = some left) (place : Place) :
    disk.sinkAt place = { room := some (left + disk.sizeAt place), full := .noSpace } := by
  simp [sinkAt, Sink.narrow, unlimited, counted]

section

variable {disk : Disk} {path text : String} {pieces : List String} (whole : String.join pieces = text)
include whole

/-- **A text that can be written is written as a whole.** -/
theorem write_of_canWrite {place : Place} (leads : disk.target path = .ok place)
    (takes : disk.Takes place text) :
    disk.write path pieces = (disk.save place (Text.utf8 text), none) := by
  have fits := (disk.fits_sinkAt_iff place text).mpr takes
  simp only [write, leads, Sink.write_eq, whole, fits, if_true]

/-- **A text that cannot be written is reported.** -/
theorem write_of_not_canWrite (cannot : ¬ disk.CanWrite path text) :
    ∃ fault, (disk.write path pieces).2 = some fault := by
  unfold write
  split
  · next fault _ => exact ⟨fault, rfl⟩
  · next place leads =>
    have large : ¬ disk.Takes place text := fun takes => cannot ⟨place, leads, takes⟩
    refine ⟨(disk.sinkAt place).full, ?_⟩
    rw [Sink.write_eq, whole, if_neg (mt (disk.fits_sinkAt_iff place text).mp large)]

/-- A text for which there is not enough space is written as far as there is. -/
theorem write_of_noSpace {place : Place} {left : Nat} (leads : disk.target path = .ok place)
    (unlimited : disk.largest = none) (counted : disk.space = some left)
    (lacks : left + disk.sizeAt place < (Text.utf8 text).length) :
    disk.write path pieces =
      (disk.save place ((Text.utf8 text).take (left + disk.sizeAt place)), some .noSpace) := by
  have cut : ¬ (disk.sinkAt place).fits (Text.utf8 text) = true := by
    rw [sinkAt_of_space unlimited counted, Sink.fits, Option.all_some, decide_eq_true_eq]
    omega
  simp only [write, leads, Sink.write_eq, whole, if_neg cut]
  rw [sinkAt_of_space unlimited counted, Option.getD_some]

end

/-! ## Rights and space -/

section

variable {disk : Disk} {path : String} {pieces : List String}

/-- **What is locked is kept**: writing never changes a locked file, whatever the path. -/
theorem node?_write_of_locked {place : Place} {content : Bytes} (there : disk.node? place = some (.file content))
    (locked : place ∈ disk.locked) : (disk.write path pieces).1.node? place = some (.file content) := by
  unfold write
  split
  · exact there
  · next other leads =>
    obtain ⟨-, -, unlocked⟩ := target_eq_ok leads
    have apart : place ≠ other := by
      rintro rfl
      simp [isLocked, there, locked] at unlocked
    exact (node?_save_of_ne apart disk _).trans there

/-- What the sink of a place has taken fits into the space that is left and what is given back. -/
theorem length_write_sinkAt_le {left : Nat} (counted : disk.space = some left) (place : Place) :
    ((disk.sinkAt place).write pieces).bytes.length ≤ left + disk.sizeAt place := by
  have fits := (disk.sinkAt place).fits_write pieces
  generalize ((disk.sinkAt place).write pieces).bytes = bytes at fits ⊢
  simp only [sinkAt, counted, fits_narrow] at fits
  exact fits.2

/-- **No space is lost**: what is left and what a file takes are as much after writing it as before. -/
theorem space_write {place : Place} {left : Nat} (leads : disk.target path = .ok place)
    (counted : disk.space = some left) :
    let after := (disk.write path pieces).1
    ∃ left', after.space = some left' ∧ left' + after.sizeAt place = left + disk.sizeAt place := by
  intro after
  have taken : ((disk.sinkAt place).write pieces).bytes.length ≤ left + disk.sizeAt place :=
    length_write_sinkAt_le counted place
  have saved : after = disk.save place ((disk.sinkAt place).write pieces).bytes := by
    simp only [after, write, leads]
  rw [saved, sizeAt_save (target_ne_root leads), save, counted]
  exact ⟨_, rfl, Nat.sub_add_cancel taken⟩

end

end Disk

/-! ## Two names with one stem -/

namespace Text

/-- A text without separators is one piece. -/
theorem pieces_of_notMem {mark : Char} {cs : List Char} (h : mark ∉ cs) : pieces mark cs = [cs] := by
  induction cs with
  | nil => rfl
  | cons c rest ih =>
    rw [List.mem_cons, not_or] at h
    rw [pieces, ih h.2]
    exact if_neg (Ne.symm h.1)

/-- An ending without separators belongs to the last piece. -/
theorem pieces_append {mark : Char} {ending : List Char} (h : mark ∉ ending) (cs : List Char) :
    ∃ front last, pieces mark (cs ++ ending) = front ++ [last ++ ending] ∧
      pieces mark cs = front ++ [last] := by
  induction cs with
  | nil => exact ⟨[], [], pieces_of_notMem h, rfl⟩
  | cons c rest ih =>
    obtain ⟨front, last, whole, stem⟩ := ih
    rw [List.cons_append, pieces, pieces, whole, stem]
    cases front with
    | nil =>
      by_cases cut : c = mark
      · exact ⟨[[]], last, if_pos cut, if_pos cut⟩
      · exact ⟨[], c :: last, if_neg cut, if_neg cut⟩
    | cons piece front =>
      by_cases cut : c = mark
      · exact ⟨[] :: piece :: front, last, if_pos cut, if_pos cut⟩
      · exact ⟨(c :: piece) :: front, last, if_neg cut, if_neg cut⟩

end Text

/-- An ending without slashes is an ending of the last name. -/
theorem Disk.lastName_append (stem : String) {ending : String} (h : '/' ∉ ending.toList) :
    Disk.lastName (stem ++ ending) = Disk.lastName stem ++ ending := by
  obtain ⟨front, last, whole, alone⟩ := Text.pieces_append h stem.toList
  rw [Disk.lastName, Disk.lastName, String.toList_append, whole, alone, List.map_append,
    List.map_append, List.map_singleton, List.map_singleton, List.getLastD_concat,
    List.getLastD_concat, String.ofList_append, String.ofList_toList]

/-- The two files of a track have two names. -/
theorem OutputPaths.lastName_ne (stem : String) :
    Disk.lastName (OutputPaths.ofStem stem).csv ≠ Disk.lastName (OutputPaths.ofStem stem).html := by
  intro same
  rw [OutputPaths.ofStem, Disk.lastName_append stem (by decide), Disk.lastName_append stem (by decide),
    ← String.toList_inj, String.toList_append, String.toList_append] at same
  exact absurd (List.append_cancel_left same) (by decide)

/-! ## Writing the files of a track -/

/-- Both files of a track can be written: their paths lead to places, neither is too large, and there is
space for the table, and for the table and the page together, with what older files give back. -/
def CanWriteOutputs (disk : Disk) (stem : String) (rows : List TrackRow) : Prop :=
  let table := (Text.utf8 (Csv.text rows)).length
  let page := (Text.utf8 (MapPage.text rows)).length
  ∃ csv html, disk.target (OutputPaths.ofStem stem).csv = .ok csv ∧
    disk.target (OutputPaths.ofStem stem).html = .ok html ∧
    disk.Allows table ∧ disk.Allows page ∧ disk.HasSpace table (disk.sizeAt csv) ∧
    disk.HasSpace (table + page) (disk.sizeAt csv + disk.sizeAt html)

/-- A disk on which the files of a track were written: each is what it should be, whatever was there
before, and every other place is as it was. -/
structure Written (before : Disk) (stem : String) (rows : List TrackRow) (after : Disk) : Prop where
  csv : ∃ place, before.target (OutputPaths.ofStem stem).csv = .ok place ∧
    after.node? place = some (.file (Text.utf8 (Csv.text rows)))
  html : ∃ place, before.target (OutputPaths.ofStem stem).html = .ok place ∧
    after.node? place = some (.file (Text.utf8 (MapPage.text rows)))
  others : ∀ place, before.target (OutputPaths.ofStem stem).csv ≠ .ok place →
    before.target (OutputPaths.ofStem stem).html ≠ .ok place → after.node? place = before.node? place

theorem join_singleton (text : String) : String.join [text] = text := by
  rw [← String.toList_inj, String.toList_join]
  simp

section

variable {disk : Disk} {stem : String} {rows : List TrackRow} {csv html : Place}

/-- The table is not at a place for the map, in whatever directory. -/
theorem csv_ne_map (toCsv : disk.target (OutputPaths.ofStem stem).csv = .ok csv) (parent : Place) :
    parent ++ [Disk.lastName (OutputPaths.ofStem stem).html] ≠ csv := by
  obtain ⟨⟨csvParent, csvName⟩, -⟩ := Disk.target_eq_ok toCsv
  rw [csvName]
  intro same
  exact OutputPaths.lastName_ne stem (List.singleton_inj.mp (List.append_inj_right' same rfl)).symm

/-- The files of a track go to two places. -/
theorem target_ne (toCsv : disk.target (OutputPaths.ofStem stem).csv = .ok csv)
    (toHtml : disk.target (OutputPaths.ofStem stem).html = .ok html) : html ≠ csv := by
  obtain ⟨⟨parent, htmlName⟩, -⟩ := Disk.target_eq_ok toHtml
  rw [htmlName]
  exact csv_ne_map toCsv parent

/-- **The table does not change where the map goes.** -/
theorem target_html_save (toCsv : disk.target (OutputPaths.ofStem stem).csv = .ok csv) (content : Bytes) :
    (disk.save csv content).target (OutputPaths.ofStem stem).html = .ok html ↔
      disk.target (OutputPaths.ofStem stem).html = .ok html := by
  obtain ⟨-, free, -⟩ := Disk.target_eq_ok toCsv
  have kept := Disk.sameDirectories_save free (Disk.target_ne_root toCsv) content
  have same (parent : Place) :=
    Disk.node?_save_of_ne (csv_ne_map toCsv parent) disk content
  exact ⟨kept.symm.target same, kept.target fun parent => (same parent).symm⟩

/-- What is on the disk when there is a file at each of the two places. -/
theorem node?_save_save (toCsv : disk.target (OutputPaths.ofStem stem).csv = .ok csv)
    (toHtml : disk.target (OutputPaths.ofStem stem).html = .ok html) (table page : Bytes) :
    let after := (disk.save csv table).save html page
    after.node? csv = some (.file table) ∧ after.node? html = some (.file page) ∧
      ∀ place, place ≠ csv → place ≠ html → after.node? place = disk.node? place := by
  have apart := target_ne toCsv toHtml
  refine ⟨?_, Disk.node?_save (Disk.target_ne_root toHtml) _ _, ?_⟩
  · rw [Disk.node?_save_of_ne apart.symm, Disk.node?_save (Disk.target_ne_root toCsv)]
  · intro place notCsv notHtml
    rw [Disk.node?_save_of_ne notHtml, Disk.node?_save_of_ne notCsv]

/-- There is space for the map after the table if there was space for both. -/
theorem takes_save_iff (apart : html ≠ csv) {table page : String} (takes : disk.Takes csv table) :
    (disk.save csv (Text.utf8 table)).Takes html page ↔
      disk.Allows (Text.utf8 page).length ∧
        disk.HasSpace ((Text.utf8 table).length + (Text.utf8 page).length)
          (disk.sizeAt csv + disk.sizeAt html) := by
  obtain ⟨-, space⟩ := takes
  unfold Disk.Takes
  rw [Disk.sizeAt_save_of_ne apart]
  refine and_congr Iff.rfl ?_
  unfold Disk.HasSpace Disk.save
  cases counted : disk.space with
  | none => simp
  | some left =>
    have enough := space left counted
    simp only [Option.map_some, Option.some.injEq, forall_eq']
    omega

/-- Both files can be written if and only if the table can be, and then the map. -/
theorem canWriteOutputs_iff : CanWriteOutputs disk stem rows ↔
    ∃ csv, disk.target (OutputPaths.ofStem stem).csv = .ok csv ∧ disk.Takes csv (Csv.text rows) ∧
      (disk.save csv (Text.utf8 (Csv.text rows))).CanWrite (OutputPaths.ofStem stem).html
        (MapPage.text rows) := by
  constructor
  · rintro ⟨csv, html, toCsv, toHtml, tableAllowed, pageAllowed, tableSpace, space⟩
    have takes : disk.Takes csv (Csv.text rows) := ⟨tableAllowed, tableSpace⟩
    exact ⟨csv, toCsv, takes, html, (target_html_save toCsv _).mpr toHtml,
      (takes_save_iff (target_ne toCsv toHtml) takes).mpr ⟨pageAllowed, space⟩⟩
  · rintro ⟨csv, toCsv, takes, html, toHtml, takesPage⟩
    have toHtml := (target_html_save toCsv _).mp toHtml
    obtain ⟨pageAllowed, space⟩ := (takes_save_iff (target_ne toCsv toHtml) takes).mp takesPage
    exact ⟨csv, html, toCsv, toHtml, takes.1, pageAllowed, takes.2, space⟩

/-- When the table has been written the map is written on the disk with the table. -/
theorem writeOutputs_of_csv (toCsv : disk.target (OutputPaths.ofStem stem).csv = .ok csv)
    (takes : disk.Takes csv (Csv.text rows)) : writeOutputs disk stem rows =
      match (disk.save csv (Text.utf8 (Csv.text rows))).write (OutputPaths.ofStem stem).html
        [MapPage.text rows] with
      | (disk, some fault) => (disk, .error (.io fault))
      | (disk, none) => (disk, .ok (OutputPaths.ofStem stem)) := by
  have first := Disk.write_of_canWrite (rfl : String.join (Csv.pieces rows) = _) toCsv takes
  simp only [writeOutputs, first]
  rfl

/-- **Both files are written** if both can be. -/
theorem writeOutputs_of_canWrite (can : CanWriteOutputs disk stem rows) :
    (writeOutputs disk stem rows).2 = .ok (OutputPaths.ofStem stem) ∧
      Written disk stem rows (writeOutputs disk stem rows).1 := by
  obtain ⟨csv, toCsv, takes, html, leads, takesPage⟩ := canWriteOutputs_iff.mp can
  have toHtml := (target_html_save toCsv _).mp leads
  have second := Disk.write_of_canWrite (join_singleton (MapPage.text rows)) leads takesPage
  obtain ⟨table, page, others⟩ := node?_save_save toCsv toHtml (Text.utf8 (Csv.text rows))
    (Text.utf8 (MapPage.text rows))
  rw [writeOutputs_of_csv toCsv takes, second]
  refine ⟨rfl, ⟨csv, toCsv, table⟩, ⟨html, toHtml, page⟩, fun place notCsv notHtml => others place ?_ ?_⟩
  · rintro rfl
    exact notCsv toCsv
  · rintro rfl
    exact notHtml toHtml

/-- **A file that cannot be written is a failure.** -/
theorem writeOutputs_of_not_canWrite (cannot : ¬ CanWriteOutputs disk stem rows) :
    ∃ fault, (writeOutputs disk stem rows).2 = .error (.io fault) := by
  by_cases first : disk.CanWrite (OutputPaths.ofStem stem).csv (Csv.text rows)
  · obtain ⟨csv, toCsv, takes⟩ := first
    have second : ¬ (disk.save csv (Text.utf8 (Csv.text rows))).CanWrite (OutputPaths.ofStem stem).html
        (MapPage.text rows) :=
      fun map => cannot (canWriteOutputs_iff.mpr ⟨csv, toCsv, takes, map⟩)
    obtain ⟨fault, failed⟩ := Disk.write_of_not_canWrite (join_singleton (MapPage.text rows)) second
    refine ⟨fault, ?_⟩
    rw [writeOutputs_of_csv toCsv takes]
    revert failed
    rcases Disk.write _ _ [MapPage.text rows] with ⟨after, outcome⟩
    rintro ⟨⟩
    rfl
  · obtain ⟨fault, failed⟩ := Disk.write_of_not_canWrite (rfl : String.join (Csv.pieces rows) = _) first
    refine ⟨fault, ?_⟩
    unfold writeOutputs
    revert failed
    dsimp only
    rcases Disk.write disk _ (Csv.pieces rows) with ⟨after, outcome⟩
    rintro ⟨⟩
    rfl

end

end SatelliteTrack
