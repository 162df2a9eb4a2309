import SatelliteTrack.Sink
import SatelliteTrack.Text.Pieces

/-!
# Directories and files

A disk is a tree of directories and files. A path leads through directories to a name; `Disk.target`
finds the place of a file that is to be written, or the first obstacle on the way: directories may be
closed to the program, and files and directories locked against its changes. `Disk.write` replaces what
was at that place and leaves every other place as it was. There may be a limit on the size of a file, and
on the space for all files together: a text that is too long is written up to the nearer limit.

There are no links, and no other program uses the disk meanwhile.
-/

namespace SatelliteTrack

/-- The names from the root of the tree to a directory or a file. -/
abbrev Place := List String

/-- What is at a place. -/
inductive Node where
  | directory
  | file (content : Bytes)
deriving DecidableEq, Repr

structure Disk where
  /-- What is below the root. -/
  nodes : List (Place × Node) := []
  /-- The directory where a path begins that does not begin at the root. -/
  home : Place := []
  /-- The size of the largest file; unset if there is no limit. -/
  largest : Option Nat := none
  /-- How many bytes more the files can hold together; unset if there is no limit. -/
  space : Option Nat := none
  /-- The directories through which no path may lead. -/
  closed : List Place := []
  /-- The files that may not be changed, and the directories in which no file may be created. -/
  locked : List Place := []

/-- The size of the longest name, in bytes. -/
def nameLimit : Nat := 255

/-- The size of the longest path, in bytes. -/
def pathLimit : Nat := 4095

namespace Disk

/-- What is at a place, if anything. -/
def node? (disk : Disk) (place : Place) : Option Node :=
  if place = [] then some .directory
  else (disk.nodes.find? fun (p, _) => p == place).map Prod.snd

/-- The nodes with one put at a place. -/
def putNode (place : Place) (node : Node) : List (Place × Node) → List (Place × Node)
  | [] => [(place, node)]
  | (p, n) :: rest => if p = place then (place, node) :: rest else (p, n) :: putNode place node rest

/-- The disk with a node put at a place. -/
def put (disk : Disk) (place : Place) (node : Node) : Disk :=
  { disk with nodes := putNode place node disk.nodes }

/-- The disk with a directory at each place on the way from one place down a list of names. -/
def makeDirectoriesFrom (disk : Disk) (start : Place) : List String → Disk
  | [] => disk
  | name :: rest =>
    let place := start ++ [name]
    let disk := if (disk.node? place).isNone then disk.put place .directory else disk
    disk.makeDirectoriesFrom place rest

/-- The disk with a directory at every place from the root to the given one. -/
def makeDirectories (disk : Disk) (place : Place) : Disk := disk.makeDirectoriesFrom [] place

/-- The files in a directory, by name. -/
def filesIn (disk : Disk) (place : Place) : List (String × Bytes) :=
  disk.nodes.filterMap fun
    | (p, .file content) =>
      if p.dropLast = place then p.getLast?.map fun name => (name, content) else none
    | (_, .directory) => none

/-- The place that a name leads to from a directory. -/
def step (disk : Disk) (place : Place) (name : String) : Except IoFault Place :=
  if name = "" then .ok place
  else if place ∈ disk.closed then .error .permissionDenied
  else if name = "." then .ok place
  else if name = ".." then .ok place.dropLast
  else if nameLimit < name.utf8ByteSize then .error .nameTooLong
  else
    match disk.node? (place ++ [name]) with
    | none => .error .noSuchFile
    | some (.file _) => .error .notDirectory
    | some .directory => .ok (place ++ [name])

/-- The directory that names lead to. -/
def walk (disk : Disk) : Place → List String → Except IoFault Place
  | place, [] => .ok place
  | place, name :: rest =>
    match disk.step place name with
    | .error fault => .error fault
    | .ok place => disk.walk place rest

/-- A file may not be changed, or may not be created if it is not there yet. -/
def isLocked (disk : Disk) (place : Place) : Bool :=
  disk.locked.contains (if (disk.node? place).isSome then place else place.dropLast)

/-- The place of a file in a directory, where there may be one already. -/
def targetIn (disk : Disk) (place : Place) (name : String) : Except IoFault Place :=
  if place ∈ disk.closed then .error .permissionDenied
  else if name = "" ∨ name = "." ∨ name = ".." then .error .isDirectory
  else if nameLimit < name.utf8ByteSize then .error .nameTooLong
  else
    let place := place ++ [name]
    if disk.node? place = some .directory then .error .isDirectory
    else if disk.isLocked place then .error .permissionDenied
    else .ok place

/-- The place of the file that a path names. -/
def target (disk : Disk) (path : String) : Except IoFault Place :=
  let cs := path.toList
  let names := (Text.pieces '/' cs).map String.ofList
  if cs.contains '\x00' then .error .nulByte
  else if cs.isEmpty then .error .noSuchFile
  else if pathLimit < path.utf8ByteSize then .error .nameTooLong
  else
    match disk.walk (if cs.head? = some '/' then [] else disk.home) names.dropLast with
    | .error fault => .error fault
    | .ok place => disk.targetIn place (names.getLastD "")

/-- The size of the file at a place; zero if there is none. -/
def sizeAt (disk : Disk) (place : Place) : Nat :=
  match disk.node? place with
  | some (.file content) => content.length
  | _ => 0

/-- The disk with a file at a place, which takes its space when an older one has given back its own. -/
def save (disk : Disk) (place : Place) (content : Bytes) : Disk :=
  { disk.put place (.file content) with
    space := disk.space.map fun left => left + disk.sizeAt place - content.length }

/-- What takes the bytes of a new file at a place. An older one is cut first, which gives back its space. -/
def sinkAt (disk : Disk) (place : Place) : Sink :=
  let sink : Sink := { room := disk.largest, full := .fileTooLarge }
  match disk.space with
  | none => sink
  | some left => sink.narrow (left + disk.sizeAt place) .noSpace

/-- The disk after a text, given in pieces, was written as a whole file. -/
def write (disk : Disk) (path : String) (pieces : List String) : Disk × Option IoFault :=
  match disk.target path with
  | .error fault => (disk, some fault)
  | .ok place =>
    let taken := (disk.sinkAt place).write pieces
    (disk.save place taken.bytes, taken.fault)

end Disk

end SatelliteTrack
