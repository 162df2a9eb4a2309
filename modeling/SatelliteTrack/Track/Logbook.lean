import SatelliteTrack.Log
import SatelliteTrack.Track.Point

/-!
# The logbook and the track

A logbook gathers, in the order of the messages, the points that were decoded and the messages that were
skipped. Closing it gives the track: the complete points in the order of their dates, those without a
date at the end, equal dates in the order of entry. A logbook in which nothing was entered or skipped
gives no track; one without a complete point gives a track without rows.
-/

namespace SatelliteTrack

/-- A point and the place of its message in the fetched list. -/
structure TrackRow where
  index : Nat
  point : TrackPoint

/-- A message that was left out, by its place in the fetched list and the size of its payload. -/
structure Skip where
  message : Nat
  size : Nat
deriving DecidableEq, Repr

/-- The complete points of a run. -/
structure Track where
  rows : List TrackRow
  /-- The number of points that were entered, complete or not. -/
  collected : Nat
  skipped : List Skip

/-- The order of two dates: an unset date comes after all others. -/
def dateLe : Option Int → Option Int → Bool
  | some s, some t => s ≤ t
  | none, some _ => false
  | _, none => true

/-- The first row does not come after the second one. -/
def TrackRow.le (a b : TrackRow) : Bool := dateLe a.point.date b.point.date

/-- What is noted about one message. -/
inductive LogbookNote where
  | enter (index : Nat) (point : TrackPoint)
  | skip (index size : Nat)

/-- Points and skipped messages in the order in which they were noted. -/
structure Logbook where
  rows : List TrackRow := []
  skipped : List Skip := []

namespace Logbook

def empty : Logbook := {}

/-- A point is entered, complete or not. -/
def enter (book : Logbook) (index : Nat) (point : TrackPoint) : Logbook :=
  { book with rows := book.rows ++ [{ index, point }] }

/-- A message is skipped. -/
def skip (book : Logbook) (index size : Nat) : Logbook :=
  { book with skipped := book.skipped ++ [{ message := index, size }] }

def note (book : Logbook) : LogbookNote → Logbook
  | .enter index point => book.enter index point
  | .skip index size => book.skip index size

/-- The logbook of a sequence of notes. -/
def ofNotes (notes : List LogbookNote) : Logbook := notes.foldl note empty

/-- The number of points, without the skipped messages. -/
def size (book : Logbook) : Nat := book.rows.length

/-- Nothing was entered or skipped. -/
def isEmpty (book : Logbook) : Bool := book.rows.isEmpty && book.skipped.isEmpty

/-- The track of the complete points. -/
def toTrack (book : Logbook) : Except Failure Track :=
  if book.isEmpty then .error .emptyResult
  else .ok {
    rows := (book.rows.mergeSort TrackRow.le).filter fun row => row.point.isComplete
    collected := book.size
    skipped := book.skipped }

end Logbook

/-- What making a note reports. -/
def LogbookNote.report : LogbookNote → List LogLine
  | .enter _ _ => []
  | .skip index size => [.skipping index size]

/-- What closing a logbook reports. -/
def Track.report (track : Track) : List LogLine :=
  [.complete track.rows.length track.collected]

end SatelliteTrack
