import SatelliteTrack.Sink
import SatelliteTrack.Track.Logbook

/-!
# The table of a track

A line for the names of the columns and a line for each row, every line closed by a line feed. The
first cell is the place of the message; an unset field is an empty cell. No cell holds a comma, a quote
or a line feed, so nothing is quoted.
-/

namespace SatelliteTrack

/-- The text of an optional field. -/
def cell {α : Type} (text : α → String) : Option α → String
  | none => ""
  | some x => text x

/-- The cells of a row. -/
def TrackRow.cells (row : TrackRow) : List String :=
  [ toString row.index,
    cell Decimal.fractional.text row.point.latitude,
    cell Decimal.fractional.text row.point.longitude,
    cell Decimal.fractional.text row.point.battery,
    cell (fun n => toString n.toNat) row.point.temperature,
    cell Calendar.tableText row.point.date,
    cell (fun n => toString n.toNat) row.point.satellites,
    cell (fun n => toString n.toInt) row.point.speed ]

namespace Csv

/-- The names of the columns; the column of the places has none. -/
def header : String := ",latitude,longitude,battery,temperature,locationDate,SIV,gSpeed"

/-- The line of a row. -/
def line (row : TrackRow) : String := ",".intercalate row.cells

/-- The lines of a table. -/
def lines (rows : List TrackRow) : List String := header :: rows.map line

/-- The table in the pieces in which it is written. -/
def pieces (rows : List TrackRow) : List String := (lines rows).map (· ++ "\n")

/-- The whole table. -/
def text (rows : List TrackRow) : String := String.join (pieces rows)

/-- What a sink takes of the table. -/
def write (rows : List TrackRow) (sink : Sink) : Taken := sink.write (pieces rows)

end Csv

end SatelliteTrack
