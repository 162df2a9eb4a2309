import SatelliteTrack.Disk
import SatelliteTrack.Track.Csv
import SatelliteTrack.Track.MapPage

/-!
# The files of a track

A track is written to two files with one stem: the table first, then the map. If the table cannot be
written the map is not touched; a file that was written before a failure stays as it is.
-/

namespace SatelliteTrack

/-- The paths of the two files of a track. -/
structure OutputPaths where
  csv : String
  html : String
deriving DecidableEq, Repr

/-- The two paths of a stem. -/
def OutputPaths.ofStem (stem : String) : OutputPaths := { csv := stem ++ ".csv", html := stem ++ ".html" }

/-- The disk after the files of a track have been written, and their paths. -/
def writeOutputs (disk : Disk) (stem : String) (rows : List TrackRow) :
    Disk × Except Failure OutputPaths :=
  let paths := OutputPaths.ofStem stem
  match disk.write paths.csv (Csv.pieces rows) with
  | (disk, some fault) => (disk, .error (.io fault))
  | (disk, none) =>
    match disk.write paths.html [MapPage.text rows] with
    | (disk, some fault) => (disk, .error (.io fault))
    | (disk, none) => (disk, .ok paths)

/-- What writing the files of a track reports. -/
def OutputPaths.report (paths : OutputPaths) (rows : List TrackRow) : List LogLine :=
  [.wrote rows.length paths.csv paths.html]

end SatelliteTrack
