import SatelliteTrack.Json.Printer
import SatelliteTrack.Track.Logbook

/-!
# The map of a track

A page with a marker for each row that has a position and a line through them in the order of the
track. The page is a template with three places, each in double braces; `fill` puts a text in every
place of a name. The view is centred on the mean latitude and the mean longitude, each taken over the
rows that have it; a page without rows shows the whole world.
-/

namespace SatelliteTrack.MapPage

/-- The lines of the page with its places. -/
def templateLines : List String :=
  [ "<!DOCTYPE html>",
    "<html>",
    "<head>",
    "    <meta charset=\"utf-8\" />",
    "    <meta name=\"viewport\" content=\"width=device-width, initial-scale=1.0\" />",
    "    <title>AstroTracker positions</title>",
    "    <link rel=\"stylesheet\" href=\"https://unpkg.com/leaflet@1.9.4/dist/leaflet.css\" />",
    "    <script src=\"https://unpkg.com/leaflet@1.9.4/dist/leaflet.js\"></script>",
    "    <style>html, body, #map \x7b height: 100%; margin: 0; \x7d</style>",
    "</head>",
    "<body>",
    "    <div id=\"map\"></div>",
    "    <script>",
    "        var map = L.map(\"map\").setView(\x7b\x7bCENTER\x7d\x7d, \x7b\x7bZOOM\x7d\x7d);",
    "        L.tileLayer(\"https://\x7bs\x7d.tile.openstreetmap.org/\x7bz\x7d/\x7bx\x7d/\x7by\x7d.png\", \x7b",
    "            maxZoom: 19,",
    "            attribution: \"&copy; OpenStreetMap contributors\"",
    "        \x7d).addTo(map);",
    "        var points = \x7b\x7bPOINTS\x7d\x7d;",
    "        points.forEach(function (p) \x7b L.marker(p).addTo(map); \x7d);",
    "        L.polyline(points, \x7b color: \"red\", weight: 2.5, opacity: 1 \x7d).addTo(map);",
    "    </script>",
    "</body>",
    "</html>" ]

/-- The page with its places. -/
def template : List Char := templateLines.flatMap fun line => line.toList ++ ['\n']

/-- The mark of a place in the template. -/
def place (name : String) : List Char := "\x7b\x7b".toList ++ name.toList ++ "\x7d\x7d".toList

/-- A text with every occurrence of a pattern replaced, from the left on; `skip` characters still belong
to the last occurrence. -/
def replaceFrom (pattern value : List Char) : (skip : Nat) → List Char → List Char
  | _, [] => []
  | skip + 1, _ :: rest => replaceFrom pattern value skip rest
  | 0, c :: rest =>
    if pattern.isPrefixOf (c :: rest) then
      value ++ replaceFrom pattern value (pattern.length - 1) rest
    else c :: replaceFrom pattern value 0 rest

/-- A page with a text in the places of a name. -/
def fill (name : String) (value : String) (page : List Char) : List Char :=
  replaceFrom (place name) value.toList 0 page

/-- How near a page with rows and a page without rows is. -/
def zoom (rows : List TrackRow) : Nat :=
  if rows.any fun row => row.point.latitude.isSome then 14 else 2

/-- The centre of the view: zero on an axis without values, and on both without a latitude. -/
def center (rows : List TrackRow) : Point :=
  match mean (rows.filterMap fun row => row.point.latitude) with
  | none => ⟨0.0, 0.0⟩
  | some latitude =>
    ⟨latitude, (mean (rows.filterMap fun row => row.point.longitude)).getD 0.0⟩

/-- The positions of the rows that have one. -/
def points (rows : List TrackRow) : List Point :=
  rows.filterMap fun row => row.point.position?

/-- A position as a list of two numbers. -/
def pair (p : Point) : Json :=
  .array [.number (.real p.latitude), .number (.real p.longitude)]

/-- The page of a track. -/
def text (rows : List TrackRow) : String :=
  String.ofList <|
    fill "POINTS" (Json.array ((points rows).map pair)).text <|
    fill "ZOOM" (toString (zoom rows)) <|
    fill "CENTER" (pair (center rows)).text template

end SatelliteTrack.MapPage
