import SatelliteTrack.Base64
import SatelliteTrack.Broker.Client
import SatelliteTrack.Broker.Packet
import SatelliteTrack.Broker.Session
import SatelliteTrack.Calendar
import SatelliteTrack.Clock
import SatelliteTrack.Decimal.Binary
import SatelliteTrack.Decimal.Fixed
import SatelliteTrack.Decimal.Layout
import SatelliteTrack.Decimal.Reader
import SatelliteTrack.Decimal.Shortest
import SatelliteTrack.Disk
import SatelliteTrack.Extraction
import SatelliteTrack.Failure
import SatelliteTrack.Feed.Client
import SatelliteTrack.Feed.MessageList
import SatelliteTrack.Feed.Url
import SatelliteTrack.Json.Fault
import SatelliteTrack.Json.Parser
import SatelliteTrack.Json.Printer
import SatelliteTrack.Json.Scanner
import SatelliteTrack.Json.Skip
import SatelliteTrack.Json.Value
import SatelliteTrack.Json.Wire
import SatelliteTrack.Log
import SatelliteTrack.Main
import SatelliteTrack.Message
import SatelliteTrack.Network
import SatelliteTrack.Position.Answer
import SatelliteTrack.Position.Coordinate
import SatelliteTrack.Position.Request
import SatelliteTrack.Program
import SatelliteTrack.Proofs.Base64Codec
import SatelliteTrack.Proofs.Base64Strictness
import SatelliteTrack.Proofs.CalendarDays
import SatelliteTrack.Proofs.Carrying
import SatelliteTrack.Proofs.Causality
import SatelliteTrack.Proofs.ClockLimits
import SatelliteTrack.Proofs.Closing
import SatelliteTrack.Proofs.Contribution
import SatelliteTrack.Proofs.Course
import SatelliteTrack.Proofs.CsvReading
import SatelliteTrack.Proofs.DateColumn
import SatelliteTrack.Proofs.DecimalText
import SatelliteTrack.Proofs.EntrySpelling
import SatelliteTrack.Proofs.Envelope
import SatelliteTrack.Proofs.Exchange
import SatelliteTrack.Proofs.Execution
import SatelliteTrack.Proofs.FailedOutputs
import SatelliteTrack.Proofs.Failures
import SatelliteTrack.Proofs.Files
import SatelliteTrack.Proofs.FormQuery
import SatelliteTrack.Proofs.Gathering
import SatelliteTrack.Proofs.Insertion
import SatelliteTrack.Proofs.JsonListing
import SatelliteTrack.Proofs.JsonNumbers
import SatelliteTrack.Proofs.JsonReading
import SatelliteTrack.Proofs.JsonRecognition
import SatelliteTrack.Proofs.JsonSkipping
import SatelliteTrack.Proofs.JsonSpelling
import SatelliteTrack.Proofs.LimitedSinks
import SatelliteTrack.Proofs.Logbook
import SatelliteTrack.Proofs.MapAgreement
import SatelliteTrack.Proofs.MessageAcceptance
import SatelliteTrack.Proofs.MessageSpelling
import SatelliteTrack.Proofs.MomentOrder
import SatelliteTrack.Proofs.MomentText
import SatelliteTrack.Proofs.Numbering
import SatelliteTrack.Proofs.PacketLimits
import SatelliteTrack.Proofs.PagePlaces
import SatelliteTrack.Proofs.Renumbering
import SatelliteTrack.Proofs.Reordering
import SatelliteTrack.Proofs.Reporting
import SatelliteTrack.Proofs.RequestTargets
import SatelliteTrack.Proofs.Requests
import SatelliteTrack.Proofs.Residues
import SatelliteTrack.Proofs.Resolution
import SatelliteTrack.Proofs.Sinks
import SatelliteTrack.Proofs.SlotCodec
import SatelliteTrack.Proofs.SlotSizes
import SatelliteTrack.Proofs.Suppliers
import SatelliteTrack.Proofs.UnusedInputs
import SatelliteTrack.Proofs.Waiting
import SatelliteTrack.Proofs.WholeNumbers
import SatelliteTrack.Settings
import SatelliteTrack.Sink
import SatelliteTrack.Slot.Layout
import SatelliteTrack.Slot.Reader
import SatelliteTrack.Text.Form
import SatelliteTrack.Text.Hex
import SatelliteTrack.Text.Hidden
import SatelliteTrack.Text.Pieces
import SatelliteTrack.Text.Quoted
import SatelliteTrack.Track.Csv
import SatelliteTrack.Track.Logbook
import SatelliteTrack.Track.MapPage
import SatelliteTrack.Track.Outputs
import SatelliteTrack.Track.Point
