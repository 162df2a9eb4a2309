import SatelliteTrack.Broker.Client
import SatelliteTrack.Feed.Client
import SatelliteTrack.Settings
import SatelliteTrack.Track.Outputs

/-!
# The program

One execution reads its settings, fetches the messages, extracts their track and writes its two files.
The disk is touched only after the run has given a track. The exit status is 0 for a track that was
written and for the help and version texts, 1 for a run or a file that failed, and 2 for a command line
that gives no settings. When the clock cannot show the end of a wait the program has no exit status: it
is built to abort there and then, without unwinding.

## What is left out

* Of the log, what the client of the broker reports about its connection: that it connects, what it has
  sent, received or ignored, and that it has disconnected. All other lines are in `Execution.log`.
* Of the texts of faults in JSON, the place, in lines and columns, that ends them.
* Where an address, or a host and a port, lead: the world holds the two services that they lead to.
* Of the failures of the network, their causes below the protocols (names of hosts, encryption). They come
  as `BrokerFault.reported` and `FetchFault.reported`, with any text.
* Of the help text, its columns and its sections. Standard output takes everything.
-/

namespace SatelliteTrack

/-- What the program works on. -/
structure World where
  feed : FeedServer := {}
  broker : BrokerPeer := {}
  disk : Disk := {}

/-- How a process ends. -/
inductive Ending where
  | exited (status : Nat)
  /-- It stops itself by a signal, at once. -/
  | aborted
deriving DecidableEq, Repr

/-- What an execution leaves behind. -/
structure Execution where
  ending : Ending
  /-- The text on the standard output. -/
  stdout : String := ""
  /-- What is wrong with the command line. -/
  complaint : Option NoSettings := none
  /-- What is reported. The message of an abort is no part of it. -/
  log : List LogLine := []
  /-- How many kinds of lines are to be shown. -/
  verbose : Nat := 0
  world : World

namespace Program

/-- The name of the program. -/
def name : String := "astro-geoloc"

/-- The answer to a question for the version. -/
def versionText : String := name ++ " 0.1.0\n"

/-- A line of the help text for each setting. -/
def settingHelp (name : String) (setting : Setting) : String :=
  "      --" ++ name ++ " <VALUE>" ++
    (match setting.inherited? with
      | some source => " [env: " ++ source ++ "]"
      | none => "") ++
    (match setting.default? with
      | some value => " [default: " ++ value ++ "]"
      | none => "") ++ "\n"

/-- The answer to a question for help. -/
def helpText : String :=
  "Fetch AstroTracker messages from Astrocast, decode them and export `<output>.csv` and " ++
    "`<output>.html`\n\n" ++
    "Usage: " ++ name ++ " [OPTIONS] --start <VALUE> --output <VALUE>\n\nOptions:\n" ++
    String.join (Setting.names.map fun (name, setting) => settingHelp name setting) ++
    String.join (Switch.names.map fun (name, _) => "      --" ++ name ++ "\n")

/-- How the messages are extracted. -/
def extractor (settings : Settings) : Extractor where
  topics := .ofDevice settings.mqttDeviceId
  timeout := .ofSeconds settings.responseTimeout
  carryForward := settings.carryForward

/-- The account at the message service. -/
def feedClient (settings : Settings) : FeedClient := .ofAddress settings.apiUrl settings.apiToken

/-- The account at the broker. -/
def brokerClient (settings : Settings) : BrokerClient where
  deviceId := settings.mqttDeviceId
  username := settings.mqttUsername
  password := settings.mqttPassword

/-- The question to the message service. -/
def query (settings : Settings) : Query := { guid := settings.deviceGuid, since := settings.start }

/-- The run of the settings, and the message service after it. -/
def extraction (settings : Settings) (world : World) : Run BrokerPeer × FeedServer :=
  (extractor settings).run (feedClient settings).feed (brokerClient settings).service (query settings)
    world.feed world.broker

/-- How an execution ends that failed. -/
def failureEnding : Failure → Ending
  | .transport .clockOverflow => .aborted
  | _ => .exited 1

/-- The report of a failure, by a program that comes to it. -/
def failureReport (failure : Failure) : List LogLine :=
  match failureEnding failure with
  | .exited _ => [.failed failure]
  | .aborted => []

/-- The report of the skipped messages of a track. -/
def skippedReport (track : Track) : List LogLine :=
  track.skipped.map fun skip => .skipped skip.message skip.size

/-- An execution with settings. -/
def runWith (settings : Settings) (world : World) : Execution :=
  let (run, feed) := extraction settings world
  let world := { world with feed, broker := run.state }
  let verbose := settings.verbose
  match run.result with
  | .error failure =>
    { ending := failureEnding failure, log := run.log ++ failureReport failure, verbose, world }
  | .ok track =>
    let log := run.log ++ skippedReport track
    match writeOutputs world.disk settings.output track.rows with
    | (disk, .error failure) =>
      { ending := .exited 1, log := log ++ [.failed failure], verbose, world := { world with disk } }
    | (disk, .ok paths) =>
      { ending := .exited 0, log := log ++ paths.report track.rows, verbose, world := { world with disk } }

/-- An execution with the words after the name of the program. -/
def execute (words : List String) (environment : List (String × String)) (world : World) : Execution :=
  match settingsOf words environment with
  | .ok settings => runWith settings world
  | .error .help => { ending := .exited 0, stdout := helpText, world }
  | .error .version => { ending := .exited 0, stdout := versionText, world }
  | .error stop => { ending := .exited 2, complaint := some stop, world }

end Program

end SatelliteTrack
