/-!
# Settings

The program takes its settings from the command line; some of them may come from the environment, and
some have a default. The command line is read word by word. A setting waits for its value until the next
word that is a setting or a switch, or until the end; only then is the value checked. So a word that
nobody knows is refused before a bad value that stands in front of it. `settingsOf` gives the settings,
or the first reason why there are none.
-/

namespace SatelliteTrack

/-- A setting that takes a value. -/
inductive Setting where
  | apiToken
  | deviceGuid
  | apiUrl
  | start
  | output
  | mqttHost
  | mqttPort
  | mqttDeviceId
  | mqttUsername
  | mqttPassword
  | responseTimeout
deriving DecidableEq, Repr

/-- A word that stands alone. -/
inductive Switch where
  | noCarryForward
  | verbose
  | help
  | version
deriving DecidableEq, Repr

/-- Why the command line gives no settings. -/
inductive NoSettings where
  | help
  | version
  | unknownArgument
  /-- A setting has no value. -/
  | invalidValue
  /-- A value is not one of its setting. -/
  | valueValidation
  /-- A setting or a switch is given twice. -/
  | argumentConflict
  /-- A switch has a value. -/
  | tooManyValues
  | missingRequiredArgument
deriving DecidableEq, Repr

/-- The reason in words. -/
def NoSettings.message : NoSettings → String
  | .help => "help was asked for"
  | .version => "the version was asked for"
  | .unknownArgument => "unexpected argument"
  | .invalidValue => "a value is required"
  | .valueValidation => "invalid value"
  | .argumentConflict => "an argument cannot be used multiple times"
  | .tooManyValues => "unexpected value"
  | .missingRequiredArgument => "a required argument was not provided"

/-- What the program works with. -/
structure Settings where
  apiToken : String
  deviceGuid : String
  apiUrl : String
  start : String
  output : String
  mqttHost : String
  mqttPort : Nat
  mqttDeviceId : String
  mqttUsername : String
  mqttPassword : String
  /-- Seconds. -/
  responseTimeout : Nat
  carryForward : Bool
  verbose : Nat
deriving DecidableEq, Repr

/-! ## Numbers -/

/-- The number of decimal digits, of which there is at least one. -/
def digitsNumber? (cs : List Char) : Option Nat :=
  if cs.isEmpty then none
  else cs.foldl (fun n c => n.bind fun n => if c.isDigit then some (n * 10 + (c.toNat - '0'.toNat)) else none)
    (some 0)

/-- A whole number with an optional sign. -/
def wholeNumber? (text : String) : Option Int :=
  match text.toList with
  | '-' :: digits => (digitsNumber? digits).map fun n => -(n : Int)
  | '+' :: digits => (digitsNumber? digits).map Int.ofNat
  | digits => (digitsNumber? digits).map Int.ofNat

/-- A port: a whole number of sixteen bits. -/
def port? (text : String) : Option Nat :=
  (wholeNumber? text).bind fun n => if 0 ≤ n ∧ n < 0x10000 then some n.toNat else none

/-- A number of seconds: one of sixty-four bits, without a minus sign. -/
def seconds? (text : String) : Option Nat :=
  if text.toList.head? = some '-' then none
  else (wholeNumber? text).bind fun n => if n < 0x10000000000000000 then some n.toNat else none

/-! ## Names -/

namespace Setting

/-- All settings with their names on the command line. -/
def names : List (String × Setting) :=
  [ ("api-token", .apiToken), ("device-guid", .deviceGuid), ("api-url", .apiUrl), ("start", .start),
    ("output", .output), ("mqtt-host", .mqttHost), ("mqtt-port", .mqttPort),
    ("mqtt-device-id", .mqttDeviceId), ("mqtt-username", .mqttUsername),
    ("mqtt-password", .mqttPassword), ("response-timeout", .responseTimeout) ]

/-- The setting of a name. -/
def ofName? (name : String) : Option Setting := names.lookup name

/-- The setting of a letter. -/
def ofLetter? (c : Char) : Option Setting := if c = 'o' then some .output else none

/-- The variable of the environment that a setting may come from. -/
def inherited? : Setting → Option String
  | .apiToken => some "ASTROCAST_API_TOKEN"
  | .deviceGuid => some "ASTROCAST_DEVICE_GUID"
  | .mqttDeviceId => some "THINGSTREAM_DEVICE_ID"
  | .mqttUsername => some "THINGSTREAM_USERNAME"
  | .mqttPassword => some "THINGSTREAM_PASSWORD"
  | _ => none

/-- The value of a setting that is given nowhere. -/
def default? : Setting → Option String
  | .apiUrl => some "https://api.astrocast.com"
  | .mqttHost => some "mqtt.thingstream.io"
  | .mqttPort => some "1883"
  | .responseTimeout => some "60"
  | _ => none

/-- The text is a value of the setting. -/
def accepts (setting : Setting) (text : String) : Bool :=
  match setting with
  | .mqttPort => (port? text).isSome
  | .responseTimeout => (seconds? text).isSome
  | _ => true

end Setting

namespace Switch

/-- All switches with their names on the command line. -/
def names : List (String × Switch) :=
  [ ("no-carry-forward", .noCarryForward), ("verbose", .verbose), ("help", .help), ("version", .version) ]

/-- The switch of a name. -/
def ofName? (name : String) : Option Switch := names.lookup name

/-- The switch of a letter. -/
def ofLetter? (c : Char) : Option Switch :=
  if c = 'v' then some .verbose
  else if c = 'h' then some .help
  else if c = 'V' then some .version
  else none

end Switch

/-! ## Words -/

/-- A word of the command line by its form. -/
inductive Word where
  /-- Two dashes: no names follow. -/
  | close
  | long (name : String) (value : Option String)
  | letters (cs : List Char)
  | plain (text : String)
deriving DecidableEq, Repr

/-- The form of a word. A single dash is a plain word. -/
def Word.ofString (text : String) : Word :=
  match text.toList with
  | ['-', '-'] => .close
  | '-' :: '-' :: cs =>
    let name := cs.takeWhile (· ≠ '=')
    .long (String.ofList name) ((cs.drop name.length).head?.map fun _ => String.ofList (cs.drop (name.length + 1)))
  | '-' :: c :: cs => .letters (c :: cs)
  | _ => .plain text

/-- What has been read of a command line. -/
structure CommandLine where
  values : List (Setting × String) := []
  /-- A setting that waits, with its value once that has come. -/
  pending : Option (Setting × Option String) := none
  closed : Bool := false
  noCarryForward : Bool := false
  verbose : Nat := 0
deriving Repr

namespace CommandLine

/-- A setting gets its value. -/
def assign (line : CommandLine) (setting : Setting) (value : String) : Except NoSettings CommandLine :=
  if line.values.any fun (s, _) => s == setting then .error .argumentConflict
  else if !setting.accepts value then .error .valueValidation
  else .ok { line with values := line.values ++ [(setting, value)] }

/-- The setting that waits gets the value that has come. -/
def settle (line : CommandLine) : Except NoSettings CommandLine :=
  match line.pending with
  | none => .ok line
  | some (_, none) => .error .invalidValue
  | some (setting, some value) => { line with pending := none }.assign setting value

/-- A switch is thrown. -/
def throwSwitch (line : CommandLine) (switch : Switch) : Except NoSettings CommandLine := do
  let line ← line.settle
  match switch with
  | .help => throw .help
  | .version => throw .version
  | .verbose => return { line with verbose := min 255 (line.verbose + 1) }
  | .noCarryForward =>
    if line.noCarryForward then throw .argumentConflict
    else return { line with noCarryForward := true }

/-- A setting is named, perhaps with its value. -/
def name (line : CommandLine) (setting : Setting) (value : Option String) :
    Except NoSettings CommandLine := do
  let line ← line.settle
  match value with
  | some value => line.assign setting value
  | none => return { line with pending := some (setting, none) }

/-- A setting or a switch by its long name. -/
def long (line : CommandLine) (text : String) (value : Option String) : Except NoSettings CommandLine :=
  match Setting.ofName? text, Switch.ofName? text, value with
  | some setting, _, _ => line.name setting value
  | none, some _, some _ => .error .tooManyValues
  | none, some switch, none => line.throwSwitch switch
  | none, none, _ => .error .unknownArgument

/-- The value that stands behind a letter, if anything does. -/
def attached? : List Char → Option String
  | [] => none
  | '=' :: cs => some (String.ofList cs)
  | cs => some (String.ofList cs)

/-- Letters behind one dash: switches, and at the end perhaps a setting with its value. -/
def letters (line : CommandLine) : List Char → Except NoSettings CommandLine
  | [] => .ok line
  | c :: rest =>
    match Setting.ofLetter? c, Switch.ofLetter? c with
    | some setting, _ => line.name setting (attached? rest)
    | none, some switch =>
      match line.throwSwitch switch with
      | .error stop => .error stop
      | .ok line => line.letters rest
    | none, none => .error .unknownArgument

/-- A word that is no name: the value of the setting that waits for one. -/
def plain (line : CommandLine) (text : String) : Except NoSettings CommandLine :=
  match line.pending with
  | some (setting, none) => .ok { line with pending := some (setting, some text) }
  | _ => .error .unknownArgument

/-- The next word. -/
def word (line : CommandLine) (text : String) : Except NoSettings CommandLine :=
  if line.closed then .error .unknownArgument
  else
    match Word.ofString text with
    | .close => .ok { line with closed := true }
    | .long name value => line.long name value
    | .letters cs => line.letters cs
    | .plain text => line.plain text

/-- The words of a command line, up to the first that stops the reading. -/
def words (line : CommandLine) : List String → Except NoSettings CommandLine
  | [] => line.settle
  | text :: rest =>
    match line.word text with
    | .error stop => .error stop
    | .ok line => line.words rest

/-- The value of a setting: from the command line, else from the environment, else its default. -/
def value? (line : CommandLine) (environment : List (String × String)) (setting : Setting) :
    Option String :=
  line.values.lookup setting <|> (setting.inherited?.bind fun name => environment.lookup name) <|>
    setting.default?

/-- The settings of a command line. -/
def settings? (line : CommandLine) (environment : List (String × String)) : Option Settings := do
  let value := line.value? environment
  let apiToken ← value .apiToken
  let deviceGuid ← value .deviceGuid
  let apiUrl ← value .apiUrl
  let start ← value .start
  let output ← value .output
  let mqttHost ← value .mqttHost
  let mqttPort ← (value .mqttPort).bind port?
  let mqttDeviceId ← value .mqttDeviceId
  let mqttUsername ← value .mqttUsername
  let mqttPassword ← value .mqttPassword
  let responseTimeout ← (value .responseTimeout).bind seconds?
  return {
    apiToken, deviceGuid, apiUrl, start, output, mqttHost, mqttPort, mqttDeviceId, mqttUsername,
    mqttPassword, responseTimeout
    carryForward := !line.noCarryForward
    verbose := line.verbose }

end CommandLine

/-- The settings of the words after the name of the program. -/
def settingsOf (words : List String) (environment : List (String × String)) :
    Except NoSettings Settings :=
  match ({} : CommandLine).words words with
  | .error stop => .error stop
  | .ok line =>
    match line.settings? environment with
    | none => .error .missingRequiredArgument
    | some settings => .ok settings

end SatelliteTrack
