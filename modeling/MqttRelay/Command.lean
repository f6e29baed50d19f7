import MqttRelay.Command.Invocation
import MqttRelay.Log.Filter
import MqttRelay.Settings.Source

/-!
# Running a command

What the program does from its arguments, its files and its environment: what it logs, what it
prints, and how it ends, up to the point where watching begins.

Results:
* `run_of_misuse`: arguments that are not understood end the program at once.
-/

namespace MqttRelay.Command

/-- What a run of the program finds. -/
structure Site where
  /-- The files, by path. -/
  files : Assoc (List UInt8) := []
  environment : Settings.Environment := []
  /-- An id for a client that is given none. -/
  freshId : String := ""
  deriving Inhabited

/-- The steps of a path; an absolute one begins at the root. -/
def steps (path : String) : List (List Char) :=
  (Text.splitAt '/' path.toList).foldl (fun steps step =>
    if step = [] ∨ step = ['.'] then steps
    else if step = ['.', '.'] ∧ steps.getLast?.any (· != step) then steps.dropLast
    else steps ++ [step]) (if path.toList.head? = some '/' then [['/']] else [])

namespace Site

/-- The bytes of a file. -/
def file? (s : Site) (path : String) : Option (List UInt8) :=
  (s.files.find? fun f => steps f.1 == steps path).map (·.2)

/-- Whether there is a file or a directory at a path. -/
def has (s : Site) (path : String) : Bool :=
  s.files.any fun f => (steps path).isPrefixOf (steps f.1)

end Site

/-- A line of the log, and the part of the program that it comes from. -/
structure Line where
  target : String
  entry : Log.Entry
  deriving DecidableEq, Inhabited, Repr

/-- The part of the program that carries commands out. -/
def mainTarget : String := "mqtt_bridge"

/-- The part of the program that reads settings. -/
def settingsTarget : String := "mqtt_bridge::config"

/-- A line of the part that carries commands out. -/
def Line.main (level : Log.Level) (message : String) : Line := ⟨mainTarget, ⟨level, message, []⟩⟩

/-! ## Logs -/

/-- How the log is written. -/
structure Logging where
  filter : Log.Filter
  format : Log.Format
  deriving DecidableEq, Inhabited, Repr

/-- How the log is written, from the verbosity that was asked for and the environment. A filter
of the environment outdoes all else. -/
def logging (verbosity : Nat) (env : Settings.Environment) : Logging :=
  let level : Log.Level :=
    if verbosity = 0 then ((env.get? "LOG_LEVEL").map Log.Level.parse).getD .info
    else if verbosity = 1 then .debug
    else .trace
  { filter := ((env.get? "RUST_LOG").map Log.Filter.ofText).getD (.ofLevel level)
    format := ((env.get? "LOG_FORMAT").map Log.Format.parse).getD
      (if verbosity = 0 then .json else .pretty) }

/-- The lines that are written. -/
def Logging.written (l : Logging) (lines : List Line) : List Log.Entry :=
  (lines.filter fun line => l.filter.admits line.target line.entry.level).map (·.entry)

/-! ## Settings -/

/-- Where a configuration file is looked for. -/
def standardPaths : List String := ["mqtt-bridge.toml", "config/mqtt-bridge.toml"]

/-- What is said when there are no settings. -/
def noSettings : String :=
  "No configuration file found. Provide one with -c/--config, pass --broker, or create " ++
    "mqtt-bridge.toml"

/-- Settings or why there are none, with the lines that were logged on the way. -/
abbrev Found := List Line × Except String Settings

/-- Settings that were made or read, with their warnings. -/
def found (s : Except Settings.Fault Settings) : Found :=
  match s with
  | .error fault => ([], .error fault.message)
  | .ok s => (s.warnings.map fun e => ⟨settingsTarget, e⟩, .ok s)

/-- Reads the configuration file at a path. -/
def loadFrom (site : Site) (path : String) : Found :=
  let (lines, s) := found (Settings.ofFile (site.file? path))
  (.main .info ("Loading configuration from: " ++ path) :: lines, s)

/-- Reads the configuration file that was given, or else the first that is there. -/
def load (site : Site) : Option String → Found
  | some path => loadFrom site path
  | none =>
    match standardPaths.find? site.has with
    | some path => loadFrom site path
    | none => ([], .error noSettings)

/-- The settings for watching: those of a broker, or else those of a file. -/
def watchSettings (site : Site) (i : Invocation) (broker clientId : Option String) : Found :=
  match broker with
  | some url => found (Settings.ofBrokerUrl (clientId.getD ("mqtt-bridge-" ++ site.freshId)) url)
  | none => load site i.config

/-- The settings that an invocation is about. -/
def settings (site : Site) (i : Invocation) : Found :=
  match i.action with
  | .config _ => load site i.config
  | .watch _ _ broker clientId => watchSettings site i broker clientId

/-! ## Running -/

/-- How a run comes out. -/
inductive Ending where
  /-- The arguments asked for a text. -/
  | displayed
  | misused
  | succeeded
  | failed
  /-- Watching begins. -/
  | watching (settings : Settings) (config : Client.Config) (topics : List String) (qos : Qos)
  deriving DecidableEq, Inhabited, Repr

/-- The exit code of an ending; watching ends well. -/
def Ending.code : Ending → Nat
  | displayed => 0
  | misused => 2
  | succeeded => 0
  | failed => 1
  | watching .. => 0

/-- What a run does. -/
structure Outcome where
  /-- The log, if its lines are data. -/
  log : List Log.Entry := []
  printed : String := ""
  ending : Ending
  deriving Inhabited

/-- What is printed before watching begins, and what comes then. -/
def perform (env : Settings.Environment) (s : Settings) :
    Action → Except String (List Line × String × Ending)
  | .config shown =>
    let valid := [Line.main .info "Configuration is valid"]
    if shown then
      match s.toText? with
      | some text => .ok (valid, text ++ "\n", .succeeded)
      | none => .error "out-of-range value for u64 type"
    else .ok (valid, "", .succeeded)
  | .watch topics qos _ _ =>
    match s.clientConfig env with
    | .error fault => .error fault.message
    | .ok config => .ok ([], "", .watching s config topics qos)

/-- Runs the program. -/
def run (site : Site) (args : List String) : Outcome :=
  match Invocation.read (site.environment.get? "MQTT_BROKER_URL") args with
  | .error .display => { ending := .displayed }
  | .error .misuse => { ending := .misused }
  | .ok i =>
    let logging := logging i.verbosity site.environment
    let (lines, settings) := settings site i
    let log (lines : List Line) := if logging.format = .json then logging.written lines else []
    match settings.bind (perform site.environment · i.action) with
    | .ok (more, printed, ending) => { log := log (lines ++ more), printed, ending }
    | .error message =>
      { log := log (lines ++ [.main .error ("Command failed: " ++ message)]), ending := .failed }

/-- Arguments that are not understood end the program at once. -/
theorem run_of_misuse (site : Site) (args : List String)
    (h : Invocation.read (site.environment.get? "MQTT_BROKER_URL") args = .error .misuse) :
    (run site args).ending = .misused ∧ (run site args).log = [] ∧
      (run site args).printed = "" := by
  simp [run, h]

end MqttRelay.Command
