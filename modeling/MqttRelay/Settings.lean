import MqttRelay.Client.Config
import MqttRelay.Log.Level
import MqttRelay.Text.Blank
import MqttRelay.Toml.Document

/-!
# Settings of the bridge

What a configuration file says about one bridge: the broker and the client's id, the options of
the connection, and how long to wait for the native layer. A file names the environment
variables that hold the credentials and never holds them itself.

Results:
* `problem?_eq_none_iff`: when settings are accepted.
* `initTimeout_eq_none_iff`: a wait of zero means no bound.
-/

namespace MqttRelay

/-- The client and its broker. -/
structure ClientSection where
  clientId : String
  host : String
  port : UInt16 := 1883
  deriving DecidableEq, Inhabited, Repr

/-- The options of the connection, as a file has them. -/
structure OptionsSection where
  keepAlive : Option UInt16 := none
  cleanSession : Option Bool := none
  tls : Option Bool := none
  autoReconnect : Option Bool := none
  retryCount : Option UInt32 := none
  backoffTime : Option UInt64 := none
  maxBackoffTime : Option UInt64 := none
  jitter : Option UInt64 := none
  /-- The environment variable that holds the user. -/
  usernameEnv : Option String := none
  /-- The environment variable that holds the password. -/
  passwordEnv : Option String := none
  deriving DecidableEq, Inhabited, Repr

/-- How a client is made. -/
structure FactorySection where
  /-- Milliseconds to wait for the native layer; zero means no bound. -/
  initTimeoutMs : UInt64 := 10000
  deriving DecidableEq, Inhabited, Repr

/-- All settings of a bridge. -/
structure Settings where
  client : ClientSection
  options : OptionsSection := {}
  factory : FactorySection := {}
  deriving DecidableEq, Inhabited, Repr

namespace Settings

/-- Why settings are refused or cannot be had. -/
inductive Fault where
  /-- There is no such file, or it is no text. -/
  | unreadable
  /-- The text is not well formed, or does not hold settings. -/
  | malformed
  | unsetVariable (name : String)
  | badClientId (clientId : String)
  | invalid (reason : String)
  deriving DecidableEq, Inhabited, Repr

/-- The text of a fault, as far as this library determines it. -/
def Fault.message : Fault → String
  | .unreadable => "Failed to read config file: "
  | .malformed => "Failed to parse TOML: "
  | .unsetVariable name => "Environment variable not found: " ++ name
  | .badClientId clientId =>
    s!"Invalid client ID format: Client ID '{clientId}' must match pattern [a-zA-Z0-9._-]+"
  | .invalid reason => "Invalid configuration: " ++ reason

/-! ## Validation -/

/-- The characters of a client id. -/
def isIdChar (c : Char) : Bool := c.isAlphanum || c == '.' || c == '_' || c == '-'

/-- Whether a text may be a client id. -/
def isClientId (s : String) : Bool := !s.toList.isEmpty && s.toList.all isIdChar

/-- The first thing that is wrong with settings. -/
def problem? (s : Settings) : Option Fault :=
  if !isClientId s.client.clientId then some (.badClientId s.client.clientId)
  else if Text.isBlankText s.client.host then some (.invalid "[client] host must not be empty")
  else if s.client.port = 0 then some (.invalid "[client] port must be non-zero")
  else if s.options.maxBackoffTime = some 0 then
    some (.invalid "[options] max_backoff_time must be greater than zero")
  else none

/-- The settings if nothing is wrong with them. -/
def validated (s : Settings) : Except Fault Settings :=
  match s.problem? with
  | some fault => .error fault
  | none => .ok s

/-- What is logged about settings that are accepted. -/
def warnings (s : Settings) : List Log.Entry :=
  if s.options.retryCount.isSome && s.options.autoReconnect != some true then
    [⟨.warn, "retry_count is set but auto_reconnect is not enabled", []⟩]
  else []

/-- Settings are accepted when the id is one, the host is not blank, the port is not zero, and
neither is the longest delay. -/
theorem problem?_eq_none_iff (s : Settings) :
    s.problem? = none ↔ isClientId s.client.clientId ∧ Text.isBlankText s.client.host = false ∧
      s.client.port ≠ 0 ∧ s.options.maxBackoffTime ≠ some 0 := by
  simp only [problem?]
  split <;> simp_all
  split <;> simp_all
  split <;> simp_all

/-- Settings for one broker, with nothing else set. -/
def forBroker (clientId host : String) (port : UInt16) : Settings :=
  { client := ⟨clientId, host, port⟩ }

/-! ## Use -/

/-- How many milliseconds to wait for the native layer; none means without bound. -/
def initTimeout (s : Settings) : Option UInt64 :=
  if s.factory.initTimeoutMs = 0 then none else some s.factory.initTimeoutMs

theorem initTimeout_eq_none_iff (s : Settings) :
    s.initTimeout = none ↔ s.factory.initTimeoutMs = 0 := by
  simp [initTimeout]

/-- The variables of an environment. -/
abbrev Environment := Assoc String

/-- The value of a variable, if one is named. -/
def lookUp? (env : Environment) : Option String → Except Fault (Option String)
  | none => .ok none
  | some name =>
    match env.get? name with
    | some v => .ok (some v)
    | none => .error (.unsetVariable name)

/-- The variables that settings name. -/
def credentialVariables (s : Settings) : List String :=
  s.options.usernameEnv.toList ++ s.options.passwordEnv.toList

/-- The options of the connection, with credentials from the environment. -/
def connectionOptions (s : Settings) (env : Environment) : Except Fault Options := do
  let username ← lookUp? env s.options.usernameEnv
  let password ← lookUp? env s.options.passwordEnv
  return {
    keepAlive := s.options.keepAlive
    cleanSession := s.options.cleanSession
    username := username
    password := password
    tls := s.options.tls
    autoReconnect := s.options.autoReconnect
    retryCount := s.options.retryCount
    backoffTime := s.options.backoffTime
    maxBackoffTime := s.options.maxBackoffTime
    jitter := s.options.jitter }

/-- What a client is made from. -/
def clientConfig (s : Settings) (env : Environment) : Except Fault Client.Config := do
  let options ← s.connectionOptions env
  return ⟨s.client.clientId, s.client.host, s.client.port, options⟩

/-! ## Reading -/

/-- The record of the client and its broker. -/
def clientRecord : Record ClientSection :=
  (Record.pure ClientSection.mk).required "client_id" Reader.string
    |>.required "host" Reader.string |>.withDefault "port" Reader.uint16 1883

/-- The record of the options of the connection. -/
def optionsRecord : Record OptionsSection :=
  (Record.pure OptionsSection.mk).nullable "keep_alive" Reader.uint16
    |>.nullable "clean_session" Reader.bool |>.nullable "enable_ssl" Reader.bool
    |>.nullable "auto_reconnect" Reader.bool |>.nullable "retry_count" Reader.uint32
    |>.nullable "backoff_time" Reader.uint64 |>.nullable "max_backoff_time" Reader.uint64
    |>.nullable "jitter" Reader.uint64 |>.nullable "username_env" Reader.string
    |>.nullable "password_env" Reader.string

/-- The record of how a client is made. -/
def factoryRecord : Record FactorySection :=
  (Record.pure FactorySection.mk).withDefault "init_timeout_ms" Reader.uint64 10000

/-- The record of all settings. -/
def record (surplus : Record.Surplus) : Record Settings :=
  (Record.pure Settings.mk).required "client" (clientRecord.readWith surplus "ClientSection")
    |>.withDefault "options" (optionsRecord.readWith surplus "OptionsSection") {}
    |>.withDefault "factory" (factoryRecord.readWith surplus "FactorySection") {}

/-- Reads settings. -/
def read (surplus : Record.Surplus) : Reader Settings :=
  (record surplus).readWith surplus "BridgeConfig"

/-- Reads the text of a configuration file, and validates the settings. Arrays in a file may
be longer than the records that are read from them. -/
def ofText (text : String) : Except Fault Settings :=
  match Toml.read? text with
  | none => .error .malformed
  | some v =>
    match read .ignored v with
    | .error _ => .error .malformed
    | .ok s => s.validated

/-! ## Writing -/

/-- The settings of one option as a line of a file, if it is set. -/
def optionLine {α : Type} (key : String) (text : α → String) (v : Option α) :
    List (String × String) :=
  (v.map fun v => (key, text v)).toList

/-- The lines of the options that are set, given how a text is written. -/
def optionLines (spell : String → String) (o : OptionsSection) : List (String × String) :=
  List.flatten
    [optionLine "keep_alive" (fun n => toString n.toNat) o.keepAlive,
     optionLine "clean_session" Text.truth o.cleanSession,
     optionLine "enable_ssl" Text.truth o.tls,
     optionLine "auto_reconnect" Text.truth o.autoReconnect,
     optionLine "retry_count" (fun n => toString n.toNat) o.retryCount,
     optionLine "backoff_time" (fun n => toString n.toNat) o.backoffTime,
     optionLine "max_backoff_time" (fun n => toString n.toNat) o.maxBackoffTime,
     optionLine "jitter" (fun n => toString n.toNat) o.jitter,
     optionLine "username_env" spell o.usernameEnv,
     optionLine "password_env" spell o.passwordEnv]

/-- The tables of settings with their lines, given how a text is written. -/
def tables (s : Settings) (spell : String → String) : List (String × List (String × String)) :=
  [("client", [("client_id", spell s.client.clientId), ("host", spell s.client.host),
      ("port", toString s.client.port.toNat)]),
   ("options", optionLines spell s.options),
   ("factory", [("init_timeout_ms", toString s.factory.initTimeoutMs.toNat)])]

/-- Whether a number can be written: files hold numbers of 64 bits with sign. -/
def fits (n : UInt64) : Bool := n.toNat ≤ Toml.greatest

/-- Whether all numbers of settings can be written. -/
def isWritable (s : Settings) : Bool :=
  s.options.backoffTime.all fits && s.options.maxBackoffTime.all fits &&
    s.options.jitter.all fits && fits s.factory.initTimeoutMs

/-- The text of a configuration file with these settings, if their numbers can be written. -/
def toText? (s : Settings) : Option String :=
  if s.isWritable then some (Toml.write (s.tables Toml.spell)) else none

/-! ## As data -/

/-- All settings, with null for what is unset. -/
def toValue (s : Settings) : Value :=
  .object
    [("client", .object [("client_id", .str s.client.clientId), ("host", .str s.client.host),
      ("port", .nat s.client.port.toNat)]),
     ("options", .object
       [("keep_alive", .orNull (s.options.keepAlive.map fun n => .nat n.toNat)),
        ("clean_session", .orNull (s.options.cleanSession.map .bool)),
        ("enable_ssl", .orNull (s.options.tls.map .bool)),
        ("auto_reconnect", .orNull (s.options.autoReconnect.map .bool)),
        ("retry_count", .orNull (s.options.retryCount.map fun n => .nat n.toNat)),
        ("backoff_time", .orNull (s.options.backoffTime.map fun n => .nat n.toNat)),
        ("max_backoff_time", .orNull (s.options.maxBackoffTime.map fun n => .nat n.toNat)),
        ("jitter", .orNull (s.options.jitter.map fun n => .nat n.toNat)),
        ("username_env", .orNull (s.options.usernameEnv.map .str)),
        ("password_env", .orNull (s.options.passwordEnv.map .str))]),
     ("factory", .object [("init_timeout_ms", .nat s.factory.initTimeoutMs.toNat)])]

end Settings

end MqttRelay
