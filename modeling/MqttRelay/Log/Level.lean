import MqttRelay.Status

/-!
# Log levels and events

The five levels of severity, what a level's name means, the output formats, and the event
that reports a change of status.

Results:
* `Level.parse_text`: a level is read back from its name.
-/

namespace MqttRelay.Log

/-- A level of severity, the most severe first. -/
inductive Level where
  | error
  | warn
  | info
  | debug
  | trace
  deriving DecidableEq, Inhabited, Repr

namespace Level

/-- The name of a level. -/
def text : Level → String
  | error => "ERROR"
  | warn => "WARN"
  | info => "INFO"
  | debug => "DEBUG"
  | trace => "TRACE"

/-- All levels. -/
def all : List Level := [error, warn, info, debug, trace]

/-- How verbose a level is; a limit lets through what is at most as verbose. -/
def verbosity : Level → Nat
  | error => 1
  | warn => 2
  | info => 3
  | debug => 4
  | trace => 5

/-- The level of a name in any letter case; an unknown name means `info`. No letter beyond
ASCII has a capital that occurs in the name of a level other than `info`, so only ASCII
letters are raised. -/
def parse (s : String) : Level :=
  (all.find? fun l => l.text == String.ofList (s.toList.map Char.toUpper)).getD info

theorem parse_text (l : Level) : parse l.text = l := by cases l <;> rfl

end Level

/-- The form of log output. -/
inductive Format where
  | json
  | pretty
  | compact
  deriving DecidableEq, Inhabited, Repr

namespace Format

/-- The name of a format in diagnostics. -/
def debugText : Format → String
  | json => "Json"
  | pretty => "Pretty"
  | compact => "Compact"

/-- The format of a name in any letter case; an unknown name means `json`. -/
def parse (s : String) : Format :=
  match Text.lower s with
  | "pretty" => pretty
  | "compact" => compact
  | _ => json

end Format

/-- An event in the log: its level, its message and its other fields. -/
structure Entry where
  level : Level
  message : String
  fields : List (String × String) := []
  deriving DecidableEq, Inhabited, Repr

/-- The event that reports a change of a client's status. -/
def statusChange (clientId : String) (before after : Status) : Entry :=
  let id := [("client_id", clientId)]
  match before, after with
  | .connecting, .connected => ⟨.info, "MQTT connection established", id⟩
  | .connected, .disconnected => ⟨.warn, "MQTT connection lost", id⟩
  | .connecting, .disconnected => ⟨.info, "MQTT connection attempt cancelled", id⟩
  | b, a =>
    if b = a then
      ⟨.debug, "MQTT connection status unchanged", id ++ [("status", a.text)]⟩
    else
      ⟨.info, "MQTT connection status changed", id ++ [("from", b.text), ("to", a.text)]⟩

end MqttRelay.Log
