import MqttRelay.Settings
import MqttRelay.Text.Utf8
import MqttRelay.Url

/-!
# Where settings come from

Settings are read from a configuration file, which must be text throughout, or made from the
URL of a broker.

Results:
* `brokerScheme?_eq_some_iff`: which schemes name a broker, and which of them mean TLS.
-/

namespace MqttRelay.Settings

/-- Reads the bytes of a configuration file, if there is one. -/
def ofFile (bytes : Option (List UInt8)) : Except Fault Settings :=
  match bytes.bind Text.ofBytes? with
  | none => .error .unreadable
  | some text => ofText text

/-- Whether a scheme that names a broker means TLS. -/
def brokerScheme? (scheme : String) : Option Bool :=
  if scheme = "mqtt" ∨ scheme = "tcp" then some false
  else if scheme = "mqtts" ∨ scheme = "ssl" then some true
  else none

/-- The port of a broker when none is given. -/
def standardPort (tls : Bool) : UInt16 := if tls then 8883 else 1883

/-- Settings for the broker of a URL, with TLS if its scheme means it. -/
def ofBrokerUrl (clientId url : String) : Except Fault Settings :=
  match Url.parse url with
  | .error fault => .error (.invalid s!"invalid broker URL '{url}': {fault.message}")
  | .ok parsed =>
    match brokerScheme? parsed.scheme with
    | none => .error (.invalid s!"unsupported broker URL scheme '{parsed.scheme}'")
    | some tls =>
      match parsed.host with
      | none => .error (.invalid s!"broker URL '{url}' has no host")
      | some host =>
        let s := forBroker clientId host (parsed.port.getD (standardPort tls))
        validated { s with options.tls := if tls then some true else none }

/-- Four schemes name a broker, and two of them mean TLS. -/
theorem brokerScheme?_eq_some_iff (scheme : String) (tls : Bool) :
    brokerScheme? scheme = some tls ↔
      (tls = false ∧ (scheme = "mqtt" ∨ scheme = "tcp")) ∨
        (tls = true ∧ (scheme = "mqtts" ∨ scheme = "ssl")) := by
  unfold brokerScheme?
  split
  · rename_i h
    rcases h with rfl | rfl <;> cases tls <;> decide
  · rename_i h
    split
    · rename_i h'
      rcases h' with rfl | rfl <;> cases tls <;> decide
    · rename_i h'
      simp [h, h']

end MqttRelay.Settings
