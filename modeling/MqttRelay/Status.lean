import MqttRelay.Text.Blank
import MqttRelay.Value.Decode

/-!
# Connection status

The three statuses of a connection, the rules by which events move between them, and how an
end of a connection is told apart by the status in which it arrives.

Results:
* `parse_text`: every status is read back from its name.
* `afterConnected_eq_some_iff`: an acknowledgement counts only while connecting.
* `kind_eq_connectFailed_iff`: an end is a failed attempt exactly while connecting.
-/

namespace MqttRelay

/-- The status of a connection. -/
inductive Status where
  | connecting
  | connected
  | disconnected
  deriving DecidableEq, Inhabited, Repr

namespace Status

/-- The name of a status. -/
def text : Status → String
  | connecting => "connecting"
  | connected => "connected"
  | disconnected => "disconnected"

/-- The name of a status in diagnostics. -/
def debugText : Status → String
  | connecting => "Connecting"
  | connected => "Connected"
  | disconnected => "Disconnected"

/-- The statuses by name, in the order in which an error lists them. -/
def choices : List (String × Status) :=
  [connecting, connected, disconnected].map fun s => (s.text, s)

/-- A status is written as its name. -/
def toValue (s : Status) : Value := .str s.text

/-- A status is read from its name. -/
def read : Reader Status := Reader.alternative choices

/-- Reads a status from free text: blanks around it and the case of its letters do not count.
A failure holds the text that was looked up. -/
def parse (s : String) : Except String Status :=
  let name := Text.lower (Text.trim s)
  match choices.find? fun c => c.1 == name with
  | some c => .ok c.2
  | none => .error name

/-- The message about a text that names no status. -/
def unknownMessage (name : String) : String := "unknown connection status: " ++ name

/-! ## Transitions -/

/-- The status after an acknowledgement; an acknowledgement counts only while connecting. -/
def afterConnected : Status → Option Status
  | connecting => some connected
  | _ => none

/-- The status after the end of a connection. A failed attempt leaves the client connecting:
only a request or an acknowledgement moves it on. -/
def afterDisconnected : Status → Status
  | connecting => connecting
  | _ => disconnected

/-- A connect request goes out only in this status. -/
def mayConnect (s : Status) : Bool := s == connecting

theorem afterConnected_eq_some_iff (s t : Status) :
    s.afterConnected = some t ↔ s = connecting ∧ t = connected := by
  cases s <;> simp [afterConnected, eq_comm]

theorem parse_text (s : Status) : parse s.text = .ok s := by cases s <;> rfl

end Status

/-- What the end of a connection means. -/
inductive Disconnect.Kind where
  /-- An attempt failed. -/
  | connectFailed
  /-- A connection was lost. -/
  | connectionLost
  /-- It was asked for, or is reported again. -/
  | afterDisconnect
  deriving DecidableEq, Inhabited, Repr

/-- How the end of a connection came about, as callbacks are told. -/
inductive Disconnect.Cause where
  /-- The application had asked for it. -/
  | forced
  /-- The broker, the network or the keep-alive ended it. -/
  | automatic
  deriving DecidableEq, Inhabited, Repr

namespace Disconnect

/-- What the end of a connection means in the status in which it arrives. -/
def kind : Status → Kind
  | .connecting => .connectFailed
  | .connected => .connectionLost
  | .disconnected => .afterDisconnect

/-- The name of a kind in diagnostics. -/
def Kind.debugText : Kind → String
  | .connectFailed => "ConnectFailed"
  | .connectionLost => "ConnectionLost"
  | .afterDisconnect => "AfterDisconnect"

/-- How the end of a connection came about, by the status in which it arrives. -/
def cause : Status → Cause
  | .disconnected => .forced
  | _ => .automatic

/-- The name of a cause. -/
def Cause.text : Cause → String
  | .forced => "forceDisconnected"
  | .automatic => "autoDisconnected"

/-- The name of a cause in diagnostics. -/
def Cause.debugText : Cause → String
  | .forced => "ForceDisconnected"
  | .automatic => "AutoDisconnected"

/-- A cause is written as its name. -/
def Cause.toValue (c : Cause) : Value := .str c.text

/-- A cause is read from its name. -/
def Cause.read : Reader Cause :=
  Reader.alternative ([Cause.forced, Cause.automatic].map fun c => (c.text, c))

theorem kind_eq_connectFailed_iff (s : Status) : kind s = .connectFailed ↔ s = .connecting := by
  cases s <;> simp [kind]

end Disconnect

end MqttRelay
