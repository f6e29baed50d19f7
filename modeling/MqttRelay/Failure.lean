import MqttRelay.Native.Fault
import MqttRelay.Settings

/-!
# Failures of the bridge

Everything that can fail in the bridge, and how a failure is told.

Results:
* `message_payload`: a refused payload is told with its event and its fault.
-/

namespace MqttRelay

/-- What failed. -/
inductive Failure where
  /-- The native layer refused an operation. -/
  | native (fault : Native.Fault)
  /-- The options for a new connection could not be had. -/
  | interceptor (message : String)
  | settings (fault : Settings.Fault)
  /-- The payload of an event is not what the event carries. -/
  | payload (event : String) (fault : DecodeError)
  /-- The native layer did not take the client. -/
  | initialization (clientId : String)
  /-- Nothing runs that could do this later. -/
  | noRuntime (what : String)
  deriving Inhabited, Repr

namespace Failure

/-- The text of a failure. -/
def message : Failure → String
  | native fault => fault.report
  | interceptor message => "Reconnect interceptor failed: " ++ message
  | settings fault => "Configuration error: " ++ fault.message
  | payload event fault => s!"Invalid payload for {event}: {fault.message}"
  | initialization clientId => s!"Client {clientId} failed to initialize"
  | noRuntime what => "No tokio runtime available to schedule " ++ what

theorem message_payload (event : String) (fault : DecodeError) :
    (payload event fault).message = s!"Invalid payload for {event}: {fault.message}" := rfl

end Failure

end MqttRelay
