import MqttRelay.Event.Notice
import MqttRelay.Native.Fault
import MqttRelay.Options
import MqttRelay.Status

/-!
# Native requests

What clients ask of the native layer, and what a layer is: it answers each request at once
with the events it delivers on the spot and a fault if it refuses, and it knows a status for
every client id.

Results:
* `Request.operation_fault`: a refused request is refused under its own operation.
-/

namespace MqttRelay.Native

/-- A request to the native layer. -/
inductive Request where
  | create (clientId host : String) (port : UInt16) (tls : Bool)
  | remove (clientId : String)
  | connect (clientId : String) (parameters : ConnectParameters)
  | disconnect (clientId : String)
  | subscribe (id : SubscriptionId) (clientId topic : String) (qos : Qos)
  | unsubscribe (id : SubscriptionId) (clientId topic : String)
  deriving DecidableEq, Inhabited, Repr

namespace Request

/-- The operation that a request asks for. -/
def operation : Request → Operation
  | create .. => .create
  | remove _ => .remove
  | connect .. => .connect
  | disconnect _ => .disconnect
  | subscribe .. => .subscribe
  | unsubscribe .. => .unsubscribe

/-- The client that a request is for. -/
def clientId : Request → String
  | create id .. => id
  | remove id => id
  | connect id _ => id
  | disconnect id => id
  | subscribe _ id .. => id
  | unsubscribe _ id _ => id

/-- The fault of a refused request. -/
def fault (r : Request) (message : String) : Fault := .rejected r.operation message

theorem operation_fault (r : Request) (message : String) :
    (r.fault message).operation = r.operation := rfl

/-- The notation of an id in diagnostics. -/
def idText (id : SubscriptionId) : String := "SubscriptionId(" ++ Text.quoted id.text ++ ")"

/-- The notation of a request in diagnostics; a password is hidden. -/
def debugText : Request → String
  | create clientId host port tls =>
    Text.record "Create" [("client_id", Text.quoted clientId), ("host", Text.quoted host),
      ("port", toString port.toNat), ("enable_ssl", Text.truth tls)]
  | remove clientId => Text.record "Remove" [("client_id", Text.quoted clientId)]
  | connect clientId parameters =>
    Text.record "Connect"
      [("client_id", Text.quoted clientId), ("options", parameters.debugText)]
  | disconnect clientId => Text.record "Disconnect" [("client_id", Text.quoted clientId)]
  | subscribe id clientId topic qos =>
    Text.record "Subscribe" [("subscription_id", idText id), ("client_id", Text.quoted clientId),
      ("topic", Text.quoted topic), ("qos", qos.debugText)]
  | unsubscribe id clientId topic =>
    Text.record "Unsubscribe" [("subscription_id", idText id),
      ("client_id", Text.quoted clientId), ("topic", Text.quoted topic)]

/-- The fields of a request, under the name of its operation. -/
def toValue (r : Request) : Value :=
  match r with
  | create clientId host port tls =>
    named "create" clientId
      [("host", .str host), ("port", .nat port.toNat), ("ssl", .bool tls)]
  | remove clientId => named "remove" clientId []
  | connect clientId parameters => named "connect" clientId [("options", parameters.toValue)]
  | disconnect clientId => named "disconnect" clientId []
  | subscribe id clientId topic qos =>
    named "subscribe" clientId
      [("id", .str id.text), ("topic", .str topic), ("qos", qos.toValue)]
  | unsubscribe id clientId topic =>
    named "unsubscribe" clientId [("id", .str id.text), ("topic", .str topic)]
where
  named (name clientId : String) (fields : List (String × Value)) : Value :=
    .object (("native", .str name) :: ("clientId", .str clientId) :: fields)

end Request

/-- An event that the native layer delivers. -/
structure Emission where
  key : Event.Key
  payload : Event.Payload
  deriving Inhabited, Repr

/-- What comes of a request: the events delivered on the spot, in order, and the fault if it
was refused. -/
structure Reply where
  events : List Emission := []
  fault : Option Fault := none
  deriving Inhabited, Repr

/-- A native layer with states of type `N`. -/
structure Layer (N : Type) where
  answer : Request → N → N × Reply
  status : String → N → Status

end MqttRelay.Native
