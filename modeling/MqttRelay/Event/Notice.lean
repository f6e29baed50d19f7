import MqttRelay.Event.Key
import MqttRelay.Event.Payload
import MqttRelay.Qos
import MqttRelay.ReasonCode

/-!
# Typed events

The seven kinds of events as typed data, each with its flat payload and its reader. A reader
takes a default for what may be absent, so that an event says what it can.

Results:
* `Connected.payload_eq`: the payload of an acknowledgement holds its code.
-/

namespace MqttRelay.Event

/-- The fields that are present, of a list of optional ones. -/
def present (pairs : List (String × Option Value)) : List (String × Value) :=
  pairs.filterMap fun p => p.2.map fun v => (p.1, v)

/-- A client was made, or could not be. -/
structure Initialized where
  ready : Bool := false
  deriving DecidableEq, Inhabited, Repr

namespace Initialized

/-- The fields of the event. -/
def payload (e : Initialized) : Payload := ⟨Assoc.ofList [("clientInit", .bool e.ready)]⟩

/-- Reads the event. -/
def read : Reader Initialized :=
  ((Record.pure Initialized.mk).withDefault "clientInit" Reader.bool false).read
    "ClientInitializeEvent"

end Initialized

/-- A connection was acknowledged. -/
structure Connected where
  reason : ReasonCode := .unspecified
  deriving DecidableEq, Inhabited, Repr

namespace Connected

/-- The fields of the event. -/
def payload (e : Connected) : Payload := ⟨Assoc.ofList [("reasonCode", e.reason.toValue)]⟩

/-- Reads the event. -/
def read : Reader Connected :=
  ((Record.pure Connected.mk).withDefault "reasonCode" ReasonCode.read .unspecified).read
    "ConnectedEvent"

theorem payload_eq (e : Connected) : e.payload.get? "reasonCode" = some e.reason.toValue := rfl

end Connected

/-- A connection ended. -/
structure Disconnected where
  reason : ReasonCode := .unspecified
  message : Option String := none
  deriving DecidableEq, Inhabited, Repr

namespace Disconnected

/-- The fields of the event. -/
def payload (e : Disconnected) : Payload :=
  ⟨Assoc.ofList (present [("reasonCode", some e.reason.toValue),
    ("errorMessage", e.message.map .str)])⟩

/-- Reads the event. -/
def read : Reader Disconnected :=
  (((Record.pure Disconnected.mk).withDefault "reasonCode" ReasonCode.read .unspecified).optional
    "errorMessage" Reader.string).read "DisconnectedEvent"

end Disconnected

/-- An operation failed. -/
structure Failure where
  message : String := ""
  operation : Option String := none
  reason : ReasonCode := .unspecified
  cause : Option String := none
  topic : Option String := none
  initialized : Option Bool := none
  connected : Option Bool := none
  disconnected : Option Bool := none
  subscribed : Option Bool := none
  unsubscribed : Option Bool := none
  deriving DecidableEq, Inhabited, Repr

namespace Failure

/-- The fields of the event. -/
def payload (e : Failure) : Payload :=
  ⟨Assoc.ofList (present
    [("errorMessage", some (.str e.message)), ("errorType", e.operation.map .str),
     ("reasonCode", some e.reason.toValue), ("errorCause", e.cause.map .str),
     ("topic", e.topic.map .str), ("clientInit", e.initialized.map .bool),
     ("clientConnected", e.connected.map .bool),
     ("clientDisconnected", e.disconnected.map .bool),
     ("clientSubscribed", e.subscribed.map .bool),
     ("clientUnsubscribed", e.unsubscribed.map .bool)])⟩

/-- Reads the event. -/
def read : Reader Failure :=
  ((Record.pure Failure.mk).withDefault "errorMessage" Reader.string ""
    |>.optional "errorType" Reader.string
    |>.withDefault "reasonCode" ReasonCode.read .unspecified
    |>.optional "errorCause" Reader.string |>.optional "topic" Reader.string
    |>.optional "clientInit" Reader.bool |>.optional "clientConnected" Reader.bool
    |>.optional "clientDisconnected" Reader.bool |>.optional "clientSubscribed" Reader.bool
    |>.optional "clientUnsubscribed" Reader.bool).read "MqttErrorEvent"

end Failure

/-- A message arrived for a subscription. -/
structure Message where
  payloadText : String
  topic : String
  qos : Qos
  deriving DecidableEq, Inhabited, Repr

namespace Message

/-- The fields of the event. -/
def payload (e : Message) : Payload :=
  ⟨Assoc.ofList [("payload", .str e.payloadText), ("topic", .str e.topic),
    ("qos", e.qos.toValue)]⟩

/-- Reads the event. -/
def read : Reader Message :=
  ((Record.pure Message.mk).required "payload" Reader.string
    |>.required "topic" Reader.string |>.required "qos" Qos.read).read "MessageEvent"

end Message

/-- A subscription was granted. -/
structure Subscribed where
  message : String := ""
  topic : String
  qos : Qos
  deriving DecidableEq, Inhabited, Repr

namespace Subscribed

/-- The event of a granted topic. -/
def ofTopic (topic : String) (qos : Qos) : Subscribed := ⟨"Subscribed to " ++ topic, topic, qos⟩

/-- The fields of the event. -/
def payload (e : Subscribed) : Payload :=
  ⟨Assoc.ofList [("message", .str e.message), ("topic", .str e.topic),
    ("qos", e.qos.toValue)]⟩

/-- Reads the event. -/
def read : Reader Subscribed :=
  ((Record.pure Subscribed.mk).withDefault "message" Reader.string ""
    |>.required "topic" Reader.string |>.required "qos" Qos.read).read "SubscribeSuccessEvent"

end Subscribed

/-- A subscription was refused. -/
structure SubscribeFailed where
  message : String := ""
  topic : Option String := none
  reason : Option ReasonCode := none
  deriving DecidableEq, Inhabited, Repr

namespace SubscribeFailed

/-- The fields of the event. -/
def payload (e : SubscribeFailed) : Payload :=
  ⟨Assoc.ofList (present [("errorMessage", some (.str e.message)), ("topic", e.topic.map .str),
    ("reasonCode", e.reason.map ReasonCode.toValue)])⟩

/-- Reads the event. -/
def read : Reader SubscribeFailed :=
  ((Record.pure SubscribeFailed.mk).withDefault "errorMessage" Reader.string ""
    |>.optional "topic" Reader.string |>.optional "reasonCode" ReasonCode.read).read
    "SubscribeFailedEvent"

end SubscribeFailed

/-! ## By kind -/

/-- Reads a payload as the event of a kind, and gives the payload of what was read. -/
def normalize (kind : Kind) (p : Payload) : Except DecodeError Payload :=
  match kind with
  | .initialized => (p.decode Initialized.read).map (·.payload)
  | .connected => (p.decode Connected.read).map (·.payload)
  | .disconnected => (p.decode Disconnected.read).map (·.payload)
  | .failure => (p.decode Failure.read).map (·.payload)
  | .message => (p.decode Message.read).map (·.payload)
  | .subscribed => (p.decode Subscribed.read).map (·.payload)
  | .subscribeFailed => (p.decode SubscribeFailed.read).map (·.payload)

end MqttRelay.Event
