import MqttRelay.Qos

/-!
# Event keys

An event is addressed by its owner, a client or a subscription, and by its kind. Outside, the
address is one flat name: the owner's id followed by the kind's suffix.

Results:
* `Key.name_message`: a message event is named after its owner alone.
-/

namespace MqttRelay

/-- The id of one subscription, which is also the owner part of its events. -/
structure SubscriptionId where
  text : String
  deriving DecidableEq, Inhabited, Repr

/-- The id of a client's subscription number `tag`: no two subscriptions of a client share a
number. -/
def SubscriptionId.generate (clientId topic : String) (qos : Qos) (tag : Nat) :
    SubscriptionId :=
  ⟨"mqtt_client#" ++ clientId ++ "#subscribe_mqtt#" ++ topic ++ "#" ++ qos.text ++ "#" ++
    toString tag⟩

namespace Event

/-- What an event is about. -/
inductive Kind where
  | initialized
  | connected
  | disconnected
  | failure
  /-- A message for a subscription. -/
  | message
  | subscribed
  | subscribeFailed
  deriving DecidableEq, Inhabited, Repr

namespace Kind

/-- What a kind adds to the owner's id in the name of an event. -/
def suffix : Kind → String
  | initialized => "client_initialize"
  | connected => "connected"
  | disconnected => "disconnected"
  | failure => "mqtt_error"
  | message => ""
  | subscribed => "subscribe_success"
  | subscribeFailed => "subscribe_failed"

/-- The name under which a kind is counted. -/
def label : Kind → String
  | message => "message"
  | kind => kind.suffix

/-- The kinds of events that a client owns. -/
def ofClient : List Kind := [connected, disconnected, initialized, failure]

/-- The kinds of events that a subscription owns. -/
def ofSubscription : List Kind := [message, subscribed, subscribeFailed]

/-- All kinds. -/
def all : List Kind :=
  [initialized, connected, disconnected, failure, message, subscribed, subscribeFailed]

/-- The kind counted under a name. -/
def ofLabel? (label : String) : Option Kind :=
  all.find? fun k => k.label == label

end Kind

/-- The owner of an event. -/
inductive Scope where
  | client (id : String)
  | subscription (id : SubscriptionId)
  deriving DecidableEq, Inhabited, Repr

/-- The id of an owner. -/
def Scope.text : Scope → String
  | client id => id
  | subscription id => id.text

/-- The address of an event. -/
structure Key where
  scope : Scope
  kind : Kind
  deriving DecidableEq, Inhabited, Repr

namespace Key

/-- The address of an event of a client. -/
def client (id : String) (kind : Kind) : Key := ⟨.client id, kind⟩

/-- The address of an event of a subscription. -/
def subscription (id : SubscriptionId) (kind : Kind) : Key := ⟨.subscription id, kind⟩

/-- The flat name of an event. -/
def name (k : Key) : String := k.scope.text ++ k.kind.suffix

/-- A message event is named after its owner alone. -/
theorem name_message (scope : Scope) : (Key.mk scope .message).name = scope.text := by
  simp [name, Kind.suffix]

end Key

end Event

end MqttRelay
