import MqttRelay.ReasonCode

/-!
# Faults of native operations

The native layer has six operations. One that cannot even be queued fails at once, for one of
three causes; the reason code tells the operation.

Results:
* `message_unknownClient`: an unknown client is named after its operation.
-/

namespace MqttRelay.Native

/-- An operation of the native layer. -/
inductive Operation where
  | create
  | remove
  | connect
  | disconnect
  | subscribe
  | unsubscribe
  deriving DecidableEq, Inhabited, Repr

namespace Operation

/-- The name of an operation. -/
def text : Operation → String
  | create => "createMqtt"
  | remove => "removeMqtt"
  | connect => "connectMqtt"
  | disconnect => "disconnectMqtt"
  | subscribe => "subscribeMqtt"
  | unsubscribe => "unsubscribeMqtt"

/-- The reason code of a failed operation. -/
def reason : Operation → ReasonCode
  | create => .initializationError
  | remove => .unspecified
  | connect => .connectionError
  | disconnect => .disconnectionError
  | subscribe => .subscriptionError
  | unsubscribe => .unsubscriptionError

/-- All operations. -/
def all : List Operation := [create, remove, connect, disconnect, subscribe, unsubscribe]

end Operation

/-- Why an operation failed at once. -/
inductive Fault where
  /-- No client is registered under the id. -/
  | unknownClient (operation : Operation) (clientId : String)
  /-- What runs the operations has stopped. -/
  | workerUnavailable (operation : Operation)
  /-- The operation was refused. -/
  | rejected (operation : Operation) (message : String)
  deriving DecidableEq, Inhabited, Repr

namespace Fault

/-- The operation that failed. -/
def operation : Fault → Operation
  | unknownClient op _ => op
  | workerUnavailable op => op
  | rejected op _ => op

/-- The reason code of a fault. -/
def reason (f : Fault) : ReasonCode := f.operation.reason

/-- The text of a fault. -/
def message : Fault → String
  | unknownClient op clientId => op.text ++ ": no native client registered for " ++ clientId
  | workerUnavailable op => op.text ++ ": native worker is not running"
  | rejected op message => op.text ++ " rejected: " ++ message

/-- How a fault is reported to whoever made the request. -/
def report (f : Fault) : String := "Native error: " ++ f.message

theorem message_unknownClient (op : Operation) (clientId : String) :
    (unknownClient op clientId).message =
      op.text ++ ": no native client registered for " ++ clientId := rfl

end Fault

end MqttRelay.Native
