import MqttRelay.Client.System
import MqttRelay.Metrics

/-!
# Reports of a scenario

What the steps of a scenario answer, what is seen while they run, and how all of it is
written.

Results:
* `Report.toValue_untimed`: without a clock no entry of the log has a time.
-/

namespace MqttRelay

namespace Client

namespace Notice

/-- The name of the kind of a notice. -/
def kind : Notice → String
  | initialized _ => "init"
  | connected _ => "connect"
  | connectFailed _ => "connectFailure"
  | disconnected _ => "disconnect"
  | failure _ => "error"
  | message _ => "message"
  | subscribed _ => "success"
  | subscribeFailed _ => "failure"

/-- What a notice carries. -/
def toValue : Notice → Value
  | initialized e => e.payload.toValue
  | connected e => e.payload.toValue
  | connectFailed reason => reason.toValue
  | disconnected d =>
    .object [("code", d.reason.toValue), ("type", d.cause.toValue),
      ("retryCount", .nat d.retries.toNat), ("options", d.options.toValue)]
  | failure e => e.payload.toValue
  | message e => e.payload.toValue
  | subscribed e => e.payload.toValue
  | subscribeFailed e => e.payload.toValue

end Notice

namespace Entry

/-- The fields of an entry. -/
def fields : Entry → Fields
  | request r =>
    match r.toValue with
    | .obj fields => fields
    | _ => []
  | fault f => [("nativeError", .str f.message)]
  | made (.name label) success => [("created", .str label), ("client", .bool success)]
  | made (.shared _ label) success => [("initialized", .str label), ("client", .bool success)]
  | told label notice =>
    [("callback", .str label), ("kind", .str notice.kind), ("data", notice.toValue)]
  | consulted label reason =>
    [("intercept", .str label), ("reason", .orNull (reason.map ReasonCode.toValue))]
  | did name result => [("nested", .str name), ("r", result)]

/-- An entry, with its time if there is one. -/
def toValue (time : Option Nat) (e : Entry) : Value :=
  .object (e.fields ++ (time.map fun t => ("t", Value.nat t)).toList)

end Entry

namespace Subscription

/-- The view of a subscription. -/
def toValue (s : Subscription) : Value :=
  .object [("id", .str s.id.text), ("topic", .str s.topic), ("qos", s.qos.toValue),
    ("active", .bool s.active)]

/-- The notation of a subscription in diagnostics. -/
def debugText (s : Subscription) : String :=
  Text.record "SubscriptionHandle" [("id", Native.Request.idText s.id),
    ("topic", Text.quoted s.topic), ("active", Text.truth s.active)]

end Subscription

/-- The notation of a client in diagnostics. -/
def Member.debugText (m : Member) : String :=
  Text.record "MqttClient" [("identity", m.identity.debugText),
    ("status", m.state.status.debugText), ("retry_count", toString m.state.retry.count.toNat),
    ("removed", Text.truth m.state.removed)]

end Client

namespace Scenario

open Client

/-- The answer of a step. -/
inductive Answer where
  | nothing
  | noClient
  | noHandle
  | noSubscription
  | noShared
  /-- A client would have had to be waited for. -/
  | gaveUp
  | done
  | number (n : Nat)
  | metrics (m : Metrics)
  | info (m : Member)
  | subscription (s : Subscription)
  /-- A new subscription, and which outcomes of it are listened to. -/
  | subscribed (s : Subscription) (wantsGrant wantsRefusal : Bool)
  | calls (count connects : Nat) (requests : List Native.Request)
  | broker (asked released : List String) (subscribers : List SubscriptionId)
  | status (s : Status)
  | fault (f : Native.Fault)
  | shared (client : Option Member) (pending : Nat)
  deriving Inhabited

/-- A list of texts. -/
def texts (ts : List String) : Value := .arr (ts.map .str)

/-- The notation of what a subscription asks for. -/
def wishText (s : Subscription) (wantsGrant wantsRefusal : Bool) : String :=
  Text.record "SubscribeRequest" [("topic", Text.quoted s.topic), ("qos", s.qos.debugText),
    ("on_success", Text.truth wantsGrant), ("on_error", Text.truth wantsRefusal)]

/-- What an answer is written as. -/
def Answer.toValue : Answer → Value
  | nothing => .null
  | noClient => .str "no client"
  | noHandle => .str "no handle"
  | noSubscription => .str "no subscription"
  | noShared => .str "no shared client"
  | gaveUp => .str "gave up waiting"
  | done => .str "ok"
  | number n => .nat n
  | metrics m => m.toValue
  | info m =>
    .object [("identity", m.identity.toValue), ("clientId", .str m.identity.clientId),
      ("options", m.state.options.toValue), ("debug", .str m.debugText)]
  | subscription s => s.toValue
  | subscribed s wantsGrant wantsRefusal =>
    .object [("sub", s.toValue), ("request", .str (wishText s wantsGrant wantsRefusal)),
      ("handle", .str s.debugText)]
  | .calls count connects requests =>
    .object [("calls", .nat count), ("connects", .nat connects),
      ("debug", texts (requests.map (·.debugText)))]
  | broker asked released subscribers =>
    .object [("subscribed", texts asked), ("unsubscribed", texts released),
      ("subscribers", texts (subscribers.map (·.text)))]
  | status s => s.toValue
  | fault f => .object [("text", .str f.message), ("reason", f.reason.toValue)]
  | shared client pending =>
    .object [("status", .orNull (client.map fun m => m.state.status.toValue)),
      ("initialized", .bool client.isSome), ("pending", .nat pending),
      ("host", .orNull (client.map fun m => .str m.identity.host))]

/-- What is seen of a client after a step. -/
structure ClientView where
  status : Status
  native : Status
  retries : UInt32
  reason : Option ReasonCode
  removed : Bool
  subscriptions : Nat
  deriving DecidableEq, Inhabited, Repr

/-- What the view of a client is written as. -/
def ClientView.toValue (c : ClientView) : Value :=
  .object [("status", c.status.toValue), ("native", c.native.toValue),
    ("retry", .nat c.retries.toNat), ("reason", .orNull (c.reason.map ReasonCode.toValue)),
    ("removed", .bool c.removed), ("subs", .nat c.subscriptions)]

/-- What is seen of a step of a scenario. -/
structure Report where
  answer : Answer
  /-- What happened, with the times. -/
  log : List (Nat × Entry)
  /-- The clients by name. -/
  clients : Assoc ClientView
  /-- The number of events with a listener. -/
  events : Nat
  deriving Inhabited

/-- What a report is written as, with the times of its log or without. -/
def Report.toValue (timed : Bool) (r : Report) : Value :=
  .object [("r", r.answer.toValue),
    ("log", .arr (r.log.map fun e => e.2.toValue (if timed then some e.1 else none))),
    ("clients", .obj (r.clients.map fun c => (c.1, c.2.toValue))), ("events", .nat r.events)]

theorem Report.toValue_untimed (r : Report) :
    r.toValue false = .object [("r", r.answer.toValue),
      ("log", .arr (r.log.map fun e => e.2.toValue none)),
      ("clients", .obj (r.clients.map fun c => (c.1, c.2.toValue))),
      ("events", .nat r.events)] := by
  simp [toValue]

end Scenario

end MqttRelay
