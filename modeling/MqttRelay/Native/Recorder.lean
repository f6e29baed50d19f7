import MqttRelay.Native.Request

/-!
# A recording native layer

A native layer without a broker. It records every request, refuses the operations it is told
to refuse, and answers a connect request as it is told. Topics are counted per client: the
first subscription of a topic goes to the imagined broker, and so does the release of the last.

Results:
* `answer_calls`: every request is recorded, refused or not.
* `answer_refused`: a refused request changes nothing else.
-/

namespace MqttRelay.Native

/-- What becomes of a connect request. -/
inductive Behavior where
  /-- Nothing; the outcome is left to whoever directs the layer. -/
  | manual
  /-- It is acknowledged at once. -/
  | accept
  /-- It fails at once for a reason. -/
  | refuse (reason : ReasonCode)
  deriving DecidableEq, Inhabited, Repr

/-- The state of the layer. -/
structure Recorder where
  /-- The requests so far, in order. -/
  calls : List Request := []
  /-- What a new client is told, if anything. -/
  initAnswer : Option Bool := some true
  behavior : Behavior := .manual
  /-- The operations that are refused. -/
  failing : List Operation := []
  statuses : Assoc Status := []
  /-- The subscription ids on each topic of each client, in the order of the ids. -/
  topics : Assoc (Assoc (Assoc SubscriptionId)) := []
  /-- The topics that the broker was asked for, in order. -/
  subscribed : List String := []
  /-- The topics that were released at the broker, in order. -/
  unsubscribed : List String := []
  deriving Inhabited

namespace Recorder

/-- The status of a client; one that is not known counts as disconnected. -/
def status (clientId : String) (r : Recorder) : Status :=
  (r.statuses.get? clientId).getD .disconnected

/-- Sets the status of a client. -/
def setStatus (clientId : String) (status : Status) (r : Recorder) : Recorder :=
  { r with statuses := r.statuses.insert clientId status }

/-- The subscription ids on a topic of a client, by text. -/
def holders (clientId topic : String) (r : Recorder) : Assoc SubscriptionId :=
  (((r.topics.get? clientId).getD []).get? topic).getD []

/-- The subscription ids on a topic of a client, in order. -/
def subscribers (clientId topic : String) (r : Recorder) : List SubscriptionId :=
  (r.holders clientId topic).map (·.2)

/-- Sets the subscription ids on a topic; a topic without any is forgotten. -/
def setHolders (clientId topic : String) (ids : Assoc SubscriptionId) (r : Recorder) :
    Recorder :=
  let ofClient := (r.topics.get? clientId).getD []
  { r with
    topics := r.topics.insert clientId
      (if ids.isEmpty then Assoc.erase topic ofClient else Assoc.insert topic ids ofClient) }

/-- Makes an operation fail. -/
def fail (op : Operation) (r : Recorder) : Recorder :=
  { r with failing := if op ∈ r.failing then r.failing else r.failing ++ [op] }

/-- Lets an operation succeed again. -/
def restore (op : Operation) (r : Recorder) : Recorder :=
  { r with failing := r.failing.filter (· != op) }

/-! ## Events -/

/-- A client is told whether it could be made. -/
def initialized (clientId : String) (ready : Bool) : Emission :=
  ⟨.client clientId .initialized, (Event.Initialized.mk ready).payload⟩

/-- A connection is acknowledged. -/
def connected (clientId : String) : Emission :=
  ⟨.client clientId .connected, (Event.Connected.mk .normal).payload⟩

/-- A connection or an attempt ends. -/
def disconnected (clientId : String) (reason : ReasonCode) : Emission :=
  ⟨.client clientId .disconnected, (Event.Disconnected.mk reason none).payload⟩

/-- An operation is reported as failed. -/
def failure (clientId : String) (e : Event.Failure) : Emission :=
  ⟨.client clientId .failure, e.payload⟩

/-- A message arrives for a subscription. -/
def message (id : SubscriptionId) (topic payload : String) (qos : Qos) : Emission :=
  ⟨.subscription id .message, (Event.Message.mk payload topic qos).payload⟩

/-- A subscription is granted. -/
def granted (id : SubscriptionId) (topic : String) (qos : Qos) : Emission :=
  ⟨.subscription id .subscribed, (Event.Subscribed.ofTopic topic qos).payload⟩

/-- A subscription is refused. -/
def notGranted (id : SubscriptionId) (message : String) : Emission :=
  ⟨.subscription id .subscribeFailed,
    (Event.SubscribeFailed.mk message none (some .subscriptionError)).payload⟩

/-- A message for every subscription on a topic of a client. -/
def publish (clientId topic payload : String) (qos : Qos) (r : Recorder) : List Emission :=
  (r.subscribers clientId topic).map fun id => message id topic payload qos

/-! ## Requests -/

/-- Carries a request out that is not refused. -/
def carryOut (request : Request) (r : Recorder) : Recorder × List Emission :=
  match request with
  | .create clientId .. =>
    (r.setStatus clientId .disconnected,
      (r.initAnswer.map fun ready => initialized clientId ready).toList)
  | .remove clientId =>
    ({ r with
        statuses := r.statuses.erase clientId
        topics := r.topics.erase clientId }, [])
  | .connect clientId _ =>
    match r.behavior with
    | .manual => (r.setStatus clientId .connecting, [])
    | .accept => (r.setStatus clientId .connected, [connected clientId])
    | .refuse reason => (r.setStatus clientId .disconnected, [disconnected clientId reason])
  | .disconnect clientId => (r.setStatus clientId .disconnected, [])
  | .subscribe id clientId topic _ =>
    let ids := r.holders clientId topic
    let after := r.setHolders clientId topic (ids.insert id.text id)
    (if ids.isEmpty then { after with subscribed := after.subscribed ++ [topic] } else after, [])
  | .unsubscribe id clientId topic =>
    let ids := r.holders clientId topic
    let left := ids.erase id.text
    let after := r.setHolders clientId topic left
    (if !ids.isEmpty && left.isEmpty then
        { after with unsubscribed := after.unsubscribed ++ [topic] } else after, [])

/-- Records a request, and carries it out unless its operation is refused. -/
def answer (request : Request) (r : Recorder) : Recorder × Reply :=
  let r := { r with calls := r.calls ++ [request] }
  if request.operation ∈ r.failing then (r, { fault := some (request.fault "mock failure") })
  else
    let (r, events) := r.carryOut request
    (r, { events := events })

/-- The layer. -/
def layer : Layer Recorder := ⟨answer, status⟩

/-- Every request is recorded, refused or not. -/
theorem answer_calls (request : Request) (r : Recorder) :
    (r.answer request).1.calls = r.calls ++ [request] := by
  unfold answer
  dsimp only
  split
  · rfl
  · cases request <;> simp only [carryOut, setStatus, setHolders]
    · split <;> rfl
    · split <;> rfl
    · split <;> rfl

/-- A refused request changes nothing beside the record. -/
theorem answer_refused (request : Request) (r : Recorder) (h : request.operation ∈ r.failing) :
    r.answer request =
      ({ r with calls := r.calls ++ [request] },
        { fault := some (request.fault "mock failure") }) := by
  simp [answer, h]

end Recorder

end MqttRelay.Native
