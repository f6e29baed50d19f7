import MqttRelay.Native.Connection
import MqttRelay.Native.Request
import MqttRelay.Redaction
import MqttRelay.Topic.Table

/-!
# The broker adapter

The native layer that speaks to brokers. Callers only put requests into a queue; a worker
carries them out in order. Each client has a slot with a topic table and at most one
connection; each connection has a generation, and whatever happens on a connection whose
generation has passed is ignored.

Results:
* `answer_of_unknown`: a request other than a creation is refused for an unknown client.
* `handle_of_superseded`: nothing that happens on a superseded connection has an effect.
-/

namespace MqttRelay.Native

/-- What every caller can see of a client: its status, and the generation of its latest
connection. -/
structure Standing where
  status : Status := .disconnected
  generation : Nat := 0
  deriving DecidableEq, Inhabited, Repr

/-- The subscriptions of a client: the topic table, the topics whose subscription waits to be
written, in order, and those whose subscription waits for an answer, by the id it was written
under. -/
structure Book where
  table : Topic.Table := []
  queued : List String := []
  inFlight : List (Nat × String) := []
  deriving DecidableEq, Inhabited, Repr

namespace Book

/-- Forgets what belongs to an earlier connection. -/
def forgetAnswers (b : Book) : Book := { b with queued := [], inFlight := [] }

/-- Notes that a subscription waits to be written. -/
def enqueue (b : Book) (topic : String) : Book := { b with queued := b.queued ++ [topic] }

/-- Notes that the first waiting subscription was written under an id. -/
def written (b : Book) (id : Nat) : Book :=
  match b.queued with
  | [] => b
  | topic :: rest =>
    { b with queued := rest, inFlight := (id, topic) :: b.inFlight.filter (·.1 != id) }

end Book

/-- A connection with where it belongs and where it goes: its client, its generation, its
book, and the broker's address. -/
structure Link where
  clientId : String
  generation : Nat
  book : Nat
  host : String
  port : UInt16
  connection : Connection
  deriving DecidableEq, Inhabited, Repr

/-- What the worker keeps of a client: the broker's address, its book, and its latest
connection. -/
structure Slot where
  host : String
  port : UInt16
  tls : Bool
  book : Nat
  link : Option Nat := none
  deriving DecidableEq, Inhabited, Repr

/-- The adapter. Books and links go by their numbers. -/
structure Adapter where
  standings : Assoc Standing := []
  /-- The requests that wait for the worker, in order. -/
  commands : List Request := []
  /-- Whether the worker runs. -/
  working : Bool := true
  slots : Assoc Slot := []
  books : List Book := []
  links : List Link := []
  deriving Inhabited

namespace Adapter

/-! ## Callers -/

/-- The status of a client; one that is not known counts as disconnected. -/
def status (clientId : String) (a : Adapter) : Status :=
  ((a.standings.get? clientId).map (·.status)).getD .disconnected

/-- Whether a client is known. -/
def knows (a : Adapter) (clientId : String) : Bool := a.standings.contains clientId

/-- Puts a request into the queue. A creation makes its client known; any other request is
refused unless the client is. -/
def answer (r : Request) (a : Adapter) : Adapter × Reply :=
  let a := match r with
    | .create clientId .. =>
      if a.knows clientId then a
      else { a with standings := a.standings.insert clientId {} }
    | _ => a
  if a.knows r.clientId then
    if a.working then ({ a with commands := a.commands ++ [r] }, {})
    else (a, { fault := some (.workerUnavailable r.operation) })
  else (a, { fault := some (.unknownClient r.operation r.clientId) })

/-- The layer. -/
def layer : Layer Adapter := ⟨answer, status⟩

/-! ## Events -/

/-- An event of a client. -/
def ofClient (clientId : String) (kind : Event.Kind) (payload : Event.Payload) : Emission :=
  ⟨.client clientId kind, payload⟩

/-- A subscription is told that it was granted. -/
def granted (topic : String) (id : SubscriptionId) (qos : Qos) : Emission :=
  ⟨.subscription id .subscribed, (Event.Subscribed.ofTopic topic qos).payload⟩

/-- A subscription is told that it was refused. -/
def refused (topic : String) (message : String) (id : SubscriptionId) : Emission :=
  ⟨.subscription id .subscribeFailed,
    (Event.SubscribeFailed.mk message (some topic) (some .subscriptionError)).payload⟩

/-- Why a request did not get into the queue of a connection. -/
def notSent : String := Redaction.sanitize "Failed to send mqtt requests to eventloop"

/-! ## Parts -/

/-- The book of a number. -/
def book (a : Adapter) (number : Nat) : Book := a.books[number]?.getD {}

/-- Sets a book. -/
def setBook (a : Adapter) (number : Nat) (b : Book) : Adapter :=
  { a with books := a.books.set number b }

/-- Sets the connection of a link. -/
def setConnection (a : Adapter) (link : Nat) (c : Connection) : Adapter :=
  { a with links := a.links.modify link fun l => { l with connection := c } }

/-- Closes the connection of a link. -/
def closeLink (a : Adapter) (link : Nat) : Adapter :=
  { a with links := a.links.modify link fun l => { l with connection := l.connection.close } }

/-- Puts a request into the queue of a link; the answer is whether it was accepted. -/
def offer (a : Adapter) (link : Nat) (o : Outgoing) : Adapter × Bool :=
  match a.links[link]? with
  | none => (a, false)
  | some l =>
    match l.connection.offer o with
    | none => (a, false)
    | some c => (a.setConnection link c, true)

/-- Whether a generation is the latest of its client. -/
def isCurrent (a : Adapter) (clientId : String) (generation : Nat) : Bool :=
  (a.standings.get? clientId).any (·.generation == generation)

/-- Sets the status of a client on behalf of a generation; the answer is whether it was the
latest. -/
def setStatus (a : Adapter) (clientId : String) (generation : Nat) (status : Status) :
    Adapter × Bool :=
  if a.isCurrent clientId generation then
    ({ a with standings := a.standings.modify clientId fun s => { s with status := status } },
      true)
  else (a, false)

/-- Reports the end of a connection, if its generation is the latest. -/
def reportEnd (a : Adapter) (clientId : String) (generation : Nat) (e : Event.Disconnected) :
    Adapter × List Emission :=
  let (a, current) := a.setStatus clientId generation .disconnected
  (a, if current then [ofClient clientId .disconnected e.payload] else [])

/-- Closes the connection of a slot. -/
def stop (a : Adapter) (clientId : String) (s : Slot) : Adapter :=
  match s.link with
  | none => a
  | some link =>
    { a.closeLink link with slots := a.slots.insert clientId { s with link := none } }

/-! ## The worker -/

/-- A client of which the worker has no slot. -/
def reportUnknown (clientId : String) (op : Operation) : List Emission :=
  [ofClient clientId .failure (Event.Failure.payload {
    message := (Fault.unknownClient op clientId).message
    operation := some op.text
    reason := op.reason })]

/-- A keep-alive that a connection accepts, in seconds. -/
def leastKeepAlive : UInt16 := 5

/-- Opens a connection for a client: any earlier one is closed, a new generation begins, and
the answers that the earlier one waited for are forgotten. A keep-alive that no connection
accepts ends the worker. -/
def connect (clientId : String) (s : Slot) (p : ConnectParameters) (a : Adapter) : Adapter :=
  let a := a.stop clientId s
  match a.standings.get? clientId with
  | none => a
  | some standing =>
    let generation := standing.generation + 1
    let a := { a with standings := a.standings.insert clientId ⟨.connecting, generation⟩ }
    let a := a.setBook s.book (a.book s.book).forgetAnswers
    if p.keepAlive < leastKeepAlive then { a with working := false, commands := [], slots := [] }
    else
      { a with
        links := a.links ++ [⟨clientId, generation, s.book, s.host, s.port, { parameters := p }⟩]
        slots := a.slots.insert clientId { s with link := some a.links.length } }

/-- Ends the connection of a client. A live one says so to the broker and reports its end when
that is written. -/
def disconnect (clientId : String) (s : Slot) (a : Adapter) : Adapter × List Emission :=
  match a.standings.get? clientId, s.link with
  | some standing, some link =>
    if standing.status = .connected then
      match a.offer link .disconnect with
      | (a, true) => (a, [])
      | (a, false) =>
        (a.stop clientId s).reportEnd clientId standing.generation
          { reason := .disconnectionError }
    else
      (a.stop clientId s).reportEnd clientId standing.generation { reason := .normal }
  | _, _ => (a, [])

/-- Records a subscription. While the client is connected the broker is asked, unless another
subscription covers this one; what was granted to others is granted to it at once. -/
def subscribe (clientId : String) (s : Slot) (id : SubscriptionId) (topic : String) (qos : Qos)
    (a : Adapter) : Adapter × List Emission :=
  let b := a.book s.book
  let (table, added) := b.table.add topic id qos
  let b := { b with table := table }
  let a := a.setBook s.book b
  let told := a.setBook s.book { b with table := table.markTold topic id }
  match s.link with
  | none => (a, [])
  | some link =>
    if a.status clientId = .connected then
      match added with
      | .subscribe qos =>
        match a.offer link (.subscribe topic qos) with
        | (a, true) => (a.setBook s.book (b.enqueue topic), [])
        | (_, false) => (told, [refused topic notSent id])
      | .covered =>
        if table.isConfirmed topic then (told, [granted topic id qos]) else (a, [])
    else (a, [])

/-- Releases a subscription; the last one of a topic gives the topic up at the broker. -/
def unsubscribe (clientId : String) (s : Slot) (id : SubscriptionId) (topic : String)
    (a : Adapter) : Adapter × List Emission :=
  let b := a.book s.book
  let (table, removed) := b.table.remove topic id
  let a := a.setBook s.book { b with table := table }
  match removed, s.link with
  | .released, some link =>
    match a.offer link (.unsubscribe topic) with
    | (a, true) => (a, [])
    | (a, false) =>
      (a, [ofClient clientId .failure (Event.Failure.payload {
        message := notSent
        operation := some Operation.unsubscribe.text
        reason := .unsubscriptionError
        topic := some topic
        unsubscribed := some false })])
  | _, _ => (a, [])

/-- Carries a request out. -/
def carryOut (r : Request) (a : Adapter) : Adapter × List Emission :=
  match r with
  | .create clientId host port tls =>
    let a := match a.slots.get? clientId with
      | some s => a.stop clientId s
      | none => a
    ({ a with
        slots := a.slots.insert clientId ⟨host, port, tls, a.books.length, none⟩
        books := a.books ++ [({} : Book)] },
      [ofClient clientId .initialized (Event.Initialized.mk true).payload])
  | .remove clientId =>
    let a := match a.slots.get? clientId with
      | some s => a.stop clientId s
      | none => a
    ({ a with
        slots := a.slots.erase clientId
        standings := a.standings.erase clientId }, [])
  | .connect clientId p =>
    match a.slots.get? clientId with
    | some s => (a.connect clientId s p, [])
    | none => (a, reportUnknown clientId .connect)
  | .disconnect clientId =>
    match a.slots.get? clientId with
    | some s => a.disconnect clientId s
    | none => (a, reportUnknown clientId .disconnect)
  | .subscribe id clientId topic qos =>
    match a.slots.get? clientId with
    | some s => a.subscribe clientId s id topic qos
    | none => (a, reportUnknown clientId .subscribe)
  | .unsubscribe id clientId topic =>
    match a.slots.get? clientId with
    | some s => a.unsubscribe clientId s id topic
    | none => (a, [])

/-- Lets the worker carry out the first request that waits, if it runs. -/
def work (a : Adapter) : Adapter × List Emission :=
  match a.commands with
  | [] => (a, [])
  | r :: rest => if a.working then { a with commands := rest }.carryOut r else (a, [])

/-! ## Connections -/

/-- Subscribes to every recorded topic anew, at the highest level recorded for it. -/
def resubscribe (link book : Nat) (a : Adapter) : Adapter :=
  (a.book book).table.filters.foldl (fun a f =>
    match a.offer link (.subscribe f.1 f.2) with
    | (a, true) => a.setBook book ((a.book book).enqueue f.1)
    | (a, false) => a) a

/-- Settles the subscription that was written under an id. -/
def settle (book id : Nat) (grants : List Grant) (a : Adapter) : Adapter × List Emission :=
  let b := a.book book
  match b.inFlight.find? (·.1 == id) with
  | none => (a, [])
  | some (_, topic) =>
    let (table, untold) := b.table.takeUntold topic
    (a.setBook book { b with table := table, inFlight := b.inFlight.filter (·.1 != id) },
      untold.map fun s =>
        if grants.all Grant.isGranted then granted topic s.1 s.2
        else refused topic ("Broker rejected subscription: [" ++
          String.intercalate ", " (grants.map Grant.debugText) ++ "]") s.1)

/-- What follows when something happens on a connection; the answer is also whether the
connection goes on. -/
def handle (link : Nat) (h : Happening) (a : Adapter) : Adapter × List Emission × Bool :=
  match a.links[link]? with
  | none => (a, [], false)
  | some l =>
    if a.isCurrent l.clientId l.generation then
      match h with
      | .acknowledged reason =>
        let (a, _) := a.setStatus l.clientId l.generation .connected
        (a.resubscribe link l.book,
          [ofClient l.clientId .connected (Event.Connected.mk reason).payload], true)
      | .published topic payload qos =>
        (a, ((a.book l.book).table.matching topic).map fun id =>
          ⟨.subscription id .message, (Event.Message.mk payload topic qos).payload⟩, true)
      | .answered id grants =>
        let (a, events) := a.settle l.book id grants
        (a, events, true)
      | .wroteSubscribe id => (a.setBook l.book ((a.book l.book).written id), [], true)
      | .dismissed reason =>
        let (a, events) := a.reportEnd l.clientId l.generation { reason := reason }
        (a, events, false)
      | .wroteDisconnect =>
        let (a, events) := a.reportEnd l.clientId l.generation { reason := .normal }
        (a, events, false)
      | .failed reason message =>
        let (a, events) := a.reportEnd l.clientId l.generation
          { reason := reason, message := some (Redaction.sanitize message) }
        (a, events, false)
    else (a, [], false)

/-- Handles what happened on a connection, in order, until it ends; then it is closed. -/
def handleAll (link : Nat) : List Happening → Adapter → Adapter × List Emission
  | [], a => (a, [])
  | h :: hs, a =>
    match a.handle link h with
    | (a, events, true) =>
      let (a, more) := handleAll link hs a
      (a, events ++ more)
    | (a, events, false) => (a.closeLink link, events)

/-- Lets something come about on a connection and handles what happens. -/
def onLink (link : Nat) (f : Connection → Connection × List Happening) (a : Adapter) :
    Adapter × List Emission :=
  match a.links[link]? with
  | none => (a, [])
  | some l =>
    let (c, happenings) := f l.connection
    handleAll link happenings (a.setConnection link c)

/-- A request other than a creation is refused for an unknown client. -/
theorem answer_of_unknown (r : Request) (a : Adapter) (h : a.knows r.clientId = false)
    (hr : r.operation ≠ .create) :
    a.answer r = (a, { fault := some (.unknownClient r.operation r.clientId) }) := by
  cases r <;> simp_all [answer, Request.operation, Request.clientId]

/-- Nothing that happens on a superseded connection has an effect. -/
theorem handle_of_superseded (link : Nat) (h : Happening) (a : Adapter) (l : Link)
    (hl : a.links[link]? = some l) (hs : a.isCurrent l.clientId l.generation = false) :
    a.handle link h = (a, [], false) := by
  simp [handle, hl, hs]

end Adapter

end MqttRelay.Native
