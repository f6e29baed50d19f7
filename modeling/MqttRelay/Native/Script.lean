import MqttRelay.Native.Adapter
import MqttRelay.Native.Wire

/-!
# Scripts against a broker

Programs of requests to the adapter and of packets that a broker sends, with what comes of
each step: the events, what the broker got, and the statuses. After each step the worker and
the connections run until nothing is left to do.

Results:
* `run_length`: a run reports once for each of its steps.
-/

namespace MqttRelay.Native.Script

/-- Which unanswered request of a connection an answer is for. -/
inductive Which where
  /-- The one in this place, counted from the oldest. -/
  | place (index : Nat)
  /-- The one with this id, asked or not. -/
  | id (id : Nat)
  deriving DecidableEq, Inhabited, Repr

/-- One step of a program. -/
inductive Step where
  | request (r : Request)
  /-- Requests that wait for the worker together. -/
  | batch (requests : List Request)
  | wait
  | packet (clientId : String) (p : Packet)
  | suback (clientId : String) (codes : List Nat) (which : Which)
  | unsuback (clientId : String) (codes : List Nat) (which : Which)
  | raw (clientId : String) (bytes : List UInt8)
  /-- The broker ends the connection. -/
  | close (clientId : String)
  deriving DecidableEq, Inhabited, Repr

/-- The answer of a step. -/
inductive Answer where
  | nothing
  | fault (f : Option Fault)
  | faults (fs : List (Option Fault))
  | sent
  | closing
  | noConnection
  | nothingToAnswer
  deriving DecidableEq, Inhabited, Repr

/-- The adapter and the broker's side of its connections. -/
structure State where
  adapter : Adapter := {}
  /-- The requests that were answered, by link and id. -/
  answered : List (Nat × Nat) := []
  /-- The bytes that are no whole packet yet, by link. -/
  unread : List (Nat × List UInt8) := []
  deriving Inhabited

/-- Which brokers can be reached, by host and port. -/
abbrev Network := String → UInt16 → Bool

/-! ## Running until quiet -/

/-- Lets the worker carry out the first `n` requests that wait. -/
def workEach : (n : Nat) → Adapter → Adapter × List Emission
  | 0, a => (a, [])
  | n + 1, a =>
    let (a, first) := a.work
    let (a, rest) := workEach n a
    (a, first ++ rest)

/-- Lets the worker carry out all requests that wait. -/
def workAll (a : Adapter) : Adapter × List Emission := workEach a.commands.length a

/-- What a connection does when it gets to run: it opens, or writes what waits. -/
def runLink (network : Network) (a : Adapter) (link : Nat) : Adapter × List Emission :=
  match a.links[link]? with
  | none => (a, [])
  | some l =>
    match l.connection.stage with
    | .opening => a.onLink link (·.connect (network l.host l.port))
    | _ => a.onLink link (·.writeAll)

/-- Lets all connections run, in the order in which they were begun. -/
def runLinks (network : Network) (a : Adapter) : Adapter × List Emission :=
  (List.range a.links.length).foldl (fun (a, events) link =>
    let (a, more) := runLink network a link
    (a, events ++ more)) (a, [])

/-- Runs the worker and then the connections. -/
def settle (network : Network) (a : Adapter) : Adapter × List Emission :=
  let (a, first) := workAll a
  let (a, rest) := runLinks network a
  (a, first ++ rest)

/-! ## Steps -/

/-- The open connection of a client. -/
def openLink (a : Adapter) (clientId : String) : Option Nat :=
  (a.links.zipIdx.filter fun p =>
    p.1.clientId == clientId &&
      (p.1.connection.stage == .greeting || p.1.connection.stage == .live)).getLast?.map (·.2)

/-- Sends packets on the open connection of a client. -/
def sendAll (clientId : String) (packets : List Packet) (s : State) :
    State × Answer × List Emission :=
  match openLink s.adapter clientId with
  | none => (s, .noConnection, [])
  | some link =>
    let (a, events) := packets.foldl (fun (a, events) p =>
      let (a, more) := a.onLink link (·.receive p)
      (a, events ++ more)) (s.adapter, [])
    ({ s with adapter := a }, .sent, events)

/-- The id of a request, if it is of the sort that is looked for. -/
abbrev Asked := Sent → Option Nat

/-- The id of a subscription. -/
def subscription : Asked
  | .subscribe id _ _ => some id
  | _ => none

/-- The id of the end of a subscription. -/
def unsubscription : Asked
  | .unsubscribe id _ => some id
  | _ => none

/-- Answers a request of a client. -/
def reply (clientId : String) (asked : Asked) (which : Which) (packet : Nat → Packet) (s : State) :
    State × Answer × List Emission :=
  match which with
  | .id id => sendAll clientId [packet id] s
  | .place index =>
    let found := do
      let link ← openLink s.adapter clientId
      let l ← s.adapter.links[link]?
      let ids := (l.connection.sent.filterMap asked).filter fun id => (link, id) ∉ s.answered
      let id ← ids[index]?
      some (link, id)
    match found with
    | none => (s, .nothingToAnswer, [])
    | some (link, id) =>
      sendAll clientId [packet id] { s with answered := (link, id) :: s.answered }

/-- Puts a request to the adapter. -/
def request (r : Request) (s : State) : State × Option Fault :=
  let (a, reply) := s.adapter.answer r
  ({ s with adapter := a }, reply.fault)

/-- Puts requests to the adapter, one after the other. -/
def requests : List Request → State → State × List (Option Fault)
  | [], s => (s, [])
  | r :: rs, s =>
    let (s, f) := request r s
    let (s, fs) := requests rs s
    (s, f :: fs)

/-- Does one step. -/
def step (st : Step) (s : State) : State × Answer × List Emission :=
  match st with
  | .request r =>
    let (s, f) := request r s
    (s, .fault f, [])
  | .batch rs =>
    let (s, fs) := requests rs s
    (s, .faults fs, [])
  | .wait => (s, .nothing, [])
  | .packet clientId p => sendAll clientId [p] s
  | .suback clientId codes which => reply clientId subscription which (.suback · codes) s
  | .unsuback clientId codes which => reply clientId unsubscription which (.unsuback · codes) s
  | .raw clientId bytes =>
    match openLink s.adapter clientId with
    | none => (s, .noConnection, [])
    | some link =>
      let before := ((s.unread.find? (·.1 == link)).map (·.2)).getD []
      let (packets, left) := Packet.readAll (before ++ bytes)
      sendAll clientId packets
        { s with unread := (link, left) :: s.unread.filter (·.1 != link) }
  | .close clientId =>
    match openLink s.adapter clientId with
    | none => (s, .noConnection, [])
    | some link =>
      let (a, events) := s.adapter.onLink link fun c =>
        (c, [Connection.failure "I/O: connection closed by peer"])
      ({ s with adapter := a }, .closing, events)

/-! ## Reports -/

/-- What is seen of a step. -/
structure Report where
  answer : Answer
  /-- The events in order, with their flat names. -/
  events : List (String × Event.Payload)
  /-- What the broker got from each client that it got something from. -/
  broker : List (String × List Sent)
  statuses : List (String × Status)
  deriving Inhabited

/-- What the broker got from a client between two states: on each connection, what the later
state adds to the earlier one. -/
def newSent (before after : Adapter) (clientId : String) : List Sent :=
  (after.links.zipIdx.filter (·.1.clientId == clientId)).flatMap fun p =>
    p.1.connection.sent.drop ((before.links[p.2]?.map (·.connection.sent.length)).getD 0)

/-- Does one step, runs everything until quiet, and reports on the clients of the list. -/
def observe (network : Network) (clients : List String) (st : Step) (s : State) :
    State × Report :=
  let before := s.adapter
  let (s, answer, first) := step st s
  let (a, rest) := settle network s.adapter
  ({ s with adapter := a }, {
    answer := answer
    events := (first ++ rest).map fun e => (e.key.name, e.payload)
    broker := (clients.map fun c => (c, newSent before a c)).filter fun p => !p.2.isEmpty
    statuses := clients.map fun c => (c, a.status c) })

/-- Does the steps of a program in order and reports on each. -/
def runFrom (network : Network) (clients : List String) : List Step → State → List Report
  | [], _ => []
  | st :: rest, s =>
    let (s, report) := observe network clients st s
    report :: runFrom network clients rest s

/-- Runs a program. -/
def run (network : Network) (clients : List String) (steps : List Step) : List Report :=
  runFrom network clients steps {}

theorem runFrom_length (network : Network) (clients : List String) (steps : List Step)
    (s : State) : (runFrom network clients steps s).length = steps.length := by
  induction steps generalizing s with
  | nil => rfl
  | cons st rest ih => simp [runFrom, ih]

/-- A run reports once for each of its steps. -/
theorem run_length (network : Network) (clients : List String) (steps : List Step) :
    (run network clients steps).length = steps.length :=
  runFrom_length _ _ _ _

end MqttRelay.Native.Script
