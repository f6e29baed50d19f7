import MqttRelay.Client.Config
import MqttRelay.Client.State
import MqttRelay.Native.Request
import MqttRelay.Router.Dispatch

/-!
# Clients on a router

Many clients on one router and one native layer, with their subscriptions, the clients under
construction, the shared client, and a clock with the tasks that wait on it. Clients,
subscriptions, clients under construction and shared clients are known by their numbers; what
was made is never forgotten, so that a number means the same for ever.

Results:
* `clients_modifyClient_self`, `clients_modifyClient_of_ne`: a change of a client changes that
  client alone.
* `isHeld_hold`: a client that was given a name is held.
-/

namespace MqttRelay.Client

/-- What a callback for ended connections is told. -/
structure Disconnection where
  reason : ReasonCode
  cause : Disconnect.Cause
  /-- The attempts made in the current cycle. -/
  retries : UInt32
  options : Options
  deriving DecidableEq, Inhabited, Repr

/-- What a callback is told. -/
inductive Notice where
  | initialized (e : Event.Initialized)
  | connected (e : Event.Connected)
  | connectFailed (reason : ReasonCode)
  | disconnected (d : Disconnection)
  | failure (e : Event.Failure)
  | message (e : Event.Message)
  | subscribed (e : Event.Subscribed)
  | subscribeFailed (e : Event.SubscribeFailed)
  deriving DecidableEq, Inhabited, Repr

/-- A kind of callback on a client, apart from its subscriptions. -/
inductive Interest where
  | initialized
  | connected
  | connectFailed
  | disconnected
  | failure
  deriving DecidableEq, Inhabited, Repr

/-- The kind of event that a callback listens to. -/
def Interest.event : Interest → Event.Kind
  | initialized => .initialized
  | connected => .connected
  | connectFailed => .disconnected
  | disconnected => .disconnected
  | failure => .failure

/-- What listens on the router. Callbacks are the application's, by its numbers. -/
inductive Handler where
  /-- Takes the first answer to the making of a client. -/
  | answer (creation : Nat)
  /-- Moves a client at an acknowledgement. -/
  | acknowledge (client : Nat)
  /-- Moves a client at the end of a connection. -/
  | lose (client : Nat)
  /-- Tells a callback on a client. -/
  | tell (interest : Interest) (client callback : Nat)
  /-- Tells a callback of the messages for a subscription. -/
  | message (callback : Nat)
  /-- Tells a callback, if there is one, that a subscription was granted. -/
  | subscribed (topic : String) (qos : Qos) (callback : Option Nat)
  /-- Tells a callback, if there is one, that a subscription was refused. -/
  | subscribeFailed (topic : String) (callback : Option Nat)
  deriving DecidableEq, Inhabited, Repr

/-- The subscriptions of one client. -/
structure Registry where
  /-- The number of the latest subscription id that was given out. -/
  tag : Nat := 0
  /-- The live subscriptions. -/
  entries : List Nat := []
  /-- Whether the client is gone; nothing is registered from then on. -/
  closed : Bool := false
  deriving DecidableEq, Inhabited, Repr

/-- A client: who it is, its state, the listeners that move it, its subscriptions, and the
number of its next interceptor. -/
structure Member where
  identity : Identity
  state : State Nat
  lifecycle : List Router.Handle := []
  registry : Registry := {}
  nextInterceptor : Nat := 1
  deriving Inhabited

/-- A subscription. -/
structure Subscription where
  client : Nat
  clientId : String
  id : SubscriptionId
  topic : String
  qos : Qos
  listeners : List Router.Handle := []
  active : Bool := true
  deriving DecidableEq, Inhabited, Repr

/-- Whoever wants a client made: the holder of a name, or a shared client on behalf of one. -/
inductive Requester where
  | name (label : String)
  | shared (number : Nat) (label : String)
  deriving DecidableEq, Inhabited, Repr

/-- A client under construction. -/
structure Creation where
  requester : Requester
  client : Nat
  /-- The listener that waits for the answer. -/
  listener : Router.Handle
  /-- The first answer, once it is there. -/
  answer : Option Bool := none
  /-- When the waiting ends, unless it never does. -/
  due : Option Nat := none
  /-- Whether the construction came to an end, or nobody waits for it any more. -/
  ended : Bool := false
  deriving DecidableEq, Inhabited, Repr

/-- A callback of a shared client. -/
inductive Registration where
  /-- It waits for a client. -/
  | queued (interest : Interest) (callback : Nat)
  /-- It listens for the present client. -/
  | attached (handle : Router.Handle)
  deriving DecidableEq, Inhabited, Repr

/-- A client that is made at need and shared. -/
structure Shared where
  client : Option Nat := none
  config : Option Config := none
  /-- The callbacks by number, in order of registration. -/
  registrations : List (Nat × Registration) := []
  nextId : Nat := 1
  /-- Whether an initialization is under way. -/
  locked : Bool := false
  /-- The initializations that wait for their turn, in order. -/
  waiting : List (String × Config) := []
  deriving DecidableEq, Inhabited, Repr

/-- Work that waits for its turn or its time. -/
inductive Task where
  /-- A retry that was scheduled, with its delay. -/
  | retry (client generation delayMs : Nat)
  /-- The fired timer of a retry. -/
  | fire (client generation : Nat)
  /-- A question to an interceptor. -/
  | consult (client generation interceptor : Nat) (reason : Option ReasonCode)
  /-- A question that an interceptor comes back to. -/
  | resume (client generation interceptor call : Nat)
  /-- The making of a client. -/
  | create (label : String) (config : Config)
  /-- A look at a client under construction. -/
  | await (creation : Nat)
  /-- The initialization of a shared client. -/
  | setUp (shared : Nat) (label : String) (config : Config)
  /-- The initialization of a shared client whose turn it is. -/
  | proceed (shared : Nat) (label : String) (config : Config)
  deriving DecidableEq, Inhabited, Repr

namespace Task

/-- The client that a task keeps alive: that of a retry whose timer fired and which waits for
its interceptor. -/
def holds : Task → Option Nat
  | consult client .. => some client
  | resume client .. => some client
  | _ => none

/-- The shared client that a task keeps alive. -/
def holdsShared : Task → Option Nat
  | setUp shared .. => some shared
  | proceed shared .. => some shared
  | _ => none

end Task

/-- What is seen from outside while clients run. -/
inductive Entry where
  /-- A request went to the native layer. -/
  | request (r : Native.Request)
  /-- The native layer refused a request. -/
  | fault (f : Native.Fault)
  /-- The making of a client came to its end, with a client or without. -/
  | made (requester : Requester) (success : Bool)
  /-- A callback was told. -/
  | told (label : String) (notice : Notice)
  /-- An interceptor was asked. -/
  | consulted (label : String) (reason : Option ReasonCode)
  /-- The application did something of its own, with a result. -/
  | did (name : String) (result : Value)
  deriving Inhabited

/-- Clients with a native layer in a state of type `N` and an application of type `A`. -/
structure System (N A : Type) where
  native : N
  app : A
  /-- Whether work can be scheduled. -/
  runtime : Bool := true
  /-- How long the making of a client waits for an answer, unless for ever. -/
  patience : Option Nat := none
  /-- The time in milliseconds. -/
  now : Nat := 0
  clients : List Member := []
  subscriptions : List Subscription := []
  creations : List Creation := []
  shareds : List Shared := []
  /-- The shared client of the application. -/
  shared : Option Nat := none
  /-- The clients that the application holds, by name. -/
  names : Assoc Nat := []
  /-- The clients that are held while an operation on them runs. -/
  pinned : List Nat := []
  /-- Work whose turn has come, in order. -/
  ready : List Task := []
  /-- Work that waits for its time, in order of the time. -/
  sleeping : List (Nat × Task) := []
  /-- What was seen, with its time. -/
  journal : List (Nat × Entry) := []
  deriving Inhabited

/-- Clients on their router. -/
abbrev World (N A : Type) := Hub (System N A) Handler

namespace System

variable {N A : Type}

/-- Changes one client. -/
def modifyClient (s : System N A) (client : Nat) (f : Member → Member) : System N A :=
  { s with clients := s.clients.modify client f }

/-- Changes one subscription. -/
def modifySubscription (s : System N A) (number : Nat) (f : Subscription → Subscription) :
    System N A :=
  { s with subscriptions := s.subscriptions.modify number f }

/-- Changes one client under construction. -/
def modifyCreation (s : System N A) (number : Nat) (f : Creation → Creation) : System N A :=
  { s with creations := s.creations.modify number f }

/-- Changes one shared client. -/
def modifyShared (s : System N A) (number : Nat) (f : Shared → Shared) : System N A :=
  { s with shareds := s.shareds.modify number f }

/-- Puts a task behind those whose turn has come. -/
def enqueue (s : System N A) (t : Task) : System N A := { s with ready := s.ready ++ [t] }

/-- Puts a task before those whose turn has come. -/
def enqueueFirst (s : System N A) (t : Task) : System N A := { s with ready := t :: s.ready }

/-- Puts a task behind those that sleep no longer than it. -/
def insertSleeping (due : Nat) (t : Task) : List (Nat × Task) → List (Nat × Task)
  | [] => [(due, t)]
  | p :: ps => if due < p.1 then (due, t) :: p :: ps else p :: insertSleeping due t ps

/-- Lets a task sleep for a number of milliseconds. -/
def sleep (s : System N A) (delayMs : Nat) (t : Task) : System N A :=
  { s with sleeping := insertSleeping (s.now + delayMs) t s.sleeping }

/-- Adds to the journal. -/
def note (s : System N A) (e : Entry) : System N A :=
  { s with journal := s.journal ++ [(s.now, e)] }

/-- Gives a client a name of the application; an earlier client of that name loses it. -/
def hold (s : System N A) (name : String) (client : Nat) : System N A :=
  { s with names := s.names.insert name client }

/-- All tasks. -/
def tasks (s : System N A) : List Task := s.ready ++ s.sleeping.map (·.2)

/-- Whether a shared client still exists: the application has it, or its initialization is
under way. -/
def sharedIsHeld (s : System N A) (number : Nat) : Bool :=
  s.shared == some number ||
    (s.shareds[number]?.map fun h => h.locked || !h.waiting.isEmpty).getD false ||
    s.tasks.any fun t => t.holdsShared == some number

/-- Whether a client still exists: somebody holds it by name, an operation on it runs, it is
under construction, it is shared, or a retry of it waits for its interceptor. -/
def isHeld (s : System N A) (client : Nat) : Bool :=
  s.names.any (fun p => p.2 == client) ||
    s.pinned.contains client ||
    s.creations.any (fun c => c.client == client && !c.ended) ||
    s.tasks.any (fun t => t.holds == some client) ||
    s.shareds.zipIdx.any fun p => p.1.client == some client && s.sharedIsHeld p.2

@[simp] theorem clients_modifyClient_self (s : System N A) (client : Nat)
    (f : Member → Member) :
    (s.modifyClient client f).clients[client]? = s.clients[client]?.map f := by
  simp [modifyClient]

theorem clients_modifyClient_of_ne (s : System N A) {client other : Nat}
    (f : Member → Member) (h : client ≠ other) :
    (s.modifyClient client f).clients[other]? = s.clients[other]? := by
  simp [modifyClient, h]

/-- A client that was given a name is held. -/
theorem isHeld_hold (s : System N A) (name : String) (client : Nat) :
    (s.hold name client).isHeld client = true := by
  have h : (s.names.insert name client).any (fun p => p.2 == client) = true := by
    have hg := Assoc.get?_insert_self name client s.names
    simp only [Assoc.get?, Option.map_eq_some_iff] at hg
    obtain ⟨p, hp, hc⟩ := hg
    exact List.any_eq_true.2 ⟨p, List.mem_of_find?_eq_some hp, by simp [hc]⟩
  simp [isHeld, hold, h]

end System

namespace World

variable {N A : Type}

/-- Changes what is kept beside the router. -/
def update (w : World N A) (f : System N A → System N A) : World N A :=
  { w with store := f w.store }

/-- Sets the router. -/
def setRouter (w : World N A) (router : Router Handler) : World N A := { w with router := router }

/-- A client. -/
def client? (w : World N A) (client : Nat) : Option Member := w.store.clients[client]?

/-- Whether a client still exists. -/
def isHeld (w : World N A) (client : Nat) : Bool := w.store.isHeld client

/-- Adds to the journal. -/
def note (w : World N A) (e : Entry) : World N A := w.update (·.note e)

/-- Holds a client for an operation on it. -/
def pin (w : World N A) (client : Nat) : World N A :=
  w.update fun s => { s with pinned := client :: s.pinned }

/-- Ends the holding of a client for an operation on it. -/
def unpin (w : World N A) (client : Nat) : World N A :=
  w.update fun s => { s with pinned := s.pinned.erase client }

end World

end MqttRelay.Client
