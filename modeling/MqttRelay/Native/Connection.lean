import MqttRelay.Options
import MqttRelay.Qos
import MqttRelay.ReasonCode
import MqttRelay.Text.Utf8

/-!
# A connection to a broker

One connection of a client, packet by packet. Requests wait in a queue of bounded length and
are written in order while the connection is live. What arrives and what is written comes back
as happenings, in the order in which they come about; a failure is the last of them.

Results:
* `queue_offer`: an accepted request waits behind the others.
* `offer_eq_none_iff`: a request is not accepted exactly when the connection has ended or the
  queue is full.
* `writeAll_queue`: a live connection writes its whole queue.
-/

namespace MqttRelay.Native

/-- What may be asked of a connection. -/
inductive Outgoing where
  | subscribe (filter : String) (qos : Qos)
  | unsubscribe (filter : String)
  | disconnect
  deriving DecidableEq, Inhabited, Repr

/-- The outcome of one filter in the answer to a subscription. -/
inductive Grant where
  | granted (qos : Qos)
  | unspecified
  | implementationSpecific
  | notAuthorized
  | filterInvalid
  | idInUse
  | quotaExceeded
  | sharedNotSupported
  | idNotSupported
  | wildcardNotSupported
  deriving DecidableEq, Inhabited, Repr

namespace Grant

/-- The outcome of a code. -/
def ofCode? : Nat → Option Grant
  | 0 => some (granted .atMostOnce)
  | 1 => some (granted .atLeastOnce)
  | 2 => some (granted .exactlyOnce)
  | 128 => some unspecified
  | 131 => some implementationSpecific
  | 135 => some notAuthorized
  | 143 => some filterInvalid
  | 145 => some idInUse
  | 151 => some quotaExceeded
  | 158 => some sharedNotSupported
  | 161 => some idNotSupported
  | 162 => some wildcardNotSupported
  | _ => none

/-- Whether the filter was granted. -/
def isGranted : Grant → Bool
  | granted _ => true
  | _ => false

/-- The notation of an outcome in diagnostics. -/
def debugText : Grant → String
  | granted qos => "Success(" ++ qos.debugText ++ ")"
  | unspecified => "Unspecified"
  | implementationSpecific => "ImplementationSpecific"
  | notAuthorized => "NotAuthorized"
  | filterInvalid => "TopicFilterInvalid"
  | idInUse => "PkidInUse"
  | quotaExceeded => "QuotaExceeded"
  | sharedNotSupported => "SharedSubscriptionsNotSupported"
  | idNotSupported => "SubscriptionIdNotSupported"
  | wildcardNotSupported => "WildcardSubscriptionsNotSupported"

end Grant

/-- A packet from the broker. -/
inductive Packet where
  /-- The answer to the greeting, with its code. -/
  | connack (code : Nat)
  | publish (topic payload : List UInt8) (qos : Qos) (id : Nat)
  | suback (id : Nat) (codes : List Nat)
  | unsuback (id : Nat) (codes : List Nat)
  /-- The end of a message that was sent here with the highest guarantee. -/
  | pubrel (id : Nat)
  | pingresp
  /-- The broker ends the connection. -/
  | disconnect
  /-- A packet for a message that was never sent from here. -/
  | unsolicited
  /-- Bytes that are no packet. -/
  | malformed
  /-- The beginning of a packet. -/
  | fragment
  deriving DecidableEq, Inhabited, Repr

/-- The most bytes that a packet may have after its header. -/
def packetLimit : Nat := 10 * 1024

/-- The number of bytes of a published message after the header. -/
def publishSize (topic payload : List UInt8) (qos : Qos) : Nat :=
  2 + topic.length + (if qos = .atMostOnce then 0 else 2) + 1 + payload.length

/-- What the broker gets. -/
inductive Sent where
  | connect (parameters : ConnectParameters)
  | subscribe (id : Nat) (filter : String) (qos : Qos)
  | unsubscribe (id : Nat) (filter : String)
  | puback (id : Nat)
  | pubrec (id : Nat)
  | pubcomp (id : Nat)
  | disconnect
  /-- The end of the connection, from either side. -/
  | closed
  deriving DecidableEq, Inhabited, Repr

/-- What comes about on a connection. -/
inductive Happening where
  /-- The greeting was answered. -/
  | acknowledged (reason : ReasonCode)
  /-- A message arrived. -/
  | published (topic payload : String) (qos : Qos)
  /-- A subscription was answered. -/
  | answered (id : Nat) (grants : List Grant)
  /-- The broker ends the connection. -/
  | dismissed (reason : ReasonCode)
  /-- A subscription was written under this id. -/
  | wroteSubscribe (id : Nat)
  /-- The end of the connection was written. -/
  | wroteDisconnect
  /-- The connection failed. -/
  | failed (reason : ReasonCode) (message : String)
  deriving DecidableEq, Inhabited, Repr

/-- The stages of a connection. -/
inductive Stage where
  /-- It is not open yet. -/
  | opening
  /-- The greeting waits for its answer. -/
  | greeting
  | live
  | ended
  deriving DecidableEq, Inhabited, Repr

/-- A connection. -/
structure Connection where
  parameters : ConnectParameters
  stage : Stage := .opening
  /-- The requests that wait to be written, in order. -/
  queue : List Outgoing := []
  /-- The id of the latest request that has one. -/
  lastId : Nat := 0
  /-- The ids of messages with the highest guarantee whose end is awaited. -/
  held : List Nat := []
  /-- What the broker got, in order. -/
  sent : List Sent := []
  deriving DecidableEq, Inhabited, Repr

namespace Connection

/-- The most requests that can wait. -/
def capacity : Nat := 10

/-- Puts a request into the queue, if the connection has not ended and there is room. -/
def offer (o : Outgoing) (c : Connection) : Option Connection :=
  if c.stage = .ended ∨ capacity ≤ c.queue.length then none
  else some { c with queue := c.queue ++ [o] }

theorem offer_eq_none_iff (o : Outgoing) (c : Connection) :
    c.offer o = none ↔ c.stage = .ended ∨ capacity ≤ c.queue.length := by
  unfold offer
  split <;> simp_all

/-- An accepted request waits behind the others. -/
theorem queue_offer (o : Outgoing) (c d : Connection) (h : c.offer o = some d) :
    d.queue = c.queue ++ [o] := by
  unfold offer at h
  split at h
  · simp at h
  · simp only [Option.some.injEq] at h
    rw [← h]

/-- Adds to what the broker got. -/
def send (s : Sent) (c : Connection) : Connection := { c with sent := c.sent ++ [s] }

/-- Ends the connection. What the broker notices of it is that it is closed, if it was open. -/
def close (c : Connection) : Connection :=
  match c.stage with
  | .opening => { c with stage := .ended }
  | .ended => c
  | _ => send .closed { c with stage := .ended }

/-- The failure of a connection without a reason from the broker. -/
def failure (message : String) : Happening := .failed .connectionError message

/-- Opens the connection and greets the broker, if it can be reached. -/
def connect (reachable : Bool) (c : Connection) : Connection × List Happening :=
  if reachable then (send (.connect c.parameters) { c with stage := .greeting }, [])
  else (c, [failure "I/O: Connection refused"])

/-- The numbers under which refusals of a greeting are reported, by the broker's code. -/
def refusals : List (Nat × Int) :=
  [(128, 4), (129, 5), (130, 6), (131, 7), (132, 8), (133, 9), (134, 10), (135, 11), (136, 12),
   (137, 13), (138, 14), (140, 15), (144, 16), (149, 17), (151, 18), (153, 19), (154, 20),
   (155, 21), (156, 22), (157, 23), (159, 24)]

/-- What comes of a packet. -/
def receive (p : Packet) (c : Connection) : Connection × List Happening :=
  match c.stage, p with
  | .opening, _ => (c, [])
  | .ended, _ => (c, [])
  | _, .fragment => (c, [])
  | .greeting, .connack code =>
    if code = 0 then ({ c with stage := .live }, [.acknowledged .normal])
    else
      match refusals.find? (·.1 == code) with
      | some r => (c, [.failed (.ofInt r.2) "Connection refused"])
      | none => (c, [failure "Mqtt serialization/deserialization error"])
  | .greeting, _ => (c, [failure "Expected ConnAck packet"])
  | .live, .connack code =>
    (c, [if code = 0 then .acknowledged .normal else failure "Connection refused"])
  | .live, .publish topic payload qos id =>
    if packetLimit < publishSize topic payload qos ∨ (qos ≠ .atMostOnce ∧ id = 0) then
      (c, [failure "Mqtt serialization/deserialization error"])
    else
      let arrived :=
        [Happening.published (Text.ofBytesLossy topic) (Text.ofBytesLossy payload) qos]
      match qos with
      | .atMostOnce => (c, arrived)
      | .atLeastOnce => (c.send (.puback id), arrived)
      | .exactlyOnce => (send (.pubrec id) { c with held := id :: c.held.erase id }, arrived)
  | .live, .suback id codes =>
    match codes.mapM Grant.ofCode? with
    | some grants =>
      if !grants.isEmpty && grants.all Grant.isGranted then (c, [.answered id grants])
      else (c, [failure "Subscription refused"])
    | none => (c, [failure "Mqtt serialization/deserialization error"])
  | .live, .unsuback _ codes =>
    if codes.all (· == 0) then (c, []) else (c, [failure "Unsubscription refused"])
  | .live, .pubrel id =>
    if id ∈ c.held then (send (.pubcomp id) { c with held := c.held.erase id }, [])
    else (c, [failure "Unsolicited packet"])
  | .live, .pingresp => (c, [])
  | .live, .disconnect => (c, [failure "Server disconnected"])
  | .live, .unsolicited => (c, [failure "Unsolicited packet"])
  | .live, .malformed => (c, [failure "Mqtt serialization/deserialization error"])

/-- Writes one request. -/
def write (o : Outgoing) (c : Connection) : Connection × List Happening :=
  match o with
  | .subscribe filter qos =>
    let id := if c.lastId = 65535 then 1 else c.lastId + 1
    (send (.subscribe id filter qos) { c with lastId := id }, [.wroteSubscribe id])
  | .unsubscribe filter =>
    let id := if c.lastId = 65535 then 1 else c.lastId + 1
    (send (.unsubscribe id filter) { c with lastId := id }, [])
  | .disconnect => (c.send .disconnect, [.wroteDisconnect])

/-- Writes requests in order, and gathers what comes of them. -/
def writeEach : List Outgoing → Connection → Connection × List Happening
  | [], c => (c, [])
  | o :: os, c =>
    let (c, first) := c.write o
    let (c, rest) := writeEach os c
    (c, first ++ rest)

/-- Writes all that waits, if the connection is live. -/
def writeAll (c : Connection) : Connection × List Happening :=
  if c.stage = .live then writeEach c.queue { c with queue := [] } else (c, [])

theorem writeEach_queue (os : List Outgoing) (c : Connection) :
    (writeEach os c).1.queue = c.queue := by
  induction os generalizing c with
  | nil => rfl
  | cons o os ih =>
    simp only [writeEach, ih]
    cases o <;> rfl

/-- A live connection writes its whole queue. -/
theorem writeAll_queue (c : Connection) (h : c.stage = .live) : c.writeAll.1.queue = [] := by
  simp [writeAll, h, writeEach_queue]

end Connection

end MqttRelay.Native
