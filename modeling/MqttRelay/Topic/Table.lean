import MqttRelay.Event.Key
import MqttRelay.Topic.Filter

/-!
# Topic table

Several subscriptions may share one topic, which is subscribed at the broker once. The table
holds, per topic, the subscriptions with their levels and whether each has been told its
outcome; adding and removing say what the broker has to be asked.

Results:
* `add_answer`: a subscription is asked for exactly when no other one covers it.
-/

namespace MqttRelay.Topic

/-- One subscription of a topic. -/
structure Subscriber where
  qos : Qos
  /-- Whether its success or failure was reported. -/
  told : Bool := false
  deriving DecidableEq, Inhabited, Repr

/-- The subscriptions of each topic, topics and ids in ascending order. -/
abbrev Table := Assoc (Assoc Subscriber)

/-- What adding a subscription asks of the broker. -/
inductive Added where
  /-- To subscribe to the topic at this level. -/
  | subscribe (qos : Qos)
  /-- Nothing: another subscription covers this one. -/
  | covered
  deriving DecidableEq, Inhabited, Repr

/-- What removing a subscription asks of the broker. -/
inductive Removed where
  /-- Nothing: others use the topic. -/
  | retained
  /-- To give the topic up. -/
  | released
  /-- Nothing: there was no such subscription. -/
  | unknown
  deriving DecidableEq, Inhabited, Repr

/-- The highest level of a topic's subscriptions. -/
def maxQos (subscribers : Assoc Subscriber) : Option Qos :=
  subscribers.foldl (fun best s => some ((best.map (·.max s.2.qos)).getD s.2.qos)) none

namespace Table

/-- The subscriptions of a topic. -/
def subscribers (t : Table) (topic : String) : Assoc Subscriber := (t.get? topic).getD []

/-- Adds a subscription; it is to be told its outcome, also if it was there before. -/
def add (t : Table) (topic : String) (id : SubscriptionId) (qos : Qos) : Table × Added :=
  let before := t.subscribers topic
  (t.insert topic (before.insert id.text ⟨qos, false⟩),
    match maxQos before with
    | some best => if qos.toNat ≤ best.toNat then .covered else .subscribe qos
    | none => .subscribe qos)

/-- Removes a subscription; a topic without subscriptions is forgotten. -/
def remove (t : Table) (topic : String) (id : SubscriptionId) : Table × Removed :=
  match t.get? topic with
  | none => (t, .unknown)
  | some subscribers =>
    if subscribers.contains id.text then
      let left := subscribers.erase id.text
      if left.isEmpty then (t.erase topic, .released) else (t.insert topic left, .retained)
    else (t, .unknown)

/-- Whether any subscription of a topic was told its outcome. -/
def isConfirmed (t : Table) (topic : String) : Bool :=
  (t.subscribers topic).any fun s => s.2.told

/-- The subscriptions of a topic that were not told their outcome, with their levels; they
count as told from then on. -/
def takeUntold (t : Table) (topic : String) : Table × List (SubscriptionId × Qos) :=
  (t.modify topic fun subscribers => subscribers.map fun s => (s.1, { s.2 with told := true }),
    ((t.subscribers topic).filter fun s => !s.2.told).map fun s => (⟨s.1⟩, s.2.qos))

/-- Counts a subscription as told. -/
def markTold (t : Table) (topic : String) (id : SubscriptionId) : Table :=
  t.modify topic fun subscribers =>
    subscribers.modify id.text fun s => { s with told := true }

/-- The topics with the levels at which the broker is to hold them. -/
def filters (t : Table) : List (String × Qos) :=
  t.filterMap fun p => (maxQos p.2).map fun qos => (p.1, qos)

/-- The subscriptions whose filter matches a topic. -/
def matching (t : Table) (topic : String) : List SubscriptionId :=
  (t.filter fun p => filterMatches p.1 topic).flatMap fun p => p.2.map fun s => ⟨s.1⟩

/-- The number of topics. -/
def topicCount (t : Table) : Nat := t.length

/-- The number of subscriptions. -/
def subscriptionCount (t : Table) : Nat := t.foldr (fun p n => p.2.length + n) 0

/-- The broker is asked exactly when the topic has no subscription of this level or a higher
one yet. -/
theorem add_answer (t : Table) (topic : String) (id : SubscriptionId) (qos : Qos) :
    (t.add topic id qos).2 = .subscribe qos ↔
      ∀ best, maxQos (t.subscribers topic) = some best → best.toNat < qos.toNat := by
  simp only [add]
  cases maxQos (t.subscribers topic) with
  | none => simp
  | some best =>
    by_cases hq : qos.toNat ≤ best.toNat
    · simp [hq]
    · simpa [hq] using Nat.lt_of_not_le hq

end Table

end MqttRelay.Topic
