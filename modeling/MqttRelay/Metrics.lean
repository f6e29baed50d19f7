import MqttRelay.Event.Key

/-!
# Metrics

Counters of what happened to clients, connections and events.

Results:
* `count_delivered`: a delivery adds its listeners to the total and to the sum over the kinds.
-/

namespace MqttRelay

/-- Counters of a process. Only whether a connection was ever acknowledged is kept of the
time of the last acknowledgement. -/
structure Metrics where
  clientsCreated : Nat := 0
  initFailures : Nat := 0
  clientsRemoved : Nat := 0
  attempts : Nat := 0
  established : Nat := 0
  failures : Nat := 0
  lost : Nat := 0
  scheduled : Nat := 0
  abandoned : Nat := 0
  everConnected : Bool := false
  delivered : Nat := 0
  panics : Nat := 0
  subscriptions : Nat := 0
  /-- Deliveries by the name of their kind, in the order of the names. -/
  byKind : Assoc Nat := []
  deriving DecidableEq, Inhabited, Repr

namespace Metrics

/-- Adds to the count of a name, which starts at zero. -/
def addTo (label : String) (n : Nat) : List (String × Nat) → List (String × Nat)
  | [] => [(label, n)]
  | (l, m) :: rest =>
    if label < l then (label, n) :: (l, m) :: rest
    else if label = l then (l, m + n) :: rest
    else (l, m) :: addTo label n rest

/-- The sum of labelled counts. -/
def total (counts : List (String × Nat)) : Nat := counts.foldr (fun c n => c.2 + n) 0

/-- All counters at zero. -/
def zero : Metrics := {}

/-- Something that is counted. -/
inductive Occurrence where
  /-- A client was made. -/
  | clientCreated
  /-- A client could not be made. -/
  | initFailed
  /-- A client was removed. -/
  | clientRemoved
  /-- A connect request goes out. -/
  | attempted
  /-- A connection was acknowledged. -/
  | connected
  /-- An attempt failed. -/
  | connectFailed
  /-- A connection was lost. -/
  | connectionLost
  /-- A retry was scheduled. -/
  | retryScheduled
  /-- A cycle of reconnection was given up. -/
  | cycleAbandoned
  /-- An event was delivered to a number of listeners. -/
  | delivered (kind : Option Event.Kind) (listeners : Nat)
  /-- A callback panicked. -/
  | panicked
  /-- A subscription was made. -/
  | subscriptionAdded
  /-- A subscription was released. -/
  | subscriptionReleased
  /-- All counters go back to zero. -/
  | reset
  deriving DecidableEq, Inhabited, Repr

/-- The name under which deliveries of a kind are counted; those of no kind are native. -/
def kindLabel (kind : Option Event.Kind) : String :=
  (kind.map Event.Kind.label).getD "native"

/-- Counts one occurrence. The gauge of subscriptions stays at zero when there is none to
release. -/
def count (m : Metrics) : Occurrence → Metrics
  | .clientCreated => { m with clientsCreated := m.clientsCreated + 1 }
  | .initFailed => { m with initFailures := m.initFailures + 1 }
  | .clientRemoved => { m with clientsRemoved := m.clientsRemoved + 1 }
  | .attempted => { m with attempts := m.attempts + 1 }
  | .connected => { m with established := m.established + 1, everConnected := true }
  | .connectFailed => { m with failures := m.failures + 1 }
  | .connectionLost => { m with lost := m.lost + 1 }
  | .retryScheduled => { m with scheduled := m.scheduled + 1 }
  | .cycleAbandoned => { m with abandoned := m.abandoned + 1 }
  | .delivered kind listeners =>
    { m with
      delivered := m.delivered + listeners
      byKind := addTo (kindLabel kind) listeners m.byKind }
  | .panicked => { m with panics := m.panics + 1 }
  | .subscriptionAdded => { m with subscriptions := m.subscriptions + 1 }
  | .subscriptionReleased => { m with subscriptions := m.subscriptions - 1 }
  | .reset => zero

/-- Counts occurrences in order. -/
def countAll (m : Metrics) (occurrences : List Occurrence) : Metrics :=
  occurrences.foldl count m

/-- The sum of the counts of all kinds. -/
def kindTotal (m : Metrics) : Nat := total m.byKind

/-- The counters by section. A counter is read as a word of 64 bits. -/
def toValue (m : Metrics) : Value :=
  .object [
    ("clients", .object [("created", word m.clientsCreated), ("init_failures", word m.initFailures),
      ("removed", word m.clientsRemoved)]),
    ("connections", .object [("attempts", word m.attempts), ("established", word m.established),
      ("failures", word m.failures), ("unexpected_disconnections", word m.lost),
      ("reconnects_scheduled", word m.scheduled), ("reconnects_abandoned", word m.abandoned),
      ("last_connected_at", .bool m.everConnected)]),
    ("events", .object [("delivered", word m.delivered), ("handler_panics", word m.panics),
      ("active_subscriptions", word m.subscriptions),
      ("by_kind", .obj (m.byKind.map fun c => (c.1, word c.2)))])]
where
  word (n : Nat) : Value := .nat (n % UInt64.size)

theorem total_addTo (label : String) (n : Nat) (counts : List (String × Nat)) :
    total (addTo label n counts) = total counts + n := by
  simp only [total]
  induction counts with
  | nil => simp [addTo]
  | cons c cs ih =>
    unfold addTo
    split
    · simp; omega
    · split
      · simp; omega
      · simp [ih]; omega

/-- A delivery adds its listeners to the total and to the sum over the kinds. -/
theorem count_delivered (m : Metrics) (kind : Option Event.Kind) (listeners : Nat) :
    (m.count (.delivered kind listeners)).delivered = m.delivered + listeners ∧
      (m.count (.delivered kind listeners)).kindTotal = m.kindTotal + listeners :=
  ⟨rfl, total_addTo _ _ _⟩

end Metrics

end MqttRelay
