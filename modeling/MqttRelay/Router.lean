import MqttRelay.Event.Payload
import MqttRelay.Metrics

/-!
# Event router

Listeners are registered under the flat name of an event. Each has a switch of its own, which
its handle and every dispatch under way share: a listener that is switched off is no longer
called, whatever list it still stands in.

Results:
* `isActive_add_self`: a new listener is switched on.
* `not_isActive_remove`: a removed listener is switched off.
* `isActive_of_isActive_remove`, `isActive_of_isActive_removeAll`: a removal switches nothing on.
-/

namespace MqttRelay

/-- A registered listener: its number, the kind of the key it was registered with, if it was
registered with a key, and what it calls. -/
structure Listener (H : Type) where
  id : Nat
  kind : Option Event.Kind
  handler : H
  deriving Inhabited

/-- The listeners of every event, in order of registration. -/
structure Router (H : Type) where
  table : Assoc (List (Listener H)) := []
  /-- The number of the next listener; the first is number one. -/
  nextId : Nat := 1
  /-- The listeners that were switched off. -/
  retired : List Nat := []
  deriving Inhabited

namespace Router

variable {H : Type}

/-- A handle to a registered listener. -/
structure Handle where
  id : Nat
  event : String
  deriving DecidableEq, Inhabited, Repr

/-- The router without listeners. -/
def empty : Router H := {}

/-- The listeners of an event, in order of registration. -/
def listeners (r : Router H) (event : String) : List (Listener H) :=
  (r.table.get? event).getD []

/-- Whether a listener is switched on. -/
def isActive (r : Router H) (id : Nat) : Bool :=
  decide (id < r.nextId) && !r.retired.contains id

/-- Registers a listener under a flat name. -/
def add (r : Router H) (event : String) (kind : Option Event.Kind) (handler : H) :
    Router H × Handle :=
  ({ r with
      table := r.table.insert event (r.listeners event ++ [⟨r.nextId, kind, handler⟩])
      nextId := r.nextId + 1 },
    ⟨r.nextId, event⟩)

/-- Registers a listener under a key. -/
def addKey (r : Router H) (key : Event.Key) (handler : H) : Router H × Handle :=
  r.add key.name (some key.kind) handler

/-- Removes all listeners of an event and switches them off. -/
def removeAll (r : Router H) (event : String) : Router H :=
  { r with
    table := r.table.erase event
    retired := (r.listeners event).map (·.id) ++ r.retired }

/-- Removes the listener of a handle and switches it off. An event that has no listener left
is forgotten. -/
def remove (r : Router H) (handle : Handle) : Router H :=
  if r.isActive handle.id then
    let left := (r.listeners handle.event).filter fun l => l.id != handle.id
    { r with
      table :=
        if left.isEmpty then r.table.erase handle.event else r.table.insert handle.event left
      retired := handle.id :: r.retired }
  else r

/-- Removes the listeners of several handles. -/
def removeEach (r : Router H) (handles : List Handle) : Router H :=
  handles.foldl remove r

/-- Forgets all listeners without switching them off, as the end of a router does. -/
def clear (r : Router H) : Router H := { r with table := [] }

/-- The number of listeners of an event. -/
def count (r : Router H) (event : String) : Nat := (r.listeners event).length

/-- The number of events that have a listener. -/
def eventCount (r : Router H) : Nat := r.table.length

/-- The notation of a router in diagnostics. -/
def debugText (r : Router H) : String :=
  Text.record "EventRouter" [("event_count", toString r.eventCount)]

/-! ## Switches -/

theorem isActive_iff (r : Router H) (id : Nat) :
    r.isActive id = true ↔ id < r.nextId ∧ id ∉ r.retired := by
  simp [isActive]

/-- A new listener is switched on, if no number was switched off before it was given. -/
theorem isActive_add_self (r : Router H) (event : String) (kind : Option Event.Kind)
    (handler : H) (h : ∀ id ∈ r.retired, id < r.nextId) :
    (r.add event kind handler).1.isActive (r.add event kind handler).2.id = true := by
  rw [isActive_iff]
  exact ⟨Nat.lt_succ_self _, fun hm => Nat.lt_irrefl _ (h _ hm)⟩

/-- A removed listener is switched off. -/
theorem not_isActive_remove (r : Router H) (handle : Handle) :
    (r.remove handle).isActive handle.id = false := by
  unfold remove
  split
  · simp [isActive]
  · next h => simpa using h

/-- A removal switches nothing on. -/
theorem isActive_of_isActive_remove (r : Router H) (handle : Handle) (id : Nat)
    (h : (r.remove handle).isActive id = true) : r.isActive id = true := by
  unfold remove at h
  split at h
  · rw [isActive_iff] at h ⊢
    exact ⟨h.1, fun hm => h.2 (List.mem_cons_of_mem _ hm)⟩
  · exact h

/-- Removing all listeners of an event switches nothing on. -/
theorem isActive_of_isActive_removeAll (r : Router H) (event : String) (id : Nat)
    (h : (r.removeAll event).isActive id = true) : r.isActive id = true := by
  rw [isActive_iff] at h ⊢
  exact ⟨h.1, fun hm => h.2 (List.mem_append_right _ hm)⟩

end Router

end MqttRelay
