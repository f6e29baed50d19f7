import MqttRelay.Router

/-!
# Dispatch

Delivering an event calls the listeners that were registered when it began, one after
another. What a listener does may change anything: listeners added meanwhile wait for the
next event, and those switched off before their turn are passed over. A listener that panics
is counted and stops nobody else.

Results:
* `dispatch_calls_sublist`: the listeners called are among those the dispatch began with, in
  their order.
* `emit_of_no_listeners`: an event nobody listens to does nothing.
-/

namespace MqttRelay

/-- A router with the counters of its process and all else that its listeners act on. -/
structure Hub (S H : Type) where
  router : Router H := {}
  metrics : Metrics := {}
  store : S
  deriving Inhabited

/-- A listener that was called, and whether it came to its end without a panic. -/
structure Call (H : Type) where
  listener : Listener H
  returned : Bool

namespace Hub

variable {S H : Type}

/-- Counts an occurrence. -/
def count (h : Hub S H) (o : Metrics.Occurrence) : Hub S H :=
  { h with metrics := h.metrics.count o }

/-- What listeners do: they act on the hub and may panic, which is answered with `false`. -/
abbrev Act (S H : Type) := H → Event.Payload → Hub S H → Hub S H × Bool

/-- Calls one listener. -/
def call (act : Act S H) (l : Listener H) (payload : Event.Payload) (h : Hub S H) :
    Hub S H × Bool :=
  let (after, returned) := act l.handler payload h
  (if returned then after else after.count .panicked, returned)

/-- Calls the listeners of a list that are switched on at their turn. -/
def dispatch (act : Act S H) (payload : Event.Payload) :
    List (Listener H) → Hub S H → Hub S H × List (Call H)
  | [], h => (h, [])
  | l :: ls, h =>
    if h.router.isActive l.id then
      let (after, returned) := call act l payload h
      let (last, calls) := dispatch act payload ls after
      (last, ⟨l, returned⟩ :: calls)
    else dispatch act payload ls h

/-- The number of calls that came to their end. -/
def delivered (calls : List (Call H)) : Nat := calls.countP (·.returned)

/-- The kind under which calls are counted: that of the first listener with a key. -/
def countedKind (calls : List (Call H)) : Option Event.Kind :=
  calls.findSome? fun c => c.listener.kind

/-- Delivers an event to the listeners of its flat name; the answer is how many of them came to
their end. -/
def emit (act : Act S H) (event : String) (payload : Event.Payload) (h : Hub S H) :
    Hub S H × Nat :=
  let (after, calls) := dispatch act payload (h.router.listeners event) h
  let n := delivered calls
  (if n = 0 then after else after.count (.delivered (countedKind calls) n), n)

/-- Delivers an event to the listeners of its key. -/
def emitKey (act : Act S H) (key : Event.Key) (payload : Event.Payload) (h : Hub S H) :
    Hub S H × Nat :=
  emit act key.name payload h

/-- The listeners called are among those the dispatch began with, in their order. -/
theorem dispatch_calls_sublist (act : Act S H) (payload : Event.Payload)
    (ls : List (Listener H)) (h : Hub S H) :
    List.Sublist ((dispatch act payload ls h).2.map (·.listener)) ls := by
  induction ls generalizing h with
  | nil => exact List.Sublist.refl _
  | cons l ls ih =>
    unfold dispatch
    split
    · exact List.Sublist.cons_cons l (ih _)
    · exact List.Sublist.cons l (ih _)

/-- An event nobody listens to does nothing. -/
theorem emit_of_no_listeners (act : Act S H) (event : String) (payload : Event.Payload)
    (h : Hub S H) (hl : h.router.listeners event = []) : emit act event payload h = (h, 0) := by
  simp [emit, hl, dispatch, delivered]

end Hub

end MqttRelay
