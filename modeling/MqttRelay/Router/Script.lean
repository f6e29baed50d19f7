import MqttRelay.Router.Dispatch

/-!
# Scripts on a router

Programs of router operations. A listener logs each call and runs a program of its own at its
first few calls, so that dispatches nest. Every run of such a program uses up one of the
listener's turns; the turns that a program can ever hand out bound how deep dispatches nest,
so running a program always ends.

Results:
* `perform_nil`: the empty program does nothing.
* `run_length`: a run reports once for each of its steps.
-/

namespace MqttRelay.Router.Script

/-- The name of an event, flat or by its key. -/
inductive Target where
  | key (key : Event.Key)
  | flat (name : String)
  deriving DecidableEq, Inhabited, Repr

namespace Target

/-- The flat name of a target. -/
def name : Target → String
  | key k => k.name
  | flat name => name

/-- The kind of a target with a key. -/
def kind : Target → Option Event.Kind
  | key k => some k.kind
  | flat _ => none

end Target

/-- One step of a program. -/
inductive Step where
  /-- Adds a listener under an alias; it runs `act` at its first `turns` calls. -/
  | add (label : String) (target : Target) (act : List Step) (turns : Nat)
  /-- Removes the listener of an alias. -/
  | remove (label : String)
  /-- Removes all listeners of an event. -/
  | removeAll (target : Target)
  /-- Delivers an event. -/
  | emit (target : Target) (payload : Event.Payload)
  /-- Counts the listeners of an event. -/
  | count (target : Target)
  /-- Describes the router. -/
  | describe
  /-- Reads the counters. -/
  | metrics
  /-- Ends the router; its handles stay. -/
  | drop
  /-- Panics. -/
  | panic
  deriving Inhabited

/-- The answer of a step. -/
inductive Answer where
  | nothing
  | noRouter
  | added (id : Nat) (event : String)
  | active (b : Bool)
  | number (n : Nat)
  | text (s : String)
  | metrics (m : Metrics)
  deriving Inhabited

/-- What is seen of a program while it runs. -/
inductive Entry where
  /-- A listener was called. -/
  | called (label : String) (payload : Event.Payload)
  /-- A listener did a step of its program. -/
  | nested (step : Step) (answer : Answer)
  deriving Inhabited

/-- A listener of a program: its alias, what it runs, and the number of its counter. -/
structure Handler where
  label : String
  act : List Step
  counter : Nat
  deriving Inhabited

/-- What a program keeps beside the router. -/
structure Store where
  /-- Whether the router still exists. -/
  hasRouter : Bool := true
  /-- The handle of each alias. -/
  handles : Assoc Router.Handle := []
  /-- The turns that each listener has left. -/
  turns : List Nat := []
  /-- What was seen since the log was last read, in order. -/
  log : List Entry := []
  deriving Inhabited

/-- A router under a program. -/
abbrev State := Hub Store Handler

mutual

/-- The turns that a step can ever hand out. -/
def Step.weight : Step → Nat
  | .add _ _ act turns => turns * (1 + weights act)
  | _ => 0

/-- The turns that the steps of a program can ever hand out. -/
def weights : List Step → Nat
  | [] => 0
  | s :: ss => s.weight + weights ss

end

/-- Adds an entry to the log. -/
def State.note (h : State) (e : Entry) : State :=
  { h with store := { h.store with log := h.store.log ++ [e] } }

/-- Does one step, given what listeners do. -/
def step (act : Hub.Act Store Handler) (s : Step) (h : State) : State × Answer :=
  match s with
  | .remove label =>
    match h.store.handles.get? label with
    | none => (h, .nothing)
    | some handle =>
      let r := h.router.remove handle
      ({ h with router := r }, .active (r.isActive handle.id))
  | .metrics => (h, .metrics h.metrics)
  | .drop =>
    ({ h with router := h.router.clear, store := { h.store with hasRouter := false } }, .nothing)
  | .panic => (h, .nothing)
  | .add label target act turns =>
    if h.store.hasRouter then
      let (r, handle) := h.router.add target.name target.kind ⟨label, act, h.store.turns.length⟩
      ({ h with
          router := r
          store := { h.store with
            handles := h.store.handles.insert label handle
            turns := h.store.turns ++ [turns] } },
        .added handle.id handle.event)
    else (h, .noRouter)
  | .removeAll target =>
    if h.store.hasRouter then
      ({ h with router := h.router.removeAll target.name }, .nothing)
    else (h, .noRouter)
  | .emit target payload =>
    if h.store.hasRouter then
      let (h, n) := h.emit act target.name payload
      (h, .number n)
    else (h, .noRouter)
  | .count target =>
    if h.store.hasRouter then (h, .number (h.router.count target.name)) else (h, .noRouter)
  | .describe =>
    if h.store.hasRouter then (h, .text h.router.debugText) else (h, .noRouter)

/-- Runs the program of a listener, up to a panic. -/
def perform (act : Hub.Act Store Handler) : List Step → State → State × Bool
  | [], h => (h, true)
  | .panic :: _, h => (h, false)
  | s :: ss, h =>
    let (h, answer) := step act s h
    perform act ss (h.note (.nested s answer))

/-- What a listener does: it logs the call and, if it has a turn left, runs its program. Calls
nest at most `depth` deep. -/
def act : (depth : Nat) → Hub.Act Store Handler
  | 0, _, _, h => (h, true)
  | depth + 1, listener, payload, h =>
    let h := State.note h (.called listener.label payload)
    match h.store.turns[listener.counter]?.getD 0 with
    | 0 => (h, true)
    | left + 1 =>
      let turns := h.store.turns.set listener.counter left
      perform (act depth) listener.act { h with store := { h.store with turns := turns } }

/-- What is seen after a step of a program. -/
structure Report where
  answer : Answer
  log : List Entry
  /-- Whether the listener of each alias is switched on. -/
  active : List (String × Bool)
  /-- The number of events with a listener, while the router exists. -/
  events : Option Nat
  deriving Inhabited

/-- Does one step at the outside and reports. -/
def observe (depth : Nat) (s : Step) (h : State) : State × Report :=
  let (h, answer) := step (act depth) s { h with store := { h.store with log := [] } }
  (h, {
    answer := answer
    log := h.store.log
    active := h.store.handles.map fun p => (p.1, h.router.isActive p.2.id)
    events := if h.store.hasRouter then some h.router.eventCount else none })

/-- Does the steps of a program in order and reports on each. -/
def runFrom (depth : Nat) : List Step → State → List Report
  | [], _ => []
  | s :: ss, h =>
    let (h, report) := observe depth s h
    report :: runFrom depth ss h

/-- Runs a program on a fresh router. -/
def run (steps : List Step) : List Report :=
  runFrom (weights steps + 2) steps { store := {} }

@[simp] theorem perform_nil (act : Hub.Act Store Handler) (h : State) :
    perform act [] h = (h, true) := rfl

theorem runFrom_length (depth : Nat) (steps : List Step) (h : State) :
    (runFrom depth steps h).length = steps.length := by
  induction steps generalizing h with
  | nil => rfl
  | cons s ss ih => simp [runFrom, ih]

/-- A run reports once for each of its steps. -/
theorem run_length (steps : List Step) : (run steps).length = steps.length :=
  runFrom_length _ _ _

end MqttRelay.Router.Script
