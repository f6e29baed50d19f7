import MqttRelay.Client.Clock
import MqttRelay.Command
import MqttRelay.Native.Script

/-!
# Watching

A client on the adapter, subscribed to the topics of a command, whose messages are printed one
to a line until the program is interrupted. Before a lost connection is made again the
credentials are read anew. A script drives the broker's side.

Results:
* `run_length`: a run reports once for each of its steps.
-/

namespace MqttRelay.Command.Watch

open Client Native

/-- A world with the messages that were printed. -/
abbrev State := World Script.State (List Event.Message)

/-- The adapter with the broker's side of its connections, as a native layer. -/
def layer : Layer Script.State where
  answer r s :=
    let (adapter, reply) := s.adapter.answer r
    ({ s with adapter := adapter }, reply)
  status clientId s := s.adapter.status clientId

/-- The only callback prints the messages that it is told. -/
def tell (_ : Nat) (notice : Notice) (w : State) : State × Bool :=
  match notice with
  | .message e => (World.update w fun s => { s with app := s.app ++ [e] }, true)
  | _ => (w, true)

/-- What the credentials are laid over with before a new attempt: those that the environment
holds then. -/
def refresh (settings : Settings) (env : Settings.Environment) : Verdict :=
  match settings.connectionOptions env with
  | .ok o => .proceed (some { username := o.username, password := o.password })
  | .error _ => .fail false

/-- What the client acts through. -/
def surroundings (settings : Settings) (env : Settings.Environment) :
    Surroundings Script.State (List Event.Message) where
  layer := layer
  tell := tell
  consult _ _ w := (w, .decided (refresh settings env))
  resume _ _ w := (w, refresh settings env)

/-- What is watched, and how. -/
structure Plan where
  settings : Settings
  environment : Settings.Environment
  config : Client.Config
  topics : List String
  qos : Qos
  network : Script.Network

namespace Plan

/-- What the client of a plan acts through. -/
def outside (p : Plan) : Surroundings Script.State (List Event.Message) :=
  surroundings p.settings p.environment

/-! ## Running until quiet -/

/-- Runs tasks, the worker and the connections until nothing is left to do while the clock
stands still; at most `fuel` rounds. -/
def quiet (p : Plan) : (fuel : Nat) → State → State
  | 0, w => w
  | fuel + 1, w =>
    let w := p.outside.settle (fuel + 1) w
    let native := w.store.native
    let (adapter, events) := Script.settle p.network native.adapter
    let w := World.update w fun s => { s with native := { native with adapter := adapter } }
    if native.adapter.commands.isEmpty && events.isEmpty && w.store.ready.isEmpty then w
    else quiet p fuel (p.outside.deliverAll events w).1

/-- How many rounds are run at one time. -/
def rounds : Nat := 256

/-- Moves the clock on by a number of milliseconds. -/
def pass (p : Plan) (ms : Nat) (w : State) : State :=
  p.quiet rounds (p.outside.advance (w.store.now + ms) rounds w)

/-! ## From the beginning to the end -/

/-- The name under which the program holds its client. -/
def name : String := "watch"

/-- The world before the client is made. -/
def world (p : Plan) : State :=
  { store := {
      native := {}
      app := []
      patience := p.settings.initTimeout.map (·.toNat) } }

/-- Makes the client, subscribes to the topics and connects; nothing if there is no client. -/
def begin (p : Plan) : Option (State × Nat) := do
  let w := p.quiet rounds (World.update p.world (·.enqueue (.create name p.config)))
  let client ← w.store.names.get? name
  let (w, _) := World.installInterceptor client 0 w
  let w := p.topics.foldl (fun w topic =>
    (p.outside.subscribe client ⟨topic, p.qos, 0, none, none⟩ w).1) w
  return (p.quiet rounds (p.outside.connect client none w), client)

/-- Gives the subscriptions up, ends the connection, waits a moment for it, and gives the
client up. -/
def finish (p : Plan) (client : Nat) (w : State) : State :=
  let w := (List.range w.store.subscriptions.length).foldl
    (fun w number => p.outside.unsubscribe number w) w
  let w := p.quiet rounds (p.outside.disconnect client w)
  p.quiet rounds (p.outside.remove client (p.pass 250 w))

/-! ## Steps -/

/-- One step: what the broker does, and for how much more is waited. -/
structure Step where
  act : Script.Step
  /-- How many more packets the broker is to get. -/
  packets : Nat := 0
  /-- How many more messages are to be printed. -/
  lines : Nat := 0
  deriving Inhabited

/-- What is seen of a step. -/
structure Report where
  answer : Script.Answer
  /-- What the broker got. -/
  broker : List Sent
  printed : List Event.Message
  deriving Inhabited

/-- What the broker got and what was printed between two states. -/
def between (p : Plan) (before after : State) : List Sent × List Event.Message :=
  (Script.newSent before.store.native.adapter after.store.native.adapter p.config.clientId,
    after.store.app.drop before.store.app.length)

/-- Lets time pass, from one due task to the next, until enough has come since a state; at most
`fuel` tasks are waited for. -/
def await (p : Plan) (start : State) (packets lines : Nat) : (fuel : Nat) → State → State
  | 0, w => w
  | fuel + 1, w =>
    let (broker, printed) := p.between start w
    if packets ≤ broker.length && lines ≤ printed.length then w
    else
      match w.store.sleeping with
      | [] => w
      | (due, _) :: _ => await p start packets lines fuel (p.pass (due - w.store.now) w)

/-- How many due tasks are waited for. -/
def wakes : Nat := 16

/-- Does one step and reports what came since the latest report. -/
def observe (p : Plan) (s : Step) (reported w : State) : State × Report :=
  let (native, answer, events) := Script.step s.act w.store.native
  let w : State := World.update w fun s => { s with native := native }
  let w := p.quiet rounds (p.outside.deliverAll events w).1
  let w := p.await reported s.packets s.lines wakes w
  let (broker, printed) := p.between reported w
  (w, { answer, broker, printed })

/-- Does steps in order and reports on each. -/
def steps (p : Plan) : List Step → (reported w : State) → State × List Report
  | [], _, w => (w, [])
  | s :: rest, reported, w =>
    let (w, report) := p.observe s reported w
    let (w, reports) := steps p rest w w
    (w, report :: reports)

/-- Watches through a script until the program is interrupted: what is seen of each step, and
what comes after the last one; the flag tells whether there was a client. -/
def run (p : Plan) (script : List Step) : List Report × Report × Bool :=
  match p.begin with
  | none =>
    let (_, reports) := p.steps script p.world p.world
    (reports, ⟨.nothing, [], []⟩, false)
  | some (start, client) =>
    let (w, reports) := p.steps script p.world start
    let (broker, printed) := p.between w (p.finish client w)
    (reports, ⟨.nothing, broker, printed⟩, true)

theorem steps_length (p : Plan) (script : List Step) (reported w : State) :
    (p.steps script reported w).2.length = script.length := by
  induction script generalizing reported w with
  | nil => rfl
  | cons s rest ih => simp [steps, ih]

/-- A run reports once for each of its steps. -/
theorem run_length (p : Plan) (script : List Step) :
    (p.run script).1.length = script.length := by
  unfold run
  split <;> simp [steps_length]

end Plan

end MqttRelay.Command.Watch
