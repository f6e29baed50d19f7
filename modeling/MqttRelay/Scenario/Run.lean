import MqttRelay.Client.Clock
import MqttRelay.Scenario.Report
import MqttRelay.Scenario.Step

/-!
# Running a scenario

The application of a scenario keeps its callbacks, interceptors and handles. A callback that
is told something logs it and runs its program if it has a turn left; every run uses up a
turn, and the turns that are left bound how deep runs can nest.

Results:
* `perform_nil`: the empty program does nothing.
* `run_length`: a run reports once for each of its steps.
-/

namespace MqttRelay.Scenario

open Client Native

/-- A callback of the application. -/
structure Callback where
  label : String
  program : List Step
  /-- How often the program is still run. -/
  turns : Nat
  panics : Bool
  deriving Inhabited

/-- An interceptor of the application, with the number of its calls so far. -/
structure Interceptor where
  label : String
  plan : List (Plan Step)
  calls : Nat := 0
  deriving Inhabited

/-- What a callback or an interceptor is removed by. -/
inductive Holder where
  | listener (handle : Router.Handle)
  | interceptor (client number : Nat)
  | shared (shared id : Nat)
  deriving DecidableEq, Inhabited, Repr

/-- What the application keeps. -/
structure Store where
  callbacks : List Callback := []
  interceptors : List Interceptor := []
  holders : Assoc Holder := []
  /-- The subscriptions by name. -/
  subscriptions : Assoc Nat := []
  deriving Inhabited

/-- A world under a scenario. -/
abbrev State := World Recorder Store

/-- The turns that are left, and those that the programs can still hand out. -/
def Store.potential (s : Store) : Nat :=
  s.callbacks.foldr (fun c n => c.turns * (1 + weights c.program) + n) 0

namespace State

/-- Changes what the application keeps. -/
def modify (w : State) (f : Store → Store) : State :=
  World.update w fun s => { s with app := f s.app }

/-- Changes the native layer. -/
def native (w : State) (f : Recorder → Recorder) : State :=
  World.update w fun s => { s with native := f s.native }

/-- Adds a callback; the answer is its number. -/
def addCallback (w : State) (c : Callback) : State × Nat :=
  (w.modify fun s => { s with callbacks := s.callbacks ++ [c] }, w.store.app.callbacks.length)

/-- Keeps what a callback or an interceptor is removed by. -/
def keep (w : State) (label : String) (h : Holder) : State :=
  w.modify fun s => { s with holders := s.holders.insert label h }

/-- The id of a subscription by its name; what is no name is an id. -/
def subscriptionId (w : State) (label : String) : SubscriptionId :=
  (do
    let n ← w.store.app.subscriptions.get? label
    let s ← w.store.subscriptions[n]?
    some s.id).getD ⟨label⟩

end State

/-! ## Steps -/

/-- Does something with a client by its name. -/
def withClient (client : String) (f : Nat → Member → State → State × Answer) (w : State) :
    State × Answer :=
  match w.store.names.get? client with
  | none => (w, .noClient)
  | some c =>
    match World.client? w c with
    | none => (w, .noClient)
    | some m => f c m w

/-- Does something with the shared client. -/
def withShared (f : Nat → Shared → State → State × Answer) (w : State) : State × Answer :=
  match w.store.shared with
  | none => (w, .noShared)
  | some h =>
    match World.shared? w h with
    | none => (w, .noShared)
    | some shared => f h shared w

/-- Adds the callbacks of a subscription and makes it; the answer is its number. -/
def subscribe (x : Outside Recorder Store) (client : Nat) (wish : Wish Step) (w : State) :
    State × Nat :=
  let (w, onMessage) := w.addCallback ⟨wish.label, wish.onMessage, wish.turns, wish.panics.1⟩
  let (w, onGranted) := w.addCallback ⟨wish.label, wish.onOutcome, wish.turns, wish.panics.2.1⟩
  let (w, onRefused) := w.addCallback ⟨wish.label, wish.onOutcome, wish.turns, wish.panics.2.2⟩
  let (w, number) := x.subscribe client {
    topic := wish.topic
    qos := wish.qos
    onMessage := onMessage
    onGranted := if wish.wantsGrant then some onGranted else none
    onRefused := if wish.wantsRefusal then some onRefused else none } w
  (State.modify w fun s => { s with subscriptions := s.subscriptions.insert wish.label number },
    number)

/-- Gives up waiting for a client where nothing can be waited for. -/
def giveUp (p : State × Option Nat) (after : State → State) : State × Answer :=
  match p with
  | (w, none) => (w, .nothing)
  | (w, some creation) => (after (World.close creation w), .gaveUp)

/-- Delivers events of the native layer; the answer is how many listeners came to their end. -/
def deliver (x : Outside Recorder Store) (events : List Emission) (w : State) :
    State × Answer :=
  let (w, n) := x.deliverAll events w
  (w, .number n)

/-- Removes a callback or an interceptor. -/
def release (h : Holder) (w : State) : State :=
  match h with
  | .listener handle => World.off handle w
  | .interceptor client number => World.uninstallInterceptor client number w
  | .shared shared id => World.deregister shared id w

/-- Does one step. -/
def step (x : Outside Recorder Store) (s : Step) (w : State) : State × Answer :=
  match s with
  | .create label config =>
    if w.store.runtime then (World.update w (·.enqueue (.create label config)), .nothing)
    else giveUp (x.create (.name label) config w) id
  | .connect client overrides =>
    withClient client (fun c _ w => (x.connect c overrides w, .nothing)) w
  | .disconnect client => withClient client (fun c _ w => (x.disconnect c w, .nothing)) w
  | .remove client => withClient client (fun c _ w => (x.remove c w, .nothing)) w
  | .drop client =>
    withClient client (fun _ _ w =>
      (World.update w fun s => { s with names := s.names.erase client }, .nothing)) w
  | .info client => withClient client (fun _ m w => (w, .info m)) w
  | .on client watch =>
    withClient client (fun c _ w =>
      let (w, callback) := w.addCallback ⟨watch.label, watch.program, watch.turns, watch.panics⟩
      let (w, handle) := World.on c watch.interest callback w
      (State.keep w watch.label (.listener handle), .nothing)) w
  | .intercept client label plan =>
    withClient client (fun c _ w =>
      let number := w.store.app.interceptors.length
      let w := w.modify fun s => { s with interceptors := s.interceptors ++ [⟨label, plan, 0⟩] }
      let (w, installation) := World.installInterceptor c number w
      (State.keep w label (.interceptor c installation), .nothing)) w
  | .off label =>
    match w.store.app.holders.get? label with
    | none => (w, .noHandle)
    | some h => (release h w, .nothing)
  | .subscribe client wish =>
    withClient client (fun c _ w =>
      let (w, number) := subscribe x c wish w
      (w, match w.store.subscriptions[number]? with
        | some s => .subscribed s wish.wantsGrant wish.wantsRefusal
        | none => .nothing)) w
  | .unsubscribe label =>
    match w.store.app.subscriptions.get? label with
    | none => (w, .noSubscription)
    | some number =>
      let w := x.unsubscribe number w
      (w, (w.store.subscriptions[number]?.map Answer.subscription).getD .noSubscription)
  | .emit event payload =>
    let (w, n) := w.emit x.act event payload
    (w, .number n)
  | .emitOf subscription kind payload =>
    deliver x [⟨.subscription (w.subscriptionId subscription) kind, payload⟩] w
  | .connected clientId =>
    deliver x [Recorder.connected clientId] (w.native (·.setStatus clientId .connected))
  | .disconnected clientId reason =>
    deliver x [Recorder.disconnected clientId reason]
      (w.native (·.setStatus clientId .disconnected))
  | .initialized clientId ready => deliver x [Recorder.initialized clientId ready] w
  | .failure clientId event => deliver x [Recorder.failure clientId event] w
  | .message subscription topic payload qos =>
    deliver x [Recorder.message (w.subscriptionId subscription) topic payload qos] w
  | .publish clientId topic payload qos =>
    deliver x (w.store.native.publish clientId topic payload qos) w
  | .granted subscription topic qos =>
    deliver x [Recorder.granted (w.subscriptionId subscription) topic qos] w
  | .notGranted subscription message =>
    deliver x [Recorder.notGranted (w.subscriptionId subscription) message] w
  | .removeAll event => ((World.removeAll event w).wake, .nothing)
  | .count event => (w, .number (w.router.count event))
  | .fail operation => (w.native (·.fail operation), .nothing)
  | .restore operation => (w.native (·.restore operation), .nothing)
  | .behave behavior => (w.native fun r => { r with behavior := behavior }, .nothing)
  | .calls clear =>
    let count := w.store.native.calls.length
    let w := if clear then w.native fun r => { r with calls := [] } else w
    let calls := w.store.native.calls
    (w, .calls count (calls.countP fun r => r matches .connect ..) calls)
  | .broker clientId topic =>
    let r := w.store.native
    (w, .broker r.subscribed r.unsubscribed (r.subscribers clientId topic))
  | .request r =>
    match x.request r w with
    | (w, none) => (w, .done)
    | (w, some f) => (w, .fault f)
  | .status clientId => (w, .status (x.layer.status clientId w.store.native))
  | .metrics => (w, .metrics w.metrics)
  | .newShared => (World.newShared w, .nothing)
  | .setUpShared label config =>
    withShared (fun h _ w =>
      if w.store.runtime then (World.update w (·.enqueue (.setUp h label config)), .nothing)
      else giveUp (x.setUp h label config w) (World.unlock h)) w
  | .connectShared overrides =>
    withShared (fun _ shared w =>
      (match shared.client with
        | some c => x.connect c overrides w
        | none => w, .nothing)) w
  | .disconnectShared =>
    withShared (fun _ shared w =>
      (match shared.client with
        | some c => x.disconnect c w
        | none => w, .nothing)) w
  | .removeShared => withShared (fun h _ w => (x.removeShared h w, .nothing)) w
  | .subscribeShared wish =>
    withShared (fun _ shared w =>
      match shared.client with
      | some c =>
        let (w, number) := subscribe x c wish w
        (w, (w.store.subscriptions[number]?.map Answer.subscription).getD .nothing)
      | none => (w, .nothing)) w
  | .sharedInfo =>
    withShared (fun _ shared w =>
      (w, .shared (shared.client.bind fun c => World.client? w c) shared.pending)) w
  | .onShared watch =>
    withShared (fun h _ w =>
      let (w, callback) := w.addCallback ⟨watch.label, watch.program, watch.turns, watch.panics⟩
      let (w, id) := World.register h watch.interest callback w
      let w := State.keep w watch.label (.shared h id)
      (w, .number (((World.shared? w h).map Shared.pending).getD 0))) w
  | .dropShared =>
    withShared (fun _ _ w => (World.update w fun s => { s with shared := none }, .nothing)) w
  | .advance _ => (w, .nothing)

/-- Runs a program inside a callback or an interceptor: every step is logged with its answer. -/
def perform (x : Outside Recorder Store) : List Step → State → State
  | [], w => w
  | s :: ss, w =>
    let (w, answer) := step x s w
    perform x ss (World.note w (.did s.name answer.toValue))

/-! ## Callbacks and interceptors -/

/-- Tells a callback something: it logs it and runs its program if it has a turn left. Runs
nest at most `depth` deep. -/
def tell : (depth : Nat) → Nat → Notice → State → State × Bool
  | 0, _, _, w => (w, true)
  | depth + 1, callback, notice, w =>
    match w.store.app.callbacks[callback]? with
    | none => (w, true)
    | some c =>
      let w := World.note w (.told c.label notice)
      match c.turns with
      | 0 => (w, !c.panics)
      | left + 1 =>
        let w := State.modify w fun s =>
          { s with callbacks := s.callbacks.set callback { c with turns := left } }
        (perform ⟨Recorder.layer, tell depth⟩ c.program w, !c.panics)

/-- What the clients of a scenario act through, outside of any callback. -/
def outside : Outside Recorder Store where
  layer := Recorder.layer
  tell callback notice w := tell (w.store.app.potential + 1) callback notice w

/-- The plan of one call of an interceptor; the last one goes for all calls after it. -/
def Interceptor.planOf (i : Interceptor) (call : Nat) : Plan Step :=
  (i.plan[min call (i.plan.length - 1)]?).getD {}

/-- Comes back to the call of an interceptor. -/
def resume (interceptor call : Nat) (w : State) : State × Verdict :=
  match w.store.app.interceptors[interceptor]? with
  | none => (w, .proceed none)
  | some i =>
    let plan := i.planOf call
    let w := perform outside plan.second w
    (w, if plan.panicsLate then .fail true
      else if plan.fails then .fail false
      else .proceed plan.overrides)

/-- Calls an interceptor. -/
def consult (interceptor : Nat) (reason : Option ReasonCode) (w : State) : State × Advice :=
  match w.store.app.interceptors[interceptor]? with
  | none => (w, .decided (.proceed none))
  | some i =>
    let plan := i.planOf i.calls
    let w := State.modify w fun s =>
      { s with interceptors := s.interceptors.set interceptor { i with calls := i.calls + 1 } }
    let w := perform outside plan.first (World.note w (.consulted i.label reason))
    if plan.panicsEarly then (w, .decided (.fail true))
    else
      match plan.delayMs with
      | some delayMs => (w, .waiting delayMs i.calls)
      | none =>
        let (w, verdict) := resume interceptor i.calls w
        (w, .decided verdict)

/-- What the clients of a scenario act through. -/
def surroundings : Surroundings Recorder Store :=
  { outside with consult := consult, resume := resume }

/-! ## Runs -/

/-- How a scenario begins. -/
structure Settings where
  initAnswer : Option Bool := some true
  behavior : Behavior := .manual
  /-- How long a client under construction is waited for, unless for ever. -/
  patience : Option Nat := some 10000
  runtime : Bool := true
  deriving Inhabited

/-- The world before the first step. -/
def Settings.start (s : Settings) : State :=
  { store := {
      native := { initAnswer := s.initAnswer, behavior := s.behavior }
      app := {}
      runtime := s.runtime
      patience := s.patience } }

/-- Does one step at the outside, and all work that follows while the clock stands still. At
most `fuel` tasks are run at one time. -/
def act (fuel : Nat) (s : Step) (w : State) : State × Answer :=
  match s with
  | .advance ms =>
    let target := w.store.now + ms
    (surroundings.advance target fuel w, .number target)
  | s =>
    let (w, answer) := step outside s w
    (if w.store.runtime then surroundings.settle fuel w else w, answer)

/-- What is seen of a client. -/
def view (w : State) (m : Member) : ClientView where
  status := m.state.status
  native := w.store.native.status m.identity.clientId
  retries := m.state.retry.count
  reason := m.state.retry.reason
  removed := m.state.removed
  subscriptions := m.registry.entries.length

/-- Does one step at the outside and reports. -/
def observe (fuel : Nat) (s : Step) (w : State) : State × Report :=
  let (w, answer) := act fuel s (World.update w fun s => { s with journal := [] })
  (w, {
    answer := answer
    log := w.store.journal
    clients := w.store.names.filterMap fun p =>
      (World.client? w p.2).map fun m => (p.1, view w m)
    events := w.router.eventCount })

/-- Does the steps of a scenario in order and reports on each. -/
def runFrom (fuel : Nat) : List Step → State → List Report
  | [], _ => []
  | s :: ss, w =>
    let (w, report) := observe fuel s w
    report :: runFrom fuel ss w

/-- Runs a scenario. -/
def run (settings : Settings) (fuel : Nat) (steps : List Step) : List Report :=
  runFrom fuel steps settings.start

@[simp] theorem perform_nil (x : Outside Recorder Store) (w : State) : perform x [] w = w := rfl

theorem runFrom_length (fuel : Nat) (steps : List Step) (w : State) :
    (runFrom fuel steps w).length = steps.length := by
  induction steps generalizing w with
  | nil => rfl
  | cons s ss ih => simp [runFrom, ih]

/-- A run reports once for each of its steps. -/
theorem run_length (settings : Settings) (fuel : Nat) (steps : List Step) :
    (run settings fuel steps).length = steps.length :=
  runFrom_length _ _ _

end MqttRelay.Scenario
