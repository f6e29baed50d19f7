import MqttRelay.Client.System

/-!
# Operations on clients

What the application does with a client and its subscriptions, and what the listeners of
clients do when an event is delivered. A client's own listeners only move its state and
schedule work; requests to the native layer are made by operations and retries.

Results:
* `enact_store_native`: the effects of a step leave the native layer alone.
* `remove_of_removed_native`: removing a client again asks the native layer nothing.
-/

namespace MqttRelay.Client

/-- What clients act through: the native layer, and the application's callbacks by number. A
callback acts on the world and may panic, which is answered with `false`. -/
structure Outside (N A : Type) where
  layer : Native.Layer N
  tell : Nat → Notice → World N A → World N A × Bool

namespace World

variable {N A : Type}

/-! ## Steps of a client -/

/-- Carries the effects of a client's step out. -/
def enact (client : Nat) (effects : List Effect) (w : World N A) : World N A :=
  effects.foldl (fun w e => match e with
    | .count o => w.count o
    | .schedule generation delayMs =>
      w.update (·.enqueue (.retry client generation delayMs))) w

/-- Sets the state of a client. -/
def setState (client : Nat) (state : State Nat) (w : World N A) : World N A :=
  w.update (·.modifyClient client fun m => { m with state := state })

/-- Moves a client by a step that asks nothing of the outside. -/
def move (client : Nat) (f : State Nat → State Nat × List Effect) (w : World N A) :
    World N A :=
  match w.client? client with
  | none => w
  | some m =>
    let (state, effects) := f m.state
    (w.setState client state).enact client effects

/-- The latest end of a connection of a client that still exists, with the client. -/
def lastEnding? (client : Nat) (w : World N A) : Option (Member × Ending) :=
  if w.isHeld client then do
    let m ← w.client? client
    let e ← m.state.lastEnding
    some (m, e)
  else none

/-! ## Clients under construction -/

/-- Hands the first answer to a client under construction; later ones do nothing. -/
def deliverAnswer (creation : Nat) (ready : Bool) (w : World N A) : World N A :=
  match w.store.creations[creation]? with
  | some { answer := none, .. } =>
    w.update fun s =>
      (s.modifyCreation creation fun c => { c with answer := some ready }).enqueue
        (.await creation)
  | _ => w

/-- Wakes the clients under construction that wait for an answer but are not listened for any
more. -/
def wake (w : World N A) : World N A :=
  let lost := w.store.creations.zipIdx.filter fun p =>
    !p.1.ended && p.1.answer.isNone && !w.router.isActive p.1.listener.id
  w.update fun s => lost.foldl (fun s p => s.enqueue (.await p.2)) s

/-! ## Subscriptions -/

/-- Ends a subscription: its listeners go, once. -/
def detach (number : Nat) (w : World N A) : World N A :=
  match w.store.subscriptions[number]? with
  | some s =>
    if s.active then
      ((w.setRouter (w.router.removeEach s.listeners)).update
        (·.modifySubscription number fun s => { s with active := false, listeners := [] })).count
          .subscriptionReleased
    else w
  | none => w

/-- Takes a subscription out of its client's registry. -/
def unregister (client number : Nat) (w : World N A) : World N A :=
  w.update (·.modifyClient client fun m =>
    { m with registry := { m.registry with entries := m.registry.entries.erase number } })

/-- Closes the registry of a client and ends its subscriptions. -/
def closeRegistry (client : Nat) (w : World N A) : World N A :=
  match w.client? client with
  | none => w
  | some m =>
    m.registry.entries.foldl (fun w n => w.detach n)
      (w.update (·.modifyClient client fun m =>
        { m with registry := { m.registry with entries := [], closed := true } }))

/-! ## Callbacks and interceptors -/

/-- Registers a callback on a client. -/
def on (client : Nat) (interest : Interest) (callback : Nat) (w : World N A) :
    World N A × Router.Handle :=
  let id := ((w.client? client).map (·.identity.clientId)).getD ""
  let (router, handle) :=
    w.router.addKey (.client id interest.event) (.tell interest client callback)
  (w.setRouter router, handle)

/-- Removes a listener by its handle. -/
def off (handle : Router.Handle) (w : World N A) : World N A :=
  w.setRouter (w.router.remove handle)

/-- Removes all listeners of an event. -/
def removeAll (event : String) (w : World N A) : World N A :=
  w.setRouter (w.router.removeAll event)

/-- Installs an interceptor; the answer is the number of the installation. -/
def installInterceptor (client interceptor : Nat) (w : World N A) : World N A × Nat :=
  let number := ((w.client? client).map (·.nextInterceptor)).getD 0
  (w.update (·.modifyClient client fun m =>
    { m with
      state := m.state.install number interceptor
      nextInterceptor := number + 1 }), number)

/-- Takes an interceptor out by the number of its installation. -/
def uninstallInterceptor (client number : Nat) (w : World N A) : World N A :=
  w.update (·.modifyClient client fun m => { m with state := m.state.uninstall number })

end World

namespace Outside

variable {N A : Type}

/-! ## Listeners -/

/-- Tells a callback on a client. Callbacks for ended connections read from the client how its
latest connection ended: a failed attempt interests one sort, every other end the other. -/
def tellOf (outside : Outside N A) (interest : Interest) (client callback : Nat)
    (payload : Event.Payload) (w : World N A) : World N A × Bool :=
  match interest with
  | .initialized =>
    outside.tell callback (.initialized (payload.decodeD Event.Initialized.read {})) w
  | .connected => outside.tell callback (.connected (payload.decodeD Event.Connected.read {})) w
  | .failure => outside.tell callback (.failure (payload.decodeD Event.Failure.read {})) w
  | .connectFailed =>
    match w.lastEnding? client with
    | some (_, e) =>
      if e.before = .connecting then
        let (w, returned) := outside.tell callback (.connectFailed e.reason) (w.pin client)
        (w.unpin client, returned)
      else (w, true)
    | none => (w, true)
  | .disconnected =>
    match w.lastEnding? client with
    | some (m, e) =>
      if e.before = .connecting then (w, true)
      else
        let (w, returned) := outside.tell callback (.disconnected {
          reason := e.reason
          cause := Disconnect.cause e.before
          retries := m.state.retry.count
          options := m.state.options }) (w.pin client)
        (w.unpin client, returned)
    | none => (w, true)

/-- What a listener does when its event is delivered. -/
def act (outside : Outside N A) : Hub.Act (System N A) Handler :=
    fun handler payload (w : World N A) =>
  match handler with
  | .answer creation =>
    (w.deliverAnswer creation (payload.decodeD Event.Initialized.read {}).ready, true)
  | .acknowledge client =>
    (if w.isHeld client then w.move client State.acknowledged else w, true)
  | .lose client =>
    let reason := (payload.decodeD Event.Disconnected.read {}).reason
    (if w.isHeld client then w.move client (State.ended w.store.runtime reason) else w, true)
  | .tell interest client callback => outside.tellOf interest client callback payload w
  | .message callback =>
    match payload.decode Event.Message.read with
    | .ok e => outside.tell callback (.message e) w
    | .error _ => (w, true)
  | .subscribed topic qos callback =>
    let e := payload.decodeD Event.Subscribed.read
      ⟨(payload.getText? "message").getD "", topic, qos⟩
    match callback with
    | some callback => outside.tell callback (.subscribed e) w
    | none => (w, true)
  | .subscribeFailed topic callback =>
    let e := payload.decodeD Event.SubscribeFailed.read {}
    match callback with
    | some callback =>
      outside.tell callback (.subscribeFailed { e with topic := e.topic <|> some topic }) w
    | none => (w, true)

/-! ## The native layer -/

/-- Delivers an event of the native layer; the answer is how many listeners came to their
end. -/
def deliver (outside : Outside N A) (e : Native.Emission) (w : World N A) : World N A × Nat :=
  w.emitKey outside.act e.key e.payload

/-- Delivers events in order; the answer is the sum over them. -/
def deliverAll (outside : Outside N A) (events : List Native.Emission) (w : World N A) :
    World N A × Nat :=
  events.foldl (fun (w, n) e =>
    let (w, k) := outside.deliver e w
    (w, n + k)) (w, 0)

/-- Makes a request to the native layer; the answer is the fault if it was refused. -/
def request (outside : Outside N A) (r : Native.Request) (w : World N A) :
    World N A × Option Native.Fault :=
  let w := w.note (.request r)
  let (native, reply) := outside.layer.answer r w.store.native
  let (w, _) := outside.deliverAll reply.events (w.update fun s => { s with native := native })
  match reply.fault with
  | none => (w, none)
  | some f => (w.note (.fault f), some f)

/-! ## Operations -/

/-- Does what a client's step asks for. A question to an interceptor is the next task. -/
def comply (outside : Outside N A) (client : Nat) (ask : Ask Nat) (w : World N A) : World N A :=
  let id := ((w.client? client).map (·.identity.clientId)).getD ""
  match ask with
  | .connect parameters origin =>
    match outside.request (.connect id parameters) w with
    | (w, some _) => w.move client (State.refused origin)
    | (w, none) => w
  | .disconnect => (outside.request (.disconnect id) w).1
  | .consult interceptor reason generation =>
    w.update (·.enqueueFirst (.consult client generation interceptor reason))

/-- Moves a client by an input and does all that follows. -/
def drive (outside : Outside N A) (client : Nat) (input : Input) (w : World N A) : World N A :=
  match w.client? client with
  | none => w
  | some m =>
    let result := m.state.step w.store.runtime input
    let w := ((w.pin client).setState client result.state).enact client result.effects
    (match result.ask with
      | none => w
      | some ask => outside.comply client ask w).unpin client

/-- Connects a client, with overrides of its options or without. -/
def connect (outside : Outside N A) (client : Nat) (overrides : Option Options) :
    World N A → World N A :=
  outside.drive client (.connect overrides)

/-- Disconnects a client. -/
def disconnect (outside : Outside N A) (client : Nat) : World N A → World N A :=
  outside.drive client .disconnect

/-- Gives a client up: its state ends, its listeners and all others under its events go, and
so do its subscriptions. Only the first time the native layer is asked to remove it. -/
def remove (outside : Outside N A) (client : Nat) (w : World N A) : World N A :=
  match w.client? client with
  | none => w
  | some m =>
    let id := m.identity.clientId
    let first := !m.state.removed
    let w := (w.pin client).update (·.modifyClient client fun m =>
      { m with state := m.state.remove, lifecycle := [] })
    let w := if first then (outside.request (.remove id) w).1 else w
    let router := Event.Kind.ofClient.foldl (fun r k => r.removeAll (Event.Key.client id k).name)
      (w.router.removeEach m.lifecycle)
    let w := (w.setRouter router).closeRegistry client
    let w : World N A := if first then w.count .clientRemoved else w
    w.wake.unpin client

/-- What a subscription asks for: the topic, the guarantee, and the callbacks for messages,
for the grant and for the refusal. -/
structure Wish where
  topic : String
  qos : Qos
  onMessage : Nat
  onGranted : Option Nat
  onRefused : Option Nat
  deriving DecidableEq, Inhabited, Repr

/-- Makes a subscription; the answer is its number. A removed client gets one that never was
active. A refused one is taken back and its refusal told. -/
def subscribe (outside : Outside N A) (client : Nat) (wish : Wish) (w : World N A) :
    World N A × Nat :=
  let number := w.store.subscriptions.length
  match w.client? client with
  | none => (w, number)
  | some m =>
    let clientId := m.identity.clientId
    let tag := m.registry.tag + 1
    let id := SubscriptionId.generate clientId wish.topic wish.qos tag
    let w := w.update (·.modifyClient client fun m =>
      { m with registry := { m.registry with tag := tag } })
    let entry : Subscription :=
      { client := client, clientId := clientId, id := id, topic := wish.topic, qos := wish.qos }
    let add (entry : Subscription) (s : System N A) : System N A :=
      { s with subscriptions := s.subscriptions ++ [entry] }
    if m.registry.closed then (w.update (add { entry with active := false }), number)
    else
      let (r, h1) := w.router.addKey (.subscription id .message) (.message wish.onMessage)
      let (r, h2) := r.addKey (.subscription id .subscribed)
        (.subscribed wish.topic wish.qos wish.onGranted)
      let (r, h3) := r.addKey (.subscription id .subscribeFailed)
        (.subscribeFailed wish.topic wish.onRefused)
      let w := ((w.setRouter r).update fun s =>
        (add { entry with listeners := [h1, h2, h3] } s).modifyClient client fun m =>
          { m with registry := { m.registry with entries := m.registry.entries ++ [number] } })
      let w : World N A := (w.pin client).count .subscriptionAdded
      match outside.request (.subscribe id clientId wish.topic wish.qos) w with
      | (w, none) => (w.unpin client, number)
      | (w, some fault) =>
        let w := (w.unregister client number).detach number
        match wish.onRefused with
        | none => (w.unpin client, number)
        | some callback =>
          let (w, returned) := outside.tell callback (.subscribeFailed {
            message := fault.report
            topic := some wish.topic
            reason := some .subscriptionError }) w
          ((if returned then w else w.count .panicked).unpin client, number)

/-- Ends a subscription and releases it at the native layer, once. -/
def unsubscribe (outside : Outside N A) (number : Nat) (w : World N A) : World N A :=
  match w.store.subscriptions[number]? with
  | some s =>
    if s.active then
      let w := (w.detach number).unregister s.client number
      (outside.request (.unsubscribe s.id s.clientId s.topic) w).1
    else w
  | none => w

end Outside

namespace World

variable {N A : Type}

/-- The effects of a step leave the native layer alone. -/
theorem enact_store_native (client : Nat) (effects : List Effect) (w : World N A) :
    (w.enact client effects).store.native = w.store.native := by
  induction effects generalizing w with
  | nil => rfl
  | cons e es ih =>
    rw [enact, List.foldl_cons]
    cases e with
    | count o => exact ih _
    | schedule g d => exact ih _

theorem detach_store_native (number : Nat) (w : World N A) :
    (w.detach number).store.native = w.store.native := by
  unfold detach
  split
  · split <;> rfl
  · rfl

theorem closeRegistry_store_native (client : Nat) (w : World N A) :
    (w.closeRegistry client).store.native = w.store.native := by
  unfold closeRegistry
  split
  · rfl
  · next m _ =>
    have h (entries : List Nat) (w : World N A) :
        (entries.foldl (fun w n => w.detach n) w).store.native = w.store.native := by
      induction entries generalizing w with
      | nil => rfl
      | cons n ns ih => rw [List.foldl_cons, ih, detach_store_native]
    rw [h]
    rfl

theorem wake_store_native (w : World N A) : w.wake.store.native = w.store.native := by
  have h (lost : List (Creation × Nat)) (s : System N A) :
      (lost.foldl (fun s p => s.enqueue (.await p.2)) s).native = s.native := by
    induction lost generalizing s with
    | nil => rfl
    | cons p ps ih => rw [List.foldl_cons, ih]; rfl
  exact h _ _

/-- Removing a client again asks the native layer nothing. -/
theorem remove_of_removed_native (outside : Outside N A) (client : Nat) (m : Member)
    (w : World N A) (hm : w.client? client = some m) (h : m.state.removed = true) :
    (outside.remove client w).store.native = w.store.native := by
  simp only [Outside.remove, hm, h, Bool.not_true, Bool.false_eq_true, if_false]
  exact (wake_store_native _).trans (closeRegistry_store_native _ _)

end World

end MqttRelay.Client
