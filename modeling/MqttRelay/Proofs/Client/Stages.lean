import MqttRelay.Proofs.Client.Removal
import MqttRelay.Proofs.Router.Turns

/-!
# The stages of operations

Whoever operates on clients, operations come to the same few stages: a client changes, the native
layer is asked and may deliver events on the spot, callbacks are told, and listeners come and go. So
a relation between worlds that composes holds across a function if it holds across its stages. What
the stages are is said here for each function; what they keep to is said elsewhere, by relation.

* `Operation`, `Program` — what callbacks can do.
* `World.establish`, `World.takeBack` — a subscription as it is made, and as it is undone.
* `World.markRemoved`, `World.clear` — a client as it is given up, and as what it had is taken away.
* `Composable` — a relation that composes, across counting and around what is done for a client.

Results:
* `Outside.remove_eq`, `Outside.subscribe_eq`: removals and subscriptions by their stages.
* `Composable.act`, `Composable.emit`, `Composable.request`: what such a relation holds across when
  events are delivered.
* `Composable.drive`, `Composable.remove`, `Composable.subscribe`, `Composable.unsubscribe`: and
  across operations.
-/

namespace MqttRelay.Client

open Native

variable {N A : Type}

/-! ## Programs of operations -/

/-- What a callback can do with clients and subscriptions. -/
inductive Operation where
  | connect (client : Nat) (overrides : Option Options)
  | disconnect (client : Nat)
  | remove (client : Nat)
  | subscribe (client : Nat) (wish : Outside.Wish)
  | unsubscribe (number : Nat)
  | on (client : Nat) (interest : Interest) (callback : Nat)
  | off (handle : Router.Handle)
  | removeAll (event : String)
  | install (client interceptor : Nat)
  | uninstall (client number : Nat)
  deriving DecidableEq, Inhabited, Repr

/-- What a callback does: operations, and changes of the application's own data, each chosen by
what it sees of the world. At its end it returns or panics. -/
inductive Program (N A : Type) where
  | finish (returned : Bool)
  | look (next : World N A → Program N A)
  | keep (f : A → A) (rest : Program N A)
  | perform (o : Operation) (rest : Program N A)

namespace Outside

/-- Carries an operation out. -/
def perform (outside : Outside N A) (o : Operation) (w : World N A) : World N A :=
  match o with
  | .connect client overrides => outside.connect client overrides w
  | .disconnect client => outside.disconnect client w
  | .remove client => outside.remove client w
  | .subscribe client wish => (outside.subscribe client wish w).1
  | .unsubscribe number => outside.unsubscribe number w
  | .on client interest callback => (w.on client interest callback).1
  | .off handle => w.off handle
  | .removeAll event => w.removeAll event
  | .install client interceptor => (w.installInterceptor client interceptor).1
  | .uninstall client number => w.uninstallInterceptor client number

/-- Runs a program. -/
def execute (outside : Outside N A) : Program N A → World N A → World N A × Bool
  | .finish returned, w => (w, returned)
  | .look next, w => outside.execute (next w) w
  | .keep f rest, w => outside.execute rest (w.update fun s => { s with app := f s.app })
  | .perform o rest, w => outside.execute rest (outside.perform o w)

/-- Callbacks that run programs, chosen by what they are told. Callbacks that run inside others
nest at most this deep; at the bottom they do nothing. -/
def nested (layer : Layer N) (program : Nat → Notice → Program N A) : Nat → Outside N A
  | 0 => { layer := layer, tell := fun _ _ w => (w, true) }
  | depth + 1 =>
    { layer := layer
      tell := fun callback notice =>
        (nested layer program depth).execute (program callback notice) }

theorem nested_layer (layer : Layer N) (program : Nat → Notice → Program N A) (depth : Nat) :
    (nested layer program depth).layer = layer := by
  cases depth <;> rfl

end Outside

/-! ## Stages of a subscription -/

/-- The subscription that is made for a client at a wish, without its listeners. -/
def Outside.Wish.subscription (wish : Outside.Wish) (client : Nat) (m : Member) : Subscription where
  client := client
  clientId := m.identity.clientId
  id := .generate m.identity.clientId wish.topic wish.qos (m.registry.tag + 1)
  topic := wish.topic
  qos := wish.qos

/-- A client that gave out a number for a subscription id. -/
def Member.tagged (m : Member) : Member :=
  { m with registry := { m.registry with tag := m.registry.tag + 1 } }

/-- The request for a subscription. -/
def Subscription.request (s : Subscription) : Request := .subscribe s.id s.clientId s.topic s.qos

namespace World

/-- Enters a subscription. -/
def addSubscription (s : Subscription) (w : World N A) : World N A :=
  w.update fun t => { t with subscriptions := t.subscriptions ++ [s] }

/-- Puts a subscription into a client's registry. -/
def enroll (client number : Nat) (w : World N A) : World N A :=
  w.update (·.modifyClient client fun m =>
    { m with registry := { m.registry with entries := m.registry.entries ++ [number] } })

/-- Enters a subscription with the three listeners that its events have. -/
def enter (s : Subscription) (wish : Outside.Wish) (w : World N A) : World N A :=
  let r₁ := w.router.addKey (.subscription s.id .message) (.message wish.onMessage)
  let r₂ := r₁.1.addKey (.subscription s.id .subscribed)
    (.subscribed wish.topic wish.qos wish.onGranted)
  let r₃ := r₂.1.addKey (.subscription s.id .subscribeFailed)
    (.subscribeFailed wish.topic wish.onRefused)
  (w.setRouter r₃.1).addSubscription { s with listeners := [r₁.2, r₂.2, r₃.2] }

/-- A registry gives out its next number. -/
def tag (client : Nat) (m : Member) (w : World N A) : World N A :=
  w.update (·.modifyClient client fun m' =>
    { m' with registry := { m'.registry with tag := m.registry.tag + 1 } })

/-- A subscription is made with its listeners, entered with its client and counted. -/
def establish (m : Member) (s : Subscription) (wish : Outside.Wish) (w : World N A) : World N A :=
  ((((w.tag s.client m).enter s wish).enroll s.client w.store.subscriptions.length).pin
    s.client).count .subscriptionAdded

/-- A subscription is taken out of its client's registry, and ended. -/
def takeBack (client number : Nat) (w : World N A) : World N A :=
  (w.unregister client number).detach number

/-! ## Stages of a removal -/

/-- A client is given up, before anybody is told. -/
def markRemoved (client : Nat) (w : World N A) : World N A :=
  (w.pin client).update (·.modifyClient client fun m =>
    { m with state := m.state.remove, lifecycle := [] })

/-- The listeners of a client go, and all under the names of its events, and its registry is
closed. -/
def clear (client : Nat) (m : Member) (w : World N A) : World N A :=
  (w.setRouter (unlisten m w.router)).closeRegistry client

/-! ## Stages of a turn -/

/-- A client has a turn, and the effects are carried out. -/
def turned (client : Nat) (m : Member) (input : Input) (w : World N A) : World N A :=
  let result := m.state.step w.store.runtime input
  ((w.pin client).setState client result.state).enact client result.effects

end World

/-- The callback that a listener tells, if it tells one. -/
def Handler.callback? : Handler → Option Nat
  | .tell _ _ callback => some callback
  | .message callback => some callback
  | .subscribed _ _ callback => callback
  | .subscribeFailed _ callback => callback
  | _ => none

namespace Outside

variable (outside : Outside N A)

/-- The native layer is asked, and nothing was delivered yet. -/
def asked (r : Request) (w : World N A) : World N A :=
  (w.note (.request r)).update fun s =>
    { s with native := (outside.layer.answer r w.store.native).1 }

/-- The callback for refusals is told, if there is one; its panic is counted. -/
def tellRefusal (wish : Wish) (fault : Fault) (w : World N A) : World N A :=
  match wish.onRefused with
  | none => w
  | some callback =>
    let (told, returned) := outside.tell callback (.subscribeFailed {
      message := fault.report
      topic := some wish.topic
      reason := some .subscriptionError }) w
    if returned then told else told.count .panicked

/-- What a removal comes to. -/
theorem remove_eq {client : Nat} {m : Member} {w : World N A} (hm : w.client? client = some m) :
    outside.remove client w =
      if m.state.removed then ((w.markRemoved client).clear client m).wake.unpin client
      else (World.wake (((outside.request (.remove m.identity.clientId)
        (w.markRemoved client)).1.clear client m).count .clientRemoved)).unpin client := by
  simp only [remove, hm]
  cases m.state.removed <;> rfl

theorem remove_of_none {client : Nat} {w : World N A} (h : w.client? client = none) :
    outside.remove client w = w := by
  simp only [remove, h]

/-- What a subscription comes to. -/
theorem subscribe_eq {client : Nat} {m : Member} (wish : Wish) {w : World N A}
    (hm : w.client? client = some m) :
    let s := wish.subscription client m
    let number := w.store.subscriptions.length
    outside.subscribe client wish w =
      (if m.registry.closed then (w.tag client m).addSubscription { s with active := false }
      else match outside.request s.request (w.establish m s wish) with
        | (granted, none) => granted.unpin client
        | (refused, some fault) =>
          (outside.tellRefusal wish fault (refused.takeBack client number)).unpin client,
        number) := by
  intro s number
  simp only [subscribe, hm]
  split
  · rfl
  · have hrequest : outside.request (.subscribe (.generate m.identity.clientId wish.topic wish.qos
        (m.registry.tag + 1)) m.identity.clientId wish.topic wish.qos)
        (w.establish m s wish) = outside.request s.request (w.establish m s wish) := rfl
    split
    · next h =>
      obtain h := hrequest.symm.trans h
      rw [h]
    · next h =>
      obtain h := hrequest.symm.trans h
      rw [h]
      dsimp only [tellRefusal]
      cases wish.onRefused <;> rfl

end Outside

/-! ## Relations that compose -/

section

variable {R : World N A → World N A → Prop} (hrefl : ∀ w, R w w)
  (htrans : ∀ {a b c}, R a b → R b c → R a c)

include hrefl htrans

theorem foldl_rel {α : Type} {f : World N A → α → World N A} {as : List α}
    (hf : ∀ a ∈ as, ∀ w, R w (f w a)) (w : World N A) : R w (as.foldl f w) := by
  induction as generalizing w with
  | nil => exact hrefl w
  | cons a as ih =>
    obtain ⟨ha, has⟩ := List.forall_mem_cons.1 hf
    exact htrans (ha w) (ih has (f w a))

/-- Effects of a client's turn are counted, or are retries that are put off. -/
theorem enact_rel {client : Nat} {effects : List Effect}
    (hcount : ∀ o, .count o ∈ effects → ∀ w, R w (Hub.count w o))
    (henqueue : ∀ generation delayMs w,
      R w (World.update w (·.enqueue (.retry client generation delayMs)))) (w : World N A) :
    R w (w.enact client effects) := by
  refine foldl_rel hrefl htrans (fun e he w => ?_) w
  cases e with
  | count o => exact hcount o he w
  | schedule generation delayMs => exact henqueue generation delayMs w

theorem closeRegistry_rel {client : Nat} {w : World N A} (hshut : R w (w.shut client))
    (hdetach : ∀ number w, R w (World.detach number w)) : R w (w.closeRegistry client) := by
  unfold World.closeRegistry
  split
  · exact hrefl w
  · exact htrans hshut (foldl_rel hrefl htrans (fun n _ => hdetach n) _)

end

/-- A relation that composes, and holds across the counting of calls and around what is done while a
client is held for it. -/
structure Composable (R : World N A → World N A → Prop) : Prop where
  refl : ∀ w, R w w
  trans : ∀ {a b c}, R a b → R b c → R a c
  panicked : ∀ w, R w (Hub.count w .panicked)
  delivered : ∀ kind n w, R w (Hub.count w (.delivered kind n))
  held : ∀ {client w after}, R (World.pin w client) after → R w (World.unpin after client)

namespace Composable

variable {R : World N A → World N A → Prop} (hR : Composable R) {outside : Outside N A}

include hR

/-! ### Events -/

/-- A callback whose panic is counted. -/
theorem tell_counted {callback : Nat} {notice : Notice} {w : World N A}
    (htell : R w (outside.tell callback notice w).1) :
    let (after, returned) := outside.tell callback notice w
    R w (if returned then after else Hub.count after .panicked) := by
  dsimp only
  split
  · exact htell
  · exact hR.trans htell (hR.panicked _)

/-- A callback on a client is told, or it is not interested. -/
theorem tellOf {interest : Interest} {client callback : Nat} {payload : Event.Payload}
    (htell : ∀ notice v, R v (outside.tell callback notice v).1) (w : World N A) :
    R w (outside.tellOf interest client callback payload w).1 := by
  unfold Outside.tellOf
  cases interest with
  | initialized => exact htell _ w
  | connected => exact htell _ w
  | failure => exact htell _ w
  | connectFailed =>
    dsimp only
    split
    · split
      · exact hR.held (htell _ _)
      · exact hR.refl w
    · exact hR.refl w
  | disconnected =>
    dsimp only
    split
    · split
      · exact hR.refl w
      · exact hR.held (htell _ _)
    · exact hR.refl w

/-- A listener answers a construction, moves a client, or tells a callback. -/
theorem act {handler : Handler} {payload : Event.Payload} {w : World N A}
    (hanswer : ∀ creation, handler = .answer creation →
      R w (w.deliverAnswer creation (payload.decodeD Event.Initialized.read {}).ready))
    (hacknowledge : ∀ client, handler = .acknowledge client →
      R w (w.move client State.acknowledged))
    (hlose : ∀ client reason, handler = .lose client →
      R w (w.move client (State.ended w.store.runtime reason)))
    (htell : ∀ callback, handler.callback? = some callback →
      ∀ notice v, R v (outside.tell callback notice v).1) :
    R w (outside.act handler payload w).1 := by
  cases handler with
  | answer creation => exact hanswer creation rfl
  | acknowledge client =>
    simp only [Outside.act]
    split
    · exact hacknowledge client rfl
    · exact hR.refl w
  | lose client =>
    simp only [Outside.act]
    split
    · exact hlose client _ rfl
    · exact hR.refl w
  | tell interest client callback => exact hR.tellOf (htell callback rfl) w
  | message callback =>
    simp only [Outside.act]
    split
    · exact htell callback rfl _ w
    · exact hR.refl w
  | subscribed topic qos callback =>
    cases callback with
    | some callback => exact htell callback rfl _ w
    | none => exact hR.refl w
  | subscribeFailed topic callback =>
    cases callback with
    | some callback => exact htell callback rfl _ w
    | none => exact hR.refl w

theorem call {l : Listener Handler} {payload : Event.Payload} {w : World N A}
    (hact : R w (outside.act l.handler payload w).1) :
    R w (Hub.call outside.act l payload w).1 := by
  unfold Hub.call
  dsimp only
  split
  · exact hact
  · exact hR.trans hact (hR.panicked _)

theorem dispatch {ls : List (Listener Handler)} {payload : Event.Payload}
    (hact : ∀ l ∈ ls, ∀ v, R v (outside.act l.handler payload v).1) (w : World N A) :
    R w (Hub.dispatch outside.act payload ls w).1 :=
  Hub.dispatch_rel hR.refl hR.trans ls (fun l hl v => hR.call (hact l hl v)) w

/-- An event is delivered to the listeners that stand under its name. -/
theorem emit {event : String} {payload : Event.Payload} {w : World N A}
    (hact : ∀ l ∈ w.router.listeners event, ∀ v, R v (outside.act l.handler payload v).1) :
    R w (Hub.emit outside.act event payload w).1 := by
  have hdispatch := hR.dispatch hact w
  unfold Hub.emit
  dsimp only
  split
  · exact hdispatch
  · exact hR.trans hdispatch (hR.delivered _ _ _)

theorem deliverAll {events : List Emission}
    (hdeliver : ∀ e ∈ events, ∀ v, R v (outside.deliver e v).1) (w : World N A) :
    R w (outside.deliverAll events w).1 := by
  -- The induction is on the events, from whatever count they begin with.
  unfold Outside.deliverAll
  have h : R w ((w, 0) : World N A × Nat).1 := hR.refl w
  generalize ((w, 0) : World N A × Nat) = p at h ⊢
  induction events generalizing p with
  | nil => exact h
  | cons e events ih =>
    obtain ⟨hfirst, hrest⟩ := List.forall_mem_cons.1 hdeliver
    rw [List.foldl_cons]
    exact ih hrest _ (hR.trans h (hfirst p.1))

/-- The native layer is asked, delivers events on the spot, and may refuse. -/
theorem request {r : Request} {w : World N A} (hasked : R w (outside.asked r w))
    (hdeliver : ∀ e ∈ (outside.layer.answer r w.store.native).2.events,
      ∀ v, R v (outside.deliver e v).1)
    (hfault : ∀ f v, R v (World.note v (.fault f))) : R w (outside.request r w).1 := by
  have hdelivered := hR.trans hasked (hR.deliverAll hdeliver _)
  unfold Outside.request
  dsimp only
  split
  · exact hdelivered
  · exact hR.trans hdelivered (hfault _ _)

/-! ### Operations -/

/-- What a client's turn asks for is done: requests are made, or an interceptor is asked. -/
theorem comply {client : Nat} {ask : Ask Nat} {w : World N A}
    (hconnect : ∀ parameters, R w (outside.request
      (.connect (((w.client? client).map (·.identity.clientId)).getD "") parameters) w).1)
    (hdisconnect : R w (outside.request
      (.disconnect (((w.client? client).map (·.identity.clientId)).getD "")) w).1)
    (hrefused : ∀ origin v, R v (World.move client (State.refused origin) v))
    (hconsult : ∀ interceptor reason generation,
      ask = .consult interceptor reason generation →
      R w (w.update (·.enqueueFirst (.consult client generation interceptor reason)))) :
    R w (outside.comply client ask w) := by
  unfold Outside.comply
  cases ask with
  | connect parameters origin =>
    have hr := hconnect parameters
    dsimp only
    split
    · next h =>
      rw [h] at hr
      exact hR.trans hr (hrefused origin _)
    · next h =>
      rw [h] at hr
      exact hr
  | disconnect => exact hdisconnect
  | consult interceptor reason generation => exact hconsult interceptor reason generation rfl

/-- A client has a turn while it is held, and what the turn asks for is done. -/
theorem drive {client : Nat} {input : Input} {w : World N A}
    (hturned : ∀ m, w.client? client = some m → R (w.pin client) (w.turned client m input))
    (hcomply : ∀ m ask, w.client? client = some m →
      (m.state.step w.store.runtime input).ask = some ask →
      R (w.turned client m input) (outside.comply client ask (w.turned client m input))) :
    R w (outside.drive client input w) := by
  unfold Outside.drive
  split
  · exact hR.refl w
  · next m hm =>
    refine hR.held ?_
    split
    · exact hturned m hm
    · next ask hask => exact hR.trans (hturned m hm) (hcomply m ask hm hask)

/-- A client is given up while it is held. The first time the native layer is told. Then what the
client had is taken away. -/
theorem remove {client : Nat} {w : World N A}
    (hcleared : ∀ m, w.client? client = some m → ∀ told, told = w.markRemoved client ∨
      told = (outside.request (.remove m.identity.clientId) (w.markRemoved client)).1 →
      R (w.pin client) (told.clear client m))
    (hcount : ∀ v, R v (Hub.count v .clientRemoved)) (hwake : ∀ v, R v (World.wake v)) :
    R w (outside.remove client w) := by
  cases hm : w.client? client with
  | none =>
    rw [outside.remove_of_none hm]
    exact hR.refl w
  | some m =>
    rw [outside.remove_eq hm]
    split
    · exact hR.held (hR.trans (hcleared m hm _ (.inl rfl)) (hwake _))
    · exact hR.held (hR.trans (hR.trans (hcleared m hm _ (.inr rfl)) (hcount _)) (hwake _))

/-- A subscription is turned down if the registry is closed. If it is open the subscription is made
and asked for while its client is held, and if it is refused then it is taken back, before anybody
is told. -/
theorem subscribe {client : Nat} {wish : Outside.Wish} {w : World N A}
    (hreject : ∀ m, w.client? client = some m →
      R w ((w.tag client m).addSubscription { wish.subscription client m with active := false }))
    (hopen : ∀ m, w.client? client = some m → m.registry.closed = false →
      let s := wish.subscription client m
      let established := w.establish m s wish
      let asked := (outside.request s.request established).1
      R (w.pin client) established ∧ R established asked ∧
        R asked (asked.takeBack client w.store.subscriptions.length))
    (htell : ∀ callback, wish.onRefused = some callback →
      ∀ notice v, R v (outside.tell callback notice v).1) :
    R w (outside.subscribe client wish w).1 := by
  cases hm : w.client? client with
  | none =>
    have hsame : outside.subscribe client wish w = (w, w.store.subscriptions.length) := by
      simp only [Outside.subscribe, hm]
    rw [hsame]
    exact hR.refl w
  | some m =>
    rw [outside.subscribe_eq wish hm]
    dsimp only
    split
    · exact hreject m hm
    · next hclosed =>
      obtain ⟨hestablished, hasked, hback⟩ := hopen m hm (by simpa using hclosed)
      have hrequested := hR.trans hestablished hasked
      split
      · next h =>
        rw [h] at hrequested
        exact hR.held hrequested
      · next refused fault h =>
        rw [h] at hrequested hback
        have hrefusal (v : World N A) : R v (outside.tellRefusal wish fault v) := by
          unfold Outside.tellRefusal
          split
          · exact hR.refl v
          · next callback hcallback => exact hR.tell_counted (htell callback hcallback _ v)
        exact hR.held (hR.trans (hR.trans hrequested hback) (hrefusal _))

/-- An active subscription is ended, and released at the native layer. -/
theorem unsubscribe {number : Nat} {w : World N A}
    (hactive : ∀ s, w.store.subscriptions[number]? = some s →
      let ended := (w.detach number).unregister s.client number
      R w ended ∧
        R ended (outside.request (.unsubscribe s.id s.clientId s.topic) ended).1) :
    R w (outside.unsubscribe number w) := by
  unfold Outside.unsubscribe
  split
  · next s hs =>
    split
    · exact hR.trans (hactive s hs).1 (hactive s hs).2
    · exact hR.refl w
  · exact hR.refl w

/-! ### Programs -/

theorem execute (hkeep : ∀ (f : A → A) v, R v (World.update v fun s => { s with app := f s.app }))
    (hperform : ∀ o v, R v (outside.perform o v)) (program : Program N A) (w : World N A) :
    R w (outside.execute program w).1 := by
  induction program generalizing w with
  | finish returned => exact hR.refl w
  | look next ih => exact ih w w
  | keep f rest ih => exact hR.trans (hkeep f w) (ih _)
  | perform o rest ih => exact hR.trans (hperform o w) (ih _)

omit outside in
/-- Callbacks that run programs of operations, however deep they nest, if operations do whatever
callbacks do. -/
theorem nested (hkeep : ∀ (f : A → A) v, R v (World.update v fun s => { s with app := f s.app }))
    {layer : Layer N}
    (hperform : ∀ outside : Outside N A, outside.layer = layer →
      (∀ callback notice v, R v (outside.tell callback notice v).1) →
      ∀ o v, R v (outside.perform o v))
    (program : Nat → Notice → Program N A) (depth : Nat) :
    ∀ callback notice w, R w ((Outside.nested layer program depth).tell callback notice w).1 := by
  induction depth with
  | zero => exact fun _ _ w => hR.refl w
  | succ depth ih =>
    intro callback notice w
    exact hR.execute hkeep (hperform _ (Outside.nested_layer ..) ih) (program callback notice) w

end Composable

end MqttRelay.Client
