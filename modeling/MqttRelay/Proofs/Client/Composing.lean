import MqttRelay.Proofs.Client.Accounting
import MqttRelay.Proofs.Client.Elsewhere

/-!
# Relations that compose

Operations come down to small changes: listeners come and go, a client changes without losing the
listeners that move it, answers reach constructions, and much changes beside all this. Only when a
client is given up there is something in between: it lets go of its listeners before they are
removed. So whatever relation holds across small changes and across that, and composes, holds across
requests, events and operations, if it holds across callbacks.

Results:
* `Composes.request`, `Composes.emit`, `Composes.drive`, `Composes.perform`: what such a relation
  holds across.
* `Composes.nested`: it holds across callbacks that run programs of operations.
-/

namespace MqttRelay.Client

open Native

variable {N A : Type}

/-- Whether the answer to the making of a client is yes; what cannot be read as one is not. -/
def ready (payload : Event.Payload) : Bool := (payload.decodeD Event.Initialized.read {}).ready

namespace World

/-- The listeners that move each client. -/
def lifecycles (w : World N A) : List (List Router.Handle) := w.store.clients.map (·.lifecycle)

theorem lifecycles_of_client {w : World N A} {client : Nat} {m : Member}
    (hm : w.client? client = some m) : w.lifecycles[client]? = some m.lifecycle := by
  rw [lifecycles, List.getElem?_map, ← client?, hm, Option.map_some]

/-- A client lets go of the listeners that move it. -/
def letGo (client : Nat) (w : World N A) : World N A :=
  w.update (·.modifyClient client fun m => { m with lifecycle := [] })

theorem lifecycles_modifyClient (client : Nat) {f : Member → Member}
    {g : List Router.Handle → List Router.Handle} (w : World N A)
    (hf : ∀ m, (f m).lifecycle = g m.lifecycle) :
    (w.update (·.modifyClient client f)).lifecycles = w.lifecycles.modify client g := by
  refine List.ext_getElem? fun other => ?_
  simp only [lifecycles, update, System.modifyClient, List.getElem?_map, List.getElem?_modify]
  split <;> simp [hf, Function.comp_def]

/-- A relation that holds across small changes and where listeners are let go of and removed, and
composes. -/
structure Composes (R : World N A → World N A → Prop) : Prop where
  trans : ∀ {a b c}, R a b → R b c → R a c
  aside : ∀ {w after}, after.router = w.router → after.lifecycles = w.lifecycles →
    after.store.creations = w.store.creations → R w after
  listen : ∀ (changes : List (Router.Change Handler)) w,
    R w (w.setRouter (w.router.after changes))
  answer : ∀ (creation : Nat) (payload : Event.Payload) w,
    R w (w.deliverAnswer creation (ready payload))
  gone : ∀ {client : Nat} {m : Member} {w v}, w.client? client = some m →
    R (w.letGo client) v → R w (v.setRouter (v.router.removeEach m.lifecycle))

namespace Composes

variable {R : World N A → World N A → Prop} (hR : Composes R)

include hR

/-! ## Small changes -/

theorem refl (w : World N A) : R w w := hR.aside rfl rfl rfl

theorem count (o : Metrics.Occurrence) (w : World N A) : R w (w.count o) := hR.aside rfl rfl rfl

theorem note (e : Entry) (w : World N A) : R w (w.note e) := hR.aside rfl rfl rfl

theorem change (client : Nat) {f : Member → Member} (w : World N A)
    (hf : ∀ m, (f m).lifecycle = m.lifecycle) : R w (w.update (·.modifyClient client f)) :=
  hR.aside rfl ((lifecycles_modifyClient client w hf).trans (List.modify_id client _)) rfl

theorem setState (client : Nat) (state : State Nat) (w : World N A) :
    R w (w.setState client state) := hR.change client w fun _ => rfl

theorem tag (client : Nat) (m : Member) (w : World N A) : R w (w.tag client m) :=
  hR.change client w fun _ => rfl

theorem enroll (client number : Nat) (w : World N A) : R w (w.enroll client number) :=
  hR.change client w fun _ => rfl

theorem unregister (client number : Nat) (w : World N A) : R w (w.unregister client number) :=
  hR.change client w fun _ => rfl

theorem shut (client : Nat) (w : World N A) : R w (w.shut client) :=
  hR.change client w fun _ => rfl

theorem addSubscription (s : Subscription) (w : World N A) : R w (w.addSubscription s) :=
  hR.aside rfl rfl rfl

theorem pin (client : Nat) (w : World N A) : R w (w.pin client) := hR.aside rfl rfl rfl

theorem unpin (client : Nat) (w : World N A) : R w (w.unpin client) := hR.aside rfl rfl rfl

theorem enqueue (t : Task) (w : World N A) : R w (w.update (·.enqueue t)) :=
  hR.aside rfl rfl rfl

theorem sleep (delayMs : Nat) (t : Task) (w : World N A) : R w (w.update (·.sleep delayMs t)) :=
  hR.aside rfl rfl rfl

theorem modifyShared (number : Nat) (f : Shared → Shared) (w : World N A) :
    R w (w.update (·.modifyShared number f)) := hR.aside rfl rfl rfl

theorem off (handle : Router.Handle) (w : World N A) : R w (w.off handle) :=
  hR.listen [.remove handle] w

theorem on (client : Nat) (interest : Interest) (callback : Nat) (w : World N A) :
    R w (w.on client interest callback).1 := hR.listen [.add _ _ _] w

theorem removeEach (handles : List Router.Handle) (w : World N A) :
    R w (w.setRouter (w.router.removeEach handles)) := by
  rw [Router.removeEach_eq_after]
  exact hR.listen _ w

theorem enact (client : Nat) (effects : List Effect) (w : World N A) :
    R w (w.enact client effects) :=
  enact_rel hR.refl hR.trans (fun o _ => hR.count o) (fun _ _ => hR.enqueue _) w

theorem move (client : Nat) (f : State Nat → State Nat × List Effect) (w : World N A) :
    R w (w.move client f) := by
  unfold World.move
  split
  · exact hR.refl w
  · exact hR.trans (hR.setState client _ w) (hR.enact client _ _)

theorem detach (number : Nat) (w : World N A) : R w (w.detach number) := by
  unfold World.detach
  split
  · split
    · next s _ _ =>
      exact hR.trans (hR.removeEach s.listeners w) (hR.aside rfl rfl rfl)
    · exact hR.refl w
  · exact hR.refl w

theorem withdraw (client number : Nat) (w : World N A) :
    R w ((w.unregister client number).detach number) :=
  hR.trans (hR.unregister client number w) (hR.detach number _)

theorem closeRegistry (client : Nat) (w : World N A) : R w (w.closeRegistry client) :=
  closeRegistry_rel hR.refl hR.trans (hR.shut client w) hR.detach

theorem wake (w : World N A) : R w w.wake := by
  obtain ⟨creations, h⟩ := w.wake_eq
  rw [h]
  exact hR.aside rfl rfl rfl

/-- A subscription is made with its listeners and entered with its client. -/
theorem establish (m : Member) (s : Subscription) (wish : Outside.Wish) (w : World N A) :
    R (w.pin s.client) (w.establish m s wish) := by
  let tagged := (w.pin s.client).tag s.client m
  have hentered : R tagged (tagged.enter s wish) :=
    hR.trans (hR.listen [.add _ _ _, .add _ _ _, .add _ _ _] _) (hR.aside rfl rfl rfl)
  have henrolled := hR.trans (hR.trans (hR.tag s.client m _) hentered)
    (hR.enroll s.client w.store.subscriptions.length _)
  exact hR.trans henrolled (hR.count .subscriptionAdded _)

/-- A client lets go of its listeners and is given up, and they go whatever happened meanwhile. -/
theorem clear {client : Nat} {m : Member} {w told : World N A} (hm : w.client? client = some m)
    (h : R (w.markRemoved client) told) : R (w.pin client) (told.clear client m) := by
  have hmarked : R ((w.pin client).letGo client) (w.markRemoved client) := by
    refine hR.aside rfl ?_ rfl
    rw [letGo, lifecycles_modifyClient client (g := fun _ => []) (w.pin client) fun _ => rfl]
    exact lifecycles_modifyClient client (w.pin client) fun _ => rfl
  have hgone := hR.gone (w := w.pin client) hm (hR.trans hmarked h)
  have hcleared := hR.listen (Event.Kind.ofClient.map fun k =>
    .removeAll (Event.Key.client m.identity.clientId k).name)
    (told.setRouter (told.router.removeEach m.lifecycle))
  rw [← Router.foldl_removeAll_eq_after] at hcleared
  exact hR.trans (hR.trans hgone hcleared) (hR.closeRegistry client _)

/-! ## Events, requests and operations -/

theorem composable : Composable R where
  refl := hR.refl
  trans := hR.trans
  panicked := hR.count .panicked
  delivered _ _ := hR.count _
  held h := hR.trans (hR.pin _ _) (hR.trans h (hR.unpin _ _))

section Operations

variable {outside : Outside N A}
  (htell : ∀ callback notice w, R w (outside.tell callback notice w).1)

include htell

/-- What a listener does when its event is delivered. -/
theorem act (handler : Handler) (payload : Event.Payload) (w : World N A) :
    R w (outside.act handler payload w).1 :=
  hR.composable.act (fun creation _ => hR.answer creation payload w)
    (fun client _ => hR.move client _ w) (fun client _ _ => hR.move client _ w)
    fun callback _ => htell callback

theorem emit (event : String) (payload : Event.Payload) (w : World N A) :
    R w (Hub.emit outside.act event payload w).1 :=
  hR.composable.emit fun l _ => hR.act htell l.handler payload

/-- A request, with the events that the native layer delivers on the spot. -/
theorem request (r : Request) (w : World N A) : R w (outside.request r w).1 := by
  have hasked : R w (outside.asked r w) := hR.aside rfl rfl rfl
  exact hR.composable.request hasked (fun e _ => hR.emit htell e.key.name e.payload)
    fun f => hR.note (.fault f)

theorem comply (client : Nat) (ask : Ask Nat) (w : World N A) :
    R w (outside.comply client ask w) :=
  hR.composable.comply (fun _ => hR.request htell _ w) (hR.request htell _ w)
    (fun origin => hR.move client (State.refused origin)) fun _ _ _ _ => hR.aside rfl rfl rfl

/-- A client has a turn with all that follows. -/
theorem drive (client : Nat) (input : Input) (w : World N A) :
    R w (outside.drive client input w) :=
  hR.composable.drive (fun _ _ => hR.trans (hR.setState client _ _) (hR.enact client _ _))
    fun _ ask _ _ => hR.comply htell client ask _

theorem remove (client : Nat) (w : World N A) : R w (outside.remove client w) := by
  refine hR.composable.remove (fun m hm told htold => hR.clear hm ?_) (hR.count .clientRemoved)
    hR.wake
  rcases htold with rfl | rfl
  · exact hR.refl _
  · exact hR.request htell _ _

theorem subscribe (client : Nat) (wish : Outside.Wish) (w : World N A) :
    R w (outside.subscribe client wish w).1 := by
  refine hR.composable.subscribe (fun m _ => ?_) (fun m _ _ => ⟨?_, ?_, ?_⟩)
    fun callback _ => htell callback
  · exact hR.trans (hR.tag client m w) (hR.addSubscription _ _)
  · exact hR.establish m (wish.subscription client m) wish w
  · exact hR.request htell _ _
  · exact hR.withdraw client w.store.subscriptions.length _

theorem unsubscribe (number : Nat) (w : World N A) : R w (outside.unsubscribe number w) :=
  hR.composable.unsubscribe fun s _ =>
    ⟨hR.trans (hR.detach number w) (hR.unregister s.client number _), hR.request htell _ _⟩

/-- An operation, with all that it makes happen. -/
theorem perform (o : Operation) (w : World N A) : R w (outside.perform o w) := by
  cases o with
  | connect client overrides => exact hR.drive htell client _ w
  | disconnect client => exact hR.drive htell client _ w
  | remove client => exact hR.remove htell client w
  | subscribe client wish => exact hR.subscribe htell client wish w
  | unsubscribe number => exact hR.unsubscribe htell number w
  | on client interest callback => exact hR.on client interest callback w
  | off handle => exact hR.off handle w
  | removeAll event => exact hR.listen [.removeAll event] w
  | install client interceptor => exact hR.change client w fun _ => rfl
  | uninstall client number => exact hR.change client w fun _ => rfl

end Operations

/-- Such a relation holds across callbacks that run programs of operations, however deep they
nest. -/
theorem nested (layer : Layer N) (program : Nat → Notice → Program N A) (depth : Nat) :
    ∀ callback notice w, R w ((Outside.nested layer program depth).tell callback notice w).1 :=
  hR.composable.nested (fun _ _ => hR.aside rfl rfl rfl) (fun _ _ => hR.perform) program depth

end Composes

end World

end MqttRelay.Client
