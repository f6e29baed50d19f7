import MqttRelay.Proofs.Client.Realm

/-!
# What keeps to a realm

Operations keep to a realm if they are on clients and subscriptions that it owns, and events do
if they are delivered under names that it hears. The native layer may answer with events on the
spot, and callbacks may operate in turn: they keep to the realm as long as the layer answers under
its names and its callbacks operate within it, however deep this nests.

Results:
* `Stays.deliver`, `Stays.request`, `Stays.perform`: events, requests and operations keep to a
  realm, if its callbacks do.
* `Stays.nested`: callbacks that run obedient programs do, at every depth of nesting.
-/

namespace MqttRelay

/-- Whether the id of a subscription in a request was generated for it. -/
def Native.Request.IsProper : Native.Request → Prop
  | .subscribe id clientId topic _ => ∃ qos tag, id = .generate clientId topic qos tag
  | .unsubscribe id clientId topic => ∃ qos tag, id = .generate clientId topic qos tag
  | _ => True

namespace Client

open Event Native

variable {N A : Type}

/-- A realm that has the names of all events of the clients it owns. -/
def Realm.Lawful (r : Realm N A) : Prop :=
  ∀ id name, r.owner id → OfClient id name → r.name name

/-- Whether the subscription that a request is for, if it is for one, was made. -/
def Backs (subscriptions : List Subscription) : Request → Prop
  | .subscribe id clientId topic _ =>
    ∃ s ∈ subscriptions, s.IsGenerated ∧ s.id = id ∧ s.clientId = clientId ∧ s.topic = topic
  | .unsubscribe id clientId topic =>
    ∃ s ∈ subscriptions, s.IsGenerated ∧ s.id = id ∧ s.clientId = clientId ∧ s.topic = topic
  | _ => True

theorem Backs.isProper {subscriptions : List Subscription} {q : Request}
    (h : Backs subscriptions q) : q.IsProper := by
  cases q with
  | subscribe id clientId topic qos =>
    obtain ⟨s, -, ⟨tag, hid⟩, rfl, rfl, rfl⟩ := h
    exact ⟨s.qos, tag, hid⟩
  | unsubscribe id clientId topic =>
    obtain ⟨s, -, ⟨tag, hid⟩, rfl, rfl, rfl⟩ := h
    exact ⟨s.qos, tag, hid⟩
  | _ => trivial

/-- A native layer that keeps to a realm in its answers to requests of clients of the realm. -/
structure Fits (layer : Layer N) (r : Realm N A) : Prop where
  native : ∀ subscriptions (q : Request) n, r.owner q.clientId → Backs subscriptions q →
    r.native subscriptions n (layer.answer q n).1
  heard : ∀ subscriptions (q : Request) n, r.owner q.clientId → Backs subscriptions q →
    ∀ e ∈ (layer.answer q n).2.events, r.heard e.key.name

/-- Whether a client, if it exists, is one that the realm owns. -/
def Realm.Owns (r : Realm N A) (w : World N A) (client : Nat) : Prop :=
  ∀ m, w.client? client = some m → r.owner m.identity.clientId

/-- A client that the realm owns is still its own later on. -/
theorem Realm.owns_of_later {r : Realm N A} {w after : World N A} (h : World.Later w after)
    {client : Nat} {m : Member} (hm : w.client? client = some m)
    (howner : r.owner m.identity.clientId) : r.Owns after client := by
  intro m' hm'
  obtain ⟨m'', hm'', hi⟩ := h.client hm
  obtain rfl : m'' = m' := Option.some.inj (hm''.symm.trans hm')
  rwa [hi]

theorem Realm.Admits.callback {r : Realm N A} {handler : Handler} (h : r.Admits handler)
    {callback : Nat} (hcallback : handler.callback? = some callback) : r.callback callback := by
  cases handler with
  | tell interest client own => exact Option.some.inj hcallback ▸ h
  | message own => exact Option.some.inj hcallback ▸ h
  | subscribed topic qos own => exact h callback hcallback
  | subscribeFailed topic own => exact h callback hcallback
  | _ => nomatch hcallback

/-- Whether an operation keeps to a realm. -/
def Realm.Permits (r : Realm N A) (w : World N A) : Operation → Prop
  | .connect client _ => r.Owns w client
  | .disconnect client => r.Owns w client
  | .remove client => r.Owns w client
  | .subscribe client wish => r.Owns w client ∧ r.Grants wish
  | .unsubscribe number =>
    ∀ s, w.store.subscriptions[number]? = some s → r.owner s.clientId
  | .on client interest callback =>
    r.name (Key.client (((w.client? client).map (·.identity.clientId)).getD "")
      interest.event).name ∧ r.callback callback
  | .off handle => ∀ name, ∀ l ∈ w.router.listeners name, l.id = handle.id → r.name name
  | .removeAll event => r.name event
  | .install client _ => r.Owns w client
  | .uninstall client _ => r.Owns w client

/-- Whether each operation of a program, where it is carried out, is one of these, and each change
of the application's data is one of those. -/
def Outside.Obeys (outside : Outside N A) (P : World N A → Operation → Prop)
    (K : World N A → World N A → Prop) : Program N A → World N A → Prop
  | .finish _, _ => True
  | .look next, w => outside.Obeys P K (next w) w
  | .keep f rest, w =>
    K w (w.update fun s => { s with app := f s.app }) ∧
      outside.Obeys P K rest (w.update fun s => { s with app := f s.app })
  | .perform o rest, w => P w o ∧ outside.Obeys P K rest (outside.perform o w)

namespace World

/-- Whoever came to a world by acts within a realm gets from there to another by such acts. -/
def Stays (r : Realm N A) (start w after : World N A) : Prop := Acts r start w → Acts r w after

theorem modifyClient_of_none {w : World N A} {client : Nat} (h : w.client? client = none)
    (f : Member → Member) : w.update (·.modifyClient client f) = w := by
  have hlength : w.store.clients.length ≤ client := List.getElem?_eq_none_iff.1 h
  show { w with store := { w.store with clients := w.store.clients.modify client f } } = w
  rw [List.modify_eq_self hlength]

namespace Stays

variable {r : Realm N A} {start : World N A}

theorem refl (w : World N A) : Stays r start w w := fun _ => .refl

theorem trans {a b c : World N A} (h₁ : Stays r start a b) (h₂ : Stays r start b c) :
    Stays r start a c := fun h => (h₁ h).trans (h₂ (h.trans (h₁ h)))

theorem act {w after : World N A} (h : Act r w after) : Stays r start w after := fun _ => .single h

/-! ## Beside clients and listeners -/

theorem aside {w after : World N A} (hrouter : after.router = w.router)
    (hclients : after.store.clients = w.store.clients)
    (hsubscriptions : after.store.subscriptions = w.store.subscriptions)
    (hnative : after.store.native = w.store.native)
    (hcreations : after.store.creations = w.store.creations)
    (hshareds : after.store.shareds = w.store.shareds)
    (hdata : after.store.app = w.store.app ∧ after.store.names = w.store.names ∨ r.kept w after) :
    Stays r start w after := by
  refine act (.aside hrouter hclients hsubscriptions hnative (fun c hc => ?_) (fun handle hh => ?_)
    hdata)
  · exact ⟨c, hcreations ▸ hc, rfl⟩
  · rw [IsAttached, hshareds] at hh
    exact .inl hh

theorem count (o : Metrics.Occurrence) (w : World N A) : Stays r start w (w.count o) :=
  aside rfl rfl rfl rfl rfl rfl (.inl ⟨rfl, rfl⟩)

theorem note (e : Entry) (w : World N A) : Stays r start w (w.note e) :=
  aside rfl rfl rfl rfl rfl rfl (.inl ⟨rfl, rfl⟩)

theorem pin (client : Nat) (w : World N A) : Stays r start w (w.pin client) :=
  aside rfl rfl rfl rfl rfl rfl (.inl ⟨rfl, rfl⟩)

theorem unpin (client : Nat) (w : World N A) : Stays r start w (w.unpin client) :=
  aside rfl rfl rfl rfl rfl rfl (.inl ⟨rfl, rfl⟩)

/-- The application's data change as the realm has it. -/
theorem keepData {f : A → A} {w : World N A}
    (h : r.kept w (w.update fun s => { s with app := f s.app })) :
    Stays r start w (w.update fun s => { s with app := f s.app }) :=
  aside rfl rfl rfl rfl rfl rfl (.inr h)

theorem enqueue (t : Task) (w : World N A) : Stays r start w (w.update (·.enqueue t)) :=
  aside rfl rfl rfl rfl rfl rfl (.inl ⟨rfl, rfl⟩)

theorem enqueueFirst (t : Task) (w : World N A) : Stays r start w (w.update (·.enqueueFirst t)) :=
  aside rfl rfl rfl rfl rfl rfl (.inl ⟨rfl, rfl⟩)

theorem modifyCreation (number : Nat) {f : Creation → Creation}
    (hf : ∀ c, (f c).listener = c.listener) (w : World N A) :
    Stays r start w (w.update (·.modifyCreation number f)) := by
  refine act (.aside rfl rfl rfl rfl (fun c hc => ?_) (fun handle hh => .inl hh) (.inl ⟨rfl, rfl⟩))
  obtain ⟨i, hi⟩ := List.mem_iff_getElem?.1 hc
  have hi : (w.store.creations.modify number f)[i]? = some c := hi
  rw [List.getElem?_modify] at hi
  obtain ⟨c', hc', rfl⟩ := Option.map_eq_some_iff.1 hi
  refine ⟨c', List.mem_of_getElem? hc', ?_⟩
  split
  · exact hf c'
  · rfl

theorem deliverAnswer (creation : Nat) (ready : Bool) (w : World N A) :
    Stays r start w (w.deliverAnswer creation ready) := by
  unfold World.deliverAnswer
  split
  · show Stays r start w ((w.update (·.modifyCreation creation fun c =>
      { c with answer := some ready })).update (·.enqueue (.await creation)))
    exact (modifyCreation creation (f := fun c => { c with answer := some ready })
      (fun _ => rfl) w).trans (enqueue _ _)
  · exact refl w

theorem wake (w : World N A) : Stays r start w w.wake := by
  obtain ⟨creations, h⟩ := w.wake_eq
  rw [h]
  exact aside rfl rfl rfl rfl rfl rfl (.inl ⟨rfl, rfl⟩)

/-! ## Clients -/

/-- A client changes beside its listeners and its subscriptions. -/
theorem change {client : Nat} {f : Member → Member} {w : World N A} (hmember : r.member client)
    (hf : ∀ m, (f m).identity = m.identity ∧ (f m).lifecycle = m.lifecycle ∧
      (f m).registry.entries = m.registry.entries) :
    Stays r start w (w.update (·.modifyClient client f)) := by
  refine act (.change w client f hmember (fun m => (hf m).1) (fun m => ?_) fun m n hn => .inl ?_)
  · rw [(hf m).2.1]
    exact List.Subset.refl _
  · rwa [← (hf m).2.2]

theorem enact (client : Nat) (effects : List Effect) (w : World N A) :
    Stays r start w (w.enact client effects) :=
  enact_rel refl trans (fun o _ => count o) (fun _ _ => enqueue _) w

theorem move {client : Nat} (hmember : r.member client)
    (f : State Nat → State Nat × List Effect) (w : World N A) :
    Stays r start w (w.move client f) := by
  unfold World.move
  split
  · exact refl w
  · next m _ =>
    have hset : Stays r start w (w.setState client (f m.state).1) :=
      change hmember fun _ => ⟨rfl, rfl, rfl⟩
    exact hset.trans (enact client (f m.state).2 _)

/-! ## Listeners -/

/-- Handles of listeners under names of the realm are used. -/
theorem removeEach {handles : List Router.Handle} {w : World N A}
    (h : ∀ handle ∈ handles, ∀ name, ∀ l ∈ w.router.listeners name, l.id = handle.id →
      r.name name) : Stays r start w (w.setRouter (w.router.removeEach handles)) := by
  induction handles generalizing w with
  | nil => exact refl w
  | cons handle handles ih =>
    obtain ⟨hfirst, hrest⟩ := List.forall_mem_cons.1 h
    refine (act (.off w handle hfirst)).trans (ih (w := w.off handle) fun k hk name l hl => ?_)
    exact hrest k hk name l (Router.mem_of_mem_listeners_remove hl)

theorem removeKinds {id : String} (hname : ∀ k ∈ Kind.ofClient, r.name (Key.client id k).name)
    (w : World N A) :
    Stays r start w (w.setRouter
      (Kind.ofClient.foldl (fun r k => r.removeAll (Key.client id k).name) w.router)) := by
  have hfold : w.setRouter
      (Kind.ofClient.foldl (fun r k => r.removeAll (Key.client id k).name) w.router) =
      Kind.ofClient.foldl (fun w k => w.removeAll (Key.client id k).name) w := rfl
  rw [hfold]
  clear hfold
  generalize Kind.ofClient = kinds at hname
  induction kinds generalizing w with
  | nil => exact refl w
  | cons k kinds ih =>
    obtain ⟨hfirst, hrest⟩ := List.forall_mem_cons.1 hname
    exact (act (.removeAll w _ hfirst)).trans (ih _ hrest)

/-! ## Subscriptions -/

/-- Subscriptions of clients that the realm owns end. -/
theorem detachAll {numbers : List Nat} {w : World N A}
    (h : ∀ n ∈ numbers, ∀ s, w.store.subscriptions[n]? = some s → r.owner s.clientId) :
    Stays r start w (numbers.foldl (fun w n => w.detach n) w) := by
  induction numbers generalizing w with
  | nil => exact refl w
  | cons n numbers ih =>
    obtain ⟨hfirst, hrest⟩ := List.forall_mem_cons.1 h
    have hend : Act r w (w.detach n) := .detach w n hfirst
    refine (act hend).trans (ih fun k hk s hs => ?_)
    rw [subscriptions_detach] at hs
    obtain ⟨s₀, hs₀, rfl⟩ := Option.map_eq_some_iff.1 hs
    have howner := hrest k hk s₀ hs₀
    split
    · exact howner
    · exact howner

variable (hstart : Settled r start)

include hstart

/-- A client that the realm owns is one that may change. -/
theorem member {w : World N A} (h : Acts r start w) {client : Nat} {m : Member}
    (hm : w.client? client = some m) (howner : r.owner m.identity.clientId) : r.member client :=
  (hstart.acts h).member hm howner

/-- A client that the realm owns changes, if it exists. -/
theorem changeOwn {client : Nat} {f : Member → Member} {w : World N A} (howns : r.Owns w client)
    (hf : ∀ m, (f m).identity = m.identity ∧ (f m).lifecycle = m.lifecycle ∧
      (f m).registry.entries = m.registry.entries) :
    Stays r start w (w.update (·.modifyClient client f)) := by
  intro h
  cases hm : w.client? client with
  | none =>
    rw [modifyClient_of_none hm]
    exact .refl
  | some m => exact change (member hstart h hm (howns m hm)) hf h

theorem unregister {client : Nat} (number : Nat) {w : World N A} (howns : r.Owns w client) :
    Stays r start w (w.unregister client number) := by
  intro h
  cases hm : w.client? client with
  | none =>
    rw [World.unregister, modifyClient_of_none hm]
    exact .refl
  | some m =>
    exact .single (.change w client _ (member hstart h hm (howns m hm)) (fun _ => rfl)
      (fun _ => List.Subset.refl _) fun m n hn => .inl (List.mem_of_mem_erase hn))

theorem closeRegistry {client : Nat} {w : World N A} (howns : r.Owns w client) :
    Stays r start w (w.closeRegistry client) := by
  intro h
  unfold World.closeRegistry
  split
  · exact .refl
  · next m hm =>
    have hsettled := hstart.acts h
    have hshut : Act r w (w.shut client) :=
      .change w client _ (hsettled.member hm (howns m hm)) (fun _ => rfl)
        (fun _ => List.Subset.refl _) fun _ _ hn => nomatch hn
    refine ((act hshut).trans (detachAll fun n hn s hs => ?_)) h
    -- What a client lists is its own, and goes by its id.
    have hs : w.store.subscriptions[n]? = some s := hs
    obtain ⟨s', hs', hclient⟩ := hsettled.entries hm n hn
    obtain rfl : s' = s := Option.some.inj (hs'.symm.trans hs)
    obtain ⟨-, m', hm', hid⟩ := hsettled.generated hs
    rw [hid]
    exact howns m' (hclient ▸ hm')

/-- A subscription is made for a client that the realm owns. -/
theorem establish {m : Member} {s : Subscription} {w : World N A}
    (hm : w.client? s.client = some m) (hid : s.clientId = m.identity.clientId)
    (howner : r.owner s.clientId) (hgenerated : s.IsGenerated) (hactive : s.active = true)
    {wish : Outside.Wish} (hwish : r.Grants wish) :
    Stays r start (w.pin s.client) (w.establish m s wish) := by
  intro hw
  have hmember := member hstart hw hm (hid ▸ howner)
  let tagged := (w.pin s.client).tag s.client m
  have htagged : Stays r start (w.pin s.client) tagged :=
    change hmember fun _ => ⟨rfl, rfl, rfl⟩
  have hentered : Stays r start tagged (tagged.enter s wish) :=
    act (.enter tagged m.tagged s wish (client?_tag hm) hid howner hgenerated hactive hwish)
  have hentry : (tagged.enter s wish).store.subscriptions[w.store.subscriptions.length]? =
      some _ := List.getElem?_concat_length
  have henrolled : Stays r start (tagged.enter s wish)
      ((tagged.enter s wish).enroll s.client w.store.subscriptions.length) := by
    refine act (.change _ s.client _ hmember (fun _ => rfl) (fun _ => List.Subset.refl _)
      fun m n hn => (List.mem_append.1 hn).imp_right fun hn => ?_)
    obtain rfl := List.mem_singleton.1 hn
    exact ⟨_, hentry, rfl⟩
  exact (((htagged.trans hentered).trans henrolled).trans (count .subscriptionAdded _)) hw

/-! ## Events, requests and operations -/

omit hstart in
theorem composable : Composable (Stays r start) where
  refl := refl
  trans := trans
  panicked := count .panicked
  delivered _ _ := count _
  held h := ((pin _ _).trans h).trans (unpin _ _)

section Operations

variable {outside : Outside N A}
  (htell : ∀ callback notice w, r.callback callback →
    Stays r start w (outside.tell callback notice w).1)

include htell

omit hstart in
theorem actOf {handler : Handler} (h : r.Admits handler) (payload : Event.Payload)
    (w : World N A) : Stays r start w (outside.act handler payload w).1 := by
  refine composable.act (fun creation _ => deliverAnswer creation _ w) (fun client hmoves => ?_)
    (fun client reason hmoves => ?_) fun callback hcallback notice v =>
      htell callback notice v (h.callback hcallback)
  · subst hmoves
    exact move h _ w
  · subst hmoves
    exact move h _ w

omit hstart in
theorem call {l : Listener Handler} (h : r.Admits l.handler) (payload : Event.Payload)
    (w : World N A) : Stays r start w (Hub.call outside.act l payload w).1 :=
  composable.call (actOf htell h payload w)

/-- An event under a name that the realm hears. -/
theorem emit {event : String} (h : r.heard event) (payload : Event.Payload) (w : World N A) :
    Stays r start w (Hub.emit outside.act event payload w).1 := by
  intro hw
  have hact : ∀ l ∈ w.router.listeners event, ∀ v,
      Stays r start v (outside.act l.handler payload v).1 := fun l hl v =>
    actOf htell ((hstart.acts hw).admitted h hl) payload v
  exact composable.emit hact hw

theorem deliver {e : Emission} (h : r.heard e.key.name) (w : World N A) :
    Stays r start w (outside.deliver e w).1 := emit hstart htell h e.payload w

theorem deliverAll {events : List Emission} (h : ∀ e ∈ events, r.heard e.key.name)
    (w : World N A) : Stays r start w (outside.deliverAll events w).1 :=
  composable.deliverAll (fun e he => deliver hstart htell (h e he)) w

/-- A request that the native layer answers within the realm. -/
theorem ask {q : Request} {w : World N A}
    (hnative : r.native w.store.subscriptions w.store.native
      (outside.layer.answer q w.store.native).1)
    (hheard : ∀ e ∈ (outside.layer.answer q w.store.native).2.events, r.heard e.key.name) :
    Stays r start w (outside.request q w).1 := by
  have hasked : Stays r start w (outside.asked q w) :=
    (note (.request q) w).trans (act (.native _ _ hnative))
  exact composable.request hasked (fun e he => deliver hstart htell (hheard e he))
    fun f => note (.fault f)

variable (hlayer : Fits outside.layer r)

include hlayer

/-- A request of a client that the realm owns. -/
theorem request {q : Request} {w : World N A} (howner : r.owner q.clientId)
    (hq : Backs w.store.subscriptions q) : Stays r start w (outside.request q w).1 :=
  ask hstart htell (hlayer.native _ q _ howner hq) (hlayer.heard _ q _ howner hq)

theorem comply {client : Nat} {m : Member} {w : World N A} (hm : w.client? client = some m)
    (howner : r.owner m.identity.clientId) (ask : Ask Nat) :
    Stays r start w (outside.comply client ask w) := by
  intro hw
  have hmember := member hstart hw hm howner
  have howner : r.owner (((w.client? client).map (·.identity.clientId)).getD "") := by
    rw [hm]
    exact howner
  exact composable.comply (fun parameters => request hstart htell hlayer howner trivial)
    (request hstart htell hlayer howner trivial) (fun _ _ => move hmember _ _)
    (fun _ _ _ _ => enqueueFirst _ w) hw

/-- A client that the realm owns has a turn, with all that follows. -/
theorem drive {client : Nat} {w : World N A} (howns : r.Owns w client) (input : Input) :
    Stays r start w (outside.drive client input w) := by
  intro hw
  have hturned (m : Member) (hm : w.client? client = some m) :
      Stays r start (w.pin client) (w.turned client m input) := by
    have hstate : Stays r start (w.pin client)
        ((w.pin client).setState client (m.state.step w.store.runtime input).state) :=
      change (member hstart hw hm (howns m hm)) fun _ => ⟨rfl, rfl, rfl⟩
    exact hstate.trans (enact client _ _)
  refine composable.drive hturned (fun m ask hm _ => ?_) hw
  obtain ⟨m', hm', hi⟩ := (((pin client w).trans (hturned m hm)) hw).later.client hm
  exact comply hstart htell hlayer hm' (hi ▸ howns m hm) ask

variable (hlaw : r.Lawful)

include hlaw

theorem remove {client : Nat} {w : World N A} (howns : r.Owns w client) :
    Stays r start w (outside.remove client w) := by
  intro hw
  refine composable.remove (fun m hm told htold => ?_) (count .clientRemoved) wake hw
  have howner := howns m hm
  have hmember := member hstart hw hm howner
  have hmarked : Stays r start (w.pin client) (w.markRemoved client) :=
    act (.change _ client _ hmember (fun _ => rfl) (fun _ => List.nil_subset _)
      fun _ _ hn => .inl hn)
  have htold : Stays r start (w.pin client) told := by
    rcases htold with rfl | rfl
    · exact hmarked
    · exact hmarked.trans (request hstart htell hlayer (q := .remove m.identity.clientId) howner
        trivial)
  have hlater := (((pin client w).trans htold) hw).later
  -- The handles of the client are found under its own names still.
  have hlifecycle : Stays r start told (told.setRouter (told.router.removeEach m.lifecycle)) :=
    removeEach fun handle hh name l hl hid => hlaw _ name howner
      ((hlater.confined ((hstart.acts hw).lifecycle hm handle hh)).names name l hl hid)
  have hunlisten : Stays r start told (told.setRouter (World.unlisten m told.router)) :=
    hlifecycle.trans (removeKinds (fun k hk => hlaw _ _ howner (ofClient_name _ hk)) _)
  have hleft := htold.trans hunlisten
  have howns' : r.Owns (told.setRouter (World.unlisten m told.router)) client :=
    Realm.owns_of_later (((pin client w).trans hleft) hw).later hm howner
  exact hleft.trans (closeRegistry hstart howns')

omit hlaw in
theorem subscribe {client : Nat} {wish : Outside.Wish} {w : World N A}
    (howns : r.Owns w client) (hwish : r.Grants wish) :
    Stays r start w (outside.subscribe client wish w).1 := by
  intro hw
  refine composable.subscribe (fun m hm => ?_) (fun m hm _ => ?_)
    (fun callback hcallback notice v =>
      htell callback notice v (hwish.onRefused callback hcallback)) hw
  · have hmember := member hstart hw hm (howns m hm)
    have htagged : Stays r start w (w.tag client m) := change hmember fun _ => ⟨rfl, rfl, rfl⟩
    exact htagged.trans (act (.reject _ m.tagged { wish.subscription client m with active := false }
      (client?_tag hm) rfl (howns m hm) ⟨m.registry.tag + 1, rfl⟩ rfl rfl))
  · intro s established asked
    have howner : r.owner s.clientId := howns m hm
    have hgenerated : s.IsGenerated := ⟨m.registry.tag + 1, rfl⟩
    have hentry : established.store.subscriptions[w.store.subscriptions.length]? = some _ :=
      List.getElem?_concat_length
    have hestablished : Stays r start (w.pin client) established :=
      establish hstart (s := s) hm rfl howner hgenerated rfl hwish
    have hasked : Stays r start established asked :=
      request hstart htell hlayer howner
        ⟨_, List.mem_of_getElem? hentry, hgenerated, rfl, rfl, rfl⟩
    have hw' := ((pin client w).trans hestablished) hw
    refine ⟨hestablished, hasked, (unregister hstart _ ?_).trans (act (.detach _ _ ?_))⟩
    · exact Realm.owns_of_later (Acts.later (hw'.trans (hasked (hw.trans hw')))) hm howner
    · intro s' hs'
      obtain ⟨s'', hs'', hb⟩ := (Acts.later (hasked (hw.trans hw'))).subscription hentry
      obtain rfl : s'' = s' := Option.some.inj (hs''.symm.trans hs')
      rw [hb.clientId]
      exact howner

omit hlaw in
theorem unsubscribe {number : Nat} {w : World N A}
    (howner : ∀ s, w.store.subscriptions[number]? = some s → r.owner s.clientId) :
    Stays r start w (outside.unsubscribe number w) := by
  intro hw
  refine composable.unsubscribe (fun s hs => ?_) hw
  intro ended
  obtain ⟨hgenerated, m, hm, hid⟩ := (hstart.acts hw).generated hs
  have hdetached : Act r w (w.detach number) := .detach w number howner
  obtain ⟨s', hs', hb⟩ := hdetached.later.subscription hs
  have hbacked : Backs ended.store.subscriptions (.unsubscribe s.id s.clientId s.topic) :=
    ⟨s', List.mem_of_getElem? hs', hb.isGenerated hgenerated, hb.id, hb.clientId, hb.topic⟩
  have howns : r.Owns (w.detach number) s.client :=
    Realm.owns_of_later hdetached.later hm (hid ▸ howner s hs)
  exact ⟨(act hdetached).trans (unregister hstart number howns),
    request hstart htell hlayer (q := .unsubscribe s.id s.clientId s.topic) (howner s hs) hbacked⟩

/-- An operation that the realm permits, with all that it makes happen. -/
theorem perform {o : Operation} {w : World N A} (h : r.Permits w o) :
    Stays r start w (outside.perform o w) := by
  cases o with
  | connect client overrides => exact drive hstart htell hlayer h _
  | disconnect client => exact drive hstart htell hlayer h _
  | remove client => exact remove hstart htell hlayer hlaw h
  | subscribe client wish => exact subscribe hstart htell hlayer h.1 h.2
  | unsubscribe number => exact unsubscribe hstart htell hlayer h
  | on client interest callback => exact act (.on w client interest callback h.1 h.2)
  | off handle => exact act (.off w handle h)
  | removeAll event => exact act (.removeAll w event h)
  | install client interceptor => exact changeOwn hstart h fun _ => ⟨rfl, rfl, rfl⟩
  | uninstall client number => exact changeOwn hstart h fun _ => ⟨rfl, rfl, rfl⟩

/-- A program whose operations the realm permits. -/
theorem execute {program : Program N A} {w : World N A}
    (h : outside.Obeys r.Permits r.kept program w) :
    Stays r start w (outside.execute program w).1 := by
  induction program generalizing w with
  | finish returned => exact refl w
  | look next ih => exact ih w h
  | keep f rest ih => exact (keepData h.1).trans (ih h.2)
  | perform o rest ih => exact (perform hstart htell hlayer hlaw h.1).trans (ih h.2)

end Operations

/-- Callbacks that run programs which obey the realm keep to it, however deep they nest. -/
theorem nested {layer : Layer N} (hlayer : Fits layer r) (hlaw : r.Lawful)
    {program : Nat → Notice → Program N A}
    (hobey : ∀ depth callback notice w, r.callback callback → Acts r start w →
      (Outside.nested layer program depth).Obeys r.Permits r.kept (program callback notice) w)
    (depth : Nat) :
    ∀ callback notice w, r.callback callback →
      Stays r start w ((Outside.nested layer program depth).tell callback notice w).1 := by
  induction depth with
  | zero => exact fun _ _ w _ => refl w
  | succ depth ih =>
    intro callback notice w hcallback hw
    exact execute hstart ih (by rwa [Outside.nested_layer]) hlaw
      (hobey depth callback notice w hcallback hw) hw

end Stays

end World

end Client

end MqttRelay
