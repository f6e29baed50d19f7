import MqttRelay.Proofs.Client.Orderly
import MqttRelay.Proofs.Event.Ownership
import MqttRelay.Proofs.Router.Places

/-!
# Acting within a realm

Whatever clients do is made of acts: listeners are added and removed, a client changes, a client
or a subscription is made, a subscription ends. A realm says which of these are possible: on
which clients, under which names, with which callbacks. All acts keep the books of the world:
listeners stand where their keys put them, and whoever holds a handle holds one of its own.

Results:
* `Act.later`: what is there stays there, whatever acts follow.
* `Kept.act`: every act keeps the books.
* `Settled.acts`: acts within a realm keep to its callbacks and clients.
-/

namespace MqttRelay.Client

open Event

variable {N A : Type}

/-- A part of the world that acts keep to. -/
structure Realm (N A : Type) where
  /-- The ids of clients that are operated on. -/
  owner : String → Prop
  /-- The clients that may change. -/
  member : Nat → Prop
  /-- The names under which listeners are added and removed. -/
  name : String → Prop
  /-- The names under which events are delivered. -/
  heard : String → Prop
  /-- The callbacks that are registered and told. -/
  callback : Nat → Prop
  /-- How the native layer may change, given the subscriptions that were made. -/
  native : List Subscription → N → N → Prop
  /-- How the application's own data may change. -/
  kept : World N A → World N A → Prop

/-- Whether what a listener does keeps to a realm. -/
def Realm.Admits (r : Realm N A) : Handler → Prop
  | .answer _ => True
  | .acknowledge client => r.member client
  | .lose client => r.member client
  | .tell _ _ callback => r.callback callback
  | .message callback => r.callback callback
  | .subscribed _ _ callback => ∀ c ∈ callback, r.callback c
  | .subscribeFailed _ callback => ∀ c ∈ callback, r.callback c

/-- Whether a wish has callbacks of a realm only. -/
structure Realm.Grants (r : Realm N A) (wish : Outside.Wish) : Prop where
  onMessage : r.callback wish.onMessage
  onGranted : ∀ c ∈ wish.onGranted, r.callback c
  onRefused : ∀ c ∈ wish.onRefused, r.callback c

theorem ofClient_interest (id : String) (interest : Interest) :
    OfClient id (Key.client id interest.event).name :=
  ofClient_name id (by cases interest <;> decide)

/-- The client that a listener moves. -/
def Handler.moves? : Handler → Option Nat
  | .acknowledge client => some client
  | .lose client => some client
  | _ => none

/-- Whether a subscription has an id that was generated for it. -/
def Subscription.IsGenerated (s : Subscription) : Prop :=
  ∃ tag, s.id = .generate s.clientId s.topic s.qos tag

namespace World

/-- Whether a callback of a shared client is attached by this handle. -/
def IsAttached (w : World N A) (handle : Router.Handle) : Prop :=
  ∃ h ∈ w.store.shareds, ∃ id, (id, Registration.attached handle) ∈ h.registrations

/-! ## Acts -/

/-- A single act within a realm. -/
inductive Act (r : Realm N A) : World N A → World N A → Prop
  /-- Anything beside the listeners, the clients, the subscriptions and the native layer. No
  handle is kept that is not one of a client's event. The application's data and the names of
  clients stay, if the realm does not say otherwise. -/
  | aside {w after} (router : after.router = w.router)
      (clients : after.store.clients = w.store.clients)
      (subscriptions : after.store.subscriptions = w.store.subscriptions)
      (native : after.store.native = w.store.native)
      (creations : ∀ c ∈ after.store.creations, ∃ c' ∈ w.store.creations,
        c.listener = c'.listener)
      (attached : ∀ handle, after.IsAttached handle →
        w.IsAttached handle ∨ ∃ id, w.router.Confined handle.id (OfClient id))
      (data : after.store.app = w.store.app ∧ after.store.names = w.store.names ∨
        r.kept w after) :
      Act r w after
  | native (w) (native : N) (allowed : r.native w.store.subscriptions w.store.native native) :
      Act r w (w.update fun s => { s with native := native })
  /-- A callback is registered with a client. -/
  | on (w) (client : Nat) (interest : Interest) (callback : Nat)
      (name : r.name
        (Key.client (((w.client? client).map (·.identity.clientId)).getD "") interest.event).name)
      (own : r.callback callback) : Act r w (w.on client interest callback).1
  /-- A handle is used. -/
  | off (w) (handle : Router.Handle)
      (names : ∀ name, ∀ l ∈ w.router.listeners name, l.id = handle.id → r.name name) :
      Act r w (w.off handle)
  | removeAll (w) (event : String) (name : r.name event) : Act r w (w.removeAll event)
  /-- A client changes, but stays who it is. Its listeners only go, and what it lists are its own
  subscriptions. -/
  | change (w) (client : Nat) (f : Member → Member) (member : r.member client)
      (identity : ∀ m, (f m).identity = m.identity)
      (lifecycle : ∀ m, (f m).lifecycle ⊆ m.lifecycle)
      (entries : ∀ m, ∀ n ∈ (f m).registry.entries, n ∈ m.registry.entries ∨
        ∃ s, w.store.subscriptions[n]? = some s ∧ s.client = client) :
      Act r w (w.update (·.modifyClient client f))
  /-- A client is made. -/
  | make (w) (requester : Requester) (config : Config) (owner : r.owner config.clientId)
      (member : r.member w.store.clients.length) : Act r w (w.addClient requester config).1
  /-- A subscription is made with its listeners. -/
  | enter (w) (m : Member) (s : Subscription) (wish : Outside.Wish)
      (client : w.client? s.client = some m) (clientId : s.clientId = m.identity.clientId)
      (owner : r.owner s.clientId) (generated : s.IsGenerated) (active : s.active = true)
      (wishes : r.Grants wish) : Act r w (w.enter s wish)
  /-- A subscription is made that never was active. -/
  | reject (w) (m : Member) (s : Subscription) (client : w.client? s.client = some m)
      (clientId : s.clientId = m.identity.clientId) (owner : r.owner s.clientId)
      (generated : s.IsGenerated) (inactive : s.active = false) (listeners : s.listeners = []) :
      Act r w (w.addSubscription s)
  /-- A subscription ends. -/
  | detach (w) (number : Nat)
      (owner : ∀ s, w.store.subscriptions[number]? = some s → r.owner s.clientId) :
      Act r w (w.detach number)

/-- Acts within a realm lead from one world to another. -/
def Acts (r : Realm N A) : World N A → World N A → Prop := Relation.ReflTransGen (Act r)

end World

/-! ## What stays -/

/-- A subscription later on: unless it ended it is as it was, and once it ended it has ended. -/
structure Subscription.Becomes (s after : Subscription) : Prop where
  client : after.client = s.client
  clientId : after.clientId = s.clientId
  id : after.id = s.id
  topic : after.topic = s.topic
  qos : after.qos = s.qos
  still : after.active = true → after = s
  listeners : after.listeners ⊆ s.listeners

theorem Subscription.Becomes.refl (s : Subscription) : s.Becomes s :=
  ⟨rfl, rfl, rfl, rfl, rfl, fun _ => rfl, List.Subset.refl _⟩

theorem Subscription.Becomes.trans {a b c : Subscription} (h₁ : a.Becomes b) (h₂ : b.Becomes c) :
    a.Becomes c := by
  refine ⟨h₂.client.trans h₁.client, h₂.clientId.trans h₁.clientId, h₂.id.trans h₁.id,
    h₂.topic.trans h₁.topic, h₂.qos.trans h₁.qos, fun h => ?_,
    List.Subset.trans h₂.listeners h₁.listeners⟩
  obtain rfl := h₂.still h
  exact h₁.still h

theorem Subscription.Becomes.isGenerated {s after : Subscription} (h : s.Becomes after)
    (hs : s.IsGenerated) : after.IsGenerated := by
  obtain ⟨tag, htag⟩ := hs
  exact ⟨tag, by rw [h.id, htag, h.clientId, h.topic, h.qos]⟩

namespace World

/-- A world later on: the router changed by listeners that were added and removed, and every
client and every subscription is still there. -/
structure Later (w after : World N A) : Prop where
  router : ∃ changes, after.router = w.router.after changes
  client : ∀ {client : Nat} {m : Member}, w.client? client = some m →
    ∃ m', after.client? client = some m' ∧ m'.identity = m.identity
  subscription : ∀ {number : Nat} {s : Subscription}, w.store.subscriptions[number]? = some s →
    ∃ s', after.store.subscriptions[number]? = some s' ∧ s.Becomes s'

namespace Later

theorem refl (w : World N A) : Later w w :=
  ⟨⟨[], rfl⟩, fun hm => ⟨_, hm, rfl⟩, fun hs => ⟨_, hs, .refl _⟩⟩

theorem trans {a b c : World N A} (h₁ : Later a b) (h₂ : Later b c) : Later a c := by
  constructor
  · obtain ⟨cs, hcs⟩ := h₁.router
    obtain ⟨ds, hds⟩ := h₂.router
    exact ⟨cs ++ ds, by rw [hds, hcs, Router.after_append]⟩
  · intro client m hm
    obtain ⟨m', hm', hi⟩ := h₁.client hm
    obtain ⟨m'', hm'', hi'⟩ := h₂.client hm'
    exact ⟨m'', hm'', hi'.trans hi⟩
  · intro number s hs
    obtain ⟨s', hs', hb⟩ := h₁.subscription hs
    obtain ⟨s'', hs'', hb'⟩ := h₂.subscription hs'
    exact ⟨s'', hs'', hb.trans hb'⟩

/-- A number is found nowhere else later on. -/
theorem confined {w after : World N A} (h : Later w after) {id : Nat} {P : String → Prop}
    (hc : w.router.Confined id P) : after.router.Confined id P := by
  obtain ⟨changes, hr⟩ := h.router
  rw [hr]
  exact hc.after changes

theorem of_eq {w after : World N A} (hr : ∃ changes, after.router = w.router.after changes)
    (hclients : after.store.clients = w.store.clients)
    (hsubscriptions : after.store.subscriptions = w.store.subscriptions) : Later w after := by
  refine ⟨hr, fun {_ m} hm => ⟨m, ?_, rfl⟩, fun {_ s} hs => ⟨s, ?_, .refl s⟩⟩
  · rwa [client?, hclients]
  · rwa [hsubscriptions]

end Later

theorem router_enter (s : Subscription) (wish : Outside.Wish) (w : World N A) :
    (w.enter s wish).router = w.router.after
      [.add (Key.subscription s.id .message).name (some .message) (.message wish.onMessage),
        .add (Key.subscription s.id .subscribed).name (some .subscribed)
          (.subscribed wish.topic wish.qos wish.onGranted),
        .add (Key.subscription s.id .subscribeFailed).name (some .subscribeFailed)
          (.subscribeFailed wish.topic wish.onRefused)] := rfl

theorem router_addClient (requester : Requester) (config : Config) (w : World N A) :
    (w.addClient requester config).1.router = w.router.after
      [.add (Key.client config.clientId .initialized).name (some .initialized)
          (.answer w.store.creations.length),
        .add (Key.client config.clientId .connected).name (some .connected)
          (.acknowledge w.store.clients.length),
        .add (Key.client config.clientId .disconnected).name (some .disconnected)
          (.lose w.store.clients.length)] := rfl

/-- What is there stays there. -/
theorem Act.later {r : Realm N A} {w after : World N A} (h : Act r w after) : Later w after := by
  have happend {new s : Subscription} {number : Nat}
      (hs : w.store.subscriptions[number]? = some s) :
      (w.store.subscriptions ++ [new])[number]? = some s :=
    (List.getElem?_append_left (List.getElem?_eq_some_iff.1 hs).1).trans hs
  cases h with
  | aside hrouter hclients hsubscriptions => exact .of_eq ⟨[], hrouter⟩ hclients hsubscriptions
  | native => exact .of_eq ⟨[], rfl⟩ rfl rfl
  | on => exact .of_eq ⟨[.add _ _ _], rfl⟩ rfl rfl
  | off handle => exact .of_eq ⟨[.remove handle], rfl⟩ rfl rfl
  | removeAll event => exact .of_eq ⟨[.removeAll event], rfl⟩ rfl rfl
  | change client f _ hidentity =>
    refine ⟨⟨[], rfl⟩, fun {other m} hm => ?_, fun hs => ⟨_, hs, .refl _⟩⟩
    rw [client?_modifyClient]
    split
    · exact ⟨f m, by rw [hm]; rfl, hidentity m⟩
    · exact ⟨m, hm, rfl⟩
  | make requester config =>
    refine ⟨⟨_, router_addClient requester config w⟩, fun {client m} hm => ⟨m, ?_, rfl⟩,
      fun hs => ⟨_, hs, .refl _⟩⟩
    exact (List.getElem?_append_left (List.getElem?_eq_some_iff.1 hm).1).trans hm
  | enter m s wish =>
    exact ⟨⟨_, router_enter s wish w⟩, fun hm => ⟨_, hm, rfl⟩, fun hs => ⟨_, happend hs, .refl _⟩⟩
  | reject m s =>
    exact ⟨⟨[], rfl⟩, fun hm => ⟨_, hm, rfl⟩, fun hs => ⟨_, happend hs, .refl _⟩⟩
  | detach number =>
    refine ⟨?_, fun {client m} hm => ⟨m, ?_, rfl⟩, fun {other s} hs => ?_⟩
    · rcases w.router_detach number with ⟨hr, -⟩ | ⟨s, -, -, hr⟩
      · exact ⟨[], hr⟩
      · rw [hr, Router.removeEach_eq_after]
        exact ⟨_, rfl⟩
    · rwa [client?_detach]
    · rw [subscriptions_detach, hs, Option.map_some]
      refine ⟨_, rfl, ?_⟩
      split
      · exact ⟨rfl, rfl, rfl, rfl, rfl, nofun, List.nil_subset _⟩
      · exact .refl s

theorem Acts.later {r : Realm N A} {w after : World N A} (h : Acts r w after) : Later w after := by
  induction h with
  | refl => exact .refl w
  | tail _ h ih => exact ih.trans h.later

/-! ## What was there before -/

namespace Act

variable {r : Realm N A} {w after : World N A}

/-- A listener was there before, or it is one of those that acts add. -/
theorem listener (h : Act r w after) {name : String} {l : Listener Handler}
    (hl : l ∈ after.router.listeners name) :
    l ∈ w.router.listeners name ∨
      (∃ clientId interest client callback, r.callback callback ∧
        name = (Key.client clientId interest.event).name ∧
        l.handler = .tell interest client callback) ∨
      (∃ requester config, after = (w.addClient requester config).1 ∧
        r.member w.store.clients.length ∧ OfClient config.clientId name ∧
        (l.handler = .answer w.store.creations.length ∨
          l.handler = .acknowledge w.store.clients.length ∨
          l.handler = .lose w.store.clients.length)) ∨
      ∃ s wish, after = w.enter s wish ∧ s.active = true ∧ r.Grants wish ∧
        (name = (Key.subscription s.id .message).name ∧ l.id = w.router.nextId ∧
            l.handler = .message wish.onMessage ∨
          name = (Key.subscription s.id .subscribed).name ∧
            l.handler = .subscribed wish.topic wish.qos wish.onGranted ∨
          name = (Key.subscription s.id .subscribeFailed).name ∧
            l.handler = .subscribeFailed wish.topic wish.onRefused) := by
  cases h with
  | aside hrouter =>
    rw [hrouter] at hl
    exact .inl hl
  | on client interest callback _ hown =>
    rcases Router.mem_listeners_change (c := .add _ _ _) hl with hl | ⟨_, _, hc, rfl⟩
    · exact .inl hl
    · obtain ⟨rfl, rfl, rfl⟩ := Router.Change.add.inj hc
      exact .inr (.inl ⟨_, interest, client, callback, hown, rfl, rfl⟩)
  | off handle => exact .inl (Router.mem_of_mem_listeners_remove hl)
  | removeAll event => exact .inl (Router.mem_of_mem_listeners_removeAll hl)
  | make requester config _ hmember =>
    rw [router_addClient] at hl
    simp only [Router.after, List.foldl_cons, List.foldl_nil] at hl
    have hname {k : Kind} (hk : k ∈ Kind.ofClient) :
        OfClient config.clientId (Key.client config.clientId k).name := ofClient_name _ hk
    rcases Router.mem_listeners_change hl with hl | ⟨_, _, hc, rfl⟩
    · rcases Router.mem_listeners_change hl with hl | ⟨_, _, hc, rfl⟩
      · rcases Router.mem_listeners_change hl with hl | ⟨_, _, hc, rfl⟩
        · exact .inl hl
        · obtain ⟨rfl, rfl, rfl⟩ := Router.Change.add.inj hc
          exact .inr (.inr (.inl ⟨requester, config, rfl, hmember, hname (by decide), .inl rfl⟩))
      · obtain ⟨rfl, rfl, rfl⟩ := Router.Change.add.inj hc
        exact .inr (.inr (.inl
          ⟨requester, config, rfl, hmember, hname (by decide), .inr (.inl rfl)⟩))
    · obtain ⟨rfl, rfl, rfl⟩ := Router.Change.add.inj hc
      exact .inr (.inr (.inl
        ⟨requester, config, rfl, hmember, hname (by decide), .inr (.inr rfl)⟩))
  | enter m s wish _ _ _ _ hactive hwish =>
    rw [router_enter] at hl
    simp only [Router.after, List.foldl_cons, List.foldl_nil] at hl
    rcases Router.mem_listeners_change hl with hl | ⟨_, _, hc, rfl⟩
    · rcases Router.mem_listeners_change hl with hl | ⟨_, _, hc, rfl⟩
      · rcases Router.mem_listeners_change hl with hl | ⟨_, _, hc, rfl⟩
        · exact .inl hl
        · obtain ⟨rfl, rfl, rfl⟩ := Router.Change.add.inj hc
          exact .inr (.inr (.inr ⟨s, wish, rfl, hactive, hwish, .inl ⟨rfl, rfl, rfl⟩⟩))
      · obtain ⟨rfl, rfl, rfl⟩ := Router.Change.add.inj hc
        exact .inr (.inr (.inr ⟨s, wish, rfl, hactive, hwish, .inr (.inl ⟨rfl, rfl⟩)⟩))
    · obtain ⟨rfl, rfl, rfl⟩ := Router.Change.add.inj hc
      exact .inr (.inr (.inr ⟨s, wish, rfl, hactive, hwish, .inr (.inr ⟨rfl, rfl⟩)⟩))
  | detach number =>
    rcases w.router_detach number with ⟨hr, -⟩ | ⟨s, -, -, hr⟩
    · rw [hr] at hl
      exact .inl hl
    · rw [hr] at hl
      exact .inl (Router.mem_of_mem_listeners_removeEach hl)
  | _ => exact .inl hl

/-- A client was there before, or it was just made. -/
theorem client (h : Act r w after) {client : Nat} {m : Member}
    (hm : after.client? client = some m) :
    (∃ m₀, w.client? client = some m₀ ∧ m.identity = m₀.identity ∧
        m.lifecycle ⊆ m₀.lifecycle ∧ ∀ n ∈ m.registry.entries, n ∈ m₀.registry.entries ∨
          ∃ s, w.store.subscriptions[n]? = some s ∧ s.client = client) ∨
      ∃ requester config, after = (w.addClient requester config).1 ∧
        r.owner config.clientId ∧ r.member client ∧ m.identity = config.identity ∧
        m.registry.entries = [] ∧
        m.lifecycle = [⟨w.router.nextId + 1, (Key.client config.clientId .connected).name⟩,
          ⟨w.router.nextId + 2, (Key.client config.clientId .disconnected).name⟩] := by
  have hold {m : Member} (hm : w.client? client = some m) :
      ∃ m₀, w.client? client = some m₀ ∧ m.identity = m₀.identity ∧
        m.lifecycle ⊆ m₀.lifecycle ∧ ∀ n ∈ m.registry.entries, n ∈ m₀.registry.entries ∨
          ∃ s, w.store.subscriptions[n]? = some s ∧ s.client = client :=
    ⟨m, hm, rfl, List.Subset.refl _, fun n hn => .inl hn⟩
  cases h with
  | aside _ hclients =>
    rw [client?, hclients] at hm
    exact .inl (hold hm)
  | change other f _ hidentity hlifecycle hentries =>
    rw [client?_modifyClient] at hm
    split at hm
    · next ho =>
      subst ho
      obtain ⟨m₀, hm₀, rfl⟩ := Option.map_eq_some_iff.1 hm
      exact .inl ⟨m₀, hm₀, hidentity m₀, hlifecycle m₀, hentries m₀⟩
    · exact .inl (hold hm)
  | make requester config howner hmember =>
    have hm : (w.store.clients ++ [_])[client]? = some m := hm
    by_cases hlt : client < w.store.clients.length
    · rw [List.getElem?_append_left hlt] at hm
      exact .inl (hold hm)
    · have hend : client = w.store.clients.length := by
        have := (List.getElem?_eq_some_iff.1 hm).1
        simp only [List.length_append, List.length_singleton] at this
        omega
      subst hend
      rw [List.getElem?_concat_length] at hm
      obtain rfl := Option.some.inj hm
      exact .inr ⟨requester, config, rfl, howner, hmember, rfl, rfl, rfl⟩
  | detach number =>
    rw [client?_detach] at hm
    exact .inl (hold hm)
  | _ => exact .inl (hold hm)

/-- A subscription was there before, or it was just made. -/
theorem subscription (h : Act r w after) {number : Nat} {s : Subscription}
    (hs : after.store.subscriptions[number]? = some s) :
    (∃ s₀, w.store.subscriptions[number]? = some s₀ ∧ s₀.Becomes s) ∨
      number = w.store.subscriptions.length ∧ s.IsGenerated ∧
        (∃ m, w.client? s.client = some m ∧ s.clientId = m.identity.clientId) ∧
        r.owner s.clientId ∧
        (s.active = false ∧ s.listeners = [] ∨
          ∃ s₀ wish, after = w.enter s₀ wish ∧ s₀.id = s.id ∧ s.active = true ∧
            s.listeners = [⟨w.router.nextId, (Key.subscription s.id .message).name⟩,
              ⟨w.router.nextId + 1, (Key.subscription s.id .subscribed).name⟩,
              ⟨w.router.nextId + 2, (Key.subscription s.id .subscribeFailed).name⟩]) := by
  cases h with
  | aside _ _ hsubscriptions =>
    rw [hsubscriptions] at hs
    exact .inl ⟨s, hs, .refl s⟩
  | enter m new wish hclient hclientId howner hgenerated hactive =>
    rcases subscriptions_added hs with hs | ⟨hend, rfl⟩
    · exact .inl ⟨s, hs, .refl s⟩
    · exact .inr ⟨hend, hgenerated, ⟨m, hclient, hclientId⟩, howner,
        .inr ⟨new, wish, rfl, rfl, hactive, rfl⟩⟩
  | reject m new hclient hclientId howner hgenerated hinactive hlisteners =>
    rcases subscriptions_added hs with hs | ⟨hend, rfl⟩
    · exact .inl ⟨s, hs, .refl s⟩
    · exact .inr ⟨hend, hgenerated, ⟨m, hclient, hclientId⟩, howner,
        .inl ⟨hinactive, hlisteners⟩⟩
  | detach other =>
    rw [subscriptions_detach] at hs
    obtain ⟨s₀, hs₀, rfl⟩ := Option.map_eq_some_iff.1 hs
    refine .inl ⟨s₀, hs₀, ?_⟩
    split
    · exact ⟨rfl, rfl, rfl, rfl, rfl, nofun, List.nil_subset _⟩
    · exact .refl s₀
  | _ => exact .inl ⟨s, hs, .refl s⟩

end Act

/-! ## The books -/

/-- The books of a world. A listener that moves a client stands under an event of this client,
every client and every subscription holds handles of its own, and what is entered with a client
are its own subscriptions. -/
structure Kept (w : World N A) : Prop where
  router : w.router.Regular
  moved : ∀ {name : String} {l : Listener Handler}, l ∈ w.router.listeners name →
    ∀ {client : Nat}, l.handler.moves? = some client →
      ∃ m, w.client? client = some m ∧ OfClient m.identity.clientId name
  lifecycle : ∀ {client : Nat} {m : Member}, w.client? client = some m →
    ∀ handle ∈ m.lifecycle, w.router.Confined handle.id (OfClient m.identity.clientId)
  entries : ∀ {client : Nat} {m : Member}, w.client? client = some m →
    ∀ n ∈ m.registry.entries, ∃ s, w.store.subscriptions[n]? = some s ∧ s.client = client
  generated : ∀ {number : Nat} {s : Subscription}, w.store.subscriptions[number]? = some s →
    s.IsGenerated ∧ ∃ m, w.client? s.client = some m ∧ s.clientId = m.identity.clientId
  listeners : ∀ {number : Nat} {s : Subscription}, w.store.subscriptions[number]? = some s →
    ∀ handle ∈ s.listeners, w.router.Confined handle.id (OfSubscription s.id)
  apart : ∀ {i j : Nat} {s t : Subscription}, w.store.subscriptions[i]? = some s →
    w.store.subscriptions[j]? = some t → i ≠ j →
      ∀ h ∈ s.listeners, ∀ k ∈ t.listeners, h.id ≠ k.id
  creations : ∀ c ∈ w.store.creations, ∃ id, w.router.Confined c.listener.id (OfClient id)
  attached : ∀ handle, w.IsAttached handle → ∃ id, w.router.Confined handle.id (OfClient id)

/-- A world that was not acted in yet. -/
structure Unused (w : World N A) : Prop extends Fresh w where
  creations : w.store.creations = []
  shareds : w.store.shareds = []

theorem Unused.kept {w : World N A} (h : Unused w) : Kept w := by
  have hclient {client : Nat} {m : Member} (hm : w.client? client = some m) : False := by
    rw [client?, h.clients] at hm
    cases hm
  have hsubscription {number : Nat} {s : Subscription}
      (hs : w.store.subscriptions[number]? = some s) : False := by
    rw [h.subscriptions] at hs
    cases hs
  refine ⟨?_, fun hl => ?_, fun hm => (hclient hm).elim, fun hm => (hclient hm).elim,
    fun hs => (hsubscription hs).elim, fun hs => (hsubscription hs).elim,
    fun hs => (hsubscription hs).elim, ?_, ?_⟩
  · rw [h.router]
    exact Router.regular_empty
  · rw [h.router] at hl
    cases hl
  · rw [h.creations]
    exact List.forall_mem_nil _
  · rintro handle ⟨s, hs, -⟩
    rw [h.shareds] at hs
    cases hs

namespace Kept

variable {r : Realm N A} {w after : World N A}

/-- The listeners that a client is made with are found under its own events. -/
theorem confined_addClient (h : Kept w) (requester : Requester) (config : Config) {i : Nat}
    (hi : i < 3) :
    (w.addClient requester config).1.router.Confined (w.router.nextId + i)
      (OfClient config.clientId) := by
  have hnumbered := h.router.toNumbered
  have hname (k : Kind) (hk : k ∈ Kind.ofClient) (name : String)
      (hn : name = (Key.client config.clientId k).name) : OfClient config.clientId name :=
    hn ▸ ofClient_name _ hk
  rw [router_addClient]
  match i, hi with
  | 0, _ =>
    exact (((hnumbered.confined_add _ _ _).change (.add _ _ _)).change (.add _ _ _)).mono
      (hname .initialized (by decide))
  | 1, _ =>
    exact (((hnumbered.change (.add _ _ _)).confined_add _ _ _).change (.add _ _ _)).mono
      (hname .connected (by decide))
  | 2, _ =>
    exact (((hnumbered.change (.add _ _ _)).change (.add _ _ _)).confined_add _ _ _).mono
      (hname .disconnected (by decide))

/-- The listeners that a subscription is made with are found under its own events. -/
theorem confined_enter (h : Kept w) (s : Subscription) (wish : Outside.Wish) {i : Nat}
    (hi : i < 3) :
    (w.enter s wish).router.Confined (w.router.nextId + i) (OfSubscription s.id) := by
  have hnumbered := h.router.toNumbered
  have hname (k : Kind) (hk : k ∈ Kind.ofSubscription) (name : String)
      (hn : name = (Key.subscription s.id k).name) : OfSubscription s.id name :=
    hn ▸ ofSubscription_name _ hk
  rw [router_enter]
  match i, hi with
  | 0, _ =>
    exact (((hnumbered.confined_add _ _ _).change (.add _ _ _)).change (.add _ _ _)).mono
      (hname .message (by decide))
  | 1, _ =>
    exact (((hnumbered.change (.add _ _ _)).confined_add _ _ _).change (.add _ _ _)).mono
      (hname .subscribed (by decide))
  | 2, _ =>
    exact (((hnumbered.change (.add _ _ _)).change (.add _ _ _)).confined_add _ _ _).mono
      (hname .subscribeFailed (by decide))

/-- The handles of a subscription were given out. -/
theorem lt (h : Kept w) {number : Nat} {s : Subscription}
    (hs : w.store.subscriptions[number]? = some s) :
    ∀ handle ∈ s.listeners, handle.id < w.router.nextId := fun handle hh =>
  (h.listeners hs handle hh).lt

theorem moved_act (h : Kept w) (ha : Act r w after) {name : String} {l : Listener Handler}
    (hl : l ∈ after.router.listeners name) {client : Nat}
    (hc : l.handler.moves? = some client) :
    ∃ m, after.client? client = some m ∧ OfClient m.identity.clientId name := by
  rcases ha.listener hl with hl | ⟨_, _, _, _, -, -, hh⟩ |
    ⟨requester, config, rfl, -, hname, hh⟩ | ⟨_, _, -, -, -, ⟨-, -, hh⟩ | ⟨-, hh⟩ | ⟨-, hh⟩⟩
  · obtain ⟨m, hm, hname⟩ := h.moved hl hc
    obtain ⟨m', hm', hi⟩ := ha.later.client hm
    exact ⟨m', hm', hi ▸ hname⟩
  · rw [hh] at hc
    cases hc
  · -- The client that the new listeners move is the one just made.
    have hnew : client = w.store.clients.length := by
      rcases hh with hh | hh | hh <;> rw [hh] at hc <;> cases hc <;> rfl
    subst hnew
    exact ⟨_, List.getElem?_concat_length, hname⟩
  all_goals
    rw [hh] at hc
    cases hc

theorem lifecycle_act (h : Kept w) (ha : Act r w after) {client : Nat} {m : Member}
    (hm : after.client? client = some m) :
    ∀ handle ∈ m.lifecycle, after.router.Confined handle.id (OfClient m.identity.clientId) := by
  rcases ha.client hm with ⟨m₀, hm₀, hi, hl, -⟩ | ⟨requester, config, rfl, -, -, hi, -, hl⟩
  · intro handle hh
    rw [hi]
    exact ha.later.confined (h.lifecycle hm₀ handle (hl hh))
  · intro handle hh
    rw [hl] at hh
    rw [hi]
    simp only [List.mem_cons, List.not_mem_nil, or_false] at hh
    rcases hh with rfl | rfl
    · exact h.confined_addClient requester config (i := 1) (by decide)
    · exact h.confined_addClient requester config (i := 2) (by decide)

theorem entries_act (h : Kept w) (ha : Act r w after) {client : Nat} {m : Member}
    (hm : after.client? client = some m) :
    ∀ n ∈ m.registry.entries,
      ∃ s, after.store.subscriptions[n]? = some s ∧ s.client = client := by
  intro n hn
  have hstill {s : Subscription} (hs : w.store.subscriptions[n]? = some s)
      (hc : s.client = client) :
      ∃ s, after.store.subscriptions[n]? = some s ∧ s.client = client := by
    obtain ⟨s', hs', hb⟩ := ha.later.subscription hs
    exact ⟨s', hs', hb.client.trans hc⟩
  rcases ha.client hm with ⟨m₀, hm₀, -, -, he⟩ | ⟨_, _, -, -, -, -, he, -⟩
  · rcases he n hn with hn | ⟨s, hs, hc⟩
    · obtain ⟨s, hs, hc⟩ := h.entries hm₀ n hn
      exact hstill hs hc
    · exact hstill hs hc
  · rw [he] at hn
    cases hn

theorem generated_act (h : Kept w) (ha : Act r w after) {number : Nat} {s : Subscription}
    (hs : after.store.subscriptions[number]? = some s) :
    s.IsGenerated ∧ ∃ m, after.client? s.client = some m ∧ s.clientId = m.identity.clientId := by
  have hstill {client : Nat} {id : String}
      (hm : ∃ m, w.client? client = some m ∧ id = m.identity.clientId) :
      ∃ m, after.client? client = some m ∧ id = m.identity.clientId := by
    obtain ⟨m, hm, hid⟩ := hm
    obtain ⟨m', hm', hi⟩ := ha.later.client hm
    exact ⟨m', hm', by rw [hi, hid]⟩
  rcases ha.subscription hs with ⟨s₀, hs₀, hb⟩ | ⟨-, hgenerated, hm, -⟩
  · obtain ⟨hgenerated, hm⟩ := h.generated hs₀
    refine ⟨hb.isGenerated hgenerated, ?_⟩
    rw [hb.client, hb.clientId]
    exact hstill hm
  · exact ⟨hgenerated, hstill hm⟩

theorem listeners_act (h : Kept w) (ha : Act r w after) {number : Nat} {s : Subscription}
    (hs : after.store.subscriptions[number]? = some s) :
    ∀ handle ∈ s.listeners, after.router.Confined handle.id (OfSubscription s.id) := by
  intro handle hh
  rcases ha.subscription hs with ⟨s₀, hs₀, hb⟩ |
    ⟨-, -, -, -, ⟨-, hnone⟩ | ⟨s₀, wish, rfl, hid, -, hl⟩⟩
  · rw [hb.id]
    exact ha.later.confined (h.listeners hs₀ handle (hb.listeners hh))
  · rw [hnone] at hh
    cases hh
  · rw [hl] at hh
    rw [← hid]
    simp only [List.mem_cons, List.not_mem_nil, or_false] at hh
    rcases hh with rfl | rfl | rfl
    · exact h.confined_enter s₀ wish (i := 0) (by decide)
    · exact h.confined_enter s₀ wish (i := 1) (by decide)
    · exact h.confined_enter s₀ wish (i := 2) (by decide)

/-- The handles of a new subscription have numbers above those of all others. -/
theorem nextId_le_of_new (ha : Act r w after) {number : Nat} {s : Subscription}
    (hs : after.store.subscriptions[number]? = some s)
    (hnew : ∀ s₀, w.store.subscriptions[number]? = some s₀ → ¬ s₀.Becomes s) :
    ∀ handle ∈ s.listeners, w.router.nextId ≤ handle.id := by
  intro handle hh
  rcases ha.subscription hs with ⟨s₀, hs₀, hb⟩ |
    ⟨-, -, -, -, ⟨-, hnone⟩ | ⟨_, _, -, -, -, hl⟩⟩
  · exact absurd hb (hnew s₀ hs₀)
  · rw [hnone] at hh
    cases hh
  · rw [hl] at hh
    simp only [List.mem_cons, List.not_mem_nil, or_false] at hh
    rcases hh with rfl | rfl | rfl <;> simp

theorem apart_act (h : Kept w) (ha : Act r w after) {i j : Nat} {s t : Subscription}
    (hs : after.store.subscriptions[i]? = some s) (ht : after.store.subscriptions[j]? = some t)
    (hij : i ≠ j) : ∀ a ∈ s.listeners, ∀ b ∈ t.listeners, a.id ≠ b.id := by
  intro a ha' b hb'
  -- Of two subscriptions one at most is new.
  have hold {k : Nat} {u : Subscription} (hu : after.store.subscriptions[k]? = some u) :
      (∃ u₀, w.store.subscriptions[k]? = some u₀ ∧ u₀.Becomes u) ∨
        k = w.store.subscriptions.length ∧
          ∀ u₀, w.store.subscriptions[k]? = some u₀ → ¬ u₀.Becomes u := by
    rcases ha.subscription hu with hold | ⟨hk, -⟩
    · exact .inl hold
    · exact .inr ⟨hk, fun u₀ hu₀ _ => by simp [hk] at hu₀⟩
  rcases hold hs with ⟨s₀, hs₀, hbs⟩ | ⟨hi, hnew⟩ <;>
    rcases hold ht with ⟨t₀, ht₀, hbt⟩ | ⟨hj, hnew'⟩
  · exact h.apart hs₀ ht₀ hij a (hbs.listeners ha') b (hbt.listeners hb')
  · have hlt := h.lt hs₀ a (hbs.listeners ha')
    have hle := nextId_le_of_new ha ht hnew' b hb'
    omega
  · have hlt := h.lt ht₀ b (hbt.listeners hb')
    have hle := nextId_le_of_new ha hs hnew a ha'
    omega
  · exact absurd (hi.trans hj.symm) hij

theorem creations_act (h : Kept w) (ha : Act r w after) :
    ∀ c ∈ after.store.creations, ∃ id, after.router.Confined c.listener.id (OfClient id) := by
  have hstill {c : Creation} (hc : c ∈ w.store.creations) :
      ∃ id, after.router.Confined c.listener.id (OfClient id) := by
    obtain ⟨id, hid⟩ := h.creations c hc
    exact ⟨id, ha.later.confined hid⟩
  intro c hc
  cases ha with
  | aside _ _ _ _ hcreations =>
    obtain ⟨c', hc', he⟩ := hcreations c hc
    rw [he]
    exact hstill hc'
  | make requester config =>
    rcases List.mem_append.1 hc with hc | hc
    · exact hstill hc
    · obtain rfl := List.mem_singleton.1 hc
      exact ⟨config.clientId, h.confined_addClient requester config (i := 0) (by decide)⟩
  | detach number =>
    obtain ⟨_, hstore⟩ := w.detach_store number
    rw [hstore] at hc
    exact hstill hc
  | _ => exact hstill hc

theorem attached_act (h : Kept w) (ha : Act r w after) (handle : Router.Handle)
    (hh : after.IsAttached handle) :
    ∃ id, after.router.Confined handle.id (OfClient id) := by
  have hstill (hh : w.IsAttached handle) :
      ∃ id, after.router.Confined handle.id (OfClient id) := by
    obtain ⟨id, hid⟩ := h.attached handle hh
    exact ⟨id, ha.later.confined hid⟩
  cases ha with
  | aside hrouter _ _ _ _ hattached =>
    rcases hattached handle hh with hh | hid
    · exact hstill hh
    · rwa [hrouter]
  | detach number =>
    obtain ⟨_, hstore⟩ := w.detach_store number
    rw [IsAttached, hstore] at hh
    exact hstill hh
  | _ => exact hstill hh

/-- Every act keeps the books. -/
theorem act (h : Kept w) (ha : Act r w after) : Kept after where
  router := by
    obtain ⟨changes, hr⟩ := ha.later.router
    rw [hr]
    exact h.router.after changes
  moved hl := h.moved_act ha hl
  lifecycle := h.lifecycle_act ha
  entries := h.entries_act ha
  generated := h.generated_act ha
  listeners := h.listeners_act ha
  apart := h.apart_act ha
  creations := h.creations_act ha
  attached := h.attached_act ha

end Kept

/-! ## Settled worlds -/

/-- A world that is settled for acts within a realm: whatever listens under the names of its
events keeps to it, and clients with its ids are clients of it. -/
structure Settled (r : Realm N A) (w : World N A) : Prop extends Kept w where
  admitted : ∀ {name : String} {l : Listener Handler}, r.heard name →
    l ∈ w.router.listeners name → r.Admits l.handler
  member : ∀ {client : Nat} {m : Member}, w.client? client = some m →
    r.owner m.identity.clientId → r.member client

namespace Settled

variable {r : Realm N A} {w after : World N A}

/-- Acts within a realm keep to its callbacks and clients. -/
theorem act (h : Settled r w) (ha : Act r w after) : Settled r after := by
  refine ⟨h.toKept.act ha, fun hname hl => ?_, fun hm howner => ?_⟩
  · rcases ha.listener hl with hl | ⟨_, _, _, _, hown, -, hh⟩ |
      ⟨_, _, -, hmember, -, hh⟩ | ⟨_, _, -, -, hwish, ⟨-, -, hh⟩ | ⟨-, hh⟩ | ⟨-, hh⟩⟩
    · exact h.admitted hname hl
    · rw [hh]
      exact hown
    · rcases hh with hh | hh | hh <;> rw [hh]
      · trivial
      · exact hmember
      · exact hmember
    · rw [hh]
      exact hwish.onMessage
    · rw [hh]
      exact hwish.onGranted
    · rw [hh]
      exact hwish.onRefused
  · rcases ha.client hm with ⟨m₀, hm₀, hi, -⟩ | ⟨_, _, -, -, hmember, -⟩
    · rw [hi] at howner
      exact h.member hm₀ howner
    · exact hmember

theorem acts (h : Settled r w) (ha : Acts r w after) : Settled r after := by
  induction ha with
  | refl => exact h
  | tail _ ha ih => exact ih.act ha

end Settled

end World

end MqttRelay.Client
