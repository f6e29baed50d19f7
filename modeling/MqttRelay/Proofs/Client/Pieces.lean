import Mathlib.Logic.Relation
import MqttRelay.Proofs.Client.Session
import MqttRelay.Proofs.Client.Tasks
import MqttRelay.Proofs.Router.Changes

/-!
# Pieces of work

Whatever clients do consists of pieces that nothing interrupts. Between two pieces the native
layer may deliver events on the spot, whose callbacks operate on clients in turn, and at the end
of a piece any other work may have its turn. So a world that is met in the midst of an operation,
inside a callback as well, is one to which pieces lead. No question to an interceptor waits in
it: what a fired timer asks is asked before anything else happens.

Results:
* `Leads.request`, `Leads.perform`: requests and operations are made of pieces, if callbacks are.
* `Leads.nested`: callbacks that run programs of operations are, at every depth of nesting.
-/

namespace MqttRelay.Client

open Native

variable {N A : Type}

namespace State

variable {I : Type}

theorem uninstall_removed (number : Nat) (s : State I) :
    (s.uninstall number).removed = s.removed := by
  unfold State.uninstall
  split
  · split <;> rfl
  · rfl

theorem removed_apply {s : State I} (h : s.removed = true) (t : Turn I) :
    (t.apply s).removed = true := by
  cases t with
  | input runtime i => exact (removed_step_iff runtime i s).2 (.inl h)
  | install number interceptor => exact h
  | uninstall number => exact (uninstall_removed number s).trans h

end State

/-- A client after a piece of work on it: its subscriptions are as they were, and its state had
at most one turn. -/
structure Member.Follows (m after : Member) : Prop where
  identity : after.identity = m.identity
  entries : after.registry.entries = m.registry.entries
  closed : after.registry.closed = m.registry.closed
  state : after.state = m.state ∨ ∃ t : Turn Nat, after.state = t.apply m.state

/-- A client that was just made. -/
structure Member.IsNew (m : Member) : Prop where
  state : ∃ options, m.state = { options := options }
  registry : m.registry = {}

/-- A client later on: it is still the same, and once it was removed, or its registry closed, it
stays so. -/
structure Member.Becomes (m after : Member) : Prop where
  identity : after.identity = m.identity
  removed : m.state.removed = true → after.state.removed = true
  closed : m.registry.closed = true → after.registry.closed = true

namespace Member

theorem Becomes.refl (m : Member) : m.Becomes m := ⟨rfl, id, id⟩

theorem Becomes.trans {a b c : Member} (h₁ : a.Becomes b) (h₂ : b.Becomes c) : a.Becomes c :=
  ⟨h₂.identity.trans h₁.identity, fun h => h₂.removed (h₁.removed h),
    fun h => h₂.closed (h₁.closed h)⟩

theorem Follows.becomes {m after : Member} (h : m.Follows after) : m.Becomes after := by
  refine ⟨h.identity, fun hr => ?_, fun hc => h.closed.trans hc⟩
  rcases h.state with hs | ⟨t, hs⟩
  · rwa [hs]
  · rw [hs]
    exact State.removed_apply hr t

end Member

namespace World

/-- A piece of work that nothing interrupts. -/
inductive Piece : World N A → World N A → Prop
  /-- Anything beside the listeners, the clients and the subscriptions, but no question is left
  to wait. -/
  | beside {w after} (router : after.router = w.router)
      (clients : after.store.clients = w.store.clients)
      (subscriptions : after.store.subscriptions = w.store.subscriptions)
      (tasks : ∀ t ∈ after.store.tasks, t.isQuestion = true → t ∈ w.store.tasks) :
      Piece w after
  /-- Listeners are added and removed. -/
  | listen (w) (changes : List (Router.Change Handler)) :
      Piece w (w.setRouter (w.router.after changes))
  /-- A client has a turn, or changes beside its state and its subscriptions. -/
  | change (w) (client : Nat) (f : Member → Member)
      (follows : ∀ m, w.client? client = some m → m.Follows (f m)) :
      Piece w (w.update (·.modifyClient client f))
  /-- A client is made. -/
  | make (w) (m : Member) (new : m.IsNew) :
      Piece w (w.update fun s => { s with clients := s.clients ++ [m] })
  /-- A subscription is entered that never was active. -/
  | reject (w) (s : Subscription) (inactive : s.active = false) (listeners : s.listeners = []) :
      Piece w (w.addSubscription s)
  /-- A subscription is entered with its listeners for a client whose registry is open. -/
  | enter (w) (m : Member) (s : Subscription) (client : w.client? s.client = some m)
      (closed : m.registry.closed = false) (active : s.active = true)
      (issued : ∀ h ∈ s.listeners, h.id < w.router.nextId) :
      Piece w ((w.addSubscription s).enroll s.client w.store.subscriptions.length)
  /-- A subscription is ended. -/
  | detach (w) (number : Nat) : Piece w (w.detach number)
  /-- A subscription that was ended leaves its client's registry. -/
  | leave (w) (client number : Nat) (ended : w.isLive number = false) :
      Piece w (w.unregister client number)
  /-- The registry of a removed client is closed when its subscriptions were ended. -/
  | shut (w) (client : Nat)
      (removed : ∀ m, w.client? client = some m → m.state.removed = true)
      (ended : ∀ m, w.client? client = some m → ∀ n ∈ m.registry.entries, w.isLive n = false) :
      Piece w (w.shut client)

theorem client?_modifyClient (w : World N A) (client : Nat) (f : Member → Member) (other : Nat) :
    (w.update (·.modifyClient client f)).client? other =
      if client = other then (w.client? other).map f else w.client? other := by
  split
  · next h =>
    subst h
    exact System.clients_modifyClient_self w.store client f
  · next h => exact System.clients_modifyClient_of_ne w.store f h

theorem client?_tag {w : World N A} {client : Nat} {m : Member} (hm : w.client? client = some m) :
    (w.tag client m).client? client = some m.tagged := by
  rw [tag, client?_modifyClient, if_pos rfl, hm]
  rfl

theorem client?_detach (w : World N A) (number client : Nat) :
    (w.detach number).client? client = w.client? client := by
  obtain ⟨_, h⟩ := w.detach_store number
  rw [client?, h]
  rfl

/-- A client is still there after a piece of work. -/
theorem Piece.client {w after : World N A} (h : Piece w after) {client : Nat} {m : Member}
    (hm : w.client? client = some m) :
    ∃ m', after.client? client = some m' ∧ m.Becomes m' := by
  cases h with
  | beside _ hclients =>
    refine ⟨m, ?_, .refl m⟩
    rw [client?, hclients]
    exact hm
  | listen changes => exact ⟨m, hm, .refl m⟩
  | change other f hf =>
    rw [client?_modifyClient]
    split
    · next ho =>
      subst ho
      exact ⟨f m, by rw [hm]; rfl, (hf m hm).becomes⟩
    · exact ⟨m, hm, .refl m⟩
  | make new hnew =>
    refine ⟨m, ?_, .refl m⟩
    have hlt : client < w.store.clients.length := (List.getElem?_eq_some_iff.1 hm).1
    exact (List.getElem?_append_left hlt).trans hm
  | reject s => exact ⟨m, hm, .refl m⟩
  | enter m₀ s =>
    have hm : (w.addSubscription s).client? client = some m := hm
    rw [enroll, client?_modifyClient, hm]
    split
    · exact ⟨_, rfl, rfl, id, id⟩
    · exact ⟨m, rfl, .refl m⟩
  | detach number =>
    rw [client?_detach]
    exact ⟨m, hm, .refl m⟩
  | leave other number =>
    rw [unregister, client?_modifyClient, hm]
    split
    · exact ⟨_, rfl, rfl, id, id⟩
    · exact ⟨m, rfl, .refl m⟩
  | shut other =>
    rw [World.shut, client?_modifyClient, hm]
    split
    · exact ⟨_, rfl, rfl, id, fun _ => rfl⟩
    · exact ⟨m, rfl, .refl m⟩

/-- Pieces of work lead from one world to another. -/
def Leads : World N A → World N A → Prop := Relation.ReflTransGen Piece

/-- Pieces lead to a world with a question that is put to an interceptor before anything else. -/
def Questioned (w after : World N A) : Prop :=
  ∃ v t, Leads w v ∧ t.isQuestion = true ∧ after = v.update (·.enqueueFirst t)

namespace Leads

theorem refl (w : World N A) : Leads w w := Relation.ReflTransGen.refl

theorem trans {a b c : World N A} (h₁ : Leads a b) (h₂ : Leads b c) : Leads a c :=
  Relation.ReflTransGen.trans h₁ h₂

theorem piece {w after : World N A} (h : Piece w after) : Leads w after :=
  Relation.ReflTransGen.single h

/-- A client is still there when pieces led on. -/
theorem client {w after : World N A} (h : Leads w after) {client : Nat} {m : Member}
    (hm : w.client? client = some m) :
    ∃ m', after.client? client = some m' ∧ m.Becomes m' := by
  induction h with
  | refl => exact ⟨m, hm, .refl m⟩
  | tail _ hp ih =>
    obtain ⟨m', hm', hb⟩ := ih
    obtain ⟨m'', hm'', hb'⟩ := hp.client hm'
    exact ⟨m'', hm'', hb.trans hb'⟩

/-! ## Small pieces -/

/-- Work beside the listeners, the clients and the subscriptions that leaves no question. -/
theorem beside {w after : World N A} (hrouter : after.router = w.router)
    (hclients : after.store.clients = w.store.clients)
    (hsubscriptions : after.store.subscriptions = w.store.subscriptions)
    (htasks : ∀ t ∈ after.store.tasks, t ∈ w.store.tasks ∨ t.isQuestion = false) :
    Leads w after := by
  refine piece (.beside hrouter hclients hsubscriptions fun t ht hq => ?_)
  rcases htasks t ht with ht | hnone
  · exact ht
  · exact absurd (hq.symm.trans hnone) nofun

/-- What changes no work that waits. -/
theorem aside {w after : World N A} (hrouter : after.router = w.router)
    (hclients : after.store.clients = w.store.clients)
    (hsubscriptions : after.store.subscriptions = w.store.subscriptions)
    (hready : after.store.ready = w.store.ready)
    (hsleeping : after.store.sleeping = w.store.sleeping) : Leads w after := by
  refine beside hrouter hclients hsubscriptions fun t ht => .inl ?_
  rwa [System.tasks, ← hready, ← hsleeping]

theorem count (o : Metrics.Occurrence) (w : World N A) : Leads w (w.count o) :=
  aside rfl rfl rfl rfl rfl

theorem note (e : Entry) (w : World N A) : Leads w (w.note e) := aside rfl rfl rfl rfl rfl

theorem pin (client : Nat) (w : World N A) : Leads w (w.pin client) := aside rfl rfl rfl rfl rfl

theorem unpin (client : Nat) (w : World N A) : Leads w (w.unpin client) :=
  aside rfl rfl rfl rfl rfl

theorem keepData (f : A → A) (w : World N A) :
    Leads w (w.update fun s => { s with app := f s.app }) := aside rfl rfl rfl rfl rfl

theorem modifyCreation (number : Nat) (f : Creation → Creation) (w : World N A) :
    Leads w (w.update (·.modifyCreation number f)) := aside rfl rfl rfl rfl rfl

/-- Tasks wait for their turn that put no question. -/
theorem tasks (ts : List Task) (h : ∀ t ∈ ts, t.isQuestion = false) (w : World N A) :
    Leads w (w.update fun s => { s with ready := s.ready ++ ts }) := by
  refine beside rfl rfl rfl fun t ht => ?_
  simp only [System.tasks, update, List.mem_append] at ht ⊢
  rcases ht with (ht | ht) | ht
  · exact .inl (.inl ht)
  · exact .inr (h t ht)
  · exact .inl (.inr ht)

theorem enqueue {t : Task} (h : t.isQuestion = false) (w : World N A) :
    Leads w (w.update (·.enqueue t)) :=
  tasks [t] (by simpa using h) w

theorem listen (changes : List (Router.Change Handler)) (w : World N A) :
    Leads w (w.setRouter (w.router.after changes)) := piece (.listen w changes)

/-- A client changes beside its state and its subscriptions. -/
theorem keep (client : Nat) {f : Member → Member} (w : World N A)
    (hf : ∀ m, (f m).identity = m.identity ∧ (f m).state = m.state ∧
      (f m).registry.entries = m.registry.entries ∧ (f m).registry.closed = m.registry.closed) :
    Leads w (w.update (·.modifyClient client f)) := by
  refine piece (.change w client f fun m _ => ?_)
  obtain ⟨hidentity, hstate, hentries, hclosed⟩ := hf m
  exact ⟨hidentity, hentries, hclosed, .inl hstate⟩

/-- A client has a turn. -/
theorem turn (client : Nat) (t : Turn Nat) {f : Member → Member} (w : World N A)
    (hf : ∀ m, w.client? client = some m → (f m).identity = m.identity ∧
      (f m).state = t.apply m.state ∧ (f m).registry = m.registry) :
    Leads w (w.update (·.modifyClient client f)) := by
  refine piece (.change w client f fun m hm => ?_)
  obtain ⟨hidentity, hstate, hregistry⟩ := hf m hm
  exact ⟨hidentity, by rw [hregistry], by rw [hregistry], .inr ⟨t, hstate⟩⟩

/-! ## Steps of clients -/

theorem enact (client : Nat) (effects : List Effect) (w : World N A) :
    Leads w (w.enact client effects) :=
  enact_rel refl trans (fun o _ => count o) (fun _ _ => enqueue rfl) w

/-- A client has a turn, and the effects are carried out. -/
theorem move (client : Nat) {f : State Nat → State Nat × List Effect} (w : World N A)
    (hf : ∀ s, ∃ t : Turn Nat, (f s).1 = t.apply s) : Leads w (w.move client f) := by
  unfold World.move
  split
  · exact refl w
  · next m hm =>
    refine trans ?_ (enact client (f m.state).2 _)
    obtain ⟨t, ht⟩ := hf m.state
    refine turn client t w fun m' hm' => ?_
    have : m = m' := Option.some.inj (hm.symm.trans hm')
    subst this
    exact ⟨rfl, ht, rfl⟩

theorem deliverAnswer (creation : Nat) (ready : Bool) (w : World N A) :
    Leads w (w.deliverAnswer creation ready) := by
  unfold World.deliverAnswer
  split
  · show Leads w ((w.update (·.modifyCreation creation fun c =>
      { c with answer := some ready })).update (·.enqueue (.await creation)))
    exact (modifyCreation creation _ w).trans (enqueue rfl _)
  · exact refl w

theorem wake (w : World N A) : Leads w w.wake := by
  obtain ⟨creations, h⟩ := w.wake_eq
  rw [h]
  refine tasks _ (fun t ht => ?_) w
  obtain ⟨creation, -, rfl⟩ := List.mem_map.1 ht
  rfl

/-! ## Ending subscriptions -/

theorem detach (number : Nat) (w : World N A) : Leads w (w.detach number) :=
  piece (.detach w number)

/-- It makes no difference whether a subscription is ended before or after it leaves the
registry. -/
theorem detach_unregister (client number : Nat) (w : World N A) :
    (w.unregister client number).detach number = (w.detach number).unregister client number := by
  have hs : (w.unregister client number).store.subscriptions[number]? =
      w.store.subscriptions[number]? := rfl
  unfold World.detach
  rw [hs]
  split
  · split <;> rfl
  · rfl

theorem unregister (client number : Nat) {w : World N A} (h : w.isLive number = false) :
    Leads w (w.unregister client number) := piece (.leave w client number h)

/-- A subscription leaves the registry and is ended. -/
theorem withdraw (client number : Nat) (w : World N A) :
    Leads w ((w.unregister client number).detach number) := by
  rw [detach_unregister]
  exact (detach number w).trans (unregister client number (isLive_detach_self w number))

theorem detach_shut (client number : Nat) (w : World N A) :
    (w.shut client).detach number = (w.detach number).shut client := by
  have hs : (w.shut client).store.subscriptions[number]? = w.store.subscriptions[number]? := rfl
  unfold World.detach
  rw [hs]
  split
  · split <;> rfl
  · rfl

/-- A registry is closed as if its subscriptions were ended first. -/
theorem foldl_detach_shut (client : Nat) (numbers : List Nat) (w : World N A) :
    numbers.foldl (fun w n => w.detach n) (w.shut client) =
      (numbers.foldl (fun w n => w.detach n) w).shut client := by
  induction numbers generalizing w with
  | nil => rfl
  | cons n numbers ih => rw [List.foldl_cons, detach_shut, ih, List.foldl_cons]

/-- The registry of a removed client is closed. -/
theorem closeRegistry (client : Nat) {w : World N A}
    (hremoved : ∀ m, w.client? client = some m → m.state.removed = true) :
    Leads w (w.closeRegistry client) := by
  unfold World.closeRegistry
  split
  · exact refl w
  · next m hm =>
    show Leads w (m.registry.entries.foldl (fun w n => w.detach n) (w.shut client))
    rw [foldl_detach_shut]
    -- Ending subscriptions leaves the clients alone.
    have hsame {m' : Member} (hm' : (m.registry.entries.foldl (fun w n => w.detach n)
        w).client? client = some m') : m' = m := by
      obtain ⟨subscriptions, hstore⟩ := foldl_detach_store m.registry.entries w
      rw [client?, hstore] at hm'
      exact Option.some.inj (hm'.symm.trans hm)
    refine trans (foldl_rel refl trans (fun n _ => detach n) w)
      (piece (.shut _ _ (fun m' hm' => ?_) fun m' hm' n hn => ?_))
    · exact hsame hm' ▸ hremoved m hm
    · exact isLive_foldl_detach_of_mem (hsame hm' ▸ hn) w

/-! ## Listeners -/

theorem addKey (key : Event.Key) (handler : Handler) (w : World N A) :
    Leads w (w.setRouter (w.router.addKey key handler).1) :=
  listen [.add key.name (some key.kind) handler] w

theorem on (client : Nat) (interest : Interest) (callback : Nat) (w : World N A) :
    Leads w (w.on client interest callback).1 := addKey _ _ w

theorem off (handle : Router.Handle) (w : World N A) : Leads w (w.off handle) :=
  listen [.remove handle] w

theorem removeAll (event : String) (w : World N A) : Leads w (w.removeAll event) :=
  listen [.removeAll event] w

theorem removeEach (handles : List Router.Handle) (w : World N A) :
    Leads w (w.setRouter (w.router.removeEach handles)) := by
  rw [Router.removeEach_eq_after]
  exact listen _ w

/-- The listeners of a client go, and all under the names of its events. -/
theorem unlisten (m : Member) (w : World N A) :
    Leads w (w.setRouter (World.unlisten m w.router)) := by
  rw [World.unlisten, Router.removeEach_eq_after, Router.foldl_removeAll_eq_after,
    ← Router.after_append]
  exact listen _ w

/-- A subscription is entered with its listeners and with its client. -/
theorem enter {m : Member} {s : Subscription} {w : World N A} (hm : w.client? s.client = some m)
    (hopen : m.registry.closed = false) (hs : s.active = true) (wish : Outside.Wish) :
    Leads w ((w.enter s wish).enroll s.client w.store.subscriptions.length) := by
  let r₁ := w.router.addKey (.subscription s.id .message) (.message wish.onMessage)
  let r₂ := r₁.1.addKey (.subscription s.id .subscribed)
    (.subscribed wish.topic wish.qos wish.onGranted)
  let r₃ := r₂.1.addKey (.subscription s.id .subscribeFailed)
    (.subscribeFailed wish.topic wish.onRefused)
  have hlisten : Leads w (w.setRouter r₃.1) :=
    ((addKey _ _ w).trans (addKey _ _ _)).trans (addKey _ _ _)
  refine hlisten.trans (piece
    (.enter _ m { s with listeners := [r₁.2, r₂.2, r₃.2] } hm hopen hs ?_))
  intro h hh
  show h.id < w.router.nextId + 1 + 1 + 1
  have hids : h.id = w.router.nextId ∨ h.id = w.router.nextId + 1 ∨
      h.id = w.router.nextId + 1 + 1 := by
    simp only [List.mem_cons, List.not_mem_nil, or_false] at hh
    rcases hh with rfl | rfl | rfl
    · exact .inl rfl
    · exact .inr (.inl rfl)
    · exact .inr (.inr rfl)
  omega

/-- A subscription is made while its client is held. -/
theorem establish {m : Member} {s : Subscription} {w : World N A}
    (hm : w.client? s.client = some m) (hopen : m.registry.closed = false)
    (hs : s.active = true) (wish : Outside.Wish) :
    Leads (w.pin s.client) (w.establish m s wish) := by
  let tagged := (w.pin s.client).tag s.client m
  have htagged : Leads (w.pin s.client) tagged :=
    keep s.client _ fun _ => ⟨rfl, rfl, rfl, rfl⟩
  have hm : tagged.client? s.client = some m.tagged :=
    client?_tag (show (w.pin s.client).client? s.client = some m from hm)
  exact (htagged.trans (enter hm hopen hs wish)).trans (count .subscriptionAdded _)

/-! ## Removals -/

theorem markRemoved (client : Nat) (w : World N A) :
    Leads (w.pin client) (w.markRemoved client) :=
  piece (.change _ client _ fun _ _ => ⟨rfl, rfl, rfl, .inr ⟨.input true .remove, rfl⟩⟩)

/-- Whatever happens after a client was given up, it is still so. -/
theorem removed {client : Nat} {m : Member} {w told : World N A} (hm : w.client? client = some m)
    (h : Leads (w.markRemoved client) told) :
    ∃ m', told.client? client = some m' ∧ m'.state.removed = true := by
  have hm : (w.pin client).client? client = some m := hm
  have hmarked : (w.markRemoved client).client? client =
      some { m with state := m.state.remove, lifecycle := [] } := by
    rw [World.markRemoved, client?_modifyClient, if_pos rfl, hm]
    rfl
  obtain ⟨m', hm', hb⟩ := h.client hmarked
  exact ⟨m', hm', hb.removed rfl⟩

/-- What a client had that was given up is taken away. -/
theorem clear {client : Nat} {m : Member} {w told : World N A} (hm : w.client? client = some m)
    (h : Leads (w.markRemoved client) told) :
    Leads (told.setRouter (World.unlisten m told.router)) (told.clear client m) := by
  obtain ⟨m', hm', hremoved⟩ := (h.trans (unlisten m told)).removed hm
  refine closeRegistry client fun m₀ hm₀ => ?_
  obtain rfl : m' = m₀ := Option.some.inj (hm'.symm.trans hm₀)
  exact hremoved

/-! ## Events, requests and operations -/

theorem composable : Composable (Leads : World N A → World N A → Prop) where
  refl := refl
  trans := trans
  panicked := count .panicked
  delivered _ _ := count _
  held h := ((pin _ _).trans h).trans (unpin _ _)

section Operations

variable {outside : Outside N A}
  (htell : ∀ callback notice w, Leads w (outside.tell callback notice w).1)

include htell

theorem act (handler : Handler) (payload : Event.Payload) (w : World N A) :
    Leads w (outside.act handler payload w).1 :=
  composable.act (fun creation _ => deliverAnswer creation _ w)
    (fun client _ => move client w fun _ => ⟨.input true .acknowledged, rfl⟩)
    (fun client reason _ => move client w fun _ => ⟨.input w.store.runtime (.ended reason), rfl⟩)
    fun callback _ => htell callback

theorem call (l : Listener Handler) (payload : Event.Payload) (w : World N A) :
    Leads w (Hub.call outside.act l payload w).1 := composable.call (act htell _ _ w)

theorem dispatch (payload : Event.Payload) (ls : List (Listener Handler)) (w : World N A) :
    Leads w (Hub.dispatch outside.act payload ls w).1 :=
  composable.dispatch (fun l _ => act htell l.handler payload) w

theorem emit (event : String) (payload : Event.Payload) (w : World N A) :
    Leads w (Hub.emit outside.act event payload w).1 :=
  composable.emit fun l _ => act htell l.handler payload

theorem deliver (e : Emission) (w : World N A) : Leads w (outside.deliver e w).1 :=
  emit htell e.key.name e.payload w

theorem deliverAll (events : List Emission) (w : World N A) :
    Leads w (outside.deliverAll events w).1 :=
  composable.deliverAll (fun e _ => deliver htell e) w

/-- A request, with the events that the native layer delivers on the spot. -/
theorem request (r : Request) (w : World N A) : Leads w (outside.request r w).1 := by
  have hasked : Leads w (outside.asked r w) :=
    (note (.request r) w).trans (aside rfl rfl rfl rfl rfl)
  exact composable.request hasked (fun e _ => deliver htell e) fun f => note (.fault f)

/-- What a step asks for, unless it is a question. -/
theorem comply (client : Nat) {ask : Ask Nat} (hask : ask.question? = none) (w : World N A) :
    Leads w (outside.comply client ask w) := by
  refine composable.comply (fun _ => request htell _ w) (request htell _ w) (fun origin v => ?_)
    fun _ _ _ hconsult => ?_
  · exact move client v fun _ => ⟨.input true (.refused origin), rfl⟩
  · rw [hconsult] at hask
    cases hask

/-- A client has a turn with all that follows. Only a fired timer leaves a question. -/
theorem drive_cases (client : Nat) (input : Input) (w : World N A) :
    Leads w (outside.drive client input w) ∨
      input.timer? ≠ none ∧ Questioned w (outside.drive client input w) := by
  unfold Outside.drive
  split
  · exact .inl (refl w)
  · next m hm =>
    dsimp only
    generalize hresult : m.state.step w.store.runtime input = result
    have hstate : Leads w ((w.pin client).setState client result.state) := by
      refine (pin client w).trans (turn client (.input w.store.runtime input) _ fun m' hm' => ?_)
      have : m = m' := Option.some.inj (hm.symm.trans hm')
      subst this
      exact ⟨rfl, congrArg Move.state hresult.symm, rfl⟩
    have heffects := hstate.trans (enact client result.effects _)
    split
    · exact .inl (heffects.trans (unpin client _))
    · next ask hask =>
      cases hq : ask.question? with
      | none => exact .inl ((heffects.trans (comply htell client hq _)).trans (unpin client _))
      | some generation =>
        right
        constructor
        · apply State.timer?_of_questions
          rw [hresult]
          simp [Move.questions, hask, hq]
        · cases ask with
          | consult interceptor reason generation =>
            exact ⟨_, .consult client generation interceptor reason,
              heffects.trans (unpin client _), rfl, rfl⟩
          | _ => cases hq

/-- A client has a turn, at which no timer fires, with all that follows. -/
theorem drive (client : Nat) {input : Input} (h : input.timer? = none) (w : World N A) :
    Leads w (outside.drive client input w) := by
  rcases drive_cases htell client input w with hl | ⟨ht, -⟩
  · exact hl
  · exact absurd h ht

theorem remove (client : Nat) (w : World N A) : Leads w (outside.remove client w) := by
  refine composable.remove (fun m hm told htold => ?_) (count .clientRemoved) wake
  have hmarked : Leads (w.markRemoved client) told := by
    rcases htold with rfl | rfl
    · exact refl _
    · exact request htell _ _
  exact (((markRemoved client w).trans hmarked).trans (unlisten m told)).trans (clear hm hmarked)

/-- When a client was given up and the native layer told, what it had is taken away. -/
theorem remove_told {client : Nat} {m : Member} {w : World N A} (hm : w.client? client = some m) :
    ∃ told, Leads (w.markRemoved client) told ∧
      Leads (told.clear client m) (outside.remove client w) := by
  rw [outside.remove_eq hm]
  split
  · exact ⟨_, refl _, (wake _).trans (unpin client _)⟩
  · exact ⟨_, request htell _ _, ((count _ _).trans (wake _)).trans (unpin client _)⟩

theorem subscribe (client : Nat) (wish : Outside.Wish) (w : World N A) :
    Leads w (outside.subscribe client wish w).1 := by
  refine composable.subscribe (fun m hm => ?_) (fun m hm hopen => ⟨?_, ?_, ?_⟩)
    fun callback _ => htell callback
  · have htagged : Leads w (w.tag client m) := keep client w fun _ => ⟨rfl, rfl, rfl, rfl⟩
    exact htagged.trans (piece (.reject _ _ rfl rfl))
  · exact establish (s := wish.subscription client m) hm hopen rfl wish
  · exact request htell _ _
  · exact withdraw client w.store.subscriptions.length _

theorem unsubscribe (number : Nat) (w : World N A) :
    Leads w (outside.unsubscribe number w) :=
  composable.unsubscribe fun s _ => ⟨(detach number w).trans
    (unregister s.client number (isLive_detach_self w number)), request htell _ _⟩

/-- An operation, with all that it makes happen. -/
theorem perform (o : Operation) (w : World N A) : Leads w (outside.perform o w) := by
  cases o with
  | connect client overrides => exact drive htell client rfl w
  | disconnect client => exact drive htell client rfl w
  | remove client => exact remove htell client w
  | subscribe client wish => exact subscribe htell client wish w
  | unsubscribe number => exact unsubscribe htell number w
  | on client interest callback => exact on client interest callback w
  | off handle => exact off handle w
  | removeAll event => exact removeAll event w
  | install client interceptor =>
    exact piece (.change w client _ fun m _ =>
      ⟨rfl, rfl, rfl, .inr ⟨.install _ interceptor, rfl⟩⟩)
  | uninstall client number =>
    exact turn client (.uninstall number) w fun m _ => ⟨rfl, rfl, rfl⟩

end Operations

/-- Callbacks that run programs of operations are made of pieces, however deep they nest. -/
theorem nested (layer : Layer N) (program : Nat → Notice → Program N A) (depth : Nat) :
    ∀ callback notice w,
      Leads w ((Outside.nested layer program depth).tell callback notice w).1 :=
  composable.nested keepData (fun _ _ => perform) program depth

end Leads

end World

end MqttRelay.Client
