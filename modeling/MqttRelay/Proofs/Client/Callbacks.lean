import MqttRelay.Proofs.Client.Generation
import MqttRelay.Proofs.Client.Stages

/-!
# Callbacks that operate on clients

A callback may do with clients and subscriptions whatever the application may, and the native
layer may answer on the spot with events, whose callbacks operate in turn. However deep this
nests, how the latest connection of a client ended is written by one listener only, the
client's own. As long as no event under that listener's name is delivered on the spot, nothing
that callbacks do changes it, and the client is held by whom it was held.

Results:
* `Keeps.deliver`, `Keeps.request`, `Keeps.perform`: events under other names, requests and
  operations leave the ending of a client as it was, if callbacks do.
* `Keeps.nested`: callbacks that run programs of operations do, at every depth of nesting.
-/

namespace MqttRelay.Client

open Native

variable {N A : Type}

namespace State

variable {I : Type}

/-! ## Who writes the ending -/

theorem issue_lastEnding (s : State I) (origin : Origin) :
    (s.issue origin).state.lastEnding = s.lastEnding := by
  unfold issue
  split <;> rfl

theorem plan_lastEnding (runtime : Bool) (s : State I) :
    (s.plan runtime).1.lastEnding = s.lastEnding := by
  rcases s.plan_cases runtime with ⟨-, _, _, _, -, h⟩ | ⟨-, _, _, _, -, h⟩ <;> rw [h]

theorem acknowledged_lastEnding (s : State I) : s.acknowledged.1.lastEnding = s.lastEnding := by
  unfold acknowledged
  split
  · rfl
  · split <;> rfl

theorem refused_lastEnding (origin : Origin) (s : State I) :
    (s.refused origin).1.lastEnding = s.lastEnding := by
  unfold refused
  split <;> rfl

theorem connect_lastEnding (overrides : Option Options) (s : State I) :
    (s.connect overrides).state.lastEnding = s.lastEnding := by
  unfold connect
  split
  · rfl
  · exact issue_lastEnding _ _

theorem disconnect_lastEnding (s : State I) : s.disconnect.state.lastEnding = s.lastEnding := by
  unfold disconnect
  split <;> rfl

theorem uninstall_lastEnding (number : Nat) (s : State I) :
    (s.uninstall number).lastEnding = s.lastEnding := by
  unfold uninstall
  split
  · split <;> rfl
  · rfl

/-- The end of a connection is remembered with the status in which it arrives. -/
theorem ended_lastEnding {s : State I} (h : s.removed = false) (runtime : Bool)
    (reason : ReasonCode) :
    (s.ended runtime reason).1.lastEnding = some ⟨s.status, reason⟩ := by
  unfold ended
  rw [if_neg (by simp [h])]
  dsimp only
  split
  · split
    · exact plan_lastEnding _ _
    · rfl
  · split
    · exact plan_lastEnding _ _
    · rfl
  · rfl

end State

/-- The effects of a step are counted, or wait as work. -/
theorem World.enact_eq (client : Nat) (effects : List Effect) (w : World N A) :
    ∃ metrics tasks, w.enact client effects =
      { w with
        metrics := metrics
        store := { w.store with ready := w.store.ready ++ tasks } } := by
  induction effects generalizing w with
  | nil => exact ⟨w.metrics, [], by simp [World.enact]⟩
  | cons e effects ih =>
    cases e with
    | count o => exact ih (w.count o)
    | schedule generation delayMs =>
      obtain ⟨metrics, tasks, h⟩ := ih (w.update (·.enqueue (.retry client generation delayMs)))
      refine ⟨metrics, .retry client generation delayMs :: tasks, h.trans ?_⟩
      simp [World.update, System.enqueue]

/-- From any state of a set, a native layer never delivers an event of this name on the spot,
and it stays in the set. -/
structure Spares (layer : Layer N) (name : String) (P : N → Prop) : Prop where
  events : ∀ r n, P n → ∀ e ∈ (layer.answer r n).2.events, e.key.name ≠ name
  stays : ∀ r n, P n → P (layer.answer r n).1

/-! ## What is left alone -/

/-- Whoever held a client still does. -/
structure SameHolders (w after : World N A) : Prop where
  names : after.store.names = w.store.names
  pinned : after.store.pinned = w.store.pinned
  shared : after.store.shared = w.store.shared
  shareds : after.store.shareds = w.store.shareds
  creations : after.store.creations.map (fun c => (c.client, c.ended)) =
    w.store.creations.map fun c => (c.client, c.ended)
  tasks : ∀ t ∈ w.store.tasks, t ∈ after.store.tasks

namespace SameHolders

theorem refl (w : World N A) : SameHolders w w := ⟨rfl, rfl, rfl, rfl, rfl, fun _ h => h⟩

theorem trans {a b c : World N A} (h₁ : SameHolders a b) (h₂ : SameHolders b c) :
    SameHolders a c :=
  ⟨h₂.names.trans h₁.names, h₂.pinned.trans h₁.pinned, h₂.shared.trans h₁.shared,
    h₂.shareds.trans h₁.shareds, h₂.creations.trans h₁.creations,
    fun t h => h₂.tasks t (h₁.tasks t h)⟩

/-- Clients may change, and work be added. -/
theorem of_store {w after : World N A} {clients : List Member} {tasks : List Task}
    (h : after.store =
      { w.store with clients := clients, ready := w.store.ready ++ tasks }) :
    SameHolders w after := by
  refine ⟨by rw [h], by rw [h], by rw [h], by rw [h], by rw [h], fun t ht => ?_⟩
  rw [h]
  simp only [System.tasks, List.mem_append] at ht ⊢
  exact ht.imp .inl id

/-- A client that was held still is. -/
theorem isHeld {w after : World N A} (h : SameHolders w after) {client : Nat}
    (hw : w.isHeld client = true) : after.isHeld client = true := by
  have htasks {p : Task → Bool} (hp : w.store.tasks.any p = true) :
      after.store.tasks.any p = true := by
    obtain ⟨t, ht, hpt⟩ := List.any_eq_true.1 hp
    exact List.any_eq_true.2 ⟨t, h.tasks t ht, hpt⟩
  have hshared (number : Nat) (hs : w.store.sharedIsHeld number = true) :
      after.store.sharedIsHeld number = true := by
    simp only [System.sharedIsHeld, Bool.or_eq_true, h.shared, h.shareds] at hs ⊢
    exact hs.imp id htasks
  have hcreations : (after.store.creations.any fun c => c.client == client && !c.ended) =
      w.store.creations.any fun c => c.client == client && !c.ended := by
    have := congrArg (List.any · fun p : Nat × Bool => p.1 == client && !p.2) h.creations
    simpa only [List.any_map, Function.comp_def] using this
  simp only [World.isHeld, System.isHeld, Bool.or_eq_true, h.names, h.pinned, h.shareds,
    hcreations] at hw ⊢
  refine hw.imp (.imp id htasks) fun hs => ?_
  obtain ⟨p, hp, hc⟩ := List.any_eq_true.1 hs
  rw [Bool.and_eq_true] at hc
  exact List.any_eq_true.2 ⟨p, hp, by rw [Bool.and_eq_true]; exact ⟨hc.1, hshared p.2 hc.2⟩⟩

end SameHolders

/-- The client's latest ending is the same, and whoever held it still does. -/
structure SameEnding (client : Nat) (w after : World N A) : Prop extends SameHolders w after where
  ending : (after.client? client).map (·.state.lastEnding) =
    (w.client? client).map (·.state.lastEnding)

namespace SameEnding

variable {client : Nat}

theorem refl (w : World N A) : SameEnding client w w := ⟨.refl w, rfl⟩

theorem trans {a b c : World N A} (h₁ : SameEnding client a b) (h₂ : SameEnding client b c) :
    SameEnding client a c :=
  ⟨h₁.toSameHolders.trans h₂.toSameHolders, h₂.ending.trans h₁.ending⟩

/-- A client that is held remembers the same ending. -/
theorem lastEnding {w after : World N A} (h : SameEnding client w after)
    (hw : w.isHeld client = true) :
    (after.lastEnding? client).map (·.2) = (w.lastEnding? client).map (·.2) := by
  have he := h.ending
  simp only [World.lastEnding?, hw, h.isHeld hw, if_true]
  cases hc : w.client? client with
  | none => simp_all
  | some m =>
    rw [hc] at he
    obtain ⟨m', hm', he⟩ := Option.map_eq_some_iff.1 he
    simp only [hm', Option.bind_eq_bind, Option.bind_some, he]
    cases m.state.lastEnding <;> rfl

end SameEnding

/-- The native layer is in a state of the set, and a client's own listener for the ends of its
connections stands under no name but this. -/
structure Calm (P : N → Prop) (client : Nat) (name : String) (w : World N A) : Prop where
  native : P w.store.native
  listeners : ∀ event, ∀ l ∈ w.router.listeners event, l.handler = .lose client → event = name

/-- Where things were calm they stay so, and the client's ending is the same. -/
def Keeps (P : N → Prop) (client : Nat) (name : String) (w after : World N A) : Prop :=
  Calm P client name w → Calm P client name after ∧ SameEnding client w after

namespace Keeps

variable {P : N → Prop} {client : Nat} {name : String}

theorem refl (w : World N A) : Keeps P client name w w := fun h => ⟨h, .refl w⟩

theorem trans {a b c : World N A} (h₁ : Keeps P client name a b)
    (h₂ : Keeps P client name b c) : Keeps P client name a c := by
  intro h
  obtain ⟨hb, hab⟩ := h₁ h
  obtain ⟨hc, hbc⟩ := h₂ hb
  exact ⟨hc, hab.trans hbc⟩

/-! ### Small changes -/

/-- A change of what is kept beside the router and the native layer. -/
theorem of_store {w after : World N A} (hrouter : after.router = w.router)
    (hnative : after.store.native = w.store.native) (h : SameEnding client w after) :
    Keeps P client name w after :=
  fun hw => ⟨⟨hnative ▸ hw.native, hrouter ▸ hw.listeners⟩, h⟩

theorem count (o : Metrics.Occurrence) (w : World N A) : Keeps P client name w (w.count o) :=
  of_store rfl rfl ⟨⟨rfl, rfl, rfl, rfl, rfl, fun _ h => h⟩, rfl⟩

theorem note (e : Entry) (w : World N A) : Keeps P client name w (w.note e) :=
  of_store rfl rfl ⟨⟨rfl, rfl, rfl, rfl, rfl, fun _ h => h⟩, rfl⟩

theorem keepData (f : A → A) (w : World N A) :
    Keeps P client name w (w.update fun s => { s with app := f s.app }) :=
  of_store rfl rfl ⟨⟨rfl, rfl, rfl, rfl, rfl, fun _ h => h⟩, rfl⟩

theorem enqueue (t : Task) (w : World N A) : Keeps P client name w (w.update (·.enqueue t)) :=
  of_store rfl rfl ⟨.of_store rfl, rfl⟩

theorem enqueueFirst (t : Task) (w : World N A) :
    Keeps P client name w (w.update (·.enqueueFirst t)) := by
  refine of_store rfl rfl ⟨⟨rfl, rfl, rfl, rfl, rfl, fun t h => ?_⟩, rfl⟩
  simp only [System.tasks, World.update, System.enqueueFirst, List.mem_append] at h ⊢
  exact h.imp (List.mem_cons_of_mem _) id

/-- A change of a client, which must leave the ending of this one alone. -/
theorem modifyClient (other : Nat) {f : Member → Member} {w : World N A}
    (hf : ∀ m, w.client? other = some m → other = client →
      (f m).state.lastEnding = m.state.lastEnding) :
    Keeps P client name w (w.update (·.modifyClient other f)) := by
  refine of_store rfl rfl ⟨⟨rfl, rfl, rfl, rfl, rfl, fun _ h => h⟩, ?_⟩
  by_cases ho : other = client
  · subst ho
    show ((w.store.modifyClient other f).clients[other]?).map _ = _
    rw [System.clients_modifyClient_self, Option.map_map, World.client?]
    cases hm : w.store.clients[other]? with
    | none => rfl
    | some m => exact congrArg some (hf m hm rfl)
  · show ((w.store.modifyClient other f).clients[client]?).map _ = _
    rw [System.clients_modifyClient_of_ne _ _ ho]
    rfl

theorem addSubscription (s : Subscription) (w : World N A) :
    Keeps P client name w (w.addSubscription s) :=
  of_store rfl rfl ⟨⟨rfl, rfl, rfl, rfl, rfl, fun _ h => h⟩, rfl⟩

theorem modifySubscription (number : Nat) (f : Subscription → Subscription) (w : World N A) :
    Keeps P client name w (w.update (·.modifySubscription number f)) :=
  of_store rfl rfl ⟨⟨rfl, rfl, rfl, rfl, rfl, fun _ h => h⟩, rfl⟩

/-- What is done while a client is held for it. -/
theorem around_pin {other : Nat} {w after : World N A}
    (h : Keeps P client name (w.pin other) after) :
    Keeps P client name w (after.unpin other) := by
  intro hw
  obtain ⟨hafter, hsame⟩ := h ⟨hw.native, hw.listeners⟩
  refine ⟨⟨hafter.native, hafter.listeners⟩, ⟨hsame.names, ?_, hsame.shared, hsame.shareds,
    hsame.creations, hsame.tasks⟩, hsame.ending⟩
  show after.store.pinned.erase other = w.store.pinned
  rw [hsame.pinned]
  exact List.erase_cons_head other w.store.pinned

/-- A change of the listeners, of which none that is new moves this client at the end of a
connection. -/
theorem setRouter {r : Router Handler} {w : World N A}
    (hr : ∀ event, ∀ l ∈ r.listeners event,
      l ∈ w.router.listeners event ∨ l.handler ≠ .lose client) :
    Keeps P client name w (w.setRouter r) := by
  refine fun hw => ⟨⟨hw.native, fun event l hl hlose => ?_⟩,
    ⟨rfl, rfl, rfl, rfl, rfl, fun _ h => h⟩, rfl⟩
  rcases hr event l hl with hl | hl
  · exact hw.listeners event l hl hlose
  · exact absurd hlose hl

/-! ### Steps of clients -/

theorem enact (other : Nat) (effects : List Effect) (w : World N A) :
    Keeps P client name w (w.enact other effects) := by
  obtain ⟨metrics, tasks, h⟩ := w.enact_eq other effects
  rw [h]
  exact of_store rfl rfl ⟨.of_store rfl, rfl⟩

theorem move (other : Nat) {f : State Nat → State Nat × List Effect} {w : World N A}
    (hf : other = client → ∀ s, (f s).1.lastEnding = s.lastEnding) :
    Keeps P client name w (w.move other f) := by
  unfold World.move
  split
  · exact refl w
  · next m hm =>
    refine trans (modifyClient other fun m' hm' ho => ?_) (enact other _ _)
    rw [hm, Option.some.injEq] at hm'
    subst hm'
    exact hf ho m.state

theorem deliverAnswer (creation : Nat) (ready : Bool) (w : World N A) :
    Keeps P client name w (w.deliverAnswer creation ready) := by
  unfold World.deliverAnswer
  split
  · show Keeps P client name w ((w.update (·.modifyCreation creation fun c =>
      { c with answer := some ready })).update (·.enqueue (.await creation)))
    refine trans ?_ (enqueue _ _)
    refine of_store rfl rfl ⟨⟨rfl, rfl, rfl, rfl, ?_, fun _ h => h⟩, rfl⟩
    apply List.ext_getElem?
    intro i
    simp only [World.update, System.modifyCreation, List.getElem?_map, List.getElem?_modify]
    split
    · cases w.store.creations[i]? <;> rfl
    · simp
  · exact refl w

theorem wake (w : World N A) : Keeps P client name w w.wake := by
  obtain ⟨tasks, h⟩ := w.wake_eq
  rw [h]
  exact of_store rfl rfl ⟨.of_store rfl, rfl⟩

theorem detach (number : Nat) (w : World N A) : Keeps P client name w (w.detach number) := by
  unfold World.detach
  split
  · split
    · exact ((setRouter fun _ _ h => .inl (Router.mem_of_mem_listeners_removeEach h)).trans
        (modifySubscription number _ _)).trans (count _ _)
    · exact refl w
  · exact refl w

theorem unregister (other number : Nat) (w : World N A) :
    Keeps P client name w (w.unregister other number) :=
  modifyClient other fun _ _ _ => rfl

theorem enroll (other number : Nat) (w : World N A) :
    Keeps P client name w (w.enroll other number) :=
  modifyClient other fun _ _ _ => rfl

theorem tag (other : Nat) (m : Member) (w : World N A) :
    Keeps P client name w (w.tag other m) :=
  modifyClient other fun _ _ _ => rfl

theorem closeRegistry (other : Nat) (w : World N A) :
    Keeps P client name w (w.closeRegistry other) :=
  closeRegistry_rel refl trans (modifyClient other fun _ _ _ => rfl) detach

/-- Three new listeners, of which none moves this client at the end of a connection. -/
theorem mem_listeners_addKey₃ {r : Router Handler} {k₁ k₂ k₃ : Event.Key} {h₁ h₂ h₃ : Handler}
    (hne₁ : h₁ ≠ .lose client) (hne₂ : h₂ ≠ .lose client) (hne₃ : h₃ ≠ .lose client) :
    ∀ event, ∀ l ∈ (((r.addKey k₁ h₁).1.addKey k₂ h₂).1.addKey k₃ h₃).1.listeners event,
      l ∈ r.listeners event ∨ l.handler ≠ .lose client := by
  intro event l hl
  rcases Router.mem_listeners_addKey hl with hl | rfl
  · rcases Router.mem_listeners_addKey hl with hl | rfl
    · rcases Router.mem_listeners_addKey hl with hl | rfl
      · exact .inl hl
      · exact .inr hne₁
    · exact .inr hne₂
  · exact .inr hne₃

theorem addKey {key : Event.Key} {handler : Handler} (h : handler ≠ .lose client)
    (w : World N A) : Keeps P client name w (w.setRouter (w.router.addKey key handler).1) := by
  refine setRouter fun event l hl => ?_
  rcases Router.mem_listeners_addKey hl with hl | rfl
  · exact .inl hl
  · exact .inr h

/-- A subscription is entered with its listeners, of which none moves a client. -/
theorem enter (sub : Subscription) (wish : Outside.Wish) (w : World N A) :
    Keeps P client name w (w.enter sub wish) :=
  (setRouter (mem_listeners_addKey₃ (by simp) (by simp) (by simp))).trans (addSubscription _ _)

/-- A subscription is made while its client is held. -/
theorem establish (m : Member) (sub : Subscription) (wish : Outside.Wish) (w : World N A) :
    Keeps P client name (w.pin sub.client) (w.establish m sub wish) := by
  let tagged := (w.pin sub.client).tag sub.client m
  have hentered : Keeps P client name (w.pin sub.client) (tagged.enter sub wish) :=
    (tag sub.client m _).trans (enter sub wish tagged)
  exact (hentered.trans (enroll sub.client w.store.subscriptions.length _)).trans
    (count .subscriptionAdded _)

/-! ### Events, requests and operations -/

theorem composable : Composable (Keeps P client name : World N A → World N A → Prop) where
  refl := refl
  trans := trans
  panicked := count .panicked
  delivered _ _ := count _
  held := around_pin

section Operations

variable {outside : Outside N A}
  (htell : ∀ callback notice w, Keeps P client name w (outside.tell callback notice w).1)

include htell

/-- What a listener does, unless it is the client's own for the ends of its connections. -/
theorem act {handler : Handler} (h : handler ≠ .lose client) (payload : Event.Payload)
    (w : World N A) : Keeps P client name w (outside.act handler payload w).1 := by
  refine composable.act (fun creation _ => deliverAnswer creation _ w) (fun other _ => ?_)
    (fun other reason hlose => ?_) fun callback _ => htell callback
  · exact move other fun _ => State.acknowledged_lastEnding
  · exact move other fun ho => absurd (hlose.trans (congrArg Handler.lose ho)) h

theorem call {l : Listener Handler} (h : l.handler ≠ .lose client) (payload : Event.Payload)
    (w : World N A) : Keeps P client name w (Hub.call outside.act l payload w).1 :=
  composable.call (act htell h payload w)

/-- An event under another name: where things are calm, the client's own listener does not
stand under it. -/
theorem deliver {e : Emission} (he : e.key.name ≠ name) (w : World N A) :
    Keeps P client name w (outside.deliver e w).1 := by
  intro hw
  have hact : ∀ l ∈ w.router.listeners e.key.name, ∀ v : World N A,
      Keeps P client name v (outside.act l.handler e.payload v).1 := fun l hl v =>
    act htell (fun hlose => he (hw.listeners _ l hl hlose)) e.payload v
  exact composable.emit hact hw

variable (hlayer : Spares outside.layer name P)

include hlayer

/-- A request that the native layer may answer with events on the spot, but not of this name. -/
theorem request (r : Request) (w : World N A) :
    Keeps P client name w (outside.request r w).1 := by
  intro hw
  have hasked : Keeps P client name w (outside.asked r w) := fun hw =>
    ⟨⟨hlayer.stays r w.store.native hw.native, hw.listeners⟩,
      ⟨rfl, rfl, rfl, rfl, rfl, fun _ h => h⟩, rfl⟩
  have hevents := hlayer.events r w.store.native hw.native
  exact composable.request hasked (fun e h => deliver htell (hevents e h))
    (fun f => note (.fault f)) hw

theorem comply (other : Nat) (ask : Ask Nat) (w : World N A) :
    Keeps P client name w (outside.comply other ask w) :=
  composable.comply (fun _ => request htell hlayer _ w) (request htell hlayer _ w)
    (fun origin _ => move other fun _ => State.refused_lastEnding origin)
    fun _ _ _ _ => enqueueFirst _ w

theorem drive (other : Nat) {input : Input}
    (hi : ∀ (runtime : Bool) (s : State Nat),
      (s.step runtime input).state.lastEnding = s.lastEnding)
    (w : World N A) : Keeps P client name w (outside.drive other input w) := by
  refine composable.drive (fun m hm => ?_) fun m ask _ _ => comply htell hlayer other ask _
  have hstate : Keeps P client name (w.pin other)
      ((w.pin other).setState other (m.state.step w.store.runtime input).state) := by
    refine modifyClient other fun m' hm' _ => ?_
    obtain rfl : m = m' := Option.some.inj (hm.symm.trans hm')
    exact hi _ _
  exact hstate.trans (enact other _ _)

theorem remove (other : Nat) (w : World N A) :
    Keeps P client name w (outside.remove other w) := by
  refine composable.remove (fun m _ told htold => ?_) (count .clientRemoved) wake
  have hmarked : Keeps P client name (w.pin other) (w.markRemoved other) :=
    modifyClient other fun _ _ _ => rfl
  have hcleared (v : World N A) : Keeps P client name v (v.clear other m) :=
    (setRouter fun _ _ h => .inl (Router.mem_of_mem_listeners_removeEach
      (Router.mem_of_mem_listeners_foldl_removeAll h))).trans (closeRegistry other _)
  rcases htold with rfl | rfl
  · exact hmarked.trans (hcleared _)
  · exact (hmarked.trans (request htell hlayer _ _)).trans (hcleared _)

theorem subscribe (other : Nat) (wish : Outside.Wish) (w : World N A) :
    Keeps P client name w (outside.subscribe other wish w).1 := by
  refine composable.subscribe (fun m _ => ?_) (fun m _ _ => ⟨?_, ?_, ?_⟩)
    fun callback _ => htell callback
  · exact (tag other m w).trans (addSubscription _ _)
  · exact establish m (wish.subscription other m) wish w
  · exact request htell hlayer _ _
  · exact (unregister other _ _).trans (detach _ _)

theorem unsubscribe (number : Nat) (w : World N A) :
    Keeps P client name w (outside.unsubscribe number w) :=
  composable.unsubscribe fun s _ =>
    ⟨(detach number w).trans (unregister s.client number _), request htell hlayer _ _⟩

/-- An operation on this client or on another, with all that it makes happen. -/
theorem perform (o : Operation) (w : World N A) :
    Keeps P client name w (outside.perform o w) := by
  cases o with
  | connect other overrides =>
    exact drive htell hlayer other (fun _ => State.connect_lastEnding overrides) w
  | disconnect other => exact drive htell hlayer other (fun _ => State.disconnect_lastEnding) w
  | remove other => exact remove htell hlayer other w
  | subscribe other wish => exact subscribe htell hlayer other wish w
  | unsubscribe number => exact unsubscribe htell hlayer number w
  | on other interest callback => exact addKey (by simp) w
  | off handle => exact setRouter fun _ _ h => .inl (Router.mem_of_mem_listeners_remove h)
  | removeAll event => exact setRouter fun _ _ h => .inl (Router.mem_of_mem_listeners_removeAll h)
  | install other interceptor => exact modifyClient other fun _ _ _ => rfl
  | uninstall other number =>
    exact modifyClient other fun m _ _ => State.uninstall_lastEnding number m.state

end Operations

/-- Callbacks that run programs of operations, however deep they nest, leave a client's ending
alone if the native layer delivers no event of this name on the spot. -/
theorem nested {layer : Layer N} (h : Spares layer name P)
    (program : Nat → Notice → Program N A) (depth : Nat) :
    ∀ callback notice w, Keeps P client name w
      ((Outside.nested layer program depth).tell callback notice w).1 :=
  composable.nested keepData (fun _ hsame htell => perform htell (hsame ▸ h)) program depth

end Keeps

end MqttRelay.Client
