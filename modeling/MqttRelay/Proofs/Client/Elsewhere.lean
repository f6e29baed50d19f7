import MqttRelay.Proofs.Client.Orderly

/-!
# What leaves a shared client undisturbed

To a shared client belong the client that it holds, the configuration kept with it, its lock, the
constructions that go on for it, and the initializations of it whose turn has come. Almost nothing
that happens touches any of these: operations on clients do not, whatever events and callbacks
they bring about, unless a callback itself does. So whatever relation holds where a shared client
is undisturbed, and composes, holds across an operation if it holds across every callback. Clients
that are given up are kept track of beside this.

Results:
* `Frame.request`, `Frame.emit`, `Frame.perform`: requests, events and operations keep to such a
  relation if callbacks do.
-/

namespace MqttRelay.Client

open Native

variable {N A : Type}

/-- Whether a client is wanted on behalf of a shared client. -/
def Requester.isOf (shared : Nat) : Requester → Bool
  | .name _ => false
  | .shared number _ => number == shared

/-- Whether a task is an initialization of a shared client whose turn has come. -/
def Task.proceeds (shared : Nat) : Task → Bool
  | .proceed number .. => number == shared
  | _ => false

namespace World

/-- Whether an initialization of a shared client is under way. -/
def isLocked (shared : Nat) (w : World N A) : Bool := (w.shared? shared).any (·.locked)

/-- The client of a construction that goes on for a shared client. -/
def constructs? (shared creation : Nat) (w : World N A) : Option Nat :=
  (w.store.creations[creation]?).bind fun c =>
    if c.requester.isOf shared && !c.ended then some c.client else none

/-- How many initializations of a shared client have their turn and wait to go on. -/
def turns (shared : Nat) (w : World N A) : Nat := w.store.tasks.countP (·.proceeds shared)

/-- Whether a client was given up. -/
def isRemoved (client : Nat) (w : World N A) : Bool := (w.client? client).any (·.state.removed)

/-- Clients and constructions stay who they are. -/
structure Lasting (w after : World N A) : Prop where
  clients : ∀ client m, w.client? client = some m →
    ∃ m', after.client? client = some m' ∧ m.Becomes m'
  creations : ∀ (creation : Nat) (c : Creation), w.store.creations[creation]? = some c →
    ∃ c', after.store.creations[creation]? = some c' ∧ c'.requester = c.requester ∧
      c'.client = c.client

theorem Lasting.refl (w : World N A) : Lasting w w :=
  ⟨fun _ m hm => ⟨m, hm, .refl m⟩, fun _ c hc => ⟨c, hc, rfl, rfl⟩⟩

theorem Lasting.trans {a b c : World N A} (h₁ : Lasting a b) (h₂ : Lasting b c) :
    Lasting a c := by
  constructor
  · intro client m hm
    obtain ⟨m', hm', hb⟩ := h₁.clients client m hm
    obtain ⟨m'', hm'', hb'⟩ := h₂.clients client m' hm'
    exact ⟨m'', hm'', hb.trans hb'⟩
  · intro creation k hk
    obtain ⟨k', hk', hr, hc⟩ := h₁.creations creation k hk
    obtain ⟨k'', hk'', hr', hc'⟩ := h₂.creations creation k' hk'
    exact ⟨k'', hk'', hr'.trans hr, hc'.trans hc⟩

theorem Lasting.isRemoved {w after : World N A} (h : Lasting w after) {client : Nat}
    (hr : w.isRemoved client = true) : after.isRemoved client = true := by
  obtain ⟨m, hm, hremoved⟩ := (Option.any_eq_true _ _).1 hr
  obtain ⟨m', hm', hb⟩ := h.clients client m hm
  simp [World.isRemoved, hm', hb.removed hremoved]

theorem lasting_modifyClient (client : Nat) {f : Member → Member} {w : World N A}
    (hf : ∀ m, w.client? client = some m → m.Becomes (f m)) :
    Lasting w (w.update (·.modifyClient client f)) := by
  refine ⟨fun other m hm => ?_, fun _ c hc => ⟨c, hc, rfl, rfl⟩⟩
  rw [client?_modifyClient, hm]
  split
  · next ho =>
    subst ho
    exact ⟨f m, rfl, hf m hm⟩
  · exact ⟨m, rfl, .refl m⟩

theorem lasting_markRemoved (client : Nat) (w : World N A) :
    Lasting w (w.markRemoved client) := by
  have hpinned : Lasting w (w.pin client) :=
    ⟨fun _ m hm => ⟨m, hm, .refl m⟩, fun _ c hc => ⟨c, hc, rfl, rfl⟩⟩
  exact hpinned.trans (lasting_modifyClient client fun _ _ => ⟨rfl, fun _ => rfl, id⟩)

/-- Nothing about a shared client has changed, and no client was given up. -/
structure Elsewhere (shared : Nat) (w after : World N A) : Prop extends Lasting w after where
  runtime : after.store.runtime = w.store.runtime
  client : after.sharedClient? shared = w.sharedClient? shared
  config : after.sharedConfig? shared = w.sharedConfig? shared
  locked : after.isLocked shared = w.isLocked shared
  constructs : ∀ creation, after.constructs? shared creation = w.constructs? shared creation
  turns : after.turns shared = w.turns shared
  alive : ∀ client, after.isRemoved client = true → w.isRemoved client = true

namespace Elsewhere

variable {shared : Nat}

theorem refl (w : World N A) : Elsewhere shared w w :=
  ⟨.refl w, rfl, rfl, rfl, rfl, fun _ => rfl, rfl, fun _ => id⟩

theorem trans {a b c : World N A} (h₁ : Elsewhere shared a b) (h₂ : Elsewhere shared b c) :
    Elsewhere shared a c :=
  ⟨h₁.toLasting.trans h₂.toLasting, h₂.runtime.trans h₁.runtime, h₂.client.trans h₁.client,
    h₂.config.trans h₁.config, h₂.locked.trans h₁.locked,
    fun k => (h₂.constructs k).trans (h₁.constructs k), h₂.turns.trans h₁.turns,
    fun client h => h₁.alive client (h₂.alive client h)⟩

/-! ## Small changes -/

/-- A change beside the constructions and the shared clients that makes nobody's turn come. -/
theorem of_lasting {w after : World N A} (hlasting : Lasting w after)
    (halive : ∀ client, after.isRemoved client = true → w.isRemoved client = true)
    (hcreations : after.store.creations = w.store.creations)
    (hshareds : after.store.shareds = w.store.shareds)
    (hruntime : after.store.runtime = w.store.runtime)
    (hturns : after.turns shared = w.turns shared) : Elsewhere shared w after := by
  have hshared : after.shared? shared = w.shared? shared := by rw [shared?, hshareds]; rfl
  refine ⟨hlasting, hruntime, ?_, ?_, ?_, fun k => ?_, hturns, halive⟩
  · rw [sharedClient?, hshared]
    rfl
  · rw [sharedConfig?, hshared]
    rfl
  · rw [isLocked, hshared]
    rfl
  · rw [constructs?, hcreations]
    rfl

/-- A change of work that waits, that makes nobody's turn come. -/
theorem of_clients {w after : World N A} (hclients : after.store.clients = w.store.clients)
    (hcreations : after.store.creations = w.store.creations)
    (hshareds : after.store.shareds = w.store.shareds)
    (hruntime : after.store.runtime = w.store.runtime)
    (hturns : after.turns shared = w.turns shared) : Elsewhere shared w after := by
  have hclient (client : Nat) : after.client? client = w.client? client := by
    rw [client?, hclients]
    rfl
  refine of_lasting ⟨fun client m hm => ⟨m, (hclient client).trans hm, .refl m⟩,
    fun k c hc => ⟨c, by rwa [hcreations], rfl, rfl⟩⟩ (fun client hr => ?_) hcreations hshareds
    hruntime hturns
  rwa [isRemoved, ← hclient]

/-- What changes neither clients nor constructions nor work that waits. -/
theorem aside {w after : World N A} (hclients : after.store.clients = w.store.clients)
    (hcreations : after.store.creations = w.store.creations)
    (hshareds : after.store.shareds = w.store.shareds)
    (hruntime : after.store.runtime = w.store.runtime)
    (hready : after.store.ready = w.store.ready)
    (hsleeping : after.store.sleeping = w.store.sleeping) : Elsewhere shared w after := by
  refine of_clients hclients hcreations hshareds hruntime ?_
  simp only [World.turns, System.tasks, hready, hsleeping]

theorem count (o : Metrics.Occurrence) (w : World N A) : Elsewhere shared w (w.count o) :=
  aside rfl rfl rfl rfl rfl rfl

theorem note (e : Entry) (w : World N A) : Elsewhere shared w (w.note e) :=
  aside rfl rfl rfl rfl rfl rfl

theorem pin (client : Nat) (w : World N A) : Elsewhere shared w (w.pin client) :=
  aside rfl rfl rfl rfl rfl rfl

theorem unpin (client : Nat) (w : World N A) : Elsewhere shared w (w.unpin client) :=
  aside rfl rfl rfl rfl rfl rfl

theorem keepData (f : A → A) (w : World N A) :
    Elsewhere shared w (w.update fun s => { s with app := f s.app }) :=
  aside rfl rfl rfl rfl rfl rfl

theorem setRouter (r : Router Handler) (w : World N A) : Elsewhere shared w (w.setRouter r) :=
  aside rfl rfl rfl rfl rfl rfl

theorem addSubscription (s : Subscription) (w : World N A) :
    Elsewhere shared w (w.addSubscription s) := aside rfl rfl rfl rfl rfl rfl

/-- Tasks wait for their turn that are no initializations of the shared client. -/
theorem tasks (ts : List Task) (h : ∀ t ∈ ts, t.proceeds shared = false) (w : World N A) :
    Elsewhere shared w (w.update fun s => { s with ready := s.ready ++ ts }) := by
  refine of_clients rfl rfl rfl rfl ?_
  have hnone : ts.countP (·.proceeds shared) = 0 := List.countP_eq_zero.2 (by simpa using h)
  simp only [World.turns, System.tasks, update, List.countP_append, hnone]
  omega

theorem enqueue {t : Task} (h : t.proceeds shared = false) (w : World N A) :
    Elsewhere shared w (w.update (·.enqueue t)) := tasks [t] (by simpa using h) w

theorem enqueueFirst {t : Task} (h : t.proceeds shared = false) (w : World N A) :
    Elsewhere shared w (w.update (·.enqueueFirst t)) := by
  refine of_clients rfl rfl rfl rfl ?_
  simp [World.turns, System.tasks, update, System.enqueueFirst, h]

/-- A client changes, but stays who it is, and is not given up. -/
theorem modifyClient (client : Nat) {f : Member → Member} {w : World N A}
    (hf : ∀ m, w.client? client = some m →
      m.Becomes (f m) ∧ ((f m).state.removed = true → m.state.removed = true)) :
    Elsewhere shared w (w.update (·.modifyClient client f)) := by
  refine of_lasting (lasting_modifyClient client fun m hm => (hf m hm).1) (fun other hr => ?_)
    rfl rfl rfl rfl
  rw [isRemoved, client?_modifyClient] at hr
  rw [isRemoved]
  cases hm : w.client? other with
  | none => simp [hm] at hr
  | some m =>
    simp only [hm, Option.map_some] at hr
    split at hr
    · next ho =>
      subst ho
      simpa using (hf m hm).2 hr
    · simpa using hr

theorem composable : Composable (Elsewhere shared : World N A → World N A → Prop) where
  refl := refl
  trans := trans
  panicked := count .panicked
  delivered _ _ := count _
  held h := ((pin _ _).trans h).trans (unpin _ _)

/-! ## Steps of clients -/

theorem enact (client : Nat) (effects : List Effect) (w : World N A) :
    Elsewhere shared w (w.enact client effects) :=
  enact_rel refl trans (fun o _ => count o) (fun _ _ => enqueue rfl) w

theorem move (client : Nat) {f : State Nat → State Nat × List Effect} (w : World N A)
    (hf : ∀ s, ∃ runtime input, input ≠ Input.remove ∧ (f s).1 = (s.step runtime input).state) :
    Elsewhere shared w (w.move client f) := by
  unfold World.move
  split
  · exact refl w
  · next m hm =>
    refine trans (modifyClient client fun m' hm' => ?_) (enact client (f m.state).2 _)
    obtain rfl : m = m' := Option.some.inj (hm.symm.trans hm')
    obtain ⟨runtime, input, hinput, hstep⟩ := hf m.state
    have hremoved : (f m.state).1.removed = true ↔ m.state.removed = true := by
      rw [hstep, State.removed_step_iff, or_iff_left hinput]
    exact ⟨⟨rfl, hremoved.2, id⟩, hremoved.1⟩

/-- A construction changes, but neither for whom it is nor whether it goes on. -/
theorem modifyCreation (creation : Nat) {f : Creation → Creation} (w : World N A)
    (hf : ∀ c, (f c).requester = c.requester ∧ (f c).client = c.client ∧
      (f c).ended = c.ended) :
    Elsewhere shared w (w.update (·.modifyCreation creation f)) := by
  have hget (k : Nat) : (w.update (·.modifyCreation creation f)).store.creations[k]? =
      (w.store.creations[k]?).map fun c => if creation = k then f c else c := by
    simp only [update, System.modifyCreation, List.getElem?_modify]
    split <;> rfl
  refine ⟨⟨fun client m hm => ⟨m, hm, .refl m⟩, fun k c hc => ?_⟩, rfl, rfl, rfl, rfl,
    fun k => ?_, rfl, fun _ => id⟩
  · rw [hget, hc]
    refine ⟨_, rfl, ?_⟩
    split
    · exact ⟨(hf c).1, (hf c).2.1⟩
    · exact ⟨rfl, rfl⟩
  · rw [constructs?, hget, constructs?]
    cases w.store.creations[k]? with
    | none => rfl
    | some c =>
      obtain ⟨hr, hc, he⟩ := hf c
      simp only [Option.map_some, Option.bind_some]
      split <;> simp only [hr, hc, he]

theorem deliverAnswer (creation : Nat) (ready : Bool) (w : World N A) :
    Elsewhere shared w (w.deliverAnswer creation ready) := by
  unfold World.deliverAnswer
  split
  · exact (modifyCreation creation (f := fun c => { c with answer := some ready }) w
      fun _ => ⟨rfl, rfl, rfl⟩).trans (enqueue (t := .await creation) rfl _)
  · exact refl w

theorem wake (w : World N A) : Elsewhere shared w w.wake := by
  obtain ⟨creations, h⟩ := w.wake_eq
  rw [h]
  refine tasks _ (fun t ht => ?_) w
  obtain ⟨creation, -, rfl⟩ := List.mem_map.1 ht
  rfl

theorem detach (number : Nat) (w : World N A) : Elsewhere shared w (w.detach number) := by
  obtain ⟨subscriptions, h⟩ := w.detach_store number
  exact aside (by rw [h]) (by rw [h]) (by rw [h]) (by rw [h]) (by rw [h]) (by rw [h])

theorem unregister (client number : Nat) (w : World N A) :
    Elsewhere shared w (w.unregister client number) :=
  modifyClient client fun _ _ => ⟨⟨rfl, id, id⟩, id⟩

theorem enroll (client number : Nat) (w : World N A) :
    Elsewhere shared w (w.enroll client number) :=
  modifyClient client fun _ _ => ⟨⟨rfl, id, id⟩, id⟩

theorem tag (client : Nat) (m : Member) (w : World N A) : Elsewhere shared w (w.tag client m) :=
  modifyClient client fun _ _ => ⟨⟨rfl, id, id⟩, id⟩

/-- A subscription is made while its client is held. -/
theorem establish (m : Member) (s : Subscription) (wish : Outside.Wish) (w : World N A) :
    Elsewhere shared (w.pin s.client) (w.establish m s wish) := by
  let tagged := (w.pin s.client).tag s.client m
  have hentered : Elsewhere shared tagged (tagged.enter s wish) :=
    (setRouter _ tagged).trans (addSubscription _ _)
  exact (((tag s.client m _).trans hentered).trans (enroll s.client _ _)).trans
    (count .subscriptionAdded _)

theorem uninstallInterceptor (client number : Nat) (w : World N A) :
    Elsewhere shared w (w.uninstallInterceptor client number) := by
  refine modifyClient client fun m _ => ?_
  have hremoved := State.uninstall_removed number m.state
  exact ⟨⟨rfl, fun hr => hremoved.trans hr, id⟩, fun hr => hremoved.symm.trans hr⟩

theorem closeRegistry (client : Nat) (w : World N A) :
    Elsewhere shared w (w.closeRegistry client) :=
  closeRegistry_rel refl trans
    (modifyClient client fun _ _ => ⟨⟨rfl, id, fun _ => rfl⟩, id⟩) detach

end Elsewhere

/-! ## Relations that allow for what leaves a shared client undisturbed -/

/-- A relation that holds wherever a shared client is undisturbed and where one of some clients is
given up, and that composes. -/
structure Frame (shared : Nat) (mayGo : Nat → Prop) (R : World N A → World N A → Prop) :
    Prop where
  elsewhere : ∀ {w after}, Elsewhere shared w after → R w after
  gone : ∀ {client}, mayGo client → ∀ w, R w (w.markRemoved client)
  trans : ∀ {a b c}, R a b → R b c → R a c
  lasting : ∀ {w after}, R w after → Lasting w after

/-- Clients and constructions stay who they are across operations, if they do across callbacks. -/
theorem frame_lasting (shared : Nat) :
    Frame shared (fun _ => True) (Lasting : World N A → World N A → Prop) :=
  ⟨Elsewhere.toLasting, fun _ => lasting_markRemoved _, Lasting.trans, id⟩

namespace Frame

variable {shared : Nat} {mayGo : Nat → Prop} {R : World N A → World N A → Prop}

theorem refl (hR : Frame shared mayGo R) (w : World N A) : R w w := hR.elsewhere (.refl w)

/-- What is done after and before small changes. -/
theorem around (hR : Frame shared mayGo R) {a b c d : World N A} (h₁ : Elsewhere shared a b)
    (h : R b c) (h₂ : Elsewhere shared c d) : R a d :=
  hR.trans (hR.elsewhere h₁) (hR.trans h (hR.elsewhere h₂))

theorem composable (hR : Frame shared mayGo R) : Composable R where
  refl := hR.refl
  trans := hR.trans
  panicked w := hR.elsewhere (.count .panicked w)
  delivered _ _ w := hR.elsewhere (.count _ w)
  held h := hR.around (.pin _ _) h (.unpin _ _)

section Operations

variable {outside : Outside N A} (hR : Frame shared mayGo R)
  (htell : ∀ callback notice w, R w (outside.tell callback notice w).1)

include hR htell

/-- What a listener does when its event is delivered. -/
theorem act (handler : Handler) (payload : Event.Payload) (w : World N A) :
    R w (outside.act handler payload w).1 :=
  hR.composable.act (fun creation _ => hR.elsewhere (.deliverAnswer creation _ w))
    (fun client _ => hR.elsewhere (.move client w fun _ => ⟨true, .acknowledged, by simp, rfl⟩))
    (fun client reason _ => hR.elsewhere
      (.move client w fun _ => ⟨w.store.runtime, .ended reason, by simp, rfl⟩))
    fun callback _ => htell callback

theorem emit (event : String) (payload : Event.Payload) (w : World N A) :
    R w (Hub.emit outside.act event payload w).1 :=
  hR.composable.emit fun l _ => hR.act htell l.handler payload

theorem deliverAll (events : List Emission) (w : World N A) :
    R w (outside.deliverAll events w).1 :=
  hR.composable.deliverAll (fun e _ => hR.emit htell e.key.name e.payload) w

/-- A request, with the events that the native layer delivers on the spot. -/
theorem request (r : Request) (w : World N A) : R w (outside.request r w).1 := by
  have hasked : Elsewhere shared w (outside.asked r w) := .aside rfl rfl rfl rfl rfl rfl
  exact hR.composable.request (hR.elsewhere hasked)
    (fun e _ => hR.emit htell e.key.name e.payload) fun f v => hR.elsewhere (.note (.fault f) v)

theorem comply (client : Nat) (ask : Ask Nat) (w : World N A) :
    R w (outside.comply client ask w) :=
  hR.composable.comply (fun _ => hR.request htell _ w) (hR.request htell _ w)
    (fun origin v => hR.elsewhere (.move client v fun _ => ⟨true, .refused origin, nofun, rfl⟩))
    fun _ _ _ _ => hR.elsewhere (.enqueueFirst rfl w)

/-- A client has a turn with all that follows. -/
theorem drive (client : Nat) (input : Input) (hinput : input ≠ .remove) (w : World N A) :
    R w (outside.drive client input w) := by
  refine hR.composable.drive (fun m hm => hR.elsewhere ?_)
    fun _ ask _ _ => hR.comply htell client ask _
  have hstate : Elsewhere shared (w.pin client)
      ((w.pin client).setState client (m.state.step w.store.runtime input).state) := by
    refine .modifyClient client fun m' hm' => ?_
    obtain rfl : m = m' := Option.some.inj (hm.symm.trans hm')
    have hremoved := State.removed_step_iff w.store.runtime input m.state
    rw [or_iff_left hinput] at hremoved
    exact ⟨⟨rfl, hremoved.2, id⟩, hremoved.1⟩
  exact hstate.trans (.enact client _ _)

omit htell in
/-- What a client had is taken away. -/
theorem clear (client : Nat) (m : Member) (w : World N A) : R w (w.clear client m) :=
  hR.elsewhere ((Elsewhere.setRouter _ w).trans (.closeRegistry client _))

/-- What follows when a client was given up. -/
theorem remove_rest {client : Nat} {m : Member} {w : World N A} (hm : w.client? client = some m) :
    R (w.markRemoved client) (outside.remove client w) := by
  have hend (v : World N A) : Elsewhere shared v (v.wake.unpin client) :=
    (Elsewhere.wake v).trans (.unpin client _)
  rw [outside.remove_eq hm]
  split
  · exact hR.trans (hR.clear client m _) (hR.elsewhere (hend _))
  · exact hR.trans (hR.trans (hR.request htell _ _) (hR.clear client m _))
      (hR.elsewhere ((Elsewhere.count .clientRemoved _).trans (hend _)))

theorem remove {client : Nat} (hclient : mayGo client) (w : World N A) :
    R w (outside.remove client w) := by
  cases hm : w.client? client with
  | none =>
    rw [outside.remove_of_none hm]
    exact hR.refl w
  | some m => exact hR.trans (hR.gone hclient w) (hR.remove_rest htell hm)

theorem subscribe (client : Nat) (wish : Outside.Wish) (w : World N A) :
    R w (outside.subscribe client wish w).1 := by
  refine hR.composable.subscribe (fun m _ => hR.elsewhere ?_) (fun m _ _ => ⟨?_, ?_, ?_⟩)
    fun callback _ => htell callback
  · exact (Elsewhere.tag client m w).trans (.addSubscription _ _)
  · exact hR.elsewhere (.establish m (wish.subscription client m) wish w)
  · exact hR.request htell _ _
  · exact hR.elsewhere ((Elsewhere.unregister client _ _).trans (.detach _ _))

theorem unsubscribe (number : Nat) (w : World N A) : R w (outside.unsubscribe number w) :=
  hR.composable.unsubscribe fun s _ => ⟨hR.elsewhere ((Elsewhere.detach number w).trans
    (.unregister s.client number _)), hR.request htell _ _⟩

/-- An operation, with all that it makes happen. -/
theorem perform (o : Operation) (hgone : ∀ client, o = .remove client → mayGo client)
    (w : World N A) : R w (outside.perform o w) := by
  cases o with
  | connect client overrides => exact hR.drive htell client (.connect overrides) nofun w
  | disconnect client => exact hR.drive htell client .disconnect nofun w
  | remove client => exact hR.remove htell (hgone client rfl) w
  | subscribe client wish => exact hR.subscribe htell client wish w
  | unsubscribe number => exact hR.unsubscribe htell number w
  | on client interest callback => exact hR.elsewhere (.setRouter _ w)
  | off handle => exact hR.elsewhere (.setRouter _ w)
  | removeAll event => exact hR.elsewhere (.setRouter _ w)
  | install client interceptor =>
    exact hR.elsewhere (.modifyClient client fun _ _ => ⟨⟨rfl, id, id⟩, id⟩)
  | uninstall client number => exact hR.elsewhere (.uninstallInterceptor client number w)

end Operations

end Frame

end World

end MqttRelay.Client
