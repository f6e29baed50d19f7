import MqttRelay.Native.Recorder
import MqttRelay.Proofs.Native.Run
import MqttRelay.Proofs.Scenario.Pieces

/-!
# The removal of a client is final

A client may be removed at any time, also inside one of its own callbacks and while a retry or
an interceptor of it is out. Whatever happens afterwards, the client stays disconnected and
starts nothing, operations on it and on its subscriptions reach nobody, and no callback that was
registered with it before is called again.

Results:
* `Gone.inert`: a removed client with a closed registry can be set in motion by nothing.
* `retired_remove`: the listeners of a removed client are switched off for good.
* `removal_final`: both hold ever after, from whatever moment a client is removed at.
-/

namespace MqttRelay.Client

open Native

variable {N A : Type}

namespace State

variable {I : Type}

/-- Nothing but another removal changes a removed client. -/
theorem step_state_of_removed {s : State I} (h : s.Sound) (hr : s.removed = true)
    (runtime : Bool) {input : Input} (hi : input ≠ .remove) :
    (s.step runtime input).state = s := by
  obtain ⟨-, hcycle⟩ := h.ofRemoved hr
  cases input with
  | remove => exact absurd rfl hi
  | refused origin => simp [State.step, refused, quiet, hcycle]
  | failed generation panicked =>
    have hsame : { s with retry := { s.retry with inCycle := false } } = s := by rw [← hcycle]
    simp only [State.step, failed, quiet, hsame, ite_self]
  | _ =>
    simp [State.step, quiet, connect, disconnect, acknowledged, ended, fired, answered, hr]

end State

namespace World

/-! ## Turns that change nothing -/

theorem unpin_pin (w : World N A) (client : Nat) : (w.pin client).unpin client = w := by
  simp [pin, unpin, update]

theorem setState_self {w : World N A} {client : Nat} {m : Member}
    (h : w.client? client = some m) : w.setState client m.state = w := by
  have hsame : w.store.clients.modify client (fun m' => { m' with state := m.state }) =
      w.store.clients := by
    apply List.ext_getElem?
    intro i
    rw [List.getElem?_modify]
    split
    · next hi =>
      subst hi
      rw [show w.store.clients[client]? = some m from h]
      rfl
    · exact id_map _
  simp [setState, update, System.modifyClient, hsame]

/-- Effects that only count do so whether or not a client is held. -/
theorem enact_pin {effects : List Effect} (h : ∀ e ∈ effects, ∃ o, e = .count o)
    (client : Nat) (w : World N A) :
    ((w.pin client).enact client effects).unpin client = w.enact client effects := by
  induction effects generalizing w with
  | nil => exact unpin_pin w client
  | cons e effects ih =>
    obtain ⟨⟨o, rfl⟩, hrest⟩ := List.forall_mem_cons.1 h
    exact ih hrest (w.count o)

/-- A removed client that is sound only counts what it is told. -/
theorem drive_of_removed (outside : Outside N A) {client : Nat} {m : Member} {w : World N A}
    (hm : w.client? client = some m) (h : m.state.Sound) (hr : m.state.removed = true)
    {input : Input} (hi : input ≠ .remove) :
    outside.drive client input w =
      w.enact client (m.state.step w.store.runtime input).effects := by
  obtain ⟨hask, hcounts⟩ := m.state.step_of_removed w.store.runtime input hr
  have hm' : (w.pin client).client? client = some m := hm
  simp only [Outside.drive, hm, Option.isNone_iff_eq_none.1 hask,
    State.step_state_of_removed h hr w.store.runtime hi, setState_self hm']
  exact enact_pin hcounts client w

/-! ## A client that is gone -/

/-- A client is removed and its registry closed. -/
def Gone (client : Nat) (w : World N A) : Prop :=
  ∃ m, w.client? client = some m ∧ m.state.removed = true ∧ m.registry.closed = true

theorem Gone.leads {client : Nat} {w after : World N A} (h : w.Gone client)
    (hl : Leads w after) : after.Gone client := by
  obtain ⟨m, hm, hr, hc⟩ := h
  obtain ⟨m', hm', hb⟩ := hl.client hm
  exact ⟨m', hm', hb.removed hr, hb.closed hc⟩

theorem client?_closeRegistry {client : Nat} {m : Member} {w : World N A}
    (hm : w.client? client = some m) :
    (w.closeRegistry client).client? client =
      some { m with registry := { m.registry with entries := [], closed := true } } := by
  simp only [closeRegistry, hm]
  obtain ⟨_, hstore⟩ := foldl_detach_store m.registry.entries (w.shut client)
  show (m.registry.entries.foldl (fun w n => w.detach n) (w.shut client)).client? client = _
  rw [client?, hstore]
  show (w.shut client).client? client = _
  rw [shut, client?_modifyClient, if_pos rfl, hm]
  rfl

/-- A client that was removed is gone. -/
theorem gone_remove {outside : Outside N A}
    (htell : ∀ callback notice w, Leads w (outside.tell callback notice w).1) {client : Nat}
    {m : Member} {w : World N A} (hm : w.client? client = some m) :
    (outside.remove client w).Gone client := by
  obtain ⟨told, htold, hrest⟩ := Leads.remove_told htell hm
  obtain ⟨m₂, hm₂, hr⟩ := htold.removed hm
  have hclosed := client?_closeRegistry (w := told.setRouter (unlisten m told.router)) hm₂
  obtain ⟨m₃, hm₃, hb₃⟩ := hrest.client hclosed
  exact ⟨m₃, hm₃, hb₃.removed hr, hb₃.closed rfl⟩

/-- The subscriptions of a client that is gone have ended. -/
theorem Gone.inactive {client : Nat} {w : World N A} (h : w.Gone client) (ho : Orderly w)
    {number : Nat} {s : Subscription} (hs : w.store.subscriptions[number]? = some s)
    (hclient : s.client = client) : s.active = false := by
  obtain ⟨m, hm, -, hc⟩ := h
  apply Bool.eq_false_iff.2
  intro ha
  obtain ⟨m', hm', hopen, -⟩ := ho.listed number s hs ha
  rw [hclient, hm, Option.some.injEq] at hm'
  subst hm'
  exact absurd (hc.symm.trans hopen) (by simp)

/-- Nothing sets a client in motion. It is disconnected, and neither a timer nor a cycle is
under way. Connecting and disconnecting it, firing its timers and ending its subscriptions does
nothing, an interceptor that comes back is only counted, a new subscription is entered as one
that never was active, and another removal does not reach the native layer. -/
structure Inert (x : Surroundings N A) (client : Nat) (w : World N A) : Prop where
  standing : ∃ m, w.client? client = some m ∧ m.state.removed = true ∧
    m.state.status = .disconnected ∧ m.state.retry.timer = false ∧
    m.state.retry.inCycle = false
  connect : ∀ overrides, x.connect client overrides w = w
  disconnect : x.disconnect client w = w
  fire : ∀ generation, x.run (.fire client generation) w = w ∧
    x.run (.retry client generation 0) w = w
  conclude : ∀ generation verdict,
    (x.conclude client generation verdict w).store = w.store ∧
      (x.conclude client generation verdict w).router = w.router
  subscribe : ∀ wish, ∃ tag s, s.active = false ∧ x.subscribe client wish w =
    ((w.update (·.modifyClient client fun m =>
        { m with registry := { m.registry with tag := tag } })).addSubscription s,
      w.store.subscriptions.length)
  subscriptions : ∀ (number : Nat) (s : Subscription),
    w.store.subscriptions[number]? = some s → s.client = client →
      s.active = false ∧ x.unsubscribe number w = w
  remove : (x.remove client w).store.native = w.store.native ∧
    (x.remove client w).store.journal = w.store.journal

theorem enact_count_store {effects : List Effect} (h : ∀ e ∈ effects, ∃ o, e = .count o)
    (client : Nat) (w : World N A) :
    (w.enact client effects).store = w.store ∧ (w.enact client effects).router = w.router := by
  induction effects generalizing w with
  | nil => exact ⟨rfl, rfl⟩
  | cons e effects ih =>
    obtain ⟨⟨o, rfl⟩, hrest⟩ := List.forall_mem_cons.1 h
    exact ih hrest (w.count o)

/-- A client that is gone is inert in an orderly world. -/
theorem Gone.inert {client : Nat} {w : World N A} (h : w.Gone client) (ho : Orderly w)
    (x : Surroundings N A) : Inert x client w := by
  have hgone := h
  obtain ⟨m, hm, hr, hc⟩ := h
  have hsteady := ho.steady client m hm
  have hdrive {input : Input} (hi : input ≠ .remove) :=
    drive_of_removed x.toOutside hm hsteady.toSound hr hi
  have hstill {input : Input} (hi : input ≠ .remove)
      (heffects : (m.state.step w.store.runtime input).effects = []) :
      x.drive client input w = w := by
    rw [hdrive hi, heffects]
    rfl
  have hfire (generation : Nat) : Surroundings.run.fire x client generation w = w := by
    unfold Surroundings.run.fire
    split
    · exact hstill (by simp) (by simp [State.step, State.fired, hr])
    · rfl
  constructor
  · exact ⟨m, hm, hr, (hsteady.ofRemoved hr).1, hsteady.timer hr, (hsteady.ofRemoved hr).2⟩
  · intro overrides
    exact hstill (by simp) (by simp [State.step, State.connect, hr])
  · exact hstill (by simp) (by simp [State.step, State.disconnect, hr])
  · intro generation
    exact ⟨hfire generation, hfire generation⟩
  · intro generation verdict
    have hcounted {input : Input} (hi : input ≠ .remove) :
        (x.drive client input w).store = w.store ∧ (x.drive client input w).router = w.router := by
      rw [hdrive hi]
      exact enact_count_store (m.state.step_of_removed _ input hr).2 client w
    cases verdict with
    | proceed overrides => exact hcounted (by simp)
    | fail panicked => exact hcounted (by simp)
  · intro wish
    simp only [Outside.subscribe, hm, hc, if_true]
    exact ⟨_, _, rfl, rfl⟩
  · intro number s hs hclient
    have hi := hgone.inactive ho hs hclient
    refine ⟨hi, ?_⟩
    simp [Outside.unsubscribe, hs, hi]
  · obtain ⟨hnative, hjournal, -⟩ := (remove_again_iff x.toOutside client m w hm hr).1
    exact ⟨hnative, hjournal⟩

/-! ## Listeners of a removed client -/

/-- A listener under the name of an event of a client, or of a subscription of it. -/
def Hearing (client id : Nat) (w : World N A) : Prop :=
  (∃ m, w.client? client = some m ∧ ∃ k ∈ Event.Kind.ofClient,
    ∃ l ∈ w.router.listeners (Event.Key.client m.identity.clientId k).name, l.id = id) ∨
  ∃ (number : Nat) (s : Subscription), w.store.subscriptions[number]? = some s ∧
    s.client = client ∧ ∃ handle ∈ s.listeners, handle.id = id

/-- A callback that was registered with a client listens to it. -/
theorem hearing_on {client : Nat} {m : Member} {w : World N A} (hm : w.client? client = some m)
    (interest : Interest) (callback : Nat) :
    (w.on client interest callback).1.Hearing client (w.on client interest callback).2.id := by
  refine .inl ⟨m, hm, interest.event, by cases interest <;> decide,
    ⟨w.router.nextId, some interest.event, .tell interest client callback⟩, ?_, rfl⟩
  have hid : ((w.client? client).map (·.identity.clientId)).getD "" = m.identity.clientId := by
    rw [hm]
    rfl
  simp only [on, hid, setRouter, Router.addKey]
  rw [Router.listeners_add, if_pos rfl]
  exact List.mem_append_right _ (List.mem_singleton.2 rfl)

/-- Once a client's listeners went, each that stood under the name of one of its events is
switched off. -/
theorem retired_unlisten {m : Member} {r : Router Handler} {k : Event.Kind}
    (hk : k ∈ Event.Kind.ofClient) {l : Listener Handler}
    (hl : l ∈ r.listeners (Event.Key.client m.identity.clientId k).name) :
    l.id ∈ (unlisten m r).retired := by
  have hnone : (unlisten m r).listeners (Event.Key.client m.identity.clientId k).name = [] := by
    rw [Router.listeners, unlisten, Router.get?_foldl_removeAll_of_mem hk]
    rfl
  have hafter : ∃ changes, unlisten m r = r.after changes := by
    rw [unlisten, Router.removeEach_eq_after, Router.foldl_removeAll_eq_after,
      ← Router.after_append]
    exact ⟨_, rfl⟩
  obtain ⟨changes, hchanges⟩ := hafter
  rw [hchanges] at hnone ⊢
  rcases Router.stands_or_retired hl changes with hs | hs
  · rw [hnone] at hs
    cases hs
  · exact hs

/-- Whatever listened to a client before its removal is switched off for good. -/
theorem retired_remove {outside : Outside N A}
    (htell : ∀ callback notice w, Leads w (outside.tell callback notice w).1) {client : Nat}
    {m : Member} {u w v : World N A} (hu : Orderly u) (huw : Leads u w)
    (hm : w.client? client = some m) (hv : Leads (outside.remove client w) v) {id : Nat}
    (hid : u.Hearing client id) : id ∈ v.router.retired := by
  rcases hid with ⟨m', hm', k, hk, l, hl, rfl⟩ | ⟨number, s, hs, hclient, handle, hh, rfl⟩
  · obtain ⟨told, htold, hrest⟩ := Leads.remove_told htell hm
    obtain ⟨m'', hm'', hb⟩ := huw.client hm'
    obtain rfl : m = m'' := Option.some.inj (hm.symm.trans hm'')
    rw [← hb.identity] at hl
    have hmarked := (Leads.pin client w).trans (Leads.markRemoved client w)
    obtain ⟨changes, hchanges⟩ := ((huw.trans hmarked).trans htold).router
    -- What is left after the client's listeners went leads to the end.
    have hlater : Leads (told.setRouter (unlisten m told.router)) v :=
      ((Leads.clear hm htold).trans hrest).trans hv
    apply hlater.retired_subset
    rcases Router.stands_or_retired hl changes with hl | hl
    · rw [← hchanges] at hl
      exact retired_unlisten hk hl
    · rw [← hchanges] at hl
      exact (Leads.unlisten m told).retired_subset hl
  · have huv : Leads u v := (huw.trans (Leads.remove htell client w)).trans hv
    obtain ⟨s', hs', hclient', -, hlisteners⟩ := huv.subscription hu hs
    rcases hlisteners handle hh with hh | hh
    · -- The subscription has ended, and left no listener that is not switched off.
      have hv' := hu.leads huv
      have hended :=
        ((gone_remove htell hm).leads hv).inactive hv' hs' (hclient'.trans hclient)
      rw [hv'.idle number s' hs' hended] at hh
      cases hh
    · exact hh

/-- A listener that was switched off is called by no dispatch, not even by one that is under
way. -/
theorem not_called_of_retired {outside : Outside N A}
    (htell : ∀ callback notice w, Leads w (outside.tell callback notice w).1) {v : World N A}
    {id : Nat} (h : id ∈ v.router.retired) (payload : Event.Payload)
    (ls : List (Listener Handler)) :
    ∀ c ∈ (Hub.dispatch outside.act payload ls v).2, c.listener.id ≠ id := by
  rintro c hc rfl
  have hturn : c.listener ∈ (Hub.turns outside.act payload ls v).map (·.1) := by
    rw [← Hub.dispatch_calls_eq_turns]
    exact List.mem_map_of_mem hc
  obtain ⟨t, ht, hl⟩ := List.mem_map.1 hturn
  have hleads : Leads v t.2 :=
    Hub.turn_rel Leads.refl Leads.trans ls (fun l _ => Leads.call htell l payload) v t ht
  have hactive := Hub.isActive_of_mem_turns ht
  rw [hl, Router.isActive_of_retired (hleads.retired_subset h)] at hactive
  cases hactive

/-! ## Refusals -/

/-- A refused subscription is told so while its client is as it was when it was asked for. -/
def RefusesAtOnce (outside : Outside N A) (client : Nat) (w : World N A) : Prop :=
  ∀ m wish callback fault, w.client? client = some m → m.registry.closed = false →
    wish.onRefused = some callback →
    (outside.layer.answer (.subscribe (SubscriptionId.generate m.identity.clientId wish.topic
      wish.qos (m.registry.tag + 1)) m.identity.clientId wish.topic wish.qos)
      w.store.native).2.fault = some fault →
    ∃ notice asked, (asked.client? client).map (·.state) = some m.state ∧
      let (told, returned) := outside.tell callback notice asked
      (outside.subscribe client wish w).1 =
        (if returned then told else Hub.count told .panicked).unpin client

/-- A native layer that delivers nothing together with a refusal. -/
def RefusesQuietly (layer : Layer N) : Prop :=
  ∀ r n, (layer.answer r n).2.fault ≠ none → (layer.answer r n).2.events = []

theorem refusesQuietly_recorder : RefusesQuietly Recorder.layer := by
  intro r n hf
  show (n.answer r).2.events = []
  replace hf : (n.answer r).2.fault ≠ none := hf
  unfold Recorder.answer at hf ⊢
  dsimp only at hf ⊢
  split at hf
  · next h => rw [if_pos h]
  · exact absurd rfl hf

theorem refusesQuietly_adapter : RefusesQuietly Adapter.layer :=
  fun r n _ => (n.answer_parts r).2.2.2

theorem request_of_quiet {outside : Outside N A} {r : Request} {w : World N A} {fault : Fault}
    (hf : (outside.layer.answer r w.store.native).2.fault = some fault)
    (hevents : (outside.layer.answer r w.store.native).2.events = []) :
    outside.request r w =
      (((w.note (.request r)).update fun s =>
        { s with native := (outside.layer.answer r w.store.native).1 }).note (.fault fault),
        some fault) := by
  have hnative : (w.note (.request r)).store.native = w.store.native := rfl
  simp only [Outside.request, hnative, hf, hevents, Outside.deliverAll, List.foldl_nil]

theorem request_of_refused {outside : Outside N A} (h : RefusesQuietly outside.layer)
    {r : Request} {w : World N A} {fault : Fault}
    (hf : (outside.layer.answer r w.store.native).2.fault = some fault) :
    outside.request r w =
      (((w.note (.request r)).update fun s =>
        { s with native := (outside.layer.answer r w.store.native).1 }).note (.fault fault),
        some fault) :=
  request_of_quiet hf (h r w.store.native (by rw [hf]; nofun))

/-- With a native layer that delivers nothing together with a refusal, nothing happens between
the request for a subscription and the callback that is told of its refusal. -/
theorem refusesAtOnce {outside : Outside N A} (h : RefusesQuietly outside.layer) (client : Nat)
    (w : World N A) : RefusesAtOnce outside client w := by
  intro m wish callback fault hm hopen hcallback hfault
  have hrequest {v : World N A} (hv : v.store.native = w.store.native) :=
    request_of_refused (w := v) h (by rw [hv]; exact hfault)
  simp only [Outside.subscribe, hm, hopen, hcallback, Bool.false_eq_true, if_false]
  rw [hrequest]
  · refine ⟨_, _, ?_, rfl⟩
    rw [client?_detach]
    have hm : w.store.clients[client]? = some m := hm
    simp [client?, unregister, update, Hub.count, pin, setRouter, note, System.note, hm]
  · rfl

/-! ## The removal of a client -/

/-- Wherever a client is removed, in the midst of its own callbacks as well, nothing that happens
afterwards sets it in motion again. No question to an interceptor waits, and what listened to
the client at any time before is switched off and called by no dispatch, not even by one that
was under way. The one callback that is told without listening, that of a refused subscription,
is told before anything else happens. -/
theorem removal_final {x : Surroundings N A} (hx : x.OfPieces) {start w v : World N A}
    (hstart : Fresh start) (hw : Leads start w) {client : Nat} {m : Member}
    (hm : w.client? client = some m) (hv : Leads (x.remove client w) v) :
    (∀ h, Leads (x.remove client w) (x.happen h v)) ∧
    Inert x client v ∧
    (∀ t ∈ v.store.tasks, t.isQuestion = false) ∧
    (∀ u id, Leads start u → Leads u w → u.Hearing client id →
      v.router.isActive id = false ∧
      ∀ payload ls, ∀ c ∈ (Hub.dispatch x.act payload ls v).2, c.listener.id ≠ id) ∧
    (RefusesQuietly x.layer → ∀ u, RefusesAtOnce x.toOutside client u) := by
  have ho : Orderly v :=
    ((hstart.orderly.leads hw).leads (Leads.remove hx.tell client w)).leads hv
  have hgone : v.Gone client := (gone_remove hx.tell hm).leads hv
  refine ⟨fun h => hv.trans (Leads.happen hx h v), hgone.inert ho x, ho.asked, ?_,
    fun hquiet u => refusesAtOnce hquiet client u⟩
  intro u id hu huw hid
  have hretired := retired_remove hx.tell (hstart.orderly.leads hu) huw hm hv hid
  exact ⟨Router.isActive_of_retired hretired,
    fun payload ls => not_called_of_retired hx.tell hretired payload ls⟩

open Scenario (surroundings ofPieces_surroundings)

/-- A world in which nothing happened yet, with a native layer that connects at once. -/
def untouched : Scenario.State := Scenario.Settings.start { behavior := .accept }

/-- The end of a connection. -/
def loss : Event.Payload := (Event.Disconnected.mk .connectionError none).payload

/-- A client that is to connect again whenever its connection is lost. -/
def made : Scenario.State :=
  (untouched.addClient (.name "a") {
    clientId := "x", host := "broker.test", port := 1883,
    options := { autoReconnect := some true } }).1

/-- The client has a callback for lost connections, a connection and a subscription. -/
def subscribed : Scenario.State :=
  (surroundings.subscribe 0 ⟨"t", .atMostOnce, 1, none, none⟩
    (surroundings.connect 0 none (made.on 0 .disconnected 0).1)).1

/-- The connection is lost: a retry is scheduled, and the callback has its turn. -/
def interrupted : Scenario.State :=
  pin (Hub.dispatch surroundings.act loss [⟨3, some .disconnected, .lose 0⟩] subscribed).1 0

theorem leads_made : Leads untouched made := Leads.addClient _ _ _

theorem leads_subscribed : Leads (made.on 0 .disconnected 0).1 subscribed :=
  (Leads.drive ofPieces_surroundings.tell 0 rfl _).trans
    (Leads.subscribe ofPieces_surroundings.tell _ _ _)

theorem leads_interrupted : Leads subscribed interrupted :=
  (Leads.dispatch ofPieces_surroundings.tell _ _ _).trans (Leads.pin _ _)

/-- A client is removed inside its callback while a retry of it is scheduled. Afterwards the
retry has its turn, the connection is lost again, and the client is connected and subscribed. It
stays inert, and its callback and its subscription are switched off. -/
theorem removal_final_in_callback :
    let v := [.turn (.retry 0 3 0), .emit "xdisconnected" loss, .perform (.connect 0 none),
      .perform (.subscribe 0 ⟨"t", .atMostOnce, 1, none, none⟩)].foldl
      (fun w h => surroundings.happen h w) (surroundings.remove 0 interrupted)
    interrupted.store.ready = [.retry 0 3 4001] ∧ interrupted.store.pinned = [0] ∧
      interrupted.router.isActive 4 = true ∧ interrupted.router.isActive 5 = true ∧
      Inert surroundings 0 v ∧ v.store.subscriptions.map (·.active) = [false, false] ∧
      v.router.isActive 4 = false ∧ v.router.isActive 5 = false ∧
      ∀ u, RefusesAtOnce surroundings.toOutside 0 u := by
  intro v
  have hfresh : Fresh untouched := Scenario.fresh_start _
  have hlistening : Leads untouched (made.on 0 .disconnected 0).1 :=
    leads_made.trans (Leads.on _ _ _ _)
  have hlater : Leads (made.on 0 .disconnected 0).1 interrupted :=
    leads_subscribed.trans leads_interrupted
  obtain ⟨m, hm⟩ : ∃ m, interrupted.client? 0 = some m := Option.isSome_iff_exists.1 (by decide)
  have hv : Leads (surroundings.remove 0 interrupted) v :=
    foldl_rel Leads.refl Leads.trans (fun h _ => Leads.happen ofPieces_surroundings h) _
  obtain ⟨-, hinert, -, hcallbacks, hrefusals⟩ :=
    removal_final ofPieces_surroundings hfresh (hlistening.trans hlater) hm hv
  refine ⟨by decide, by decide, by decide, by decide, hinert, by decide +kernel, ?_, ?_,
    hrefusals refusesQuietly_recorder⟩
  · -- The callback listens from its registration on.
    obtain ⟨m', hm'⟩ : ∃ m', made.client? 0 = some m' := Option.isSome_iff_exists.1 (by decide)
    exact (hcallbacks _ 4 hlistening hlater (hearing_on hm' .disconnected 0)).1
  · have hsubscription : Hearing 0 5 subscribed :=
      .inr ⟨0, (subscribed.store.subscriptions[0]?).get (by decide), by simp, by decide, by decide⟩
    exact (hcallbacks _ 5 (hlistening.trans leads_subscribed) leads_interrupted hsubscription).1

end World

end MqttRelay.Client
