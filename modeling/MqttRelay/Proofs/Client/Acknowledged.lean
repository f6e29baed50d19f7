import MqttRelay.Proofs.Client.Finality
import MqttRelay.Proofs.Client.Realm
import MqttRelay.Proofs.Router.Emission
import MqttRelay.Proofs.Router.Tidiness

/-!
# What callbacks find at an acknowledgement

A client has a listener of its own for acknowledgements, which is registered when the client is
made and moves its status. Callbacks for made connections are listeners of the same event, called
after it. An acknowledgement counts only while connecting; elsewhere it is stale and moves nothing,
but the callbacks are called for it all the same.

Results:
* `Hub.turn_eq`: what no call changes is at a turn as it was at the beginning.
* `World.mem_turns_own`: the client's own listener has its turn before every callback.
* `World.status_at_connected_callback`: the status that a callback finds at its turn.
* `World.stale_acknowledgement_is_heard`: a callback is called while disconnected.
-/

namespace MqttRelay

/-- Of two places in a list the later one comes after the earlier one. -/
theorem List.eq_append_cons_of_notMem {α : Type} {xs ys before after : List α} {a b : α}
    (h : xs ++ a :: ys = before ++ b :: after) (hxs : b ∉ xs) (hab : b ≠ a) :
    ∃ middle, before = xs ++ a :: middle ∧ ys = middle ++ b :: after := by
  rcases List.append_eq_append_iff.1 h with ⟨rest, rfl, hrest⟩ | ⟨rest, rfl, hrest⟩
  · cases rest with
    | nil => exact absurd (List.cons.inj hrest).1.symm hab
    | cons c middle =>
      obtain ⟨rfl, hys⟩ := List.cons.inj hrest
      exact ⟨middle, rfl, hys⟩
  · cases rest with
    | nil => exact absurd (List.cons.inj hrest).1 hab
    | cons c middle =>
      obtain ⟨rfl, -⟩ := List.cons.inj hrest
      exact absurd (List.mem_append_right _ List.mem_cons_self) hxs

namespace Hub

variable {S H : Type} {act : Act S H} {payload : Event.Payload}

/-- What no call before a turn changes is at the turn as it was at the beginning. -/
theorem turn_eq {α : Type} (f : Hub S H → α) {ls : List (Listener H)} {h : Hub S H}
    {before after : List (Listener H × Hub S H)} {t : Listener H × Hub S H}
    (hturns : turns act payload ls h = before ++ t :: after)
    (hf : ∀ u ∈ before, f (call act u.1 payload u.2).1 = f u.2) : f t.2 = f h := by
  induction ls generalizing h before with
  | nil => exact absurd hturns (by simp [turns])
  | cons l ls ih =>
    unfold turns at hturns
    split at hturns
    · cases before with
      | nil =>
        obtain ⟨rfl, -⟩ := List.cons.inj hturns
        rfl
      | cons u before =>
        obtain ⟨rfl, hrest⟩ := List.cons.inj hturns
        obtain ⟨hfirst, hlater⟩ := List.forall_mem_cons.1 hf
        exact (ih hrest hlater).trans hfirst
    · exact ih hturns hf

end Hub

namespace Client

variable {N A : Type}

/-! ## What an acknowledgement does -/

namespace State

variable {I : Type}

theorem acknowledged_of_stale {s : State I} (h : s.status ≠ .connecting) :
    s.acknowledged = (s, []) := by
  unfold acknowledged
  cases hs : s.status with
  | connecting => exact absurd hs h
  | connected => simp [Status.afterConnected]
  | disconnected => simp [Status.afterConnected]

theorem acknowledged_status {s : State I} (h : s.Sound) :
    s.acknowledged.1.status = s.status.afterConnected.getD s.status := by
  by_cases hs : s.status = .connecting
  · have hr : s.removed = false := Bool.eq_false_iff.2 fun hr =>
      absurd (hs.symm.trans (h.ofRemoved hr).1) nofun
    simp [acknowledged, hr, hs, Status.afterConnected]
  · rw [acknowledged_of_stale hs]
    cases h : s.status with
    | connecting => exact absurd h hs
    | connected => rfl
    | disconnected => rfl

end State

namespace World

/-- The status of a client. -/
def status? (client : Nat) (w : World N A) : Option Status :=
  (w.client? client).map (·.state.status)

/-- The listener for acknowledgements of the client that is made next. -/
def acknowledger (w : World N A) : Listener Handler :=
  ⟨w.router.nextId + 1, some .connected, .acknowledge w.store.clients.length⟩

/-- A stale acknowledgement changes nothing. -/
theorem move_acknowledged_of_stale {client : Nat} {w : World N A}
    (h : w.status? client ≠ some .connecting) : w.move client State.acknowledged = w := by
  unfold move
  split
  · rfl
  · next m hm =>
    have hs : m.state.status ≠ .connecting := fun hs => h (by rw [status?, hm, ← hs]; rfl)
    rw [State.acknowledged_of_stale hs]
    exact setState_self hm

/-- An acknowledgement moves the status while connecting. -/
theorem status?_move_acknowledged {w : World N A} (ho : Orderly w) (client : Nat) :
    (w.move client State.acknowledged).status? client =
      (w.status? client).map fun s => s.afterConnected.getD s := by
  unfold move
  cases hm : w.client? client with
  | none => simp [status?, hm]
  | some m =>
    obtain ⟨metrics, tasks, henact⟩ := enact_eq client m.state.acknowledged.2
      (w.setState client m.state.acknowledged.1)
    have hclient : (w.setState client m.state.acknowledged.1).client? client =
        some { m with state := m.state.acknowledged.1 } := by
      rw [setState, client?_modifyClient, if_pos rfl, hm]
      rfl
    dsimp only
    rw [henact]
    have hmoved := State.acknowledged_status (ho.steady client m hm).toSound
    show ((w.setState client m.state.acknowledged.1).client? client).map _ = _
    rw [hclient, status?, hm]
    exact congrArg some hmoved

theorem call_acknowledge (outside : Outside N A) {l : Listener Handler} {client : Nat}
    (hl : l.handler = .acknowledge client) (payload : Event.Payload) (w : World N A) :
    (Hub.call outside.act l payload w).1 =
      if w.isHeld client then w.move client State.acknowledged else w := by
  simp only [Hub.call, hl, Outside.act, if_true]

/-! ## The client's own listener -/

/-- The client's own listener is registered when the client is made. -/
theorem acknowledger_mem_addClient {w : World N A} (hr : w.router.Regular)
    (requester : Requester) (config : Config) :
    w.acknowledger ∈ (w.addClient requester config).1.router.listeners
      (Event.Key.client config.clientId .connected).name := by
  rw [router_addClient]
  exact (hr.stands_among [.add _ _ _] _ _ _ [.add _ _ _] (by simp)).1

section

variable {outside : Outside N A}
  (htell : ∀ callback notice w, Leads w (outside.tell callback notice w).1)

include htell

theorem leads_turn {payload : Event.Payload} {ls : List (Listener Handler)} {w : World N A}
    {t : Listener Handler × World N A} (ht : t ∈ Hub.turns outside.act payload ls w) :
    Leads w t.2 :=
  Hub.turn_rel Leads.refl Leads.trans ls (fun l _ => Leads.call htell l payload) w t ht

/-- Who is switched on at a turn was so before. -/
theorem isActive_of_turn {payload : Event.Payload} {ls : List (Listener Handler)}
    {w : World N A} {t : Listener Handler × World N A}
    (ht : t ∈ Hub.turns outside.act payload ls w) {id : Nat} (hid : id < w.router.nextId)
    (ha : t.2.router.isActive id = true) : w.router.isActive id = true := by
  obtain ⟨changes, hr⟩ := (leads_turn htell ht).router
  rw [hr] at ha
  exact Router.isActive_of_after hid ha

/-- A listener that stands before another one and is switched on at the other's turn had a turn
before it. -/
theorem turns_split {payload : Event.Payload} {xs ys : List (Listener Handler)}
    {l : Listener Handler} {w : World N A} (hl : l.id < w.router.nextId)
    (hxs : ∀ k ∈ xs, k.id < l.id) {before after : List (Listener Handler × World N A)}
    {t : Listener Handler × World N A}
    (hturns : Hub.turns outside.act payload (xs ++ l :: ys) w = before ++ t :: after)
    (hlt : l.id < t.1.id) (hon : t.2.router.isActive l.id = true) :
    ∃ reached middle, Leads w reached ∧
      before = Hub.turns outside.act payload xs w ++ (l, reached) :: middle ∧
      Hub.turns outside.act payload ys (Hub.call outside.act l payload reached).1 =
        middle ++ t :: after := by
  have hreached : Leads w (Hub.dispatch outside.act payload xs w).1 :=
    Leads.dispatch htell payload xs w
  have hsplit := Hub.turns_append outside.act payload xs (l :: ys) w
  generalize (Hub.dispatch outside.act payload xs w).1 = reached at hreached hsplit
  have hxs' : t ∉ Hub.turns outside.act payload xs w := fun ht =>
    absurd (hxs t.1 (Hub.mem_of_mem_turns ht)) (Nat.lt_asymm hlt)
  have ht : t ∈ Hub.turns outside.act payload (l :: ys) reached := by
    have ht : t ∈ Hub.turns outside.act payload (xs ++ l :: ys) w := by simp [hturns]
    rw [hsplit] at ht
    exact (List.mem_append.1 ht).resolve_left hxs'
  have hid : l.id < reached.router.nextId := by
    obtain ⟨changes, hr⟩ := hreached.router
    rw [hr]
    exact Nat.lt_of_lt_of_le hl (w.router.nextId_le_after changes)
  rw [hsplit, Hub.turns_cons_of_active (isActive_of_turn htell ht hid hon)] at hturns
  have hne : t ≠ (l, reached) := fun he => absurd hlt (by simp [he])
  obtain ⟨middle, hbefore, hrest⟩ := List.eq_append_cons_of_notMem hturns hxs' hne
  exact ⟨reached, middle, hreached, hbefore, hrest⟩

/-- The client's own listener has its turn before every callback that was registered after it, if
it is still switched on then. -/
theorem turns_split_own {start w₀ w : World N A} (hstart : Fresh start) (hw₀ : Leads start w₀)
    {requester : Requester} {config : Config} (hw : Leads (w₀.addClient requester config).1 w)
    {payload : Event.Payload} {before after : List (Listener Handler × World N A)}
    {t : Listener Handler × World N A}
    (hturns : Hub.turns outside.act payload
      (w.router.listeners (Event.Key.client config.clientId .connected).name) w =
        before ++ t :: after)
    (hlt : w₀.acknowledger.id < t.1.id) (hon : t.2.router.isActive w₀.acknowledger.id = true) :
    ∃ earlier reached middle ls, Leads w reached ∧
      before = earlier ++ (w₀.acknowledger, reached) :: middle ∧
      (∀ u ∈ earlier, u.1.id < w₀.acknowledger.id) ∧
      (∀ u ∈ middle, w₀.acknowledger.id < u.1.id) ∧
      Hub.turns outside.act payload ls
        (Hub.call outside.act w₀.acknowledger payload reached).1 = middle ++ t :: after := by
  have hmade : Leads w₀ (w₀.addClient requester config).1 := Leads.addClient requester config w₀
  have hid : w₀.acknowledger.id < (w₀.addClient requester config).1.router.nextId := by
    show w₀.router.nextId + 1 < w₀.router.nextId + 1 + 1 + 1
    omega
  -- The listener stands in the table, in the order of the numbers.
  obtain ⟨cs, hcs⟩ := ((hw₀.trans hmade).trans hw).router
  rw [hstart.router] at hcs
  have htidy : w.router.Tidy := hcs ▸ Router.tidy_empty.after cs
  obtain ⟨cs₀, hcs₀⟩ := hw₀.router
  rw [hstart.router] at hcs₀
  have hregular : w₀.router.Regular := hcs₀ ▸ Router.regular_empty.after cs₀
  obtain ⟨ds, hds⟩ := hw.router
  have ht : t ∈ Hub.turns outside.act payload
      (w.router.listeners (Event.Key.client config.clientId .connected).name) w := by
    simp [hturns]
  have hidw : w₀.acknowledger.id < w.router.nextId := by
    rw [hds]
    exact Nat.lt_of_lt_of_le hid (Router.nextId_le_after _ ds)
  have honw : w.router.isActive w₀.acknowledger.id = true := isActive_of_turn htell ht hidw hon
  have hmem : w₀.acknowledger ∈
      w.router.listeners (Event.Key.client config.clientId .connected).name := by
    rw [hds] at honw ⊢
    exact Router.stands_of_isActive (acknowledger_mem_addClient hregular requester config) honw
  obtain ⟨xs, ys, hls⟩ := List.append_of_mem hmem
  have hascending := htidy.ascending (Event.Key.client config.clientId .connected).name
  rw [hls] at hascending hturns
  obtain ⟨-, hys, hxs⟩ := List.pairwise_append.1 hascending
  obtain ⟨reached, middle, hreached, hbefore, hrest⟩ := turns_split htell hidw
    (fun k hk => hxs k hk _ List.mem_cons_self) hturns hlt hon
  refine ⟨_, reached, middle, ys, hreached, hbefore, fun u hu => ?_, fun u hu => ?_, hrest⟩
  · exact hxs u.1 (Hub.mem_of_mem_turns hu) _ List.mem_cons_self
  · have hu : u ∈ Hub.turns outside.act payload ys
        (Hub.call outside.act w₀.acknowledger payload reached).1 := by
      rw [hrest]
      exact List.mem_append_left _ hu
    exact (List.pairwise_cons.1 hys).1 u.1 (Hub.mem_of_mem_turns hu)

/-! ## What callbacks find -/

/-- An acknowledgement calls each listener that has a turn once, and no other. A stale one, which
arrives while the client is not connecting, changes nothing at the turn of the client's own
listener. At its turn a callback is told of the event. If it was registered after the client's
own listener, which is still switched on and found the client held, and no other listener called
before changed the client's status, it finds the client connected if the event arrived while
connecting or connected, and disconnected if it arrived while disconnected. -/
theorem status_at_connected_callback {start w₀ w : World N A} (hstart : Fresh start)
    (hw₀ : Leads start w₀) (requester : Requester) (config : Config)
    (hw : Leads (w₀.addClient requester config).1 w) (payload : Event.Payload) :
    let client := w₀.store.clients.length
    let own := w₀.acknowledger
    let listeners := w.router.listeners (Event.Key.client config.clientId .connected).name
    let turns : List (Listener Handler × World N A) :=
      Hub.turns outside.act payload listeners w
    (Hub.dispatch outside.act payload listeners w).2.map (·.listener) = turns.map (·.1) ∧
    (∀ t ∈ turns, t.1 = own → t.2.status? client ≠ some Status.connecting →
      (Hub.call outside.act own payload t.2).1 = t.2) ∧
    ∀ (before : List (Listener Handler × World N A)) t after callback,
      turns = before ++ t :: after →
      t.1.handler = .tell .connected client callback →
      outside.act t.1.handler payload t.2 =
        outside.tell callback (.connected (payload.decodeD Event.Connected.read {})) t.2 ∧
      (own.id < t.1.id → t.2.router.isActive own.id = true →
        (∀ u ∈ before, u.1 = own → u.2.isHeld client = true) →
        (∀ u ∈ before, u.1 ≠ own →
          status? client (Hub.call outside.act u.1 payload u.2).1 = u.2.status? client) →
        ∃ status, w.status? client = some status ∧
          t.2.status? client =
            some (if status = .disconnected then .disconnected else .connected)) := by
  intro client own listeners turns
  have hmade : Leads w₀ (w₀.addClient requester config).1 := Leads.addClient requester config w₀
  have hhandler : own.handler = .acknowledge client := rfl
  refine ⟨Hub.dispatch_calls_eq_turns _ _ _ _, fun t _ hown hstale => ?_, ?_⟩
  · rw [call_acknowledge outside hhandler, move_acknowledged_of_stale hstale, ite_self]
  · intro before t after callback hturns hh
    refine ⟨by rw [hh]; rfl, fun hlt hon hheld hsame => ?_⟩
    obtain ⟨earlier, reached, middle, ls, hreached, rfl, hearlier, hmiddle, hrest⟩ :=
      turns_split_own htell hstart hw₀ hw hturns hlt hon
    have horderly : Orderly reached :=
      hstart.orderly.leads (((hw₀.trans hmade).trans hw).trans hreached)
    have hne {u : Listener Handler × World N A} (hu : u.1.id ≠ own.id) : u.1 ≠ own :=
      fun he => hu (congrArg Listener.id he)
    have hfirst : reached.status? client = w.status? client := by
      rw [List.append_assoc, List.cons_append] at hturns
      refine Hub.turn_eq (status? client) (t := (own, reached)) hturns fun u hu => ?_
      exact hsame u (List.mem_append_left _ hu) (hne (Nat.ne_of_lt (hearlier u hu)))
    have hlater : t.2.status? client =
        status? client (Hub.call outside.act own payload reached).1 := by
      refine Hub.turn_eq (status? client) hrest fun u hu => ?_
      exact hsame u (List.mem_append_right _ (List.mem_cons_of_mem _ hu))
        (hne (Nat.ne_of_gt (hmiddle u hu)))
    have hown : status? client (Hub.call outside.act own payload reached).1 =
        (w.status? client).map fun s => s.afterConnected.getD s := by
      have hheld := hheld (own, reached)
        (List.mem_append_right _ List.mem_cons_self) rfl
      rw [call_acknowledge outside hhandler, if_pos hheld,
        status?_move_acknowledged horderly, hfirst]
    have hnew : (w₀.addClient requester config).1.client? client = some _ :=
      List.getElem?_concat_length
    obtain ⟨m, hm, -⟩ := hw.client hnew
    refine ⟨m.state.status, by rw [status?, hm]; rfl, ?_⟩
    rw [hlater, hown, status?, hm]
    cases h : m.state.status <;> simp [h, Status.afterConnected]

end

open Native

/-- A world in which nothing happened yet. -/
def pristine : World Recorder Unit := { store := { native := {}, app := () } }

/-- Callbacks that do nothing. -/
def silent : Outside Recorder Unit := .nested Recorder.layer (fun _ _ => .finish true) 0

def broker : Config := { clientId := "x", host := "broker.test", port := 1883 }

/-- A client with a callback for made connections. -/
def listening : World Recorder Unit :=
  ((pristine.addClient (.name "a") broker).1.on 0 .connected 0).1

/-- An acknowledgement. -/
def acknowledgement : Event.Payload := (Event.Connected.mk .normal).payload

/-- The turns at an acknowledgement, each with the status of a client. -/
def found (client : Nat) (w : World Recorder Unit) : List (Handler × Option Status) :=
  (Hub.turns silent.act acknowledgement
    (w.router.listeners (Event.Key.client "x" .connected).name) w).map fun t =>
      (t.1.handler, status? client t.2)

theorem leads_silent (callback : Nat) (notice : Notice) (w : World Recorder Unit) :
    Leads w (silent.tell callback notice w).1 :=
  Leads.nested Recorder.layer (fun _ _ => .finish true) 0 callback notice w

/-- An acknowledgement arrives while connecting, and the callback finds the client connected. -/
theorem status_at_connected_callback_of_attempt :
    let w := silent.connect 0 none listening
    w.status? 0 = some .connecting ∧
      found 0 w =
        [(.acknowledge 0, some .connecting), (.tell .connected 0 0, some .connected)] := by
  intro w
  have hw : Leads (pristine.addClient (.name "a") broker).1 w :=
    (Leads.on 0 .connected 0 _).trans (Leads.drive leads_silent 0 rfl _)
  let t : Listener Handler × World Recorder Unit :=
    (⟨4, some .connected, .tell .connected 0 0⟩,
      (Hub.call silent.act pristine.acknowledger acknowledgement w).1)
  have hturns : Hub.turns silent.act acknowledgement
      (w.router.listeners (Event.Key.client "x" .connected).name) w =
        [(pristine.acknowledger, w)] ++ t :: [] := rfl
  have hstatus : w.status? 0 = some .connecting := by decide
  have hheld : w.isHeld 0 = true := by decide
  obtain ⟨status, hs, ht⟩ := ((status_at_connected_callback leads_silent
    ⟨rfl, rfl, rfl, rfl, rfl⟩ (.refl pristine) (.name "a") broker hw acknowledgement).2.2
      [(pristine.acknowledger, w)] t [] 0 hturns rfl).2 (by decide) (by decide)
        (fun u hu _ => List.mem_singleton.1 hu ▸ hheld)
        (fun u hu hne => absurd (congrArg Prod.fst (List.mem_singleton.1 hu)) hne)
  obtain rfl : status = .connecting := Option.some.inj (hs.symm.trans hstatus)
  refine ⟨hstatus, ?_⟩
  rw [found, hturns]
  simp only [List.cons_append, List.nil_append, List.map_cons, List.map_nil, hstatus]
  exact congrArg (fun s => [(Handler.acknowledge 0, some .connecting), (t.1.handler, s)]) ht

/-- An acknowledgement that arrives after a disconnect is heard by the callback, which finds the
client disconnected. And once a client was removed, the listeners of a later client with the same
id are gone: its callback finds it connecting. -/
theorem stale_acknowledgement_is_heard :
    let left := silent.disconnect 0 (silent.connect 0 none listening)
    let twins := (listening.addClient (.name "b") broker).1
    let alone := silent.connect 1 none ((silent.remove 0 twins).on 1 .connected 0).1
    found 0 left =
        [(.acknowledge 0, some .disconnected), (.tell .connected 0 0, some .disconnected)] ∧
      found 1 alone = [(.tell .connected 1 0, some .connecting)] := by
  decide

end World

end Client

end MqttRelay
