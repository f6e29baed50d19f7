import MqttRelay.Client.Clock
import MqttRelay.Native.Recorder
import MqttRelay.Proofs.Client.Orderly
import MqttRelay.Proofs.Router.Turns

/-!
# Connections that end and are refused

What becomes of a world when the connection of a client ends, and when a retry asks for another one
and is refused on the spot: the refusal comes back as an event within the request, and the
listeners of the client and the application's callbacks are called before the request returns.

* `Still` — what a callback does that asks for nothing: it may change the application's own data,
  note what it did, and panic.
* `Becomes` — the client got another state, with the effects of that and some requests, and all
  else is as it was, as far as reconnection goes.
* `Follows` — of those that listen for the end of the client's connections, one moves the client
  and the others are callbacks.

Results:
* `Becomes.trans`: one change after the other.
* `Surroundings.becomes_deliver`: the end of a connection moves the client, once.
* `Surroundings.becomes_fire`: so does a fired timer, by its attempt and by the refusal of that.
-/

namespace MqttRelay

/-- A layer that refuses connections answers a request with the end of the attempt, and goes on
refusing. -/
theorem Native.Recorder.answer_connect_of_refuse {r : Recorder} {reason : ReasonCode}
    (hbehavior : r.behavior = .refuse reason) (hfailing : Operation.connect ∉ r.failing)
    (clientId : String) (parameters : ConnectParameters) :
    ∃ s, r.answer (.connect clientId parameters) =
        (s, { events := [disconnected clientId reason] }) ∧
      s.behavior = r.behavior ∧ s.failing = r.failing := by
  simp [answer, Request.operation, hfailing, carryOut, hbehavior, setStatus]

namespace Client

open Native

variable {N A : Type}

/-! ## Requests and holders -/

/-- The native request that an entry of the journal records. -/
def Entry.request? : Entry → Option Request
  | .request r => some r
  | _ => none

/-- The native requests that a journal records, with their times. -/
def requestsIn (journal : List (Nat × Entry)) : List (Nat × Request) :=
  journal.filterMap fun e => e.2.request?.map (e.1, ·)

theorem requestsIn_append (j k : List (Nat × Entry)) :
    requestsIn (j ++ k) = requestsIn j ++ requestsIn k := List.filterMap_append ..

/-- Whether the application has a client, by a name or through its shared client. -/
def System.keeps (s : System N A) (client : Nat) : Bool :=
  s.names.any (·.2 == client) || (s.shared.bind (s.shareds[·]?)).any (·.client == some client)

/-- A client that the application has is held. -/
theorem System.isHeld_of_keeps {s : System N A} {client : Nat} (h : s.keeps client = true) :
    s.isHeld client = true := by
  obtain hname | hshared := Bool.or_eq_true_iff.1 h
  · simp only [isHeld, hname, Bool.true_or]
  · cases hs : s.shared with
    | none => simp [hs] at hshared
    | some number =>
      cases he : s.shareds[number]? with
      | none => simp [hs, he] at hshared
      | some e =>
        have hmem : (e, number) ∈ s.shareds.zipIdx := List.mem_zipIdx_iff_getElem?.2 he
        have hany : (s.shareds.zipIdx.any fun p =>
            p.1.client == some client && s.sharedIsHeld p.2) = true := by
          refine List.any_eq_true.2 ⟨_, hmem, ?_⟩
          simp_all [sharedIsHeld]
        simp only [isHeld, hany, Bool.or_true]

/-! ## Callbacks that ask for nothing -/

/-- At most the application's own data, its notes, and the counters of calls and panics changed. -/
structure Still (w v : World N A) : Prop where
  router : v.router = w.router
  scheduled : v.metrics.scheduled = w.metrics.scheduled
  abandoned : v.metrics.abandoned = w.metrics.abandoned
  store : ∃ app notes, v.store = { w.store with app := app, journal := w.store.journal ++ notes } ∧
    requestsIn notes = []

namespace Still

theorem refl (w : World N A) : Still w w :=
  ⟨rfl, rfl, rfl, w.store.app, [], by simp, rfl⟩

theorem trans {u v w : World N A} (h₁ : Still u v) (h₂ : Still v w) : Still u w := by
  obtain ⟨app, notes, hs, hn⟩ := h₁.store
  obtain ⟨app', notes', hs', hn'⟩ := h₂.store
  refine ⟨h₂.router.trans h₁.router, h₂.scheduled.trans h₁.scheduled,
    h₂.abandoned.trans h₁.abandoned, app', notes ++ notes', ?_, ?_⟩
  · rw [hs', hs]
    simp
  · rw [requestsIn_append, hn, hn']
    rfl

/-- An occurrence is counted that is neither about retries nor starts the counters anew. -/
theorem count (w : World N A) {o : Metrics.Occurrence}
    (hs : (w.metrics.count o).scheduled = w.metrics.scheduled)
    (ha : (w.metrics.count o).abandoned = w.metrics.abandoned) : Still w (Hub.count w o) :=
  ⟨rfl, hs, ha, (refl w).store⟩

/-- A client may be held meanwhile. -/
theorem pinned {w v : World N A} {client : Nat} (h : Still (w.pin client) v) :
    Still w (v.unpin client) := by
  obtain ⟨app, notes, hs, hn⟩ := h.store
  refine ⟨h.router, h.scheduled, h.abandoned, app, notes, ?_, hn⟩
  change { v.store with pinned := v.store.pinned.erase client } = _
  rw [hs]
  simp [World.pin, World.update]

end Still

/-! ## What becomes of a client -/

/-- The task that an effect puts into the queue. -/
def Effect.task? (client : Nat) : Effect → Option Task
  | .schedule generation delayMs => some (.retry client generation delayMs)
  | .count _ => none

/-- All that bears on the reconnection of a client beside the client itself is as it was. -/
structure Aside (client : Nat) (w v : World Recorder A) : Prop where
  router : v.router = w.router
  behavior : v.store.native.behavior = w.store.native.behavior
  failing : v.store.native.failing = w.store.native.failing
  runtime : v.store.runtime = w.store.runtime
  keeps : v.store.keeps client = w.store.keeps client
  creations : v.store.creations = w.store.creations
  others : ∀ d, d ≠ client → v.client? d = w.client? d

namespace Aside

variable {client : Nat} {u v w : World Recorder A}

theorem refl (client : Nat) (w : World Recorder A) : Aside client w w :=
  ⟨rfl, rfl, rfl, rfl, rfl, rfl, fun _ _ => rfl⟩

theorem trans (h₁ : Aside client u v) (h₂ : Aside client v w) : Aside client u w :=
  ⟨h₂.router.trans h₁.router, h₂.behavior.trans h₁.behavior, h₂.failing.trans h₁.failing,
    h₂.runtime.trans h₁.runtime, h₂.keeps.trans h₁.keeps, h₂.creations.trans h₁.creations,
    fun d hd => (h₂.others d hd).trans (h₁.others d hd)⟩

end Aside

/-- The client got this state, with these effects and requests, all at one time. -/
structure Becomes (client : Nat) (w v : World Recorder A) (s : State Nat) (effects : List Effect)
    (requests : List Request) : Prop extends Aside client w v where
  now : v.store.now = w.store.now
  sleeping : v.store.sleeping = w.store.sleeping
  member : ∀ m, w.client? client = some m → v.client? client = some { m with state := s }
  ready : v.store.ready = w.store.ready ++ effects.filterMap (Effect.task? client)
  requests : requestsIn v.store.journal =
    requestsIn w.store.journal ++ requests.map (w.store.now, ·)
  scheduled : v.metrics.scheduled =
    w.metrics.scheduled + effects.count (.count .retryScheduled)
  abandoned : v.metrics.abandoned =
    w.metrics.abandoned + effects.count (.count .cycleAbandoned)

namespace Becomes

variable {client : Nat} {m : Member} {s t : State Nat} {effects further : List Effect}
  {requests more : List Request} {u v w : World Recorder A}

/-- One change after the other. -/
theorem trans (h₁ : Becomes client u v s effects requests)
    (h₂ : Becomes client v w t further more) :
    Becomes client u w t (effects ++ further) (requests ++ more) where
  toAside := h₁.toAside.trans h₂.toAside
  now := h₂.now.trans h₁.now
  sleeping := h₂.sleeping.trans h₁.sleeping
  member m hm := h₂.member { m with state := s } (h₁.member m hm)
  ready := by rw [h₂.ready, h₁.ready, List.filterMap_append, List.append_assoc]
  requests := by rw [h₂.requests, h₁.requests, h₁.now, List.map_append, List.append_assoc]
  scheduled := by rw [h₂.scheduled, h₁.scheduled, List.count_append, Nat.add_assoc]
  abandoned := by rw [h₂.abandoned, h₁.abandoned, List.count_append, Nat.add_assoc]

theorem of_still (hm : w.client? client = some m) (h : Still w v) :
    Becomes client w v m.state [] [] := by
  obtain ⟨app, notes, hs, hn⟩ := h.store
  have hclients (d : Nat) : v.client? d = w.client? d := by rw [World.client?, hs]; rfl
  refine ⟨⟨h.router, ?_, ?_, ?_, ?_, ?_, fun d _ => hclients d⟩, ?_, ?_, fun k hk => ?_, ?_, ?_,
    h.scheduled, h.abandoned⟩
  case refine_8 =>
    obtain rfl := Option.some.inj (hm.symm.trans hk)
    exact (hclients client).trans hm
  case refine_10 =>
    rw [hs, requestsIn_append, hn]
    rfl
  all_goals simp [System.keeps, hs]

/-- What is done beside the router, the counters and all that matters to the client. -/
theorem of_update (hm : w.client? client = some m) {f : System Recorder A → System Recorder A}
    (hf : Aside client w (w.update f)) (hnow : (f w.store).now = w.store.now)
    (hsleeping : (f w.store).sleeping = w.store.sleeping)
    (hclients : (f w.store).clients = w.store.clients)
    (hready : (f w.store).ready = w.store.ready)
    (hrequests : requestsIn (f w.store).journal =
      requestsIn w.store.journal ++ requests.map (w.store.now, ·)) :
    Becomes client w (w.update f) m.state [] requests where
  toAside := hf
  now := hnow
  sleeping := hsleeping
  member k hk := by
    obtain rfl := Option.some.inj (hm.symm.trans hk)
    rw [World.client?, World.update, hclients]
    exact hm
  ready := hready.trans (List.append_nil _).symm
  requests := hrequests
  scheduled := rfl
  abandoned := rfl

theorem pin (hm : w.client? client = some m) (d : Nat) :
    Becomes client w (w.pin d) m.state [] [] :=
  of_update hm ⟨rfl, rfl, rfl, rfl, rfl, rfl, fun _ _ => rfl⟩ rfl rfl rfl rfl
    (List.append_nil _).symm

theorem unpin (hm : w.client? client = some m) (d : Nat) :
    Becomes client w (w.unpin d) m.state [] [] :=
  of_update hm ⟨rfl, rfl, rfl, rfl, rfl, rfl, fun _ _ => rfl⟩ rfl rfl rfl rfl
    (List.append_nil _).symm

theorem setState (client : Nat) (w : World Recorder A) (s : State Nat) :
    Becomes client w (w.setState client s) s [] [] where
  router := rfl
  behavior := rfl
  failing := rfl
  runtime := rfl
  keeps := rfl
  creations := rfl
  others d hd := System.clients_modifyClient_of_ne _ _ (Ne.symm hd)
  now := rfl
  sleeping := rfl
  member m hm := by
    refine (System.clients_modifyClient_self w.store client _).trans ?_
    rw [show w.store.clients[client]? = some m from hm]
    rfl
  ready := (List.append_nil _).symm
  requests := (List.append_nil _).symm
  scheduled := rfl
  abandoned := rfl

/-- One effect, which does not start the counters anew. -/
theorem effect (hm : w.client? client = some m) {e : Effect} (he : e ≠ .count .reset) :
    Becomes client w (w.enact client [e]) m.state [e] [] := by
  have hclient : ∀ k, w.client? client = some k →
      w.client? client = some { k with state := m.state } := fun k hk => by
    obtain rfl := Option.some.inj (hm.symm.trans hk)
    exact hm
  have hrequests : requestsIn w.store.journal =
      requestsIn w.store.journal ++ [].map (w.store.now, ·) := (List.append_nil _).symm
  cases e with
  | schedule generation delayMs =>
    exact ⟨⟨rfl, rfl, rfl, rfl, rfl, rfl, fun _ _ => rfl⟩, rfl, rfl, hclient, rfl, hrequests,
      rfl, rfl⟩
  | count o =>
    refine ⟨⟨rfl, rfl, rfl, rfl, rfl, rfl, fun _ _ => rfl⟩, rfl, rfl, hclient,
      (List.append_nil _).symm, hrequests, ?_, ?_⟩ <;>
    cases o <;> first | rfl | exact absurd rfl he

theorem enact (hm : w.client? client = some m) (he : Effect.count .reset ∉ effects) :
    Becomes client w (w.enact client effects) m.state effects [] := by
  induction effects generalizing w with
  | nil => exact of_still hm (Still.refl w)
  | cons e es ih =>
    obtain ⟨hne, hes⟩ := not_or.1 (List.mem_cons.not.1 he)
    have hfirst := effect hm (Ne.symm hne)
    exact hfirst.trans (ih (hfirst.member m hm) hes)

/-- A step that asks nothing of the outside. -/
theorem move (hm : w.client? client = some m) {f : State Nat → State Nat × List Effect}
    (he : Effect.count .reset ∉ (f m.state).2) :
    Becomes client w (w.move client f) (f m.state).1 (f m.state).2 [] := by
  simp only [World.move, hm]
  have hset := setState client w (f m.state).1
  exact hset.trans (enact (hset.member m hm) he)

end Becomes

/-! ## Who listens -/

/-- The listener tells a callback. -/
def Handler.tells : Handler → Bool
  | .tell .. => true
  | _ => false

/-- Of the listeners that are switched on for the end of a client's connections, one moves the
client, and all others tell callbacks. -/
def Follows (client : Nat) (clientId : String) (r : Router Handler) : Prop :=
  ∃ before l after, r.listeners (Event.Key.client clientId .disconnected).name =
      before ++ l :: after ∧
    l.handler = .lose client ∧ r.isActive l.id = true ∧
    ∀ k ∈ before ++ after, r.isActive k.id = true → k.handler.tells = true

namespace Surroundings

/-- The callbacks ask for nothing. -/
def Silent (x : Surroundings N A) : Prop :=
  ∀ callback notice w, Still w (x.tell callback notice w).1

variable {x : Surroundings Recorder A} (hx : x.Silent)

include hx

theorem still_tellOf (interest : Interest) (client callback : Nat) (payload : Event.Payload)
    (w : World Recorder A) : Still w (x.tellOf interest client callback payload w).1 := by
  cases interest with
  | initialized => exact hx ..
  | connected => exact hx ..
  | failure => exact hx ..
  | connectFailed =>
    simp only [Outside.tellOf]
    split
    · split
      · exact (hx ..).pinned
      · exact Still.refl w
    · exact Still.refl w
  | disconnected =>
    simp only [Outside.tellOf]
    split
    · split
      · exact Still.refl w
      · exact (hx ..).pinned
    · exact Still.refl w

/-- Callbacks that are told leave all as it was. -/
theorem still_dispatch {payload : Event.Payload} {ls : List (Listener Handler)}
    {w : World Recorder A}
    (hls : ∀ l ∈ ls, w.router.isActive l.id = true → l.handler.tells = true) :
    Still w (Hub.dispatch x.act payload ls w).1 := by
  induction ls generalizing w with
  | nil => exact Still.refl w
  | cons l ls ih =>
    obtain ⟨hfirst, hrest⟩ := List.forall_mem_cons.1 hls
    unfold Hub.dispatch
    split
    · next hactive =>
      have hcall : Still w (Hub.call x.act l payload w).1 := by
        have htells := hfirst hactive
        unfold Hub.call
        cases hh : l.handler with
        | tell interest client callback =>
          have htold := still_tellOf hx interest client callback payload w
          dsimp only [Outside.act]
          split
          · exact htold
          · exact htold.trans (.count _ rfl rfl)
        | _ => simp [hh, Handler.tells] at htells
      refine hcall.trans (ih fun k hk hon => hrest k hk ?_)
      rw [← hcall.router]
      exact hon
    · exact ih hrest

omit hx in
theorem dispatch_append (act : Hub.Act (System Recorder A) Handler) (payload : Event.Payload)
    (xs ys : List (Listener Handler)) (w : World Recorder A) :
    (Hub.dispatch act payload (xs ++ ys) w).1 =
      (Hub.dispatch act payload ys (Hub.dispatch act payload xs w).1).1 := by
  induction xs generalizing w with
  | nil => rfl
  | cons l xs ih =>
    rw [List.cons_append, Hub.dispatch, Hub.dispatch]
    split
    · exact ih _
    · exact ih w

/-- A dispatch to the listener that moves the client, and to callbacks before and after it, moves
the client once. -/
theorem becomes_dispatch {client : Nat} {m : Member} {w : World Recorder A}
    (hm : w.client? client = some m) (hkeeps : w.store.keeps client = true)
    {before after : List (Listener Handler)} {l : Listener Handler}
    (hlose : l.handler = .lose client) (hactive : w.router.isActive l.id = true)
    (hothers : ∀ k ∈ before ++ after, w.router.isActive k.id = true → k.handler.tells = true)
    (payload : Event.Payload) {r : State Nat × List Effect}
    (hr : m.state.ended w.store.runtime
      (payload.decodeD Event.Disconnected.read {}).reason = r)
    (hreset : Effect.count .reset ∉ r.2) :
    Becomes client w (Hub.dispatch x.act payload (before ++ l :: after) w).1 r.1 r.2 [] := by
  rw [dispatch_append, Hub.dispatch]
  have hbefore : Still w (Hub.dispatch x.act payload before w).1 :=
    still_dispatch hx fun k hk => hothers k (List.mem_append_left _ hk)
  obtain ⟨u, hu⟩ : ∃ u : World Recorder A, u = (Hub.dispatch x.act payload before w).1 :=
    ⟨_, rfl⟩
  rw [← hu] at hbefore ⊢
  have hfirst := Becomes.of_still hm hbefore
  have hmu : u.client? client = some m := hfirst.member m hm
  have hheld : u.isHeld client = true :=
    System.isHeld_of_keeps (hfirst.keeps.trans hkeeps)
  have hon : u.router.isActive l.id = true := by
    rw [hbefore.router]
    exact hactive
  have hcall : Hub.call x.act l payload u = (u.move client (State.ended u.store.runtime
      (payload.decodeD Event.Disconnected.read {}).reason), true) := by
    simp only [Hub.call, hlose, Outside.act, hheld, if_true]
  rw [if_pos hon, hcall, hfirst.runtime]
  have hmoved : Becomes client w (u.move client (State.ended w.store.runtime
      (payload.decodeD Event.Disconnected.read {}).reason)) r.1 r.2 [] := by
    subst hr
    exact hfirst.trans (Becomes.move hmu hreset)
  generalize u.move client _ = v at hmoved ⊢
  have hafter : Still v (Hub.dispatch x.act payload after v).1 := by
    refine still_dispatch hx fun k hk hactive => hothers k (List.mem_append_right _ hk) ?_
    rw [← hmoved.router]
    exact hactive
  have hboth := hmoved.trans (Becomes.of_still (hmoved.member m hm) hafter)
  rw [List.append_nil] at hboth
  exact hboth

/-- The end of a connection moves the client, once, and tells callbacks. -/
theorem becomes_deliver {client : Nat} {m : Member} {w : World Recorder A}
    (hm : w.client? client = some m) (hkeeps : w.store.keeps client = true)
    (hfollows : Follows client m.identity.clientId w.router) (payload : Event.Payload)
    {r : State Nat × List Effect}
    (hr : m.state.ended w.store.runtime
      (payload.decodeD Event.Disconnected.read {}).reason = r)
    (hreset : Effect.count .reset ∉ r.2) :
    Becomes client w (x.deliver ⟨.client m.identity.clientId .disconnected, payload⟩ w).1
      r.1 r.2 [] := by
  obtain ⟨before, l, after, hlisteners, hlose, hactive, hothers⟩ := hfollows
  have hdispatch := becomes_dispatch hx hm hkeeps hlose hactive hothers payload hr hreset
  simp only [Outside.deliver, Hub.emitKey, Hub.emit, hlisteners]
  split
  · exact hdispatch
  · have hboth (kind : Option Event.Kind) (n : Nat) := hdispatch.trans
      (Becomes.of_still (hdispatch.member m hm) (Still.count _ (o := .delivered kind n) rfl rfl))
    simp only [List.append_nil] at hboth
    exact hboth _ _

/-- A request to connect is refused on the spot: the refusal ends the attempt before the request
returns. -/
theorem becomes_request (hlayer : x.layer = Recorder.layer) {client : Nat} {m : Member}
    {w : World Recorder A} {reason : ReasonCode}
    (hbehavior : w.store.native.behavior = .refuse reason)
    (hfailing : Native.Operation.connect ∉ w.store.native.failing)
    (hm : w.client? client = some m) (hkeeps : w.store.keeps client = true)
    (hfollows : Follows client m.identity.clientId w.router) (parameters : ConnectParameters)
    {r : State Nat × List Effect}
    (hr : m.state.ended w.store.runtime
      ((Event.Disconnected.mk reason none).payload.decodeD Event.Disconnected.read {}).reason = r)
    (hreset : Effect.count .reset ∉ r.2) :
    (x.request (.connect m.identity.clientId parameters) w).2 = none ∧
      Becomes client w (x.request (.connect m.identity.clientId parameters) w).1 r.1 r.2
        [.connect m.identity.clientId parameters] := by
  obtain ⟨native, hanswer, hkept⟩ := Recorder.answer_connect_of_refuse hbehavior hfailing
    m.identity.clientId parameters
  let v : World Recorder A := w.update fun s =>
    { s.note (.request (.connect m.identity.clientId parameters)) with native := native }
  have hrequest : x.request (.connect m.identity.clientId parameters) w =
      ((x.deliver (Recorder.disconnected m.identity.clientId reason) v).1, none) := by
    have hnative : x.layer.answer (.connect m.identity.clientId parameters)
        (w.note (.request (.connect m.identity.clientId parameters))).store.native =
          (native, { events := [Recorder.disconnected m.identity.clientId reason] }) := by
      rw [hlayer]
      exact hanswer
    simp only [Outside.request, hnative]
    rfl
  have hnoted : Becomes client w v m.state [] [.connect m.identity.clientId parameters] :=
    Becomes.of_update hm ⟨rfl, hkept.1, hkept.2, rfl, rfl, rfl, fun _ _ => rfl⟩ rfl rfl rfl rfl
      (requestsIn_append ..)
  have hdelivered := becomes_deliver hx (hnoted.member m hm) (hnoted.keeps.trans hkeeps)
    (hnoted.router ▸ hfollows) (Event.Disconnected.mk reason none).payload hr hreset
  rw [hrequest]
  exact ⟨rfl, hnoted.trans hdelivered⟩

/-- A timer that fires makes its attempt, which is refused on the spot and ends before the task of
the timer does. -/
theorem becomes_fire (hlayer : x.layer = Recorder.layer) {client generation : Nat} {m : Member}
    {w : World Recorder A} {reason : ReasonCode}
    (hbehavior : w.store.native.behavior = .refuse reason)
    (hfailing : Native.Operation.connect ∉ w.store.native.failing)
    (hm : w.client? client = some m) (hkeeps : w.store.keeps client = true)
    (hfollows : Follows client m.identity.clientId w.router) {s : State Nat}
    {parameters : ConnectParameters}
    (hfired : m.state.fired generation =
      { state := s, effects := [.count .attempted], ask := some (.connect parameters .retry) })
    {r : State Nat × List Effect}
    (hr : s.ended w.store.runtime
      ((Event.Disconnected.mk reason none).payload.decodeD Event.Disconnected.read {}).reason = r)
    (hreset : Effect.count .reset ∉ r.2) :
    Becomes client w (run.fire x client generation w) r.1 (.count .attempted :: r.2)
      [.connect m.identity.clientId parameters] := by
  have hheld : w.isHeld client = true := System.isHeld_of_keeps hkeeps
  let u : World Recorder A := ((w.pin client).setState client s).enact client [.count .attempted]
  have hpinned := Becomes.pin hm client
  have hset := hpinned.trans (Becomes.setState client (w.pin client) s)
  have hu : Becomes client w u s [.count .attempted] [] :=
    hset.trans (Becomes.enact (hset.member m hm) (by simp))
  have hmu := hu.member m hm
  obtain ⟨hfault, hrequest⟩ := becomes_request hx hlayer (hu.behavior.trans hbehavior)
    (hu.failing ▸ hfailing) hmu (hu.keeps.trans hkeeps) (hu.router ▸ hfollows) parameters
    (by rw [hu.runtime]; exact hr) hreset
  have hdrive : run.fire x client generation w =
      World.unpin (x.request (.connect m.identity.clientId parameters) u).1 client := by
    have hcomply : x.comply client (.connect parameters .retry) u =
        (x.request (.connect m.identity.clientId parameters) u).1 := by
      simp only [Outside.comply, hmu, Option.map_some, Option.getD_some]
      generalize x.request (.connect m.identity.clientId parameters) u = p at hfault
      obtain ⟨v, fault⟩ := p
      obtain rfl : fault = none := hfault
      rfl
    simp only [run.fire, hheld, if_true, Outside.drive, hm, State.step, hfired]
    rw [← hcomply]
  rw [hdrive]
  have hall := hu.trans hrequest
  have hlast := hall.trans (Becomes.unpin (hall.member m hm) client)
  simp only [List.append_nil, List.nil_append, List.singleton_append] at hlast
  exact hlast

end Surroundings

end Client

end MqttRelay
