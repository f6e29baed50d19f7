import MqttRelay.Native.Recorder
import MqttRelay.Proofs.Client.Callbacks
import MqttRelay.Proofs.Event.Name
import MqttRelay.Proofs.Native.Run

/-!
# What callbacks hear of an ended connection

When a disconnected event reaches a client, the client's own listener remembers the status in
which it arrived and its reason. The callbacks after it are not handed the event: each looks up
what the client remembers at its turn. An event that a callback brings about on the spot comes
in between, and the callbacks after that one hear of the inner event instead of theirs.

Results:
* `Arrival.hears_own_ending`: at its turn a callback is run once with what the client remembers,
  or not at all; it hears of its own event exactly if the client is still held and remembers an
  ending that looks the same to it. Callbacks that run programs of operations all do, unless
  the native layer delivers an event under the same name on the spot.
* `Arrival.heard_of_adapter`: over the adapter to a broker they always do.
* `Arrival.later_callback_hears_inner_ending`: after a callback that connects again, with a
  native layer that refuses at once, the next callback hears the reason of the refusal.
-/

namespace MqttRelay.Client

open Native

variable {N A : Type}

/-- The reason that an ending tells callbacks of an interest, if it concerns them: a failed
attempt concerns one sort, every other end the other. -/
def Ending.tells (interest : Interest) (e : Ending) : Option ReasonCode :=
  match interest with
  | .connectFailed => if e.before = .connecting then some e.reason else none
  | .disconnected => if e.before = .connecting then none else some e.reason
  | _ => none

/-- The reason in a notice of an ended connection. -/
def Notice.ending? : Notice → Option ReasonCode
  | .connectFailed reason => some reason
  | .disconnected d => some d.reason
  | _ => none

/-- What a callback for ended connections hears at its turn, if anything. -/
def World.heard (interest : Interest) (client : Nat) (w : World N A) : Option Notice :=
  match w.lastEnding? client, interest with
  | some (_, e), .connectFailed =>
    if e.before = .connecting then some (.connectFailed e.reason) else none
  | some (m, e), .disconnected =>
    if e.before = .connecting then none
    else some (.disconnected {
      reason := e.reason
      cause := Disconnect.cause e.before
      retries := m.state.retry.count
      options := m.state.options })
  | _, _ => none

/-- Runs a callback once with what it hears while its client is held, or not at all. -/
def Outside.hear (outside : Outside N A) (client callback : Nat) (heard : Option Notice)
    (w : World N A) : World N A × Bool :=
  match heard with
  | none => (w, true)
  | some notice =>
    let (w, returned) := outside.tell callback notice (w.pin client)
    (w.unpin client, returned)

/-- What a callback hears is what the client remembers. -/
theorem World.ending?_heard (interest : Interest) (client : Nat) (w : World N A) :
    (w.heard interest client).bind Notice.ending? =
      (w.lastEnding? client).bind (·.2.tells interest) := by
  unfold heard
  cases w.lastEnding? client with
  | none => rfl
  | some p =>
    cases interest with
    | connectFailed =>
      by_cases h : p.2.before = .connecting <;> simp [Ending.tells, Notice.ending?, h]
    | disconnected =>
      by_cases h : p.2.before = .connecting <;> simp [Ending.tells, Notice.ending?, h]
    | initialized => rfl
    | connected => rfl
    | failure => rfl

/-- At its turn a callback for ended connections is run once with what it hears, or not at
all. -/
theorem Outside.tellOf_eq_hear (outside : Outside N A) {interest : Interest}
    (hi : interest.event = .disconnected) (client callback : Nat) (payload : Event.Payload)
    (w : World N A) :
    outside.tellOf interest client callback payload w =
      outside.hear client callback (w.heard interest client) w := by
  unfold tellOf World.heard
  cases interest with
  | connectFailed =>
    cases w.lastEnding? client with
    | none => rfl
    | some p => by_cases h : p.2.before = .connecting <;> simp [hear, h]
  | disconnected =>
    cases w.lastEnding? client with
    | none => rfl
    | some p => by_cases h : p.2.before = .connecting <;> simp [hear, h]
  | initialized => cases hi
  | connected => cases hi
  | failure => cases hi

/-! ## Native layers -/

/-- The adapter to a broker answers nothing on the spot. -/
theorem spares_adapter (name : String) : Spares Adapter.layer name fun _ => True where
  events r n _ e he := by
    rw [show (Adapter.layer.answer r n).2.events = [] from (n.answer_parts r).2.2.2] at he
    cases he
  stays _ _ _ := trivial

/-- A recorder that leaves the outcome of attempts to others answers nothing on the spot but that
a client was made. -/
theorem initialized_of_mem_answer {r : Request} {n : Recorder} (hn : n.behavior = .manual)
    {e : Emission} (he : e ∈ (n.answer r).2.events) : ∃ id, e.key = .client id .initialized := by
  unfold Recorder.answer at he
  dsimp only at he
  split at he
  · cases he
  · cases r with
    | create id host port tls =>
      obtain ⟨ready, -, rfl⟩ := Option.map_eq_some_iff.1 (Option.mem_toList.1 he)
      exact ⟨id, rfl⟩
    | connect id parameters =>
      simp only [Recorder.carryOut, hn] at he
      cases he
    | remove id => cases he
    | disconnect id => cases he
    | subscribe sub id topic qos => cases he
    | unsubscribe sub id topic => cases he

/-- A request does not change how a recorder treats attempts. -/
theorem behavior_answer (r : Request) (n : Recorder) :
    (n.answer r).1.behavior = n.behavior := by
  unfold Recorder.answer
  dsimp only
  split
  · rfl
  · cases r with
    | connect id parameters =>
      simp only [Recorder.carryOut]
      split <;> rfl
    | subscribe sub id topic qos =>
      simp only [Recorder.carryOut]
      split <;> rfl
    | unsubscribe sub id topic =>
      simp only [Recorder.carryOut]
      split <;> rfl
    | create id host port tls => rfl
    | remove id => rfl
    | disconnect id => rfl

/-- A recorder that leaves the outcome of attempts to others reports no end of a connection on
the spot. -/
theorem spares_recorder (clientId : String) :
    Spares Recorder.layer (Event.Key.client clientId .disconnected).name
      fun r => r.behavior = .manual where
  events r n hn e he := by
    obtain ⟨id, hid⟩ := initialized_of_mem_answer hn he
    rw [hid, ne_eq, Event.Key.name_client_eq_iff id clientId (by decide) (by decide)]
    simp
  stays r n hn := (behavior_answer r n).trans hn

/-! ## An event reaches a client -/

/-- A disconnected event that reaches a client: the client's own listener stands among those of
the event's name, is switched on at its turn, and finds the client held and not removed. -/
structure Arrival (outside : Outside N A) (client : Nat) (w : World N A) where
  payload : Event.Payload
  member : Member
  before : List (Listener Handler)
  own : Listener Handler
  after : List (Listener Handler)
  /-- What the listeners before the client's own leave. -/
  reached : World N A
  listeners : w.router.listeners
    (Event.Key.client member.identity.clientId .disconnected).name = before ++ own :: after
  own_handler : own.handler = .lose client
  after_handler : ∀ l ∈ after, l.handler ≠ .lose client
  reached_eq : (Hub.dispatch outside.act payload before w).1 = reached
  active : reached.router.isActive own.id = true
  held : reached.isHeld client = true
  client_eq : reached.client? client = some member
  kept : member.state.removed = false

namespace Arrival

variable {outside : Outside N A} {client : Nat} {w : World N A}

/-- The name of the event. -/
def name (a : Arrival outside client w) : String :=
  (Event.Key.client a.member.identity.clientId .disconnected).name

/-- The ending that the event brings: the status in which it arrives, and its reason. -/
def ending (a : Arrival outside client w) : Ending :=
  ⟨a.member.state.status, (a.payload.decodeD Event.Disconnected.read {}).reason⟩

/-- What the client's own listener leaves. -/
def noted (a : Arrival outside client w) : World N A :=
  (Hub.call outside.act a.own a.payload a.reached).1

/-- The turns of the listeners after the client's own, each with the world that it finds. -/
def turns (a : Arrival outside client w) : List (Listener Handler × World N A) :=
  Hub.turns outside.act a.payload a.after a.noted

/-- The event gives their turns to the listeners before the client's own, to that one, and to
those after it. -/
theorem turns_eq (a : Arrival outside client w) :
    Hub.turns outside.act a.payload (w.router.listeners a.name) w =
      Hub.turns outside.act a.payload a.before w ++ (a.own, a.reached) :: a.turns := by
  rw [name, a.listeners, Hub.turns_append, a.reached_eq, Hub.turns_cons_of_active a.active]
  rfl

/-- The client's own listener moves the client, and may count and leave work behind. -/
theorem noted_eq (a : Arrival outside client w) :
    ∃ metrics tasks, a.noted =
      { a.reached with
        metrics := metrics
        store := { a.reached.store with
          clients := a.reached.store.clients.modify client fun m => { m with
            state := (a.member.state.ended a.reached.store.runtime a.ending.reason).1 }
          ready := a.reached.store.ready ++ tasks } } := by
  have hmove : a.noted =
      a.reached.move client (State.ended a.reached.store.runtime a.ending.reason) := by
    simp only [noted, Hub.call, a.own_handler, Outside.act, a.held, if_true]
    rfl
  rw [hmove, World.move, a.client_eq]
  exact World.enact_eq client _ _

theorem sameHolders_noted (a : Arrival outside client w) : SameHolders a.reached a.noted := by
  obtain ⟨metrics, tasks, h⟩ := a.noted_eq
  rw [h]
  exact .of_store rfl

/-- Right after its own listener's turn the client remembers this ending. -/
theorem lastEnding_noted (a : Arrival outside client w) :
    (a.noted.lastEnding? client).map (·.2) = some a.ending := by
  have hheld := a.sameHolders_noted.isHeld a.held
  obtain ⟨metrics, tasks, h⟩ := a.noted_eq
  have hclient : a.noted.client? client = some { a.member with
      state := (a.member.state.ended a.reached.store.runtime a.ending.reason).1 } := by
    have hc : a.reached.store.clients[client]? = some a.member := a.client_eq
    rw [h]
    simp [World.client?, hc]
  have hending := State.ended_lastEnding a.kept a.reached.store.runtime a.ending.reason
  simp [World.lastEnding?, hheld, hclient, hending]
  rfl

/-- At every later turn the client is held and remembers this ending, if callbacks keep it. -/
theorem lastEnding_of_keeps (a : Arrival outside client w) {P : N → Prop}
    (htell : ∀ callback notice v, Keeps P client a.name v (outside.tell callback notice v).1)
    (hcalm : Calm P client a.name a.reached) :
    ∀ t ∈ a.turns, (t.2.lastEnding? client).map (·.2) = some a.ending := by
  intro t ht
  have hnoted : Calm P client a.name a.noted := by
    obtain ⟨metrics, tasks, h⟩ := a.noted_eq
    rw [h]
    exact ⟨hcalm.native, hcalm.listeners⟩
  have hkeeps : Keeps P client a.name a.noted t.2 :=
    Hub.turn_rel Keeps.refl Keeps.trans a.after
      (fun l hl v => Keeps.call htell (a.after_handler l hl) a.payload v) a.noted t ht
  rw [(hkeeps hnoted).2.lastEnding (a.sameHolders_noted.isHeld a.held)]
  exact a.lastEnding_noted

/-- Callbacks that run programs of operations all hear of their own event, however deep they
nest, if the native layer delivers no event under its name on the spot. -/
theorem heard_of_spares (a : Arrival outside client w)
    {program : Nat → Notice → Program N A} {depth : Nat} {P : N → Prop}
    (houtside : outside = .nested outside.layer program depth)
    (hlayer : Spares outside.layer a.name P) (hcalm : Calm P client a.name a.reached) :
    ∀ t ∈ a.turns, ∀ interest,
      (t.2.heard interest client).bind Notice.ending? = a.ending.tells interest := by
  intro t ht interest
  have htell : ∀ callback notice v,
      Keeps P client a.name v (outside.tell callback notice v).1 := by
    intro callback notice v
    have h : Keeps P client a.name v _ := Keeps.nested hlayer program depth callback notice v
    rwa [← houtside] at h
  obtain ⟨p, hp, he⟩ := Option.map_eq_some_iff.1 (a.lastEnding_of_keeps htell hcalm t ht)
  rw [World.ending?_heard, hp, Option.bind_some, he]

/-- The event calls each listener that has a turn once, and no other. At its turn a callback for
ended connections is run once with what it hears, or not at all. It hears of its own event
exactly if the client is still held and remembers an ending that looks the same to the
callback. Callbacks that run programs of operations all do, however deep they nest, if the
native layer delivers no event under the name of theirs on the spot. -/
theorem hears_own_ending (a : Arrival outside client w) :
    (Hub.dispatch outside.act a.payload (w.router.listeners a.name) w).2.map (·.listener) =
      (Hub.turns outside.act a.payload a.before w).map (·.1) ++ a.own :: a.turns.map (·.1) ∧
    (∀ t ∈ a.turns, ∀ interest callback, interest.event = .disconnected →
      t.1.handler = .tell interest client callback →
        outside.act t.1.handler a.payload t.2 =
          outside.hear client callback (t.2.heard interest client) t.2 ∧
        ((t.2.heard interest client).bind Notice.ending? = a.ending.tells interest ↔
          (t.2.lastEnding? client).bind (·.2.tells interest) = a.ending.tells interest)) ∧
    ∀ program depth (P : N → Prop), outside = .nested outside.layer program depth →
      Spares outside.layer a.name P → Calm P client a.name a.reached →
        ∀ t ∈ a.turns, ∀ interest,
          (t.2.heard interest client).bind Notice.ending? = a.ending.tells interest := by
  refine ⟨?_, ?_, ?_⟩
  · rw [Hub.dispatch_calls_eq_turns, a.turns_eq, List.map_append, List.map_cons]
  · intro t _ interest callback hi hh
    rw [hh, World.ending?_heard]
    exact ⟨outside.tellOf_eq_hear hi client callback a.payload t.2, Iff.rfl⟩
  · intro program depth P houtside hlayer hcalm
    exact a.heard_of_spares houtside hlayer hcalm

/-- Over the adapter to a broker, callbacks that run programs of operations all hear of their
own event. -/
theorem heard_of_adapter {program : Nat → Notice → Program Adapter A} {depth : Nat}
    {w : World Adapter A} (a : Arrival (.nested Adapter.layer program depth) client w)
    (hcalm : Calm (fun _ => True) client a.name a.reached) :
    ∀ t ∈ a.turns, ∀ interest,
      (t.2.heard interest client).bind Notice.ending? = a.ending.tells interest := by
  have hlayer : Spares (Outside.nested Adapter.layer program depth).layer a.name fun _ => True := by
    rw [Outside.nested_layer]
    exact spares_adapter a.name
  have houtside : Outside.nested Adapter.layer program depth =
      .nested (Outside.nested Adapter.layer program depth).layer program depth := by
    rw [Outside.nested_layer]
  exact a.heard_of_spares houtside hlayer hcalm

/-! ## A callback that connects again -/

/-- The program of a callback that connects again when it hears of a failed attempt; every other
callback does nothing. -/
def reconnecting (callback : Nat) (_ : Notice) : Program Recorder Unit :=
  if callback = 0 then .perform (.connect 0 none) (.finish true) else .finish true

/-- A client whose attempt is under way, with two callbacks for failed attempts, and a native
layer that treats further attempts like this. -/
def attempting (behavior : Behavior) : World Recorder Unit :=
  let start : World Recorder Unit := { store := { native := {}, app := () } }
  let made := (start.addClient (.name "a")
    { clientId := "x", host := "broker.test", port := 1883 }).1
  let listening := ((made.on 0 .connectFailed 0).1.on 0 .connectFailed 1).1
  let connecting := (Outside.nested Recorder.layer reconnecting 1).connect 0 none listening
  World.update connecting fun s => { s with native := { s.native with behavior := behavior } }

/-- The attempt fails for reason 134. -/
def failing (behavior : Behavior) :
    Arrival (.nested Recorder.layer reconnecting 1) 0 (attempting behavior) where
  payload := (Event.Disconnected.mk (.ofInt 134) none).payload
  member := ((attempting behavior).client? 0).get rfl
  before := []
  own := ⟨3, some .disconnected, .lose 0⟩
  after := [⟨4, some .disconnected, .tell .connectFailed 0 0⟩,
    ⟨5, some .disconnected, .tell .connectFailed 0 1⟩]
  reached := attempting behavior
  listeners := rfl
  own_handler := rfl
  after_handler := by simp
  reached_eq := rfl
  active := rfl
  held := rfl
  client_eq := rfl
  kept := rfl

/-- Where nothing is answered on the spot, both callbacks hear of the failed attempt. -/
theorem hears_own_ending_of_manual :
    (failing .manual).turns.map (·.1.id) = [4, 5] ∧
      ∀ t ∈ (failing .manual).turns,
        (t.2.heard .connectFailed 0).bind Notice.ending? = some (.ofInt 134) := by
  refine ⟨by decide, fun t ht => ?_⟩
  have hcalm : Calm (fun r : Recorder => r.behavior = .manual) 0 (failing .manual).name
      (failing .manual).reached := by
    refine ⟨rfl, fun event l hl hlose => ?_⟩
    obtain ⟨ls, hls, hl⟩ := Router.mem_table_of_mem_listeners hl
    have htable : ∀ p ∈ (failing .manual).reached.router.table, ∀ l ∈ p.2,
        l.handler = .lose 0 → p.1 = (failing .manual).name := by
      decide
    exact htable (event, ls) hls l hl hlose
  exact (hears_own_ending (failing .manual)).2.2 reconnecting 1 _ rfl
    (spares_recorder _) hcalm t ht .connectFailed

/-- The first callback connects again, and the native layer refuses at once for reason 135. The
second callback still has its turn for the first failure, of reason 134, and hears 135. -/
theorem later_callback_hears_inner_ending :
    (failing (.refuse (.ofInt 135))).ending = ⟨.connecting, .ofInt 134⟩ ∧
      (failing (.refuse (.ofInt 135))).turns.map
          (fun t => (t.1.id, t.2.heard .connectFailed 0)) =
        [(4, some (.connectFailed (.ofInt 134))), (5, some (.connectFailed (.ofInt 135)))] ∧
      ∃ t ∈ (failing (.refuse (.ofInt 135))).turns,
        (t.2.heard .connectFailed 0).bind Notice.ending? ≠
          (failing (.refuse (.ofInt 135))).ending.tells .connectFailed := by
  decide

end Arrival

end MqttRelay.Client
