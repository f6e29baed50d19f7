import MqttRelay.Proofs.Client.Bookkeeping
import MqttRelay.Proofs.Client.Endings
import MqttRelay.Proofs.Value.Record

/-!
# The reason of an ended connection

The payload of a disconnected event is read as a whole or not at all. One that is not read stands
for an end without a reason, so that an error message of the wrong type takes a reason with it
that could have been read by itself. What a payload is read as is what the client records, and
that is what it hands on to callbacks and to the interceptor of every retry until the next end.

* `Payload.statedReason` — the reason under its key, whatever else the payload holds.

Results:
* `Disconnected.reason_decodeD`: what reason a payload is read as.
* `Session.reason_of_consult`: an interceptor is asked with the reason of the latest end.
* `Arrival.reason_handed_on`: what a client records of an event and hands on, and exactly when that
  is the stated reason.
* `Arrival.unreadable_message_hides_reason`: a payload that states 134 and hands on nothing of it.
-/

namespace MqttRelay

open Event (Payload)

/-! ## The reason that a payload is read as -/

namespace Event

/-- The reason that a payload states: the number under its key if it fits in 32 bits, whatever the
other fields hold. -/
def Payload.statedReason (p : Payload) : ReasonCode :=
  match p.get? "reasonCode" with
  | some (.int n) => if -0x80000000 ≤ n ∧ n < 0x80000000 then .ofInt n else .unspecified
  | _ => .unspecified

/-- The error message of a payload can be read: it is absent, null or a text. -/
def Payload.HasReadableMessage (p : Payload) : Prop :=
  ∀ v, p.get? "errorMessage" = some v → v = .null ∨ ∃ s, v = .str s

/-- A reason that is present is read as the stated one, or cannot be read and none is stated. -/
theorem Payload.statedReason_cases {p : Payload} {v : Value} (h : p.get? "reasonCode" = some v) :
    ReasonCode.read v = .ok p.statedReason ∨
      (∀ r, ReasonCode.read v ≠ .ok r) ∧ p.statedReason = .unspecified := by
  unfold statedReason
  rw [h]
  cases v with
  | int n =>
    dsimp only
    split
    · next hn => exact .inl ((ReasonCode.read_int_eq_ok_iff n _).2 ⟨hn, rfl⟩)
    · next hn => exact .inr ⟨fun r hr => hn ((ReasonCode.read_int_eq_ok_iff n r).1 hr).1, rfl⟩
  | _ => exact .inr ⟨nofun, rfl⟩

namespace Disconnected

/-- A payload is read field by field. -/
theorem decode_eq_ok_iff {p : Payload} (hp : Assoc.Ordered p.fields) (e : Disconnected) :
    p.decode read = .ok e ↔
      (p.get? "reasonCode" = none ∧ e.reason = .unspecified ∨
        ∃ v, p.get? "reasonCode" = some v ∧ ReasonCode.read v = .ok e.reason) ∧
      (p.get? "errorMessage" = none ∧ e.message = none ∨
        ∃ v, p.get? "errorMessage" = some v ∧
          Reader.optional Reader.string v = .ok e.message) := by
  have hkeys : (((Record.pure Disconnected.mk).withDefault "reasonCode" ReasonCode.read
      .unspecified).optional "errorMessage" Reader.string).columns.map (·.key) =
        ["reasonCode", "errorMessage"] := rfl
  refine (Record.readWith_obj_eq_ok_iff_fits (hkeys ▸ by decide) hp .refused
    "DisconnectedEvent" e).trans ?_
  refine (Record.fits_withDefault_iff _ _ _ none .anywhere nofun e).trans ?_
  constructor
  · rintro ⟨f, message, hf, rfl, hmessage⟩
    obtain ⟨g, reason, hg, rfl, hreason⟩ :=
      (Record.fits_withDefault_iff _ _ _ _ .anywhere nofun f).1 hf
    obtain rfl := (Record.fits_pure_iff _ g).1 hg
    exact ⟨hreason, hmessage⟩
  · rintro ⟨hreason, hmessage⟩
    have hfits := (Record.fits_withDefault_iff _ _ _ _ .anywhere nofun _).2
      ⟨_, e.reason, (Record.fits_pure_iff Disconnected.mk _).2 rfl, rfl, hreason⟩
    exact ⟨_, e.message, hfits, rfl, hmessage⟩

/-- A message is read if it can be, and no other is. -/
theorem exists_message_iff (p : Payload) :
    (∃ message, p.get? "errorMessage" = none ∧ message = none ∨
      ∃ v, p.get? "errorMessage" = some v ∧ Reader.optional Reader.string v = .ok message) ↔
    p.HasReadableMessage := by
  unfold Payload.HasReadableMessage
  cases hv : p.get? "errorMessage" with
  | none => exact ⟨fun _ _ h => absurd h nofun, fun _ => ⟨none, .inl ⟨rfl, rfl⟩⟩⟩
  | some v =>
    cases v with
    | null => simp [Reader.optional]
    | str s => simp [Reader.optional, Reader.string, Except.map]
    | _ => simp [Reader.optional, Reader.string, Except.map]

/-- The reason that a payload is read as is the stated one if its message can be read, and none if
not. -/
theorem reason_decodeD {p : Payload} (hp : Assoc.Ordered p.fields) :
    (p.HasReadableMessage → (p.decodeD read {}).reason = p.statedReason) ∧
      (¬ p.HasReadableMessage → (p.decodeD read {}).reason = .unspecified) := by
  have hread := decode_eq_ok_iff hp
  unfold Payload.decodeD
  cases hd : p.decode read with
  | ok e =>
    obtain ⟨hreason, hmessage⟩ := (hread e).1 hd
    refine ⟨fun _ => ?_, fun hn => absurd ((exists_message_iff p).1 ⟨_, hmessage⟩) hn⟩
    rcases hreason with ⟨hnone, he⟩ | ⟨v, hv, he⟩
    · simp [Payload.statedReason, hnone, he]
    · rcases Payload.statedReason_cases hv with hstated | ⟨hn, -⟩
      · exact Except.ok.inj (he.symm.trans hstated)
      · exact absurd he (hn e.reason)
  | error err =>
    refine ⟨fun hm => ?_, fun _ => rfl⟩
    obtain ⟨message, hmessage⟩ := (exists_message_iff p).2 hm
    -- The reason is what could not be read.
    have hn (r : ReasonCode) : ¬ (p.get? "reasonCode" = none ∧ r = .unspecified ∨
        ∃ v, p.get? "reasonCode" = some v ∧ ReasonCode.read v = .ok r) := fun hr =>
      absurd (hd.symm.trans ((hread ⟨r, message⟩).2 ⟨hr, hmessage⟩)) nofun
    cases hv : p.get? "reasonCode" with
    | none => exact absurd (.inl ⟨hv, rfl⟩) (hn .unspecified)
    | some v =>
      rcases Payload.statedReason_cases hv with hstated | ⟨-, hstated⟩
      · exact absurd (.inr ⟨v, hv, hstated⟩) (hn p.statedReason)
      · exact hstated.symm

end Disconnected

end Event

namespace Client

open Native

variable {I N A : Type}

/-! ## What interceptors are asked with -/

theorem State.ask_issue_ne_consult (s : State I) (origin : Origin) (interceptor : I)
    (reason : Option ReasonCode) (generation : Nat) :
    (s.issue origin).ask ≠ some (.consult interceptor reason generation) := by
  unfold issue
  split <;> exact nofun

theorem State.ask_answered_ne_consult (s : State I) (answers : Nat) (overrides : Option Options)
    (interceptor : I) (reason : Option ReasonCode) (generation : Nat) :
    (s.answered answers overrides).ask ≠ some (.consult interceptor reason generation) := by
  unfold answered
  split
  · exact nofun
  · exact ask_issue_ne_consult _ _ _ _ _

/-- An interceptor is asked by the timer of the present generation, with the stored reason. -/
theorem State.fired_of_consult {s : State I} {runtime : Bool} {input : Input} {interceptor : I}
    {reason : Option ReasonCode} {generation : Nat}
    (h : (s.step runtime input).ask = some (.consult interceptor reason generation)) :
    input = .fired generation ∧ s.retry.generation = generation ∧ reason = s.retry.reason := by
  cases input with
  | fired fires =>
    rw [State.step, fired] at h
    split at h
    · cases h
    · next hlive =>
      have hg : s.retry.generation = fires := by
        have hboth : s.removed = false ∧ s.retry.generation = fires := by simpa using hlive
        exact hboth.2
      dsimp only at h
      split at h
      · cases h
      · split at h
        · obtain ⟨-, rfl, rfl⟩ : _ ∧ s.retry.reason = reason ∧ fires = generation := by
            simpa using h
          exact ⟨rfl, hg, rfl⟩
        · exact absurd h (ask_answered_ne_consult _ _ _ _ _ _)
  | answered answers overrides => exact absurd h (ask_answered_ne_consult _ _ _ _ _ _)
  | connect overrides =>
    rw [State.step, connect] at h
    split at h
    · cases h
    · exact absurd h (ask_issue_ne_consult _ _ _ _ _)
  | disconnect =>
    rw [State.step, disconnect] at h
    split at h <;> cases h
  | _ => cases h

namespace Session

/-- What no end was reported in leaves the latest end what it was. -/
theorem latest_append_of_quiet (run : List (Stretch I)) {later : List (Stretch I)}
    (h : ∀ s ∈ later, s.turn.ended? = none) : latest (run ++ later) = latest run := by
  have hnone : later.filterMap (·.turn.ended?) = [] := List.filterMap_eq_nil_iff.2 h
  rw [latest, List.filterMap_append, hnone, List.append_nil, latest]

theorem turn_mem_of_mem_stretches {x : Session I} {turns : List (Turn I)} {s : Stretch I}
    (h : s ∈ x.stretches turns) : s.turn ∈ turns := by
  obtain ⟨past, later, hsplit⟩ := List.append_of_mem h
  obtain ⟨ts, us, rfl, -⟩ := stretches_eq_append_cons hsplit
  exact List.mem_append_right ts List.mem_cons_self

/-- In every run an interceptor is asked with the reason of the latest end. -/
theorem reason_of_consult (options : Options) (random : Retry.Random) (turns : List (Turn I))
    {t : Turn I} {interceptor : I} {reason : Option ReasonCode} {generation : Nat}
    (h : (((fresh options random).after turns).move t).ask =
      some (.consult interceptor reason generation)) :
    reason = latest ((fresh options random).stretches turns) := by
  have hsound : ((fresh options random).after turns : Session I).Sound :=
    sound_after options random turns
  have hkept := kept_after options random turns (I := I)
  by_cases ha : ((fresh options random).after turns).admits t = true
  · cases t with
    | input runtime input =>
      rw [move_input ha] at h
      obtain ⟨rfl, hg, rfl⟩ := State.fired_of_consult h
      have hpending := mem_pending_of_admits ha rfl
      rw [← hg] at hpending
      exact hkept.reason (hsound.inCycle (List.count_pos_iff.2 hpending))
    | install number interceptor => simp [move, ha] at h
    | uninstall number => simp [move, ha] at h
  · rw [move_of_not_admits ha] at h
    cases h

/-- From one end to the next, interceptors are asked with the reason of the first. -/
theorem reason_of_consult_of_quiet (options : Options) (random : Retry.Random)
    (before : List (Turn I)) (runtime : Bool) (reason : ReasonCode) {later : List (Turn I)}
    (hquiet : ∀ t ∈ later, t.ended? = none) :
    ∀ s ∈ ((fresh options random).after (before ++ [.input runtime (.ended reason)])).stretches
      later, ∀ interceptor asked generation,
        s.move.ask = some (.consult interceptor asked generation) → asked = some reason := by
  intro s hs interceptor asked generation hask
  obtain ⟨past, rest, hsplit⟩ := List.append_of_mem hs
  obtain ⟨ts, us, rfl, rfl, hbefore, -⟩ := stretches_eq_append_cons hsplit
  rw [Stretch.move, hbefore, ← after_append] at hask
  have hpast : ∀ s ∈ ((fresh options random).after (before ++ [.input runtime
      (.ended reason)])).stretches ts, s.turn.ended? = none := fun s hs =>
    hquiet s.turn (List.mem_append_left _ (turn_mem_of_mem_stretches hs))
  rw [reason_of_consult options random _ hask, stretches_append, latest_append_of_quiet _ hpast,
    stretches_append]
  exact latest_append _ _

end Session

/-! ## What a client hands on of an event -/

/-- The reason of an end is stored. -/
theorem State.reason_ended {s : State I} (h : s.removed = false) (runtime : Bool)
    (reason : ReasonCode) : (s.ended runtime reason).1.retry.reason = some reason := by
  rcases s.reason_cases runtime (.ended reason) with ⟨-, -, hnone | ⟨hr, -⟩⟩ | ⟨-, -, hnone⟩ | hends
  · cases hnone
  · exact absurd (h.symm.trans hr) nofun
  · cases hnone
  · obtain ⟨_, hreason, hstored, -⟩ := hends
    cases hreason
    exact hstored

namespace Arrival

variable {outside : Outside N A} {client : Nat} {w : World N A}

/-- Right after its own listener's turn the client has the ending on record, and its reason as
that of its retries. -/
theorem recorded_noted (a : Arrival outside client w) :
    ∃ m, a.noted.client? client = some m ∧ m.state.lastEnding = some a.ending ∧
      m.state.retry.reason = some a.ending.reason := by
  obtain ⟨metrics, tasks, h⟩ := a.noted_eq
  have hc : a.reached.store.clients[client]? = some a.member := a.client_eq
  refine ⟨{ a.member with
    state := (a.member.state.ended a.reached.store.runtime a.ending.reason).1 }, ?_,
    State.ended_lastEnding a.kept a.reached.store.runtime a.ending.reason, ?_⟩
  · rw [h]
    simp [World.client?, hc]
  · exact State.reason_ended a.kept a.reached.store.runtime a.ending.reason

/-- What a client hands on of a disconnected event. Its own listener puts the ending on record,
and its reason for the retries. Each callback after it is run once with what the client remembers
at its turn, or not at all, and that is this ending if callbacks run programs of operations and
the native layer reports no other one on the spot. Interceptors are asked with the reason until
the next end. The reason is the stated one exactly if the error message can be read or no reason
is stated, and without a message that can be read it is that no reason was given. -/
theorem reason_handed_on (a : Arrival outside client w) (hp : Assoc.Ordered a.payload.fields) :
    (∃ m, a.noted.client? client = some m ∧ m.state.lastEnding = some a.ending ∧
      m.state.retry.reason = some a.ending.reason) ∧
    (∀ t ∈ a.turns, ∀ interest callback, interest.event = .disconnected →
      t.1.handler = .tell interest client callback →
        outside.act t.1.handler a.payload t.2 =
          outside.hear client callback (t.2.heard interest client) t.2) ∧
    (∀ program depth (P : N → Prop), outside = .nested outside.layer program depth →
      Spares outside.layer a.name P → Calm P client a.name a.reached →
        ∀ t ∈ a.turns, ∀ interest,
          (t.2.heard interest client).bind Notice.ending? = a.ending.tells interest) ∧
    (∀ options random runtime (before later : List (Turn Nat)),
      (∀ t ∈ later, t.ended? = none) →
        ∀ s ∈ ((Session.fresh options random).after
            (before ++ [.input runtime (.ended a.ending.reason)])).stretches later,
          ∀ interceptor reason generation,
            s.move.ask = some (.consult interceptor reason generation) →
              reason = some a.ending.reason) ∧
    (a.ending.reason = a.payload.statedReason ↔
      a.payload.HasReadableMessage ∨ a.payload.statedReason = .unspecified) ∧
    (¬ a.payload.HasReadableMessage → a.ending.reason = .unspecified) := by
  obtain ⟨hreadable, hunreadable⟩ := Event.Disconnected.reason_decodeD hp
  refine ⟨a.recorded_noted, ?_, ?_, ?_, ?_, hunreadable⟩
  · intro t _ interest callback hi hh
    rw [hh]
    exact outside.tellOf_eq_hear hi client callback a.payload t.2
  · intro program depth P houtside hlayer hcalm
    exact a.heard_of_spares houtside hlayer hcalm
  · intro options random runtime before later hquiet
    exact Session.reason_of_consult_of_quiet options random before runtime a.ending.reason hquiet
  · by_cases hm : a.payload.HasReadableMessage
    · exact ⟨fun _ => .inl hm, fun _ => hreadable hm⟩
    · have hnone : a.ending.reason = .unspecified := hunreadable hm
      rw [hnone]
      exact ⟨fun h => .inr h.symm, fun h => (h.resolve_left hm).symm⟩

/-! ## A reason beside a message of the wrong type -/

/-- A disconnected event with any payload reaches a client whose attempt is under way. -/
def arriving (payload : Payload) :
    Arrival (.nested Recorder.layer reconnecting 1) 0 (attempting .manual) :=
  { failing .manual with payload := payload, reached_eq := rfl }

/-- A lost connection, after which the timer of the retry asks the interceptor. -/
def losing (reason : ReasonCode) : Session Nat :=
  (Session.fresh { autoReconnect := some true } .middle).after
    ([.install 1 7, .input true (.connect none), .input true .acknowledged] ++
      [.input true (.ended reason)])

/-- Beside a message that is a text, the reason is recorded and handed on. -/
theorem reason_handed_on_beside_text :
    let a := arriving
      ⟨Assoc.ofList [("errorMessage", .str "bad login"), ("reasonCode", .int 134)]⟩
    a.ending.reason = .ofInt 134 ∧
      (∃ m, a.noted.client? 0 = some m ∧ m.state.retry.reason = some (.ofInt 134)) ∧
      a.turns.map (·.1.id) = [4, 5] ∧
      (∀ t ∈ a.turns,
        (t.2.heard .connectFailed 0).bind Notice.ending? = some (.ofInt 134)) ∧
      ((losing a.ending.reason).stretches [.input true (.fired 3)]).map (·.move.ask) =
        [some (.consult 7 (some (.ofInt 134)) 3)] ∧
      ∀ s ∈ (losing a.ending.reason).stretches [.input true (.fired 3)],
        ∀ interceptor reason generation,
          s.move.ask = some (.consult interceptor reason generation) →
            reason = some (.ofInt 134) := by
  intro a
  have hp : Assoc.Ordered a.payload.fields := .ofList _
  have hreadable : a.payload.HasReadableMessage := by
    intro v hv
    exact .inr ⟨"bad login", (Option.some.inj hv).symm⟩
  have hcalm : Calm (fun r : Recorder => r.behavior = .manual) 0 a.name a.reached := by
    refine ⟨rfl, fun event l hl hlose => ?_⟩
    obtain ⟨ls, hls, hl⟩ := Router.mem_table_of_mem_listeners hl
    have htable : ∀ p ∈ a.reached.router.table, ∀ l ∈ p.2, l.handler = .lose 0 → p.1 = a.name := by
      decide
    exact htable (event, ls) hls l hl hlose
  obtain ⟨hrecorded, -, hheard, hasked, hstated, -⟩ := reason_handed_on a hp
  have hreason : a.ending.reason = .ofInt 134 := hstated.2 (.inl hreadable)
  refine ⟨hreason, ?_, by decide, fun t ht => ?_, rfl, ?_⟩
  · obtain ⟨m, hm, -, hstored⟩ := hrecorded
    exact ⟨m, hm, hstored.trans (congrArg some hreason)⟩
  · rw [hheard reconnecting 1 _ rfl (spares_recorder _) hcalm t ht .connectFailed, Ending.tells,
      hreason]
    rfl
  · rw [← hreason]
    exact hasked { autoReconnect := some true } .middle true
      [.install 1 7, .input true (.connect none), .input true .acknowledged] _
      (by simp [Turn.ended?, Input.ended?])

/-- Beside a message that is a number, the stated reason 134 is neither recorded nor handed on. -/
theorem unreadable_message_hides_reason :
    let a := arriving ⟨Assoc.ofList [("errorMessage", .int 7), ("reasonCode", .int 134)]⟩
    a.payload.statedReason = .ofInt 134 ∧ a.ending.reason = .unspecified ∧
      (a.noted.client? 0).map (·.state.retry.reason) = some (some .unspecified) ∧
      a.turns.map (fun t => (t.1.id, t.2.heard .connectFailed 0)) =
        [(4, some (.connectFailed .unspecified)), (5, some (.connectFailed .unspecified))] := by
  decide

end Arrival

end Client

end MqttRelay
