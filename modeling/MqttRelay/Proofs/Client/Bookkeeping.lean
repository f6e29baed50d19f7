import Mathlib.Data.List.Induction
import MqttRelay.Proofs.Client.Cycle
import MqttRelay.Proofs.Client.Supersession

/-!
# The bookkeeping of a cycle

How the status, the timer, the number of attempts and the stored reason of a client fit
together, whether or not there is a runtime to schedule on. An open cycle is never stuck: its
timer runs, or its retry waits for the interceptor, or the request of its retry is out and has
not been heard of.

Results:
* `State.timer_step_iff`: when a timer is entered as running.
* `State.reason_cases`: what becomes of the stored reason.
* `Session.Kept.next`: every turn keeps the books.
* `Session.books_after`: what the books of a client say after every run.
-/

namespace MqttRelay.Client

variable {I : Type}

/-! ## Reported ends -/

/-- The reason of the end of a connection that an input reports. -/
def Input.ended? : Input → Option ReasonCode
  | .ended reason => some reason
  | _ => none

/-- The reason of the end of a connection that a turn reports. -/
def Turn.ended? : Turn I → Option ReasonCode
  | .input _ i => i.ended?
  | _ => none

namespace State

theorem Sound.removed_of_inCycle {s : State I} (h : s.Sound) (hc : s.retry.inCycle = true) :
    s.removed = false := by
  cases hr : s.removed with
  | false => rfl
  | true => exact absurd ((h.ofRemoved hr).2.symm.trans hc) nofun

theorem Sound.status_of_inCycle {s : State I} (h : s.Sound) (hc : s.retry.inCycle = true) :
    s.status ≠ .connected := fun hs =>
  absurd ((h.ofConnected hs).1.symm.trans hc) nofun

/-! ## One end of a connection -/

/-- The end of a connection entered with its reason, in a cycle that is open or not. -/
def noted (reason : ReasonCode) (inCycle : Bool) (s : State I) : State I :=
  { s with
    lastEnding := some ⟨s.status, reason⟩
    retry := { s.retry with reason := some reason, inCycle := inCycle }
    status := s.status.afterDisconnected }

/-- The end of a connection is entered, and then either the next attempt is planned, for a lost
connection or for a failed attempt in an open cycle without a timer, or nothing else is done. -/
theorem ended_cases (runtime : Bool) (reason : ReasonCode) {s : State I}
    (hr : s.removed = false) :
    ((s.status = .connected ∨
        s.status = .connecting ∧ s.retry.inCycle = true ∧ s.retry.timer = false) ∧
      ∃ inCycle o, s.ended runtime reason =
        (((s.noted reason inCycle).plan runtime).1,
          .count o :: ((s.noted reason inCycle).plan runtime).2)) ∨
    ¬ (s.status = .connecting ∧ s.retry.inCycle = true ∧ s.retry.timer = false) ∧
      ∃ counted : List Metrics.Occurrence,
        s.ended runtime reason = (s.noted reason s.retry.inCycle, counted.map .count) := by
  unfold ended
  rw [if_neg (by simp [hr])]
  dsimp only
  cases hs : s.status with
  | connecting =>
    dsimp only [Disconnect.kind]
    split
    · next h =>
      refine .inl ⟨.inr ⟨rfl, by simpa using h⟩, s.retry.inCycle, .connectFailed, ?_⟩
      simp only [noted, hs]
    · next h =>
      refine .inr ⟨by simpa using h, [.connectFailed], ?_⟩
      simp only [noted, hs, List.map_cons, List.map_nil]
  | connected =>
    dsimp only [Disconnect.kind]
    split
    · refine .inl ⟨.inl rfl, true, .connectionLost, ?_⟩
      simp only [noted, hs]
    · refine .inr ⟨nofun, [.connectionLost], ?_⟩
      simp only [noted, hs, List.map_cons, List.map_nil]
  | disconnected =>
    refine .inr ⟨nofun, [], ?_⟩
    simp only [Disconnect.kind, noted, hs, List.map_nil]

/-- A timer is started only for a lost connection, or for a failed attempt in an open cycle
without a timer. -/
theorem ended_of_timers {s : State I} {runtime : Bool} {input : Input}
    (ht : (s.step runtime input).timers ≠ []) :
    input.ended? ≠ none ∧ (s.status = .connected ∨
      s.status = .connecting ∧ s.retry.inCycle = true ∧ s.retry.timer = false) := by
  cases input with
  | ended reason =>
    refine ⟨nofun, ?_⟩
    by_cases hr : s.removed = true
    · simp [State.step, quiet, ended, hr, Move.timers] at ht
    · rcases ended_cases runtime reason (by simpa using hr) with ⟨hs, -⟩ | ⟨-, counted, he⟩
      · exact hs
      · have hnone : (quiet (s.ended runtime reason)).timers = [] := by
          simp [quiet, he, Move.timers, List.filterMap_map, Function.comp_def, Effect.timer?]
        exact absurd hnone ht
  | connect overrides =>
    exact absurd ((s.connect_shape overrides).elim (·.timers) (·.timers)) ht
  | disconnect => exact absurd (s.disconnect_shape.elim (·.timers) (·.timers)) ht
  | remove => exact absurd s.remove_shape.timers ht
  | refused origin => exact absurd ((s.refused_shape origin).elim (·.timers) (·.timers)) ht
  | acknowledged => exact absurd (s.acknowledged_shape.elim (·.timers) (·.timers)) ht
  | fired generation => exact absurd (s.fired_shape generation).timers ht
  | answered generation overrides =>
    exact absurd (s.answered_shape generation overrides).timers ht
  | failed generation panicked => exact absurd (s.failed_shape generation panicked).timers ht

/-! ## One attempt -/

/-- The answer of the present generation makes the attempt. -/
theorem answered_of_present {s : State I} (hr : s.removed = false) (overrides : Option Options) :
    (s.answered s.retry.generation overrides).origin? = some .retry ∧
      (s.answered s.retry.generation overrides).state.status = .connecting := by
  simp [answered, issue, hr, Status.mayConnect, Move.origin?, Ask.origin?]

/-- The timer of the present generation asks the interceptor or makes the attempt. -/
theorem fired_of_present {s : State I} (hr : s.removed = false) (hs : s.status ≠ .connected) :
    (s.fired s.retry.generation).state.retry = { s.retry with timer := false } ∧
      ((s.fired s.retry.generation).questions = [s.retry.generation] ∨
        (s.fired s.retry.generation).origin? = some .retry ∧
          (s.fired s.retry.generation).state.status = .connecting) := by
  unfold fired
  rw [if_neg (by simp [hr])]
  dsimp only
  rw [if_neg hs]
  split
  · exact ⟨rfl, .inl rfl⟩
  · exact ⟨answered_retry .., .inr
      (answered_of_present (s := { s with retry := { s.retry with timer := false } }) hr none)⟩

/-! ## One step -/

/-- A timer is entered as running if the step starts it, or if it ran before, was not superseded
and is not the one that fires. -/
theorem timer_step_iff {s : State I} (hr : s.removed = true → s.retry.timer = false)
    (runtime : Bool) (input : Input) :
    (s.step runtime input).state.retry.timer = true ↔
      (s.step runtime input).state.retry.generation ∈ (s.step runtime input).timers ∨
        s.retry.timer = true ∧ (s.step runtime input).state.retry.generation = s.retry.generation ∧
          input.timer? ≠ some s.retry.generation := by
  cases input with
  | connect overrides =>
    by_cases h : s.removed = true <;>
      simp [State.step, connect, issue, h, Status.mayConnect, Move.timers, Effect.timer?,
        Input.timer?]
  | disconnect =>
    by_cases h : s.removed = true <;>
      simp [State.step, disconnect, endCycle, h, Move.timers, Input.timer?]
  | remove => simp [State.step, remove, endCycle, Move.timers]
  | refused origin =>
    by_cases h : origin = .retry ∧ s.retry.inCycle = true <;>
      simp [State.step, quiet, refused, endCycle, h, Move.timers, Effect.timer?, Input.timer?]
  | acknowledged =>
    by_cases h : s.removed = true
    · simp [State.step, quiet, acknowledged, h, Move.timers, Input.timer?]
    · cases hs : s.status <;>
        simp [State.step, quiet, acknowledged, h, hs, Status.afterConnected, Move.timers,
          Effect.timer?, Input.timer?]
  | ended reason =>
    by_cases h : s.removed = true
    · simp [State.step, quiet, ended, h, Move.timers, Input.timer?]
    · rcases ended_cases runtime reason (by simpa using h) with
        ⟨-, inCycle, o, he⟩ | ⟨-, counted, he⟩
      · rcases plan_cases runtime (s.noted reason inCycle) with
          ⟨-, attempt, delay, random, -, hp⟩ | ⟨-, count, random, effects, hf, hp⟩
        · rw [State.step, he, hp]
          simp [quiet, Move.timers, Effect.timer?, RetryState.cancelTimer]
        · rw [State.step, he, hp, show (quiet (_, .count o :: effects)).timers = [] from hf]
          simp [quiet, noted]
      · simp [State.step, quiet, he, Move.timers, noted, Input.timer?, List.filterMap_map,
          Function.comp_def, Effect.timer?]
  | fired generation =>
    have hm : (s.fired generation).timers = [] := (s.fired_shape generation).timers
    have hg : (s.fired generation).state.retry.generation = s.retry.generation :=
      (s.fired_shape generation).generation
    rw [State.step, hm, hg]
    by_cases h : s.removed = true
    · simp [fired, h, hr h]
    · by_cases hp : s.retry.generation = generation
      · by_cases hs : s.status = .connected
        · simp [fired, h, hp, hs, Input.timer?]
        · rw [← hp, (fired_of_present (by simpa using h) hs).1]
          simp [Input.timer?]
      · simp [fired, hp, Input.timer?, Ne.symm hp]
  | answered generation overrides =>
    have hm : (s.answered generation overrides).timers = [] :=
      (s.answered_shape generation overrides).timers
    simp [State.step, hm, answered_retry, Input.timer?]
  | failed generation panicked =>
    have hm : (quiet (s.failed generation panicked)).timers = [] :=
      (s.failed_shape generation panicked).timers
    rw [State.step, hm]
    by_cases h : s.retry.generation = generation <;> simp [quiet, failed, h, Input.timer?]

/-- What becomes of the stored reason: an acknowledgement takes it away, the end of a connection
puts its own in its place, and nothing else touches it or connects the client. -/
theorem reason_cases (runtime : Bool) (input : Input) (s : State I) :
    ((s.step runtime input).state.retry.reason = s.retry.reason ∧
        ((s.step runtime input).state.status = .connected → s.status = .connected) ∧
        (input.ended? = none ∨ s.removed = true ∧ (s.step runtime input).state = s)) ∨
      ((s.step runtime input).state.retry.reason = none ∧
        (s.step runtime input).state.retry.inCycle = false ∧ input.ended? = none) ∨
      ∃ reason, input = .ended reason ∧
        (s.step runtime input).state.retry.reason = some reason ∧
        (s.step runtime input).state.status ≠ .connected := by
  cases input with
  | connect overrides =>
    left
    by_cases hr : s.removed = true <;>
      simp [State.step, connect, issue, hr, Status.mayConnect, Input.ended?, RetryState.endCycle,
        RetryState.cancelTimer]
  | disconnect =>
    left
    by_cases hr : s.removed = true <;>
      simp [State.step, disconnect, endCycle, hr, Input.ended?, RetryState.endCycle,
        RetryState.cancelTimer]
  | remove =>
    exact .inl ⟨rfl, (fun hs => by cases hs), .inl rfl⟩
  | refused origin =>
    left
    simp only [State.step, quiet, refused]
    split <;> exact ⟨rfl, id, .inl rfl⟩
  | acknowledged =>
    simp only [State.step, quiet, acknowledged]
    split
    · exact .inl ⟨rfl, id, .inl rfl⟩
    · split
      · exact .inr (.inl ⟨rfl, rfl, rfl⟩)
      · exact .inl ⟨rfl, id, .inl rfl⟩
  | ended reason =>
    by_cases hr : s.removed = true
    · left
      simp [State.step, quiet, ended, hr]
    · -- No end leaves a client connected.
      have hnot : s.status.afterDisconnected ≠ .connected := by
        cases s.status <;> simp [Status.afterDisconnected]
      refine .inr (.inr ⟨reason, rfl, ?_⟩)
      rcases ended_cases runtime reason (by simpa using hr) with
          ⟨-, inCycle, _, he⟩ | ⟨-, _, he⟩ <;>
        rw [State.step, he]
      · refine ⟨?_, fun hs => hnot ((plan_status ..).symm.trans hs)⟩
        rcases plan_cases runtime (s.noted reason inCycle) with
            ⟨-, _, _, _, -, hp⟩ | ⟨-, _, _, _, -, hp⟩ <;>
          simp only [quiet, hp] <;> rfl
      · exact ⟨rfl, hnot⟩
  | fired generation =>
    left
    simp only [State.step, fired]
    split
    · exact ⟨rfl, id, .inl rfl⟩
    · next h =>
      split
      · next hs => exact ⟨rfl, fun _ => hs, .inl rfl⟩
      · split
        · exact ⟨rfl, id, .inl rfl⟩
        · have hp : s.removed = false ∧ s.retry.generation = generation := by simpa using h
          rw [answered_retry, ← hp.2, (answered_of_present
            (s := { s with retry := { s.retry with timer := false } }) hp.1 none).2]
          exact ⟨rfl, (fun hs => by cases hs), .inl rfl⟩
  | answered generation overrides =>
    left
    rw [State.step, answered_retry]
    by_cases hp : s.removed = false ∧ s.retry.generation = generation
    · rw [← hp.2, (answered_of_present hp.1 overrides).2]
      exact ⟨rfl, (fun hs => by cases hs), .inl rfl⟩
    · rw [answered, if_pos (by simpa [imp_iff_not_or] using hp)]
      exact ⟨rfl, id, .inl rfl⟩
  | failed generation panicked =>
    left
    simp only [State.step, quiet, failed]
    split <;> exact ⟨rfl, id, .inl rfl⟩

/-- No reason is stored while connected. -/
theorem reason_step_of_connected {s : State I}
    (h : s.status = .connected → s.retry.reason = none) {runtime : Bool} {input : Input}
    (hs : (s.step runtime input).state.status = .connected) :
    (s.step runtime input).state.retry.reason = none := by
  rcases s.reason_cases runtime input with ⟨hr, hst, -⟩ | ⟨hr, -⟩ | ⟨_, -, -, hst⟩
  · rw [hr, h (hst hs)]
  · exact hr
  · exact absurd hs hst

/-- In an open cycle the stored reason is that of the latest end. -/
theorem reason_step_of_inCycle {s : State I} (h : s.Sound) {runtime : Bool} {input : Input}
    (hc : (s.step runtime input).state.retry.inCycle = true) :
    (s.step runtime input).state.retry.reason = input.ended?.or s.retry.reason := by
  rcases s.reason_cases runtime input with ⟨he, -, hi⟩ | ⟨-, hi, -⟩ | ⟨_, rfl, he, -⟩
  · rcases hi with hi | ⟨hr, hs⟩
    · rw [he, hi]
      rfl
    · rw [hs, (h.ofRemoved hr).2] at hc
      cases hc
  · rw [hi] at hc
    cases hc
  · exact he

/-- While a cycle is open after a step, a client that was connecting still is. -/
theorem status_step_of_connecting {s : State I} (hs : s.status = .connecting) {runtime : Bool}
    {input : Input} (hc : (s.step runtime input).state.retry.inCycle = true) :
    (s.step runtime input).state.status = .connecting := by
  cases input with
  | connect overrides =>
    by_cases hr : s.removed = true <;> simp [State.step, connect, issue, hr, hs, Status.mayConnect]
  | disconnect =>
    by_cases hr : s.removed = true <;> simp_all [State.step, disconnect, endCycle]
  | remove => cases hc
  | refused origin =>
    simp only [State.step, quiet, refused]
    split <;> exact hs
  | acknowledged =>
    by_cases hr : s.removed = true <;>
      simp_all [State.step, quiet, acknowledged, Status.afterConnected]
  | ended reason =>
    by_cases hr : s.removed = true
    · simpa [State.step, quiet, ended, hr] using hs
    · have hafter : s.status.afterDisconnected = .connecting := by rw [hs]; rfl
      rcases ended_cases runtime reason (by simpa using hr) with ⟨-, _, _, he⟩ | ⟨-, _, he⟩ <;>
        rw [State.step, he]
      · exact (plan_status ..).trans hafter
      · exact hafter
  | fired generation =>
    simp only [State.step, fired]
    split
    · exact hs
    · split
      · exact hs
      · split
        · exact hs
        · simp only [answered, issue]
          split
          · exact hs
          · split <;> rfl
  | answered generation overrides =>
    simp only [State.step, answered, issue]
    split
    · exact hs
    · split <;> rfl
  | failed generation panicked =>
    simp only [State.step, quiet, failed]
    split <;> exact hs

/-- A failed attempt in an open cycle without a timer begins a new generation. -/
theorem generation_step_of_failure {s : State I} (hr : s.removed = false)
    (hs : s.status = .connecting) (hi : s.retry.inCycle = true) (ht : s.retry.timer = false)
    (runtime : Bool) (reason : ReasonCode) :
    (s.step runtime (.ended reason)).state.retry.generation = s.retry.generation + 1 := by
  rcases ended_cases runtime reason hr with ⟨-, inCycle, _, he⟩ | ⟨hn, -⟩
  · rw [State.step, he]
    rcases plan_cases runtime (s.noted reason inCycle) with
        ⟨-, _, _, _, -, hp⟩ | ⟨-, _, _, _, -, hp⟩ <;>
      simp only [quiet, hp] <;> rfl
  · exact absurd ⟨hs, hi, ht⟩ hn

end State

namespace Turn

theorem generation?_of_timer? {t : Turn I} {g : Nat} (h : t.timer? = some g) :
    t.generation? = some g := by
  rw [generation?, h]
  rfl

theorem generation?_of_question? {t : Turn I} {g : Nat} (h : t.question? = some g) :
    t.generation? = some g := by
  cases ht : t.timer? with
  | none => rw [generation?, ht, h]; rfl
  | some k => exact absurd (h.symm.trans (question?_of_timer? ht)) (Option.some_ne_none g)

theorem eq_of_ended? {t : Turn I} {reason : ReasonCode} (h : t.ended? = some reason) :
    ∃ runtime, t = input runtime (.ended reason) := by
  cases t with
  | input runtime i =>
    cases i <;> cases h
    exact ⟨runtime, rfl⟩
  | _ => cases h

end Turn

/-- A step within a generation leaves no cycle open that was not. -/
theorem Move.Continues.opened {s : State I} {of : Option Nat} {m : Move I}
    (h : m.Continues s of) (hc : m.state.retry.inCycle = true) : s.retry.inCycle = true := by
  rcases h.inCycle with hi | ⟨hi, -⟩
  · exact hi.symm.trans hc
  · exact absurd (hi.symm.trans hc) nofun

namespace Session

theorem move_input {x : Session I} {runtime : Bool} {input : Input}
    (ha : x.admits (.input runtime input) = true) :
    x.move (.input runtime input) = x.state.step runtime input := if_pos ha

theorem admits_of_ended {x : Session I} {t : Turn I} (h : t.ended? ≠ none) :
    x.admits t = true := by
  obtain ⟨reason, h⟩ := Option.ne_none_iff_exists'.1 h
  obtain ⟨runtime, rfl⟩ := Turn.eq_of_ended? h
  rfl

theorem status_next_of_connecting {x : Session I} {t : Turn I} (hs : x.state.status = .connecting)
    (hc : (x.next t).state.retry.inCycle = true) : (x.next t).state.status = .connecting := by
  by_cases ha : x.admits t = true
  · cases t with
    | input runtime input =>
      rw [state_next, move_input ha] at hc ⊢
      exact State.status_step_of_connecting hs hc
    | install number interceptor => exact hs
    | uninstall number => exact (State.uninstall_status ..).trans hs
  · rw [next_of_not_admits ha]
    exact hs

theorem reason_next_of_inCycle {x : Session I} (h : x.Sound) {t : Turn I}
    (hc : (x.next t).state.retry.inCycle = true) :
    (x.next t).state.retry.reason = t.ended?.or x.state.retry.reason := by
  by_cases ha : x.admits t = true
  · cases t with
    | input runtime input =>
      rw [state_next, move_input ha] at hc ⊢
      exact State.reason_step_of_inCycle h.state hc
    | install number interceptor => rfl
    | uninstall number =>
      rw [state_next, move, if_pos ha, State.uninstall_retry]
      rfl
  · have he : t.ended? = none := Decidable.byContradiction fun he => ha (admits_of_ended he)
    rw [next_of_not_admits ha, he]
    rfl

/-! ## Timers and questions -/

theorem count_timers_le {x : Session I} (h : x.Sound) {g : Nat}
    (hg : x.state.retry.generation ≤ g) : x.timers.count g ≤ 1 := by
  rcases Nat.eq_or_lt_of_le hg with rfl | hlt
  · have ho := h.owed_le
    rw [owed, pending, List.count_append] at ho
    omega
  · have hn : g ∉ x.timers := fun hm => by
      have := h.le g (List.mem_append_left _ hm)
      omega
    rw [List.count_eq_zero_of_not_mem hn]
    exact Nat.zero_le 1

/-- What runs after a turn was started at it, or ran before and did not fire. -/
theorem mem_timers_next_iff {x : Session I} {g : Nat} (hg : x.timers.count g ≤ 1) (t : Turn I) :
    g ∈ (x.next t).timers ↔ g ∈ (x.move t).timers ∨ g ∈ x.timers ∧ t.timer? ≠ some g := by
  rw [next, List.mem_append, or_comm]
  refine or_congr_right ?_
  cases ht : t.timer? with
  | none => simp
  | some k =>
    rw [Option.elim_some]
    by_cases hk : g = k
    · subst hk
      have hc : (x.timers.erase g).count g = 0 := by
        rw [List.count_erase_self]
        omega
      simp [List.count_eq_zero.1 hc]
    · simp [List.mem_erase_of_ne hk, Ne.symm hk]

theorem mem_questions_next {x : Session I} {g : Nat} {t : Turn I} (h : g ∈ x.questions)
    (hg : t.question? ≠ some g) : g ∈ (x.next t).questions := by
  apply List.mem_append_left
  cases ht : t.question? with
  | none => exact h
  | some k => exact (List.mem_erase_of_ne fun he => hg (ht.trans (congrArg some he.symm))).2 h

/-! ## The books -/

/-- The reason of the latest end of a connection that was reported in a run. -/
def latest (run : List (Stretch I)) : Option ReasonCode :=
  (run.filterMap (·.turn.ended?)).getLast?

/-- The request of a retry of the open cycle is out, and no end was reported since. -/
def Awaits (x : Session I) (run : List (Stretch I)) : Prop :=
  x.state.status = .connecting ∧ ∃ past s later, run = past ++ s :: later ∧
    s.origin? = some .retry ∧ (∀ r ∈ s :: later, r.before.state.retry.inCycle = true) ∧
    ∀ r ∈ later, r.turn.ended? = none

/-- A retry that is made is awaited. -/
theorem awaits_of_retry {x : Session I} {t : Turn I} (run : List (Stretch I))
    (hx : x.state.retry.inCycle = true) (ho : (x.move t).origin? = some .retry)
    (hs : (x.move t).state.status = .connecting) : (x.next t).Awaits (run ++ [⟨x, t⟩]) :=
  ⟨hs, run, ⟨x, t⟩, [], rfl, ho, by simpa using hx, by simp⟩

theorem Awaits.next {x : Session I} {run : List (Stretch I)} (h : x.Awaits run) {t : Turn I}
    (hx : x.state.retry.inCycle = true) (hc : (x.next t).state.retry.inCycle = true)
    (he : t.ended? = none) : (x.next t).Awaits (run ++ [⟨x, t⟩]) := by
  obtain ⟨hs, past, s, later, rfl, ho, hopen, hquiet⟩ := h
  refine ⟨status_next_of_connecting hs hc, past, s, later ++ [⟨x, t⟩], by simp, ho, ?_, ?_⟩
  · rw [← List.cons_append, List.forall_mem_append]
    exact ⟨hopen, by simpa using hx⟩
  · rw [List.forall_mem_append]
    exact ⟨hquiet, by simpa using he⟩

/-- The books of a client after a run: a timer is entered as running if it runs, an open cycle
has counted an attempt and knows the reason of the latest end, and something is still to come of
it. -/
structure Kept (x : Session I) (run : List (Stretch I)) : Prop where
  timer : x.state.retry.timer = true ↔ x.state.retry.generation ∈ x.timers
  count : x.state.retry.inCycle = true → 1 ≤ x.state.retry.count.toNat
  unreasoned : x.state.status = .connected → x.state.retry.reason = none
  reason : x.state.retry.inCycle = true → x.state.retry.reason = latest run
  moves : x.state.retry.inCycle = true →
    x.state.retry.timer = true ∨ x.state.retry.generation ∈ x.questions ∨ x.Awaits run

theorem kept_fresh (options : Options) (random : Retry.Random) :
    (fresh options random : Session I).Kept [] :=
  ⟨⟨nofun, nofun⟩, nofun, nofun, nofun, nofun⟩

section

variable {x : Session I} {run : List (Stretch I)} (h : x.Sound) (hk : x.Kept run)

include h hk

/-- A timer that runs belongs to an open cycle. -/
theorem Kept.inCycle (ht : x.state.retry.timer = true) : x.state.retry.inCycle = true :=
  h.inCycle (List.count_pos_iff.2 (List.mem_append_left _ (hk.timer.1 ht)))

theorem Kept.timer_of_removed (hr : x.state.removed = true) : x.state.retry.timer = false := by
  cases ht : x.state.retry.timer with
  | false => rfl
  | true => exact absurd ((h.state.ofRemoved hr).2.symm.trans (hk.inCycle h ht)) nofun

theorem Kept.timer_move_iff {t : Turn I} (ha : x.admits t = true) :
    (x.move t).state.retry.timer = true ↔
      (x.move t).state.retry.generation ∈ (x.move t).timers ∨
        x.state.retry.timer = true ∧
          (x.move t).state.retry.generation = x.state.retry.generation ∧
          t.timer? ≠ some x.state.retry.generation := by
  unfold move
  rw [if_pos ha]
  cases t with
  | input runtime input => exact State.timer_step_iff (hk.timer_of_removed h) runtime input
  | install number interceptor => simp [State.install, Move.timers, Turn.timer?]
  | uninstall number => simp [State.uninstall_retry, Move.timers, Turn.timer?]

theorem Kept.timer_next (t : Turn I) :
    (x.next t).state.retry.timer = true ↔
      (x.next t).state.retry.generation ∈ (x.next t).timers := by
  by_cases ha : x.admits t = true
  · have hle := x.generation_le_next t
    rw [mem_timers_next_iff (count_timers_le h hle), state_next, hk.timer_move_iff h ha]
    refine or_congr_right ?_
    rw [state_next] at hle
    constructor
    · rintro ⟨ht, hg, hf⟩
      rw [hg]
      exact ⟨hk.timer.1 ht, hf⟩
    · rintro ⟨hm, hf⟩
      have hg := Nat.le_antisymm (h.le _ (List.mem_append_left _ hm)) hle
      rw [hg] at hm hf
      exact ⟨hk.timer.2 hm, hg, hf⟩
  · rw [next_of_not_admits ha]
    exact hk.timer

omit hk in
/-- A timer or an answer of the present generation that leaves the cycle open asks the
interceptor or makes the attempt. -/
theorem Sound.attempts {t : Turn I} (hx : x.state.retry.inCycle = true) (ha : x.admits t = true)
    (hg : t.generation? = some x.state.retry.generation)
    (hc : (x.move t).state.retry.inCycle = true) :
    (x.move t).questions = [x.state.retry.generation] ∨
      (x.move t).origin? = some .retry ∧ (x.move t).state.status = .connecting := by
  have hr : x.state.removed = false := h.state.removed_of_inCycle hx
  have hs : x.state.status ≠ .connected := h.state.status_of_inCycle hx
  cases t with
  | input runtime input =>
    rw [move_input ha] at hc ⊢
    cases input with
    | fired generation =>
      obtain rfl : generation = x.state.retry.generation := Option.some.inj hg
      exact (State.fired_of_present hr hs).2
    | answered generation overrides =>
      obtain rfl : generation = x.state.retry.generation := Option.some.inj hg
      exact .inr (State.answered_of_present hr overrides)
    | failed generation panicked =>
      obtain rfl : generation = x.state.retry.generation := Option.some.inj hg
      simp [State.step, State.quiet, State.failed] at hc
    | _ => cases hg
  | _ => cases hg

omit hk in
/-- A failed attempt in an open cycle without a timer is no turn within the generation. -/
theorem Sound.timer_of_failure {t : Turn I} (hx : x.state.retry.inCycle = true)
    (hs : x.state.status = .connecting) (he : t.ended? ≠ none)
    (hgen : (x.move t).state.retry.generation = x.state.retry.generation) :
    x.state.retry.timer = true := by
  cases ht : x.state.retry.timer with
  | true => rfl
  | false =>
    obtain ⟨reason, he⟩ := Option.ne_none_iff_exists'.1 he
    obtain ⟨runtime, rfl⟩ := Turn.eq_of_ended? he
    have hg := State.generation_step_of_failure (h.state.removed_of_inCycle hx) hs hx ht runtime
      reason
    rw [move_input rfl, hg] at hgen
    omega

/-- What is to come of a cycle still is after a turn within the generation that is not of it. -/
theorem Kept.moves_of_other {t : Turn I} (hx : x.state.retry.inCycle = true)
    (hc : (x.next t).state.retry.inCycle = true) (ha : x.admits t = true)
    (hgen : (x.move t).state.retry.generation = x.state.retry.generation)
    (hg : t.generation? ≠ some x.state.retry.generation) :
    (x.next t).state.retry.timer = true ∨
      (x.next t).state.retry.generation ∈ (x.next t).questions ∨
      (x.next t).Awaits (run ++ [⟨x, t⟩]) := by
  have hrun : x.state.retry.timer = true → (x.next t).state.retry.timer = true := fun ht =>
    (hk.timer_move_iff h ha).2 (.inr ⟨ht, hgen, fun he => hg (Turn.generation?_of_timer? he)⟩)
  rcases hk.moves hx with ht | hq | hw
  · exact .inl (hrun ht)
  · rw [state_next, hgen]
    exact .inr (.inl (mem_questions_next hq fun he => hg (Turn.generation?_of_question? he)))
  · by_cases he : t.ended? = none
    · exact .inr (.inr (hw.next hx hc he))
    · exact .inl (hrun (h.timer_of_failure hx hw.1 he hgen))

/-- Something is still to come of a cycle that stays open. -/
theorem Kept.moves_next (t : Turn I) (hc : (x.next t).state.retry.inCycle = true) :
    (x.next t).state.retry.timer = true ∨
      (x.next t).state.retry.generation ∈ (x.next t).questions ∨
      (x.next t).Awaits (run ++ [⟨x, t⟩]) := by
  by_cases ha : x.admits t = true
  · rcases move_shape ha with hm | hm | hm
    · exact absurd (hm.inCycle.symm.trans hc) nofun
    · -- A timer was started at this turn.
      refine .inl ((hk.timer_move_iff h ha).2 (.inl ?_))
      rw [hm.timers, hm.generation]
      exact List.mem_singleton_self _
    · have hx : x.state.retry.inCycle = true := hm.opened hc
      by_cases hg : t.generation? = some x.state.retry.generation
      · rcases h.attempts hx ha hg hc with hq | ⟨ho, hs⟩
        · refine .inr (.inl (List.mem_append_right _ ?_))
          rw [hq, state_next, hm.generation]
          exact List.mem_singleton_self _
        · exact .inr (.inr (awaits_of_retry run hx ho hs))
      · exact hk.moves_of_other h hx hc ha hm.generation hg
  · have hx : x.state.retry.inCycle = true := by rwa [next_of_not_admits ha] at hc
    refine (hk.moves hx).imp (fun ht => ?_) (Or.imp (fun hq => ?_) fun hw => hw.next hx hc ?_)
    · rwa [next_of_not_admits ha]
    · rwa [next_of_not_admits ha]
    · exact Decidable.byContradiction fun he => ha (admits_of_ended he)

end

theorem latest_append (run : List (Stretch I)) (s : Stretch I) :
    latest (run ++ [s]) = s.turn.ended?.or (latest run) := by
  rw [latest, List.filterMap_append, List.getLast?_append]
  cases h : s.turn.ended? <;> simp [h, latest]

section

variable {x : Session I} {run : List (Stretch I)} (h : x.Sound) (hk : x.Kept run) (t : Turn I)

include hk

theorem Kept.count_next (hc : (x.next t).state.retry.inCycle = true) :
    1 ≤ (x.next t).state.retry.count.toNat := by
  by_cases ha : x.admits t = true
  · rcases move_shape ha with hm | hm | hm
    · exact absurd (hm.inCycle.symm.trans hc) nofun
    · have hattempt := State.toNat_of_decide hm.attempt
      rw [state_next]
      omega
    · rw [state_next, hm.count]
      exact hk.count (hm.opened hc)
  · rw [next_of_not_admits ha] at hc ⊢
    exact hk.count hc

theorem Kept.unreasoned_next (hs : (x.next t).state.status = .connected) :
    (x.next t).state.retry.reason = none := by
  by_cases ha : x.admits t = true
  · cases t with
    | input runtime input =>
      rw [state_next, move_input ha] at hs ⊢
      exact State.reason_step_of_connected hk.unreasoned hs
    | install number interceptor => exact hk.unreasoned hs
    | uninstall number =>
      rw [state_next, move, if_pos ha] at hs ⊢
      rw [State.uninstall_status] at hs
      rw [State.uninstall_retry]
      exact hk.unreasoned hs
  · rw [next_of_not_admits ha] at hs ⊢
    exact hk.unreasoned hs

include h

theorem Kept.reason_next (hc : (x.next t).state.retry.inCycle = true) :
    (x.next t).state.retry.reason = t.ended?.or (latest run) := by
  rw [reason_next_of_inCycle h hc]
  cases he : t.ended? with
  | some reason => rfl
  | none =>
    -- No other turn opens a cycle.
    cases hx : x.state.retry.inCycle with
    | true => exact hk.reason hx
    | false =>
      obtain ⟨reason, rfl, -⟩ := (opens_iff h t).1 ⟨hx, hc⟩
      cases he

/-- Every turn keeps the books. -/
theorem Kept.next : (x.next t).Kept (run ++ [⟨x, t⟩]) where
  timer := hk.timer_next h t
  count := hk.count_next t
  unreasoned := hk.unreasoned_next t
  reason hc := (hk.reason_next h t hc).trans (latest_append run ⟨x, t⟩).symm
  moves := hk.moves_next h t

end

theorem kept_after (options : Options) (random : Retry.Random) (turns : List (Turn I)) :
    ((fresh options random).after turns).Kept ((fresh options random).stretches turns) := by
  induction turns using List.reverseRecOn with
  | nil => exact kept_fresh options random
  | append_singleton turns t ih =>
    rw [after_append, stretches_append]
    exact ih.next (sound_after options random turns) t

/-- What the books of a client say after every run. (a) While connected no attempt is counted,
no timer runs, no cycle is open and no reason is stored. (b) A timer is entered exactly while one
of the present generation runs, which it does in an open cycle that has counted an attempt, on a
client that is neither connected nor removed. (c) In an open cycle the stored reason is that of
the latest end, and the timer runs, or a retry waits for the interceptor, or the request of a
retry is out. (d) A removed client is disconnected, without a timer and without a cycle. -/
theorem books_after (options : Options) (random : Retry.Random) (turns : List (Turn I)) :
    let x := (fresh options random).after turns
    let run := (fresh options random).stretches turns
    let retry := x.state.retry
    (x.state.status = .connected →
      retry.count = 0 ∧ retry.timer = false ∧ retry.inCycle = false ∧ retry.reason = none) ∧
    ((retry.timer = true ↔ retry.generation ∈ x.timers) ∧
      (retry.timer = true → retry.inCycle = true ∧ 1 ≤ retry.count.toNat ∧
        x.state.status ≠ .connected ∧ x.state.removed = false)) ∧
    (retry.inCycle = true →
      retry.reason = (run.filterMap (·.turn.ended?)).getLast? ∧
      (retry.timer = true ∨ retry.generation ∈ x.questions ∨
        x.state.status = .connecting ∧ ∃ past s later, run = past ++ s :: later ∧
          s.origin? = some .retry ∧ (∀ r ∈ s :: later, r.before.state.retry.inCycle = true) ∧
          ∀ r ∈ later, r.turn.ended? = none)) ∧
    (x.state.removed = true →
      x.state.status = .disconnected ∧ retry.timer = false ∧ retry.inCycle = false) := by
  intro x run retry
  have h : x.Sound := sound_after options random turns
  have hk : x.Kept run := kept_after options random turns
  have hquiet (hc : retry.inCycle = false) : retry.timer = false := by
    cases ht : retry.timer with
    | false => rfl
    | true => exact absurd (hc.symm.trans (hk.inCycle h ht)) nofun
  refine ⟨fun hs => ?_, ⟨hk.timer, fun ht => ?_⟩, fun hc => ⟨hk.reason hc, hk.moves hc⟩,
    fun hr => ?_⟩
  · obtain ⟨hc, hcount⟩ := h.state.ofConnected hs
    exact ⟨hcount, hquiet hc, hc, hk.unreasoned hs⟩
  · have hc := hk.inCycle h ht
    exact ⟨hc, hk.count hc, h.state.status_of_inCycle hc, h.state.removed_of_inCycle hc⟩
  · obtain ⟨hs, hc⟩ := h.state.ofRemoved hr
    exact ⟨hs, hquiet hc, hc⟩

end Session

end MqttRelay.Client
