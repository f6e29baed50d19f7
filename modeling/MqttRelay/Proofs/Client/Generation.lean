import MqttRelay.Client.State

/-!
# Generations

What one step of a client does to its reconnection. Timers and questions to interceptors carry
the generation under which they were started, and every step has one of three shapes: it begins
a new generation with nothing started in it, it begins one with a single timer, or it stays in
the present one, where only a timer or an answer of this very generation moves the cycle on.

Results:
* `State.step_shape`: every step supersedes, schedules or continues.
* `State.Sound.step`: a removed client keeps disconnected, and no cycle is open while connected.
-/

namespace MqttRelay.Client

variable {I : Type}

/-! ## What a step starts -/

/-- The generation of the timer that an effect starts. -/
def Effect.timer? : Effect → Option Nat
  | .schedule generation _ => some generation
  | .count _ => none

/-- The generation of the question to an interceptor. -/
def Ask.question? : Ask I → Option Nat
  | .consult _ _ generation => some generation
  | _ => none

/-- Whence a connect request comes. -/
def Ask.origin? : Ask I → Option Origin
  | .connect _ origin => some origin
  | _ => none

/-- The generation whose timer fires with an input. -/
def Input.timer? : Input → Option Nat
  | .fired generation => some generation
  | _ => none

/-- The generation whose interceptor comes back with an input. -/
def Input.question? : Input → Option Nat
  | .answered generation _ => some generation
  | .failed generation _ => some generation
  | _ => none

/-- The generation whose timer fires or whose interceptor comes back with an input. -/
def Input.generation? (i : Input) : Option Nat := i.timer? <|> i.question?

namespace Move

/-- The generations of the timers that a step starts. -/
def timers (m : Move I) : List Nat := m.effects.filterMap Effect.timer?

/-- The generations of the questions that a step asks. -/
def questions (m : Move I) : List Nat := (m.ask.bind Ask.question?).toList

/-- Whence the connect request of a step comes, if it makes one. -/
def origin? (m : Move I) : Option Origin := m.ask.bind Ask.origin?

/-! ## Shapes -/

/-- A step that ends any cycle and supersedes all that was started. -/
structure Supersedes (s : State I) (m : Move I) : Prop where
  generation : m.state.retry.generation = s.retry.generation + 1
  inCycle : m.state.retry.inCycle = false
  timers : m.timers = []
  questions : m.questions = []
  origin : m.origin? ≠ some .retry

/-- A step that schedules the next attempt of a cycle, under a new generation. -/
structure Schedules (s : State I) (m : Move I) : Prop where
  allowed : s.status = .connected ∧ s.options.reconnects = true ∨ s.retry.inCycle = true
  attempt : Retry.decide s.retry.count (.ofOptions s.options) = .proceed m.state.retry.count
  generation : m.state.retry.generation = s.retry.generation + 1
  inCycle : m.state.retry.inCycle = true
  timers : m.timers = [s.retry.generation + 1]
  questions : m.questions = []
  origin : m.origin? = none

/-- A step within the present generation. Only a timer or an answer `of` that generation makes
an attempt, asks the interceptor or gives the cycle up. -/
structure Continues (s : State I) (of : Option Nat) (m : Move I) : Prop where
  generation : m.state.retry.generation = s.retry.generation
  count : m.state.retry.count = s.retry.count
  inCycle : m.state.retry.inCycle = s.retry.inCycle ∨
    m.state.retry.inCycle = false ∧ of = some s.retry.generation ∧ m.ask = none
  timers : m.timers = []
  questions : m.questions = [] ∨
    m.questions = [s.retry.generation] ∧ of = some s.retry.generation ∧ m.origin? = none
  origin : m.origin? = some .retry → of = some s.retry.generation

end Move

namespace State

open Move

/-! ## Scheduling -/

/-- Another attempt may be scheduled: reconnection is on and the attempts are not used up. -/
def HasBudget (s : State I) : Prop :=
  s.options.reconnects = true ∧ ∀ most, s.options.retryCount = some most → s.retry.count < most

theorem hasBudget_iff (s : State I) :
    s.HasBudget ↔
      ∃ n, Retry.decide s.retry.count (.ofOptions s.options) = .proceed n :=
  (Retry.decide_eq_proceed_iff s.retry.count (.ofOptions s.options)).symm

/-- A scheduled attempt is counted, up to the largest word. -/
theorem toNat_of_decide {s : State I} {attempt : UInt32}
    (h : Retry.decide s.retry.count (.ofOptions s.options) = .proceed attempt) :
    attempt.toNat = min (s.retry.count.toNat + 1) 0xFFFFFFFF := by
  have ha : attempt =
      if s.retry.count = 0xFFFFFFFF then s.retry.count else s.retry.count + 1 := by
    unfold Retry.decide at h
    split at h
    · cases h
    · split at h
      · split at h
        · cases h
        · exact (Retry.Decision.proceed.inj h).symm
      · exact (Retry.Decision.proceed.inj h).symm
  have hmax : (0xFFFFFFFF : UInt32).toNat = 0xFFFFFFFF := rfl
  have hbound := s.retry.count.toNat_lt
  split at ha
  · next hc =>
    rw [ha, hc, hmax]
    rfl
  · next hc =>
    have hne : s.retry.count.toNat ≠ 0xFFFFFFFF := fun he =>
      hc (UInt32.toNat_inj.1 (he.trans hmax.symm))
    rw [ha, UInt32.toNat_add, UInt32.toNat_one]
    omega

/-- Planning either starts one timer under a new generation, which needs a runtime and a
budget, or ends the cycle. -/
theorem plan_cases (runtime : Bool) (s : State I) :
    ((runtime = true ∧ s.HasBudget) ∧ ∃ attempt delay random,
      Retry.decide s.retry.count (.ofOptions s.options) = .proceed attempt ∧
      s.plan runtime =
        ({ s with
          retry := { s.retry.cancelTimer with count := attempt, timer := true }
          random := random },
          [.schedule (s.retry.generation + 1) delay, .count .retryScheduled])) ∨
    (¬ (runtime = true ∧ s.HasBudget) ∧ ∃ count random effects,
      effects.filterMap Effect.timer? = [] ∧
      s.plan runtime =
        ({ s with retry := { s.retry.endCycle with count := count }, random := random },
          effects)) := by
  rw [hasBudget_iff]
  cases h : Retry.decide s.retry.count (.ofOptions s.options) with
  | proceed attempt =>
    cases runtime with
    | true => exact Or.inl ⟨⟨rfl, _, rfl⟩, attempt, _, _, rfl, by rw [plan, h]; rfl⟩
    | false =>
      exact Or.inr ⟨by simp, attempt, _, [.count .cycleAbandoned], rfl, by rw [plan, h]; rfl⟩
  | disabled =>
    exact Or.inr ⟨by simp, s.retry.count, s.random, [], rfl, by rw [plan, h]; rfl⟩
  | exhausted =>
    exact Or.inr ⟨by simp, s.retry.count, s.random, [.count .cycleAbandoned], rfl,
      by rw [plan, h]; rfl⟩

theorem plan_status (runtime : Bool) (s : State I) :
    (s.plan runtime).1.status = s.status := by
  rcases s.plan_cases runtime with ⟨-, _, _, _, -, h⟩ | ⟨-, _, _, _, -, h⟩ <;> rw [h]

theorem plan_removed (runtime : Bool) (s : State I) :
    (s.plan runtime).1.removed = s.removed := by
  rcases s.plan_cases runtime with ⟨-, _, _, _, -, h⟩ | ⟨-, _, _, _, -, h⟩ <;> rw [h]

/-! ## The shape of every step -/

theorem continues_self (s : State I) (of : Option Nat) : Continues s of { state := s } :=
  ⟨rfl, rfl, Or.inl rfl, rfl, Or.inl rfl, nofun⟩

theorem connect_shape (overrides : Option Options) (s : State I) :
    Supersedes s (s.connect overrides) ∨ Continues s none (s.connect overrides) := by
  unfold connect
  split
  · exact Or.inr (s.continues_self none)
  · next h =>
    have hr : s.removed = false := by simpa using h
    refine Or.inl ?_
    constructor <;> simp [issue, hr, Status.mayConnect, timers, questions, origin?, Effect.timer?,
      Ask.question?, Ask.origin?]

theorem disconnect_shape (s : State I) :
    Supersedes s s.disconnect ∨ Continues s none s.disconnect := by
  unfold disconnect
  split
  · exact Or.inr (s.continues_self none)
  · exact Or.inl ⟨rfl, rfl, rfl, rfl, nofun⟩

theorem remove_shape (s : State I) : Supersedes s { state := s.remove } :=
  ⟨rfl, rfl, rfl, rfl, nofun⟩

theorem refused_shape (origin : Origin) (s : State I) :
    Supersedes s (quiet (s.refused origin)) ∨ Continues s none (quiet (s.refused origin)) := by
  unfold refused
  split
  · exact Or.inl ⟨rfl, rfl, rfl, rfl, nofun⟩
  · exact Or.inr ⟨rfl, rfl, Or.inl rfl, rfl, Or.inl rfl, nofun⟩

theorem acknowledged_shape (s : State I) :
    Supersedes s (quiet s.acknowledged) ∨ Continues s none (quiet s.acknowledged) := by
  unfold acknowledged
  split
  · exact Or.inr (s.continues_self none)
  · split
    · exact Or.inl ⟨rfl, rfl, rfl, rfl, nofun⟩
    · exact Or.inr (s.continues_self none)

/-- Planning ends a cycle and supersedes all, or schedules the next attempt. -/
theorem plan_shape (runtime : Bool) (o : Metrics.Occurrence) {s t : State I}
    (hgeneration : t.retry.generation = s.retry.generation)
    (hcount : t.retry.count = s.retry.count) (hoptions : t.options = s.options)
    (hopen : t.retry.inCycle = true)
    (hallowed : s.status = .connected ∧ s.options.reconnects = true ∨ s.retry.inCycle = true) :
    Supersedes s (quiet ((t.plan runtime).1, .count o :: (t.plan runtime).2)) ∨
      Schedules s (quiet ((t.plan runtime).1, .count o :: (t.plan runtime).2)) := by
  rcases t.plan_cases runtime with ⟨-, attempt, delay, random, ha, hp⟩ |
    ⟨-, count, random, effects, he, hp⟩
  · rw [hcount, hoptions] at ha
    rw [hp]
    refine Or.inr ⟨hallowed, ha, ?_, hopen, ?_, rfl, rfl⟩
    · exact congrArg (· + 1) hgeneration
    · show [t.retry.generation + 1] = [s.retry.generation + 1]
      rw [hgeneration]
  · rw [hp]
    refine Or.inl ⟨?_, rfl, he, rfl, nofun⟩
    exact congrArg (· + 1) hgeneration

theorem ended_shape (runtime : Bool) (reason : ReasonCode) (s : State I) :
    Supersedes s (quiet (s.ended runtime reason)) ∨
      Schedules s (quiet (s.ended runtime reason)) ∨
      Continues s none (quiet (s.ended runtime reason)) := by
  unfold ended
  split
  · exact Or.inr (Or.inr (s.continues_self none))
  · dsimp only
    cases hs : s.status with
    | connecting =>
      dsimp only [Disconnect.kind]
      split
      · next h =>
        have hc : s.retry.inCycle = true ∧ s.retry.timer = false := by simpa using h
        have hp := plan_shape runtime .connectFailed (s := s) rfl rfl rfl hc.1 (Or.inr hc.1)
          (t := { s with
            lastEnding := some ⟨.connecting, reason⟩
            retry := { s.retry with reason := some reason }
            status := Status.connecting.afterDisconnected })
        exact hp.imp_right Or.inl
      · exact Or.inr (Or.inr ⟨rfl, rfl, Or.inl rfl, rfl, Or.inl rfl, nofun⟩)
    | connected =>
      dsimp only [Disconnect.kind]
      split
      · next h =>
        have hp := plan_shape runtime .connectionLost (s := s) rfl rfl rfl rfl (Or.inl ⟨hs, h⟩)
          (t := { s with
            lastEnding := some ⟨.connected, reason⟩
            retry := { s.retry with reason := some reason, inCycle := true }
            status := Status.connected.afterDisconnected })
        exact hp.imp_right Or.inl
      · exact Or.inr (Or.inr ⟨rfl, rfl, Or.inl rfl, rfl, Or.inl rfl, nofun⟩)
    | disconnected =>
      exact Or.inr (Or.inr ⟨rfl, rfl, Or.inl rfl, rfl, Or.inl rfl, nofun⟩)

/-- An attempt leaves the bookkeeping of the cycle as it is. -/
theorem answered_retry (generation : Nat) (overrides : Option Options) (s : State I) :
    (s.answered generation overrides).state.retry = s.retry := by
  unfold answered
  split
  · rfl
  · dsimp only [issue]
    split <;> rfl

theorem answered_shape (generation : Nat) (overrides : Option Options) (s : State I) :
    Continues s (some generation) (s.answered generation overrides) := by
  unfold answered
  split
  · exact s.continues_self _
  · next h =>
    have hr : s.removed = false ∧ s.retry.generation = generation := by simpa using h
    constructor <;> simp [issue, hr, Status.mayConnect, timers, questions, origin?, Effect.timer?,
      Ask.question?, Ask.origin?]

theorem fired_shape (generation : Nat) (s : State I) :
    Continues s (some generation) (s.fired generation) := by
  unfold fired
  split
  · exact s.continues_self _
  · next h =>
    have hr : s.removed = false ∧ s.retry.generation = generation := by simpa using h
    dsimp only
    split
    · exact ⟨rfl, rfl, Or.inr ⟨rfl, by rw [hr.2], rfl⟩, rfl, Or.inl rfl, nofun⟩
    · split
      · refine ⟨rfl, rfl, Or.inl rfl, rfl, Or.inr ⟨?_, by rw [hr.2], rfl⟩, nofun⟩
        simp [questions, Ask.question?, hr.2]
      · have ha := answered_shape generation none
          { s with retry := { s.retry with timer := false } }
        exact ⟨ha.generation, ha.count, ha.inCycle, ha.timers, ha.questions, ha.origin⟩

theorem failed_shape (generation : Nat) (panicked : Bool) (s : State I) :
    Continues s (some generation) (quiet (s.failed generation panicked)) := by
  have ht : (quiet (s.failed generation panicked)).timers = [] := by cases panicked <;> rfl
  by_cases h : s.retry.generation = generation
  · refine ⟨?_, ?_, Or.inr ⟨?_, by rw [h], rfl⟩, ht, Or.inl rfl, nofun⟩ <;>
      simp [quiet, failed, h]
  · refine ⟨?_, ?_, Or.inl ?_, ht, Or.inl rfl, nofun⟩ <;> simp [quiet, failed, h]

theorem uninstall_retry (number : Nat) (s : State I) :
    (s.uninstall number).retry = s.retry := by
  unfold uninstall
  split
  · split <;> rfl
  · rfl

theorem uninstall_status (number : Nat) (s : State I) :
    (s.uninstall number).status = s.status := by
  unfold uninstall
  split
  · split <;> rfl
  · rfl

/-- Every step supersedes, schedules or continues. -/
theorem step_shape (runtime : Bool) (input : Input) (s : State I) :
    Supersedes s (s.step runtime input) ∨ Schedules s (s.step runtime input) ∨
      Continues s input.generation? (s.step runtime input) := by
  cases input with
  | connect overrides => exact (s.connect_shape overrides).imp_right Or.inr
  | disconnect => exact s.disconnect_shape.imp_right Or.inr
  | remove => exact Or.inl s.remove_shape
  | refused origin => exact (s.refused_shape origin).imp_right Or.inr
  | acknowledged => exact s.acknowledged_shape.imp_right Or.inr
  | ended reason => exact s.ended_shape runtime reason
  | fired generation => exact Or.inr (Or.inr (s.fired_shape generation))
  | answered generation overrides => exact Or.inr (Or.inr (s.answered_shape generation overrides))
  | failed generation panicked => exact Or.inr (Or.inr (s.failed_shape generation panicked))

/-! ## Status and cycle -/

/-- A removed client is disconnected, and no cycle is open on a client that is removed or
connected; an acknowledged connection starts counting anew. -/
structure Sound (s : State I) : Prop where
  ofRemoved : s.removed = true → s.status = .disconnected ∧ s.retry.inCycle = false
  ofConnected : s.status = .connected → s.retry.inCycle = false ∧ s.retry.count = 0

/-- Every step keeps a client sound. -/
theorem Sound.step {s : State I} (h : s.Sound) (runtime : Bool) (input : Input) :
    (s.step runtime input).state.Sound := by
  obtain ⟨hr, hc⟩ := h
  cases input with
  | connect overrides =>
    simp only [State.step, connect]
    split
    · exact ⟨hr, hc⟩
    · next h => constructor <;> simp [issue, Status.mayConnect, h]
  | disconnect =>
    simp only [State.step, disconnect]
    split
    · exact ⟨hr, hc⟩
    · constructor <;> simp [endCycle]
  | remove => constructor <;> simp [State.step, remove, endCycle]
  | refused origin =>
    simp only [State.step, refused, quiet]
    split
    · constructor <;> simp_all [endCycle]
    · exact ⟨hr, hc⟩
  | acknowledged =>
    simp only [State.step, acknowledged, quiet]
    split
    · exact ⟨hr, hc⟩
    · split
      · constructor <;> simp_all
      · exact ⟨hr, hc⟩
  | ended reason =>
    simp only [State.step, ended, quiet]
    split
    · exact ⟨hr, hc⟩
    · cases hs : s.status with
      | connecting =>
        dsimp only [Disconnect.kind]
        split
        · constructor <;> simp_all [plan_status, plan_removed, Status.afterDisconnected]
        · constructor <;> simp_all [Status.afterDisconnected]
      | connected =>
        dsimp only [Disconnect.kind]
        split
        · constructor <;> simp_all [plan_status, plan_removed, Status.afterDisconnected]
        · constructor <;> simp_all [Status.afterDisconnected]
      | disconnected => constructor <;> simp_all [Disconnect.kind, Status.afterDisconnected]
  | fired generation =>
    simp only [State.step, fired]
    split
    · exact ⟨hr, hc⟩
    · split
      · constructor <;> simp_all
      · split
        · constructor <;> simp_all
        · constructor <;> simp_all [answered, issue, Status.mayConnect]
  | answered generation overrides =>
    simp only [State.step, answered]
    split
    · exact ⟨hr, hc⟩
    · constructor <;> simp_all [issue, Status.mayConnect]
  | failed generation panicked =>
    simp only [State.step, failed, quiet]
    split
    · constructor <;> simp_all
    · exact ⟨hr, hc⟩

/-- A client is removed by its removal, once and for all. -/
theorem removed_step_iff (runtime : Bool) (input : Input) (s : State I) :
    (s.step runtime input).state.removed = true ↔ s.removed = true ∨ input = .remove := by
  cases input with
  | connect overrides =>
    by_cases h : s.removed = true <;> simp [State.step, connect, issue, h, Status.mayConnect]
  | disconnect => by_cases h : s.removed = true <;> simp [State.step, disconnect, endCycle, h]
  | remove => simp [State.step, remove]
  | refused origin =>
    simp only [State.step, refused, quiet]
    split <;> simp [endCycle]
  | acknowledged =>
    simp only [State.step, acknowledged, quiet]
    split
    · simp
    · split <;> simp
  | ended reason =>
    simp only [State.step, ended, quiet]
    split
    · simp
    · cases s.status <;> dsimp only [Disconnect.kind] <;> (try split) <;> simp [plan_removed]
  | fired generation =>
    simp only [State.step, fired]
    split
    · simp
    · split
      · simp
      · split
        · simp
        · simp only [answered, issue]
          split
          · simp
          · split <;> simp
  | answered generation overrides =>
    simp only [State.step, answered, issue]
    split
    · simp
    · split <;> simp
  | failed generation panicked =>
    simp only [State.step, failed, quiet]
    split <;> simp

theorem issue_questions (origin : Origin) (s : State I) : (s.issue origin).questions = [] := by
  unfold issue
  split <;> rfl

/-- Only a fired timer asks an interceptor. -/
theorem timer?_of_questions {s : State I} {runtime : Bool} {input : Input}
    (h : (s.step runtime input).questions ≠ []) : input.timer? ≠ none := by
  cases input with
  | fired generation => exact nofun
  | connect overrides =>
    refine absurd ?_ h
    simp only [State.step, connect]
    split
    · rfl
    · exact issue_questions _ _
  | disconnect =>
    refine absurd ?_ h
    simp only [State.step, disconnect]
    split <;> rfl
  | answered generation overrides =>
    refine absurd ?_ h
    simp only [State.step, answered]
    split
    · rfl
    · exact issue_questions _ _
  | _ => exact absurd rfl h

end State

end MqttRelay.Client
