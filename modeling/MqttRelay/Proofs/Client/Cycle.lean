import MqttRelay.Proofs.Client.Session

/-!
# Cycles of reconnection

What opens a cycle and what closes it. A lost connection opens a cycle if reconnection is on
and an attempt can be scheduled. An acknowledgement closes it only while connecting: elsewhere
it is stale, and so is the failure of an interceptor whose generation was superseded.

Results:
* `Session.opens_iff`: what opens a cycle.
* `Session.inCycle_next_iff_closes`: what closes an open cycle.
-/

namespace MqttRelay.Client

variable {I : Type}

/-! ## Opening and closing -/

/-- An input that closes an open cycle: what the application asks for, an acknowledgement while
connecting, the refusal of a retry, the failure of the present interceptor, and a failed attempt
after which, with no timer running, no other can be scheduled. -/
def Input.Closes (runtime : Bool) (s : State I) : Input → Prop
  | .connect _ => True
  | .disconnect => True
  | .remove => True
  | .acknowledged => s.status = .connecting
  | .refused origin => origin = .retry
  | .failed generation _ => s.retry.generation = generation
  | .ended _ => s.status = .connecting ∧ s.retry.timer = false ∧ ¬ (runtime = true ∧ s.HasBudget)
  | .fired _ => False
  | .answered _ _ => False

/-- A turn that closes an open cycle. -/
def Turn.Closes (x : Session I) : Turn I → Prop
  | .input runtime i => x.admits (.input runtime i) = true ∧ i.Closes runtime x.state
  | .install _ _ => False
  | .uninstall _ => False

namespace Stretch

/-- The stretch opens a cycle. -/
def Opens (s : Stretch I) : Prop :=
  s.before.state.retry.inCycle = false ∧ s.after.state.retry.inCycle = true

end Stretch

/-- A step within a generation opens no cycle. -/
theorem Move.Continues.closed {s : State I} {of : Option Nat} {m : Move I}
    (h : m.Continues s of) (hc : s.retry.inCycle = false) : m.state.retry.inCycle = false := by
  rcases h.inCycle with hi | ⟨hi, -, -⟩
  · rw [hi, hc]
  · exact hi

namespace State

theorem plan_inCycle (runtime : Bool) (s : State I) :
    (s.plan runtime).1.retry.inCycle = true ↔
      (runtime = true ∧ s.HasBudget) ∧ s.retry.inCycle = true := by
  rcases s.plan_cases runtime with ⟨hb, _, _, _, -, h⟩ | ⟨hb, _, _, _, -, h⟩ <;> rw [h]
  · simp [hb, RetryState.cancelTimer]
  · simp only [RetryState.endCycle_inCycle, Bool.false_eq_true, false_iff]
    exact fun hn => hb hn.1

/-- What leaves an open cycle open. -/
theorem inCycle_step_of_open {s : State I} (h : s.Sound) (hc : s.retry.inCycle = true)
    (runtime : Bool) (input : Input) :
    (s.step runtime input).state.retry.inCycle = false ↔ input.Closes runtime s := by
  have hr : s.removed = false := by
    cases hr : s.removed with
    | false => rfl
    | true => simp [(h.ofRemoved hr).2] at hc
  have hs : s.status ≠ .connected := fun hs => by simp [(h.ofConnected hs).1] at hc
  cases input with
  | connect overrides =>
    simp [State.step, connect, issue, hr, Status.mayConnect, Input.Closes]
  | disconnect => simp [State.step, disconnect, hr, endCycle, Input.Closes]
  | remove => simp [State.step, remove, endCycle, Input.Closes]
  | refused origin =>
    by_cases ho : origin = .retry <;>
      simp [State.step, quiet, refused, hc, ho, endCycle, Input.Closes]
  | acknowledged =>
    cases hst : s.status <;>
      simp [State.step, quiet, acknowledged, hr, hst, hc, Status.afterConnected, Input.Closes]
  | ended reason =>
    cases hst : s.status with
    | connected => exact absurd hst hs
    | disconnected =>
      simp [State.step, quiet, ended, hr, hst, hc, Disconnect.kind, Input.Closes]
    | connecting =>
      cases ht : s.retry.timer with
      | true => simp [State.step, quiet, ended, hr, hst, hc, ht, Disconnect.kind, Input.Closes]
      | false =>
        simp [State.step, quiet, ended, hr, hst, hc, ht, Disconnect.kind, Input.Closes]
        rw [← Bool.not_eq_true, plan_inCycle]
        simp
        exact Iff.rfl
  | fired generation =>
    have hi : (s.fired generation).state.retry.inCycle = true := by
      unfold fired
      split
      · exact hc
      · dsimp only
        rw [if_neg hs]
        split
        · exact hc
        · rw [answered_retry]
          exact hc
    simp [State.step, hi, Input.Closes]
  | answered generation overrides =>
    by_cases hg : s.retry.generation = generation <;>
      simp [State.step, answered, issue, hr, hg, hc, Status.mayConnect, Input.Closes]
  | failed generation panicked =>
    by_cases hg : s.retry.generation = generation <;>
      simp [State.step, quiet, failed, hg, hc, Input.Closes]

/-- What opens a cycle. -/
theorem inCycle_step_of_closed {s : State I} (h : s.Sound) (hc : s.retry.inCycle = false)
    (runtime : Bool) (input : Input) :
    (s.step runtime input).state.retry.inCycle = true ↔
      (∃ reason, input = .ended reason) ∧ s.status = .connected ∧ runtime = true ∧
        s.HasBudget := by
  cases input with
  | ended reason =>
    by_cases hr : s.removed = true
    · have hs := (h.ofRemoved hr).1
      simp [State.step, quiet, ended, hr, hc, hs]
    · cases hst : s.status with
      | connecting => simp [State.step, quiet, ended, hr, hst, hc, Disconnect.kind]
      | disconnected => simp [State.step, quiet, ended, hr, hst, hc, Disconnect.kind]
      | connected =>
        cases ho : s.options.reconnects with
        | false => simp [State.step, quiet, ended, hr, hst, hc, ho, Disconnect.kind, HasBudget]
        | true =>
          simp [State.step, quiet, ended, hr, hst, ho, Disconnect.kind, plan_inCycle]
          exact fun _ => Iff.rfl
  | connect overrides =>
    simp [(s.connect_shape overrides).elim (·.inCycle) (·.closed hc), State.step]
  | disconnect => simp [s.disconnect_shape.elim (·.inCycle) (·.closed hc), State.step]
  | remove => simp [State.step, remove, endCycle]
  | refused origin => simp [(s.refused_shape origin).elim (·.inCycle) (·.closed hc), State.step]
  | acknowledged => simp [s.acknowledged_shape.elim (·.inCycle) (·.closed hc), State.step]
  | fired generation => simp [(s.fired_shape generation).closed hc, State.step]
  | answered generation overrides =>
    simp [(s.answered_shape generation overrides).closed hc, State.step]
  | failed generation panicked => simp [(s.failed_shape generation panicked).closed hc, State.step]

end State

namespace Session

/-- A cycle is opened by a lost connection, with reconnection on, a runtime to schedule the
attempt on and a budget, and by nothing else. -/
theorem opens_iff {x : Session I} (h : x.Sound) (t : Turn I) :
    (Stretch.mk x t).Opens ↔
      ∃ reason, t = .input true (.ended reason) ∧ x.state.status = .connected ∧
        x.state.HasBudget := by
  constructor
  · rintro ⟨hx, hc⟩
    rw [Stretch.after, state_next] at hc
    unfold move at hc
    split at hc
    · cases t with
      | input runtime i =>
        obtain ⟨⟨reason, rfl⟩, hs, rfl, hb⟩ :=
          (State.inCycle_step_of_closed h.state hx runtime i).1 hc
        exact ⟨reason, rfl, hs, hb⟩
      | install number interceptor => exact absurd (hx.symm.trans hc) nofun
      | uninstall number =>
        rw [State.uninstall_retry, hx] at hc
        cases hc
    · exact absurd (hx.symm.trans hc) nofun
  · rintro ⟨reason, rfl, hs, hb⟩
    have hx := (h.state.ofConnected hs).1
    exact ⟨hx, (State.inCycle_step_of_closed h.state hx true _).2 ⟨⟨reason, rfl⟩, hs, rfl, hb⟩⟩

/-- What closes an open cycle. -/
theorem inCycle_next_iff_closes {x : Session I} (h : x.Sound)
    (hx : x.state.retry.inCycle = true) (t : Turn I) :
    (x.next t).state.retry.inCycle = false ↔ t.Closes x := by
  by_cases ha : x.admits t = true
  · rw [state_next]
    unfold move
    rw [if_pos ha]
    cases t with
    | input runtime i =>
      exact (State.inCycle_step_of_open h.state hx runtime i).trans (by simp [Turn.Closes, ha])
    | install number interceptor => simp [State.install, hx, Turn.Closes]
    | uninstall number => simp [State.uninstall_retry, hx, Turn.Closes]
  · rw [next_of_not_admits ha, hx]
    cases t <;> simp_all [Turn.Closes]

end Session

end MqttRelay.Client
