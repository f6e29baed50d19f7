import MqttRelay.Proofs.Client.Session

/-!
# Supersession

A connect, a disconnect and a removal supersede all that was started before. Generations only
grow, so a superseded timer or interceptor stays superseded whatever comes later, and finds
nothing to do when it fires or comes back.

Results:
* `Session.superseded_of_call`: what was out when the application called changes nothing ever
  after, and a disconnected client stays disconnected until it is asked to connect.
-/

namespace MqttRelay.Client

variable {I : Type}

namespace Turn

/-- The application asks for a connection, for the end of one, or gives the client up. -/
def IsCall : Turn I → Prop
  | input _ (.connect _) => True
  | input _ .disconnect => True
  | input _ .remove => True
  | _ => False

/-- The application asks for a connection. -/
def Connects : Turn I → Prop
  | input _ (.connect _) => True
  | _ => False

end Turn

namespace State

/-- A superseded timer or interceptor has nothing to do. -/
theorem step_of_superseded {s : State I} {input : Input} {g : Nat}
    (hg : input.generation? = some g) (hne : s.retry.generation ≠ g) (runtime : Bool) :
    (s.step runtime input).state = s ∧ (s.step runtime input).ask = none ∧
      (s.step runtime input).timers = [] := by
  cases input with
  | fired generation =>
    obtain rfl : generation = g := Option.some.inj hg
    simp [State.step, fired, hne, Move.timers]
  | answered generation overrides =>
    obtain rfl : generation = g := Option.some.inj hg
    simp [State.step, answered, hne, Move.timers]
  | failed generation panicked =>
    obtain rfl : generation = g := Option.some.inj hg
    refine ⟨by simp [State.step, failed, quiet, hne], rfl, ?_⟩
    cases panicked <;> rfl
  | _ => cases hg

/-- A client that is not removed begins a new generation at every call. -/
theorem generation_step_of_call {s : State I} {runtime : Bool} {input : Input}
    (h : (Turn.input runtime input : Turn I).IsCall) (hr : s.removed = false) :
    (s.step runtime input).state.retry.generation = s.retry.generation + 1 := by
  cases input with
  | connect overrides => simp [State.step, connect, issue, hr, Status.mayConnect]
  | disconnect => simp [State.step, disconnect, endCycle, hr]
  | remove => rfl
  | _ => cases h

/-- A client is disconnected, and no cycle of reconnection is open. -/
structure Idle (s : State I) : Prop where
  status : s.status = .disconnected
  inCycle : s.retry.inCycle = false

theorem idle_of_removed {s : State I} (h : s.Sound) (hr : s.removed = true) : s.Idle :=
  ⟨(h.ofRemoved hr).1, (h.ofRemoved hr).2⟩

theorem idle_disconnect {s : State I} (h : s.Sound) : s.disconnect.state.Idle := by
  unfold disconnect
  split
  · next hr => exact idle_of_removed h hr
  · exact ⟨rfl, rfl⟩

/-- A client without a cycle stays disconnected until it is asked to connect, and makes no
request, as long as nothing of its generation comes in. -/
theorem Idle.step {s : State I} (h : s.Idle) {runtime : Bool} {input : Input}
    (hc : ¬ (Turn.input runtime input : Turn I).Connects)
    (hg : input.generation? ≠ some s.retry.generation) :
    (s.step runtime input).state.Idle ∧ (s.step runtime input).origin? = none := by
  cases hgen : input.generation? with
  | some g =>
    have hne : s.retry.generation ≠ g := fun he => hg (hgen.trans (congrArg some he.symm))
    obtain ⟨hstate, hask, -⟩ := step_of_superseded hgen hne runtime
    rw [hstate, Move.origin?, hask]
    exact ⟨h, rfl⟩
  | none =>
    obtain ⟨hs, hi⟩ := h
    cases input with
    | connect overrides => exact absurd trivial hc
    | disconnect =>
      simp only [State.step, disconnect]
      split
      · exact ⟨⟨hs, hi⟩, rfl⟩
      · exact ⟨⟨rfl, rfl⟩, rfl⟩
    | remove => exact ⟨⟨rfl, rfl⟩, rfl⟩
    | refused origin =>
      have hr : ¬ (origin = .retry ∧ s.retry.inCycle = true) := by simp [hi]
      simp only [State.step, refused, if_neg hr]
      exact ⟨⟨hs, hi⟩, rfl⟩
    | acknowledged =>
      simp only [State.step, acknowledged, hs, Status.afterConnected]
      split <;> exact ⟨⟨hs, hi⟩, rfl⟩
    | ended reason =>
      simp only [State.step, ended, hs, Disconnect.kind, Status.afterDisconnected]
      split
      · exact ⟨⟨hs, hi⟩, rfl⟩
      · exact ⟨⟨rfl, hi⟩, rfl⟩
    | _ => cases hgen

end State

namespace Session

/-! ## Generations grow -/

theorem generation_le_next (x : Session I) (t : Turn I) :
    x.state.retry.generation ≤ (x.next t).state.retry.generation := by
  by_cases ha : x.admits t = true
  · rw [state_next]
    rcases move_shape ha with hm | hm | hm <;> rw [hm.generation] <;> omega
  · exact Nat.le_of_eq (by rw [next_of_not_admits ha])

theorem generation_le_after (x : Session I) (turns : List (Turn I)) :
    x.state.retry.generation ≤ (x.after turns).state.retry.generation := by
  induction turns generalizing x with
  | nil => exact Nat.le_refl _
  | cons t turns ih => exact Nat.le_trans (x.generation_le_next t) (ih (x.next t))

/-- A call supersedes all that is out. -/
theorem lt_generation_of_call {x : Session I} (h : x.Sound) {call : Turn I}
    (hcall : call.IsCall) {g : Nat} (hg : g ∈ x.pending) :
    g < (x.next call).state.retry.generation := by
  have hle := h.le g hg
  cases hr : x.state.removed with
  | true =>
    -- Nothing is out under the present generation of a removed client.
    have hi := (h.state.ofRemoved hr).2
    have hne : g ≠ x.state.retry.generation := fun he => by
      have hopen := h.inCycle (List.count_pos_iff.2 (he ▸ hg))
      exact absurd (hi.symm.trans hopen) nofun
    have := x.generation_le_next call
    omega
  | false =>
    cases call with
    | install number interceptor => cases hcall
    | uninstall number => cases hcall
    | input runtime input =>
      have ha : x.admits (.input runtime input) = true := by
        cases input <;> first | rfl | cases hcall
      have hstep := State.generation_step_of_call hcall hr
      rw [state_next]
      unfold move
      rw [if_pos ha, hstep]
      omega

/-- A superseded timer or interceptor changes nothing. -/
theorem move_of_superseded {x : Session I} {t : Turn I} {g : Nat}
    (hg : t.generation? = some g) (hne : x.state.retry.generation ≠ g) :
    (x.move t).state = x.state ∧ (x.move t).ask = none ∧ (x.move t).timers = [] := by
  unfold move
  split
  · cases t with
    | input runtime input => exact State.step_of_superseded hg hne runtime
    | install number interceptor => cases hg
    | uninstall number => cases hg
  · exact ⟨rfl, rfl, rfl⟩

/-! ## After a disconnect -/

/-- Without a cycle nothing is out under the present generation, and the client stays as it is
until it is asked to connect. -/
theorem idle_next {x : Session I} (h : x.Sound) (hi : x.state.Idle) {t : Turn I}
    (hc : ¬ t.Connects) : (x.next t).state.Idle ∧ (x.move t).origin? = none := by
  rw [state_next]
  by_cases ha : x.admits t = true
  · have hg : t.generation? ≠ some x.state.retry.generation := fun hg => by
      have hopen := h.inCycle (List.count_pos_iff.2 (mem_pending_of_admits ha hg))
      exact absurd (hi.inCycle.symm.trans hopen) nofun
    unfold move
    rw [if_pos ha]
    cases t with
    | input runtime input => exact hi.step hc hg
    | install number interceptor => exact ⟨⟨hi.status, hi.inCycle⟩, rfl⟩
    | uninstall number =>
      refine ⟨⟨?_, by rw [State.uninstall_retry, hi.inCycle]⟩, rfl⟩
      rw [State.uninstall_status, hi.status]
  · rw [move_of_not_admits ha]
    exact ⟨hi, rfl⟩

theorem idle_stretches {x : Session I} (h : x.Sound) (hi : x.state.Idle)
    {turns : List (Turn I)} (hc : ∀ t ∈ turns, ¬ t.Connects) :
    ∀ s ∈ x.stretches turns, s.before.state.Idle ∧ s.after.state.Idle ∧ s.origin? = none := by
  induction turns generalizing x with
  | nil => simp [stretches]
  | cons t turns ih =>
    obtain ⟨ht, hturns⟩ := List.forall_mem_cons.1 hc
    obtain ⟨hnext, horigin⟩ := idle_next h hi ht
    exact List.forall_mem_cons.2 ⟨⟨hi, hnext, horigin⟩, ih (h.next t) hnext hturns⟩

/-! ## Runs -/

/-- What is out when the application asks for a connection, for the end of one, or gives the
client up changes nothing ever after: it asks nothing of the outside, starts no timer and
leaves the state as it is, the options and the status with it. After a disconnect, and until
a later connect, the status is disconnected throughout and no request is made. -/
theorem superseded_of_call (options : Options) (random : Retry.Random)
    (earlier : List (Turn I)) (call : Turn I) (hcall : call.IsCall) (later : List (Turn I)) :
    let x := (fresh options random).after earlier
    (∀ g ∈ x.pending, ∀ t : Turn I, t.generation? = some g →
      let y := (x.next call).after later
      (y.move t).state = y.state ∧ (y.move t).ask = none ∧ (y.move t).timers = []) ∧
    ((∃ runtime, call = .input runtime .disconnect) → (∀ t ∈ later, ¬ t.Connects) →
      ∀ s ∈ (x.next call).stretches later, s.before.state.status = .disconnected ∧
        s.after.state.status = .disconnected ∧ s.origin? = none) := by
  intro x
  have hx : x.Sound := sound_after options random earlier
  constructor
  · intro g hg t ht
    have hlt := lt_generation_of_call hx hcall hg
    have hle := (x.next call).generation_le_after later
    exact move_of_superseded ht (by omega)
  · rintro ⟨runtime, rfl⟩ hc s hs
    have hi : (x.next (.input runtime .disconnect)).state.Idle := State.idle_disconnect hx.state
    obtain ⟨hbefore, hafter, horigin⟩ := idle_stretches (hx.next _) hi hc s hs
    exact ⟨hbefore.status, hafter.status, horigin⟩

/-- A disconnect while the interceptor is asked: its answer comes back to nothing. -/
theorem superseded_of_disconnect :
    let x : Session Unit := (fresh { autoReconnect := some true } .middle).after
      [.install 1 (), .input true (.connect none), .input true .acknowledged,
        .input true (.ended .connectionError), .input true (.fired 3)]
    let y := x.next (.input true .disconnect)
    let answer := .input true (.answered 3 (some { keepAlive := some 5 }))
    y.admits answer = true ∧ y.state.status = .disconnected ∧
      (y.move answer).state = y.state ∧ (y.move answer).ask = none := by
  intro x y answer
  obtain ⟨hstate, hask, -⟩ := (superseded_of_call { autoReconnect := some true } .middle
    [.install 1 (), .input true (.connect none), .input true .acknowledged,
      .input true (.ended .connectionError), .input true (.fired 3)]
    (.input true .disconnect) trivial []).1 3 (by decide) answer rfl
  exact ⟨by decide, by decide, hstate, hask⟩

end Session

end MqttRelay.Client
