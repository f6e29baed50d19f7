import Mathlib.Data.List.Induction
import MqttRelay.Proofs.Client.Cycle

/-!
# Retries

When a client asks the native layer for a connection. A request is made for the application, or
it is a retry of the open cycle: the cycle was opened by a lost connection, nothing closed it
since, and the timer of the retry was started in it. In one cycle there are at most as many
retries as the options allow.

Results:
* `Session.connects_of_run`: where the connect requests of a run come from, what opens and what
  closes a cycle, and how many retries a cycle makes.
* `Session.stale_acknowledgement_leaves_cycle_open`: an acknowledgement that arrives while
  disconnected does not close a cycle, nor does the failure of a superseded interceptor.
-/

namespace MqttRelay.Client

variable {I : Type}

namespace State

/-! ## Connect requests -/

/-- A request for the application is made inside a connect on a client that is not removed. -/
theorem origin_step_of_application {s : State I} {runtime : Bool} {input : Input}
    (h : (s.step runtime input).origin? = some .application) :
    s.removed = false ∧ ∃ overrides, input = .connect overrides := by
  cases input with
  | connect overrides =>
    refine ⟨?_, overrides, rfl⟩
    cases hr : s.removed with
    | false => rfl
    | true => simp [State.step, connect, hr, Move.origin?] at h
  | disconnect =>
    by_cases hr : s.removed = true <;>
      simp [State.step, disconnect, hr, Move.origin?, Ask.origin?] at h
  | remove => cases h
  | refused origin => cases h
  | acknowledged => cases h
  | ended reason => cases h
  | fired generation =>
    -- An attempt is a retry, and a question to the interceptor is no request.
    simp only [State.step, fired] at h
    split at h
    · cases h
    · split at h
      · cases h
      · split at h
        · cases h
        · simp only [answered, issue] at h
          split at h
          · cases h
          · split at h <;> cases h
  | answered generation overrides =>
    simp only [State.step, answered, issue] at h
    split at h
    · cases h
    · split at h <;> cases h
  | failed generation panicked => cases h

/-- A scheduled attempt is counted, within the budget. -/
theorem count_of_decide {s : State I} {n attempt : UInt32}
    (hn : s.options.retryCount = some n)
    (h : Retry.decide s.retry.count (.ofOptions s.options) = .proceed attempt) :
    attempt.toNat = s.retry.count.toNat + 1 ∧ attempt.toNat ≤ n.toNat := by
  have hlt : s.retry.count < n := (s.hasBudget_iff.2 ⟨attempt, h⟩).2 n hn
  have hlt := UInt32.lt_iff_toNat_lt.1 hlt
  have hbound := n.toNat_lt
  have hto := toNat_of_decide h
  omega

end State

namespace Stretch

/-- The stretch makes a retry of the open cycle: one of the stretches `past` opened the cycle,
nothing closed it since, and the timer of the retry was started in it. -/
def RetriesInCycle (past : List (Stretch I)) (s : Stretch I) : Prop :=
  ∃ early o cycle g, past = early ++ o :: cycle ∧ o.Opens ∧
    (∀ r ∈ cycle ++ [s], r.before.state.retry.inCycle = true) ∧
    s.turn.generation? = some g ∧ ∃ r ∈ o :: cycle, g ∈ r.move.timers

/-- A stretch that makes a retry. -/
def retries (s : Stretch I) : Bool := s.origin? = some .retry

theorem retries_iff (s : Stretch I) : s.retries = true ↔ s.move.origin? = some .retry :=
  decide_eq_true_iff

end Stretch

namespace Session

theorem origin_of_application {x : Session I} {t : Turn I}
    (h : (x.move t).origin? = some .application) :
    x.state.removed = false ∧ ∃ runtime overrides, t = .input runtime (.connect overrides) := by
  unfold move at h
  split at h
  · cases t with
    | input runtime i =>
      obtain ⟨hr, overrides, rfl⟩ := State.origin_step_of_application h
      exact ⟨hr, runtime, overrides, rfl⟩
    | install number interceptor => cases h
    | uninstall number => cases h
  · cases h

/-- A retry belongs to the present generation, and its timer or its question was out. -/
theorem generation_of_retry {x : Session I} {t : Turn I}
    (h : (x.move t).origin? = some .retry) :
    x.admits t = true ∧ t.generation? = some x.state.retry.generation ∧
      x.state.retry.generation ∈ x.pending := by
  have ha : x.admits t = true := by
    by_contra ha
    rw [move_of_not_admits ha] at h
    cases h
  have hg : t.generation? = some x.state.retry.generation := by
    rcases move_shape ha with hm | hm | hm
    · exact absurd h hm.origin
    · rw [hm.origin] at h
      cases h
    · exact hm.origin h
  exact ⟨ha, hg, mem_pending_of_admits ha hg⟩

theorem owed_pos_of_retry {x : Session I} {t : Turn I} (h : (x.move t).origin? = some .retry) :
    0 < x.owed :=
  List.count_pos_iff.2 (generation_of_retry h).2.2

/-! ## The cycle of a retry -/

/-- What is out under the present generation of an open cycle was started at this turn, or it
is what was out before. -/
theorem timer_or_pending {x : Session I} {t : Turn I}
    (hc : (x.next t).state.retry.inCycle = true)
    (hp : (x.next t).state.retry.generation ∈ (x.next t).pending) :
    (x.next t).state.retry.generation ∈ (x.move t).timers ∨
      (x.next t).state.retry.generation = x.state.retry.generation ∧
        x.state.retry.generation ∈ x.pending := by
  by_cases ha : x.admits t = true
  · rw [state_next] at hc hp ⊢
    rcases move_shape ha with hm | hm | hm
    · rw [hm.inCycle] at hc
      cases hc
    · apply Or.inl
      rw [hm.timers, hm.generation]
      exact List.mem_singleton_self _
    · refine Or.inr ⟨hm.generation, ?_⟩
      rw [hm.generation] at hp
      rcases mem_pending_next hp with hp | hp | hp
      · exact hp
      · simp [hm.timers] at hp
      · rcases hm.questions with hq | ⟨-, hof, -⟩
        · simp [hq] at hp
        · exact mem_pending_of_admits ha hof
  · rw [next_of_not_admits ha] at hp ⊢
    exact Or.inr ⟨rfl, hp⟩

/-- A session in an open cycle, which a stretch `o` of the run opened; if a timer or a question
of the present generation is out, then its timer was started in the cycle. -/
def OpenSince (x : Session I) (o : Stretch I) (cycle : List (Stretch I)) : Prop :=
  o.Opens ∧ (∀ r ∈ cycle, r.before.state.retry.inCycle = true) ∧
    (x.state.retry.generation ∈ x.pending →
      ∃ r ∈ o :: cycle, x.state.retry.generation ∈ r.move.timers)

theorem openSince_of_opens {x : Session I} {t : Turn I} (h : x.Sound)
    (ho : (Stretch.mk x t).Opens) : (x.next t).OpenSince ⟨x, t⟩ [] := by
  refine ⟨ho, by simp, fun hp => ⟨⟨x, t⟩, List.mem_singleton_self _, ?_⟩⟩
  rcases timer_or_pending ho.2 hp with hg | ⟨-, hg⟩
  · exact hg
  · have hc := h.inCycle (List.count_pos_iff.2 hg)
    rw [show x.state.retry.inCycle = false from ho.1] at hc
    cases hc

theorem OpenSince.next {x : Session I} {t : Turn I} {o : Stretch I} {cycle : List (Stretch I)}
    (h : x.OpenSince o cycle) (hx : x.state.retry.inCycle = true)
    (hc : (x.next t).state.retry.inCycle = true) :
    (x.next t).OpenSince o (cycle ++ [⟨x, t⟩]) := by
  obtain ⟨ho, hcycle, htimer⟩ := h
  refine ⟨ho, ?_, ?_⟩
  · intro r hr
    rcases List.mem_append.1 hr with hr | hr
    · exact hcycle r hr
    · rw [List.mem_singleton.1 hr]
      exact hx
  · intro hp
    rcases timer_or_pending hc hp with hg | ⟨he, hg⟩
    · exact ⟨⟨x, t⟩, by simp, hg⟩
    · obtain ⟨r, hr, hg⟩ := htimer hg
      have hr : r ∈ (o :: cycle) ++ [⟨x, t⟩] := List.mem_append_left _ hr
      rw [he]
      exact ⟨r, hr, hg⟩

/-- The stretch that opened an open cycle is found in the run. -/
theorem opening_of_inCycle {x : Session I} (h : x.Sound) (hx : x.state.retry.inCycle = false)
    (turns : List (Turn I)) (hc : (x.after turns).state.retry.inCycle = true) :
    ∃ early o cycle, x.stretches turns = early ++ o :: cycle ∧
      (x.after turns).OpenSince o cycle := by
  induction turns using List.reverseRecOn with
  | nil => exact absurd (hx.symm.trans hc) nofun
  | append_singleton turns t ih =>
    rw [after_append] at hc ⊢
    rw [stretches_append]
    cases hy : (x.after turns).state.retry.inCycle with
    | false => exact ⟨_, ⟨_, t⟩, [], rfl, openSince_of_opens (h.after turns) ⟨hy, hc⟩⟩
    | true =>
      obtain ⟨early, o, cycle, hrun, ho⟩ := ih hy
      refine ⟨early, o, cycle ++ [Stretch.mk (x.after turns) t], ?_, ho.next hy hc⟩
      simp [hrun, stretches]

/-- Every retry is made in the cycle in which its timer was started. -/
theorem retriesInCycle_of_retry (options : Options) (random : Retry.Random)
    {turns : List (Turn I)} {past later : List (Stretch I)} {s : Stretch I}
    (hrun : (fresh options random).stretches turns = past ++ s :: later)
    (h : s.origin? = some .retry) : s.RetriesInCycle past := by
  obtain ⟨ts, us, -, rfl, hs, -⟩ := stretches_eq_append_cons hrun
  obtain ⟨-, hg, hmem⟩ := generation_of_retry h
  have hc : s.before.state.retry.inCycle = true := by
    have hsound := sound_after options random ts
    rw [← hs] at hsound
    exact hsound.inCycle (owed_pos_of_retry h)
  obtain ⟨early, o, cycle, hpast, ho, hcycle, htimer⟩ :=
    opening_of_inCycle (sound_fresh options random) rfl ts (hs ▸ hc)
  rw [← hs] at htimer
  refine ⟨early, o, cycle, _, hpast, ho, fun r hr => ?_, hg, htimer hmem⟩
  rcases List.mem_append.1 hr with hr | hr
  · exact hcycle r hr
  · rw [List.mem_singleton.1 hr]
    exact hc

/-! ## The number of retries -/

/-- A turn that leaves the cycle open turns what is out into a retry, or counts an attempt for
what it starts. -/
theorem retry_add_owed_le {x : Session I} {t : Turn I} {n : UInt32} (h : x.Sound)
    (hn : x.state.options.retryCount = some n)
    (hcount : x.state.retry.count.toNat ≤ n.toNat)
    (hc : (x.next t).state.retry.inCycle = true) :
    (if (Stretch.mk x t).retries then 1 else 0) + (x.next t).owed +
        x.state.retry.count.toNat ≤ (x.next t).state.retry.count.toNat + x.owed ∧
      (x.next t).state.retry.count.toNat ≤ n.toNat := by
  by_cases ha : x.admits t = true
  · have howed := (h.next t).owed_le
    rw [state_next] at hc ⊢
    rcases move_shape ha with hm | hm | hm
    · rw [hm.inCycle] at hc
      cases hc
    · obtain ⟨hattempt, hle⟩ := State.count_of_decide hn hm.attempt
      have hno : ¬ (Stretch.mk x t).retries = true := fun hr => by
        have := hm.origin.symm.trans ((Stretch.retries_iff _).1 hr)
        cases this
      rw [if_neg hno]
      omega
    · have howed := owed_next_of_continues ha hm
      rw [hm.count]
      refine ⟨?_, hcount⟩
      -- A turn makes a retry or asks the interceptor, and is one of the present generation.
      split
      · next hr =>
        have horigin : (x.move t).origin? = some .retry := (Stretch.retries_iff _).1 hr
        have hof := hm.origin horigin
        rcases hm.questions with hq | ⟨-, -, hq⟩
        · simp [hof, hq] at howed
          omega
        · rw [hq] at horigin
          cases horigin
      · rcases hm.questions with hq | ⟨hq, hof, -⟩
        · simp [hq] at howed
          omega
        · simp [hq, hof] at howed
          omega
  · have hno : ¬ (Stretch.mk x t).retries = true := fun hr =>
      ha (generation_of_retry ((Stretch.retries_iff _).1 hr)).1
    rw [next_of_not_admits ha, if_neg hno]
    omega

/-- What is out and the attempts that are counted bound the retries of an open cycle. -/
theorem countP_retries_le {x : Session I} {n : UInt32} (h : x.Sound)
    (turns : List (Turn I)) (made : Nat)
    (hmade : made + x.owed ≤ x.state.retry.count.toNat)
    (hcount : x.state.retry.count.toNat ≤ n.toNat)
    (hcycle : ∀ r ∈ x.stretches turns, r.before.state.retry.inCycle = true)
    (hn : ∀ r ∈ x.stretches turns, r.before.state.options.retryCount = some n) :
    made + (x.stretches turns).countP Stretch.retries ≤ n.toNat := by
  induction turns generalizing x made with
  | nil =>
    simp only [stretches, List.countP_nil]
    omega
  | cons t turns ih =>
    simp only [stretches, List.forall_mem_cons] at hcycle hn
    simp only [stretches, List.countP_cons]
    cases hc : (x.next t).state.retry.inCycle with
    | true =>
      obtain ⟨hstep, hle⟩ := retry_add_owed_le h hn.1 hcount hc
      have hrest := ih (h.next t)
        (made + if (Stretch.mk x t).retries then 1 else 0) (by omega) hle hcycle.2 hn.2
      omega
    | false =>
      -- The turn closes the cycle, and is the last.
      cases turns with
      | cons u turns =>
        have hu := hcycle.2 _ (List.mem_cons_self ..)
        exact absurd (hc.symm.trans hu) nofun
      | nil =>
        simp only [stretches, List.countP_nil]
        split
        · next hr =>
          have howed : 0 < x.owed := owed_pos_of_retry ((Stretch.retries_iff _).1 hr)
          omega
        · omega

/-- With a bound on the attempts, a cycle makes at most as many retries. -/
theorem countP_retries_le_of_opens {x : Session I} {t : Turn I} {n : UInt32} (h : x.Sound)
    (ho : (Stretch.mk x t).Opens) (turns : List (Turn I))
    (hcycle : ∀ r ∈ (x.next t).stretches turns, r.before.state.retry.inCycle = true)
    (hn : ∀ r ∈ x.stretches (t :: turns), r.before.state.options.retryCount = some n) :
    (x.stretches (t :: turns)).countP Stretch.retries ≤ n.toNat := by
  have hx : x.state.retry.inCycle = false := ho.1
  have hc : (x.next t).state.retry.inCycle = true := ho.2
  simp only [stretches, List.forall_mem_cons] at hn
  have ha : x.admits t = true := by
    by_contra ha
    rw [next_of_not_admits ha, hx] at hc
    cases hc
  have hm : (x.move t).Schedules x.state := by
    rcases move_shape ha with hm | hm | hm
    · exact absurd (hm.inCycle.symm.trans hc) nofun
    · exact hm
    · exact absurd ((hm.closed hx).symm.trans hc) nofun
  have hs : x.state.status = .connected := by
    rcases hm.allowed with ⟨hs, -⟩ | hs
    · exact hs
    · exact absurd (hx.symm.trans hs) nofun
  obtain ⟨hattempt, hle⟩ := State.count_of_decide hn.1 hm.attempt
  rw [(h.state.ofConnected hs).2] at hattempt
  change (x.next t).state.retry.count.toNat = 0 + 1 at hattempt
  have howed := (h.next t).owed_le
  have hrest := countP_retries_le (h.next t) turns 0 (by omega) hle hcycle hn.2
  have hopen : ¬ (Stretch.mk x t).retries = true := fun hr => by
    have := hm.origin.symm.trans ((Stretch.retries_iff _).1 hr)
    cases this
  simpa [stretches, hopen] using hrest

/-! ## Runs -/

/-- Every request of a run is made inside a connect of the application on a client that is not
removed, or is a retry of the cycle that is open. A cycle is opened by a lost connection with
reconnection on and an attempt to schedule, and by nothing else; it is closed by what
`Turn.Closes` lists, and by nothing else. With a bound on the attempts throughout a cycle, it
makes at most as many retries. -/
theorem connects_of_run (options : Options) (random : Retry.Random) (turns : List (Turn I)) :
    (∀ past s later, (fresh options random).stretches turns = past ++ s :: later →
      (s.origin? = some .application → s.before.state.removed = false ∧
        ∃ runtime overrides, s.turn = .input runtime (.connect overrides)) ∧
      (s.origin? = some .retry → s.RetriesInCycle past) ∧
      (s.Opens ↔ ∃ reason, s.turn = .input true (.ended reason) ∧
        s.before.state.status = .connected ∧ s.before.state.HasBudget) ∧
      (s.before.state.retry.inCycle = true →
        (s.after.state.retry.inCycle = false ↔ s.turn.Closes s.before))) ∧
    ∀ past o cycle later n,
      (fresh options random).stretches turns = past ++ (o :: cycle) ++ later → o.Opens →
      (∀ r ∈ cycle, r.before.state.retry.inCycle = true) →
      (∀ r ∈ o :: cycle, r.before.state.options.retryCount = some n) →
      (o :: cycle).countP Stretch.retries ≤ n.toNat := by
  constructor
  · intro past s later hrun
    obtain ⟨ts, us, -, -, hs, -⟩ := stretches_eq_append_cons hrun
    have hsound : s.before.Sound := hs ▸ sound_after options random ts
    exact ⟨origin_of_application, retriesInCycle_of_retry options random hrun,
      opens_iff hsound s.turn, fun hx => inCycle_next_iff_closes hsound hx s.turn⟩
  · intro past o cycle later n hrun ho hcycle hn
    rw [List.append_assoc, List.cons_append] at hrun
    obtain ⟨ts, us, -, -, hs, hlater⟩ := stretches_eq_append_cons hrun
    obtain ⟨vs, ws, -, rfl, -⟩ := stretches_eq_append hlater.symm
    have hsound : o.before.Sound := hs ▸ sound_after options random ts
    exact countP_retries_le_of_opens hsound ho vs hcycle hn

/-- With one attempt allowed, a client that loses its connection makes one retry, and gives up
when it fails. -/
theorem connects_of_lost_run :
    let start : Session Unit := fresh { autoReconnect := some true, retryCount := some 1 } .middle
    let x := start.after [.input true (.connect none), .input true .acknowledged]
    let cycle := x.stretches [.input true (.ended .connectionError), .input true (.fired 3),
      .input true (.ended .connectionError)]
    cycle.map Stretch.origin? = [none, some .retry, none] ∧
      cycle.countP Stretch.retries ≤ (1 : UInt32).toNat := by
  intro start x cycle
  refine ⟨by decide, ?_⟩
  have h := connects_of_run (I := Unit) { autoReconnect := some true, retryCount := some 1 } .middle
    [.input true (.connect none), .input true .acknowledged,
      .input true (.ended .connectionError), .input true (.fired 3),
      .input true (.ended .connectionError)]
  exact h.2 (start.stretches [.input true (.connect none), .input true .acknowledged])
    ⟨x, .input true (.ended .connectionError)⟩ cycle.tail [] 1 rfl ⟨by decide, by decide⟩
    (by decide) (by decide)

/-- An acknowledgement that arrives while disconnected leaves the cycle open, and its retry is
made; nor does the failure of a superseded interceptor close a later cycle. What closes a cycle
without any of the application, the broker, the interceptor or the budget is a missing
runtime. -/
theorem stale_acknowledgement_leaves_cycle_open :
    let start : Session Unit := fresh { autoReconnect := some true } .middle
    let lost := [.input true (.connect none), .input true .acknowledged,
      .input true (.ended .connectionError)]
    let x := start.after lost
    let y := x.next (.input true .acknowledged)
    let z := start.after (.install 1 () :: lost ++ .input true (.fired 3) :: lost)
    let failure := .input true (.failed 3 false)
    let w := x.next (.input true (.fired 3))
    (x.state.retry.inCycle = true ∧ y.state.retry.inCycle = true ∧
      (y.move (.input true (.fired 3))).origin? = some .retry) ∧
    (z.admits failure = true ∧ z.state.retry.inCycle = true ∧
      (z.next failure).state.retry.inCycle = true) ∧
    w.state.retry.inCycle = true ∧
      (w.next (.input false (.ended .connectionError))).state.retry.inCycle = false := by
  decide

end Session

end MqttRelay.Client
