import Mathlib.Algebra.BigOperators.Group.List.Basic
import Mathlib.Algebra.GroupWithZero.Nat
import MqttRelay.Proofs.Client.Bookkeeping

/-!
# Abandonments

How often a cycle of reconnection is counted as abandoned. A cycle is given up when its budget is
used up, when there is no runtime to schedule on, when its interceptor fails or when the native
layer refuses its retry, and each is counted once. The failure of an interceptor that was
superseded meanwhile gives nothing up, and is counted all the same.

Results:
* `Session.abandonments_eq`: what one stretch counts.
* `Session.charged_eq_of_cycle`: what the stretches of a cycle and its interceptors count.
* `Session.late_failure_is_counted`: a cycle that the application ended is counted as abandoned.
-/

namespace MqttRelay.Client

variable {I : Type}

/-! ## What counts -/

/-- The generation whose interceptor fails. -/
def Input.failure? : Input → Option Nat
  | .failed generation _ => some generation
  | _ => none

/-- The generation whose interceptor fails. -/
def Turn.failure? : Turn I → Option Nat
  | .input _ i => i.failure?
  | _ => none

namespace State

/-- The end of a connection calls for another attempt: a lost connection does, and the failed
attempt of an open cycle without a timer. -/
def callsForAttempt (s : State I) : Bool :=
  s.status = .connected ∨
    s.status = .connecting ∧ s.retry.inCycle = true ∧ s.retry.timer = false

/-- Reconnection is on, but the budget is used up or there is no runtime to schedule on. -/
def lacksAttempt (runtime : Bool) (s : State I) : Bool :=
  match Retry.decide s.retry.count (.ofOptions s.options) with
  | .proceed _ => !runtime
  | .exhausted => true
  | .disabled => false

/-- An input gives a cycle up: an attempt is called for and cannot be made, a retry is refused,
or the interceptor of the present generation fails. -/
def givesUp (runtime : Bool) (s : State I) : Input → Bool
  | .ended _ => s.callsForAttempt && s.lacksAttempt runtime
  | .refused origin => origin = .retry ∧ s.retry.inCycle = true
  | .failed generation _ => s.retry.generation = generation
  | _ => false

/-- The interceptor of a superseded generation fails. -/
def failsLate (s : State I) : Input → Bool
  | .failed generation _ => s.retry.generation ≠ generation
  | _ => false

theorem count_plan (runtime : Bool) (s : State I) :
    (s.plan runtime).2.count (.count .cycleAbandoned) = (s.lacksAttempt runtime).toNat := by
  cases h : Retry.decide s.retry.count (.ofOptions s.options) with
  | proceed attempt => cases runtime <;> rw [plan, lacksAttempt, h] <;> rfl
  | exhausted => rw [plan, lacksAttempt, h]; rfl
  | disabled => rw [plan, lacksAttempt, h]; rfl

/-- What the end of a connection counts. -/
theorem count_ended {s : State I} (h : s.Sound) (runtime : Bool) (reason : ReasonCode) :
    (s.ended runtime reason).2.count (.count .cycleAbandoned) =
      (s.callsForAttempt && s.lacksAttempt runtime).toNat := by
  unfold ended
  split
  · next hr =>
    simp [callsForAttempt, (h.ofRemoved hr).1]
  · dsimp only
    cases hs : s.status with
    | connected =>
      dsimp only [Disconnect.kind]
      split
      · simp [count_plan, callsForAttempt, hs, lacksAttempt]
      · next ho =>
        simp [callsForAttempt, hs, lacksAttempt, Retry.decide, Retry.Policy.ofOptions, ho]
    | connecting =>
      dsimp only [Disconnect.kind]
      split
      · next hc => simp [count_plan, callsForAttempt, hs, lacksAttempt, hc]
      · next hc => simp [callsForAttempt, hs, Bool.eq_false_iff.2 hc]
    | disconnected => simp [Disconnect.kind, callsForAttempt, hs]

theorem count_issue (origin : Origin) (s : State I) :
    (s.issue origin).effects.count (.count .cycleAbandoned) = 0 := by
  unfold issue
  split <;> rfl

theorem count_answered (generation : Nat) (overrides : Option Options) (s : State I) :
    (s.answered generation overrides).effects.count (.count .cycleAbandoned) = 0 := by
  unfold answered
  split
  · rfl
  · exact count_issue _ _

/-- What one input counts: a cycle that is given up, and a failure that comes too late. -/
theorem count_step {s : State I} (h : s.Sound) (runtime : Bool) (input : Input) :
    (s.step runtime input).effects.count (.count .cycleAbandoned) =
      (s.givesUp runtime input).toNat + (s.failsLate input).toNat := by
  cases input with
  | connect overrides =>
    simp only [State.step, connect]
    split
    · rfl
    · exact count_issue _ _
  | disconnect =>
    simp only [State.step, disconnect]
    split <;> rfl
  | remove => rfl
  | refused origin =>
    by_cases hr : origin = .retry ∧ s.retry.inCycle = true <;>
      simp [State.step, quiet, refused, givesUp, failsLate, hr]
  | acknowledged =>
    simp only [State.step, quiet, acknowledged]
    split
    · rfl
    · split <;> rfl
  | ended reason => exact count_ended h runtime reason
  | fired generation =>
    simp only [State.step, fired]
    split
    · rfl
    · split
      · rfl
      · split
        · rfl
        · exact count_answered _ _ _
  | answered generation overrides => exact count_answered _ _ _
  | failed generation panicked =>
    cases panicked <;> by_cases hg : s.retry.generation = generation <;>
      simp [State.step, quiet, failed, givesUp, failsLate, hg]

/-- An attempt is lacking with reconnection on and without a budget or a runtime. -/
theorem lacksAttempt_iff (runtime : Bool) (s : State I) :
    s.lacksAttempt runtime = true ↔
      s.options.reconnects = true ∧ ¬ (runtime = true ∧ s.HasBudget) := by
  have hb := s.hasBudget_iff
  have ho : _ ↔ s.options.reconnects = false :=
    Retry.decide_eq_disabled_iff s.retry.count (.ofOptions s.options)
  unfold lacksAttempt
  cases h : Retry.decide s.retry.count (.ofOptions s.options) with
  | proceed attempt =>
    have hbudget := hb.2 ⟨attempt, h⟩
    simp [hbudget, hbudget.1]
  | disabled => simp [ho.1 h]
  | exhausted =>
    simp only [h, reduceCtorEq, false_iff, exists_false] at ho hb
    simp [hb, ho]

end State

namespace Turn

/-- The turn gives a cycle up. -/
def givesUp (s : State I) : Turn I → Bool
  | input runtime i => s.givesUp runtime i
  | _ => false

/-- The interceptor of a superseded generation fails at the turn. -/
def failsLate (s : State I) : Turn I → Bool
  | input _ i => s.failsLate i
  | _ => false

end Turn

namespace Stretch

/-- How often the stretch counts a cycle as abandoned. -/
def abandonments (s : Stretch I) : Nat := s.move.effects.count (.count .cycleAbandoned)

/-- The stretch begins a cycle: a connection is lost while reconnection is on. The cycle may be
given up at once. -/
def Begins (s : Stretch I) : Prop :=
  s.turn.ended? ≠ none ∧ s.before.state.status = .connected ∧
    s.before.state.options.reconnects = true

/-- The stretch gives a cycle up. -/
def givesUp (s : Stretch I) : Bool := s.before.admits s.turn && s.turn.givesUp s.before.state

/-- An interceptor fails in the stretch, and was superseded before. -/
def failsLate (s : Stretch I) : Bool := s.before.admits s.turn && s.turn.failsLate s.before.state

/-- The stretch is one of a cycle that asked the interceptor for the generations `asked`: its
interceptor fails and was asked in the cycle, or none fails and it is within the cycle. -/
def isOf (asked : List Nat) (within : Bool) (s : Stretch I) : Bool :=
  s.turn.failure?.elim within asked.contains

theorem failsLate_of_failure? {s : Stretch I} (h : s.turn.failure? = none) :
    s.failsLate = false := by
  obtain ⟨x, t⟩ := s
  cases t with
  | input runtime input =>
    cases input with
    | failed generation panicked => cases h
    | _ => simp [failsLate, Turn.failsLate, State.failsLate]
  | install number interceptor => simp [failsLate, Turn.failsLate]
  | uninstall number => simp [failsLate, Turn.failsLate]

end Stretch

/-- The generations for which the interceptor is asked in a run. -/
def asked (run : List (Stretch I)) : List Nat := run.flatMap (·.move.questions)

/-- How often a cycle is counted as abandoned, with its own stretches `run` and those after it:
by its stretches, and by the failures of the interceptors asked in it, whenever they come. -/
def charged (run rest : List (Stretch I)) : Nat :=
  ((run.filter (·.isOf (asked run) true)).map Stretch.abandonments).sum +
    ((rest.filter (·.isOf (asked run) false)).map Stretch.abandonments).sum

/-- How many interceptors that were asked in a cycle fail after they were superseded. -/
def lateFailures (run rest : List (Stretch I)) : Nat :=
  (run ++ rest).countP fun s => s.failsLate && s.isOf (asked run) false

namespace Session

/-! ## One stretch -/

/-- A stretch counts one abandonment for a cycle that it gives up, and one for a failure that
comes too late. -/
theorem abandonments_eq {x : Session I} (h : x.Sound) (t : Turn I) :
    (Stretch.mk x t).abandonments =
      (Stretch.mk x t).givesUp.toNat + (Stretch.mk x t).failsLate.toNat := by
  by_cases ha : x.admits t = true
  · cases t with
    | input runtime input =>
      have hm : (Stretch.mk x (.input runtime input)).move = x.state.step runtime input :=
        move_input ha
      simp only [Stretch.abandonments, hm, State.count_step h.state, Stretch.givesUp,
        Stretch.failsLate, ha, Bool.true_and]
      rfl
    | install number interceptor =>
      simp [Stretch.abandonments, Stretch.move, move, ha, Stretch.givesUp, Stretch.failsLate,
        Turn.givesUp, Turn.failsLate]
    | uninstall number =>
      simp [Stretch.abandonments, Stretch.move, move, ha, Stretch.givesUp, Stretch.failsLate,
        Turn.givesUp, Turn.failsLate]
  · simp [Stretch.abandonments, Stretch.move, move, ha, Stretch.givesUp, Stretch.failsLate]

/-- What gives a cycle up closes it. -/
theorem Sound.closes_of_givesUp {x : Session I} (h : x.Sound) {t : Turn I}
    (hu : (Stretch.mk x t).givesUp = true) :
    ((Stretch.mk x t).Begins ∨ x.state.retry.inCycle = true) ∧
      (x.next t).state.retry.inCycle = false := by
  obtain ⟨ha, hu⟩ := (Bool.and_eq_true_iff ..).1 hu
  dsimp only at ha hu
  cases t with
  | input runtime input =>
    cases input with
    | ended reason =>
      simp only [Turn.givesUp, State.givesUp, Bool.and_eq_true, State.lacksAttempt_iff,
        State.callsForAttempt, decide_eq_true_eq] at hu
      obtain ⟨hs | ⟨hs, hc, ht⟩, ho, hb⟩ := hu
      · refine ⟨.inl ⟨nofun, hs, ho⟩, Bool.eq_false_iff.2 fun hn => hb ?_⟩
        obtain ⟨_, he, -, hbudget⟩ := (opens_iff h _).1 ⟨(h.state.ofConnected hs).1, hn⟩
        injection he with hr
        exact ⟨hr, hbudget⟩
      · exact ⟨.inr hc, (inCycle_next_iff_closes h hc _).2 ⟨ha, hs, ht, hb⟩⟩
    | refused origin =>
      simp only [Turn.givesUp, State.givesUp, decide_eq_true_eq] at hu
      exact ⟨.inr hu.2, (inCycle_next_iff_closes h hu.2 _).2 ⟨ha, hu.1⟩⟩
    | failed generation panicked =>
      simp only [Turn.givesUp, State.givesUp, decide_eq_true_eq] at hu
      have hc := h.inCycle (List.count_pos_iff.2 (mem_pending_of_admits ha (congrArg some hu.symm)))
      exact ⟨.inr hc, (inCycle_next_iff_closes h hc _).2 ⟨ha, hu⟩⟩
    | _ => cases hu
  | install number interceptor => cases hu
  | uninstall number => cases hu

/-- The failure that gives a cycle up is that of the present interceptor, which was asked and has
not come back. -/
theorem question_of_givesUp {x : Session I} {t : Turn I} {g : Nat}
    (hu : (Stretch.mk x t).givesUp = true) (hg : t.failure? = some g) :
    g = x.state.retry.generation ∧ g ∈ x.questions := by
  obtain ⟨ha, hu⟩ := (Bool.and_eq_true_iff ..).1 hu
  dsimp only at ha hu
  cases t with
  | input runtime input =>
    cases input with
    | failed generation panicked =>
      obtain rfl : generation = g := Option.some.inj hg
      simp only [Turn.givesUp, State.givesUp, decide_eq_true_eq] at hu
      exact ⟨hu.symm, by simpa [admits, Turn.timer?, Input.timer?, Turn.question?,
        Input.question?] using ha⟩
    | _ => cases hg
  | install number interceptor => cases hg
  | uninstall number => cases hg

/-! ## What is asked in a cycle -/

/-- What is asked under the present generation was asked at this turn, or it is what was asked
before. -/
theorem asked_or_pending {x : Session I} (h : x.Sound) {t : Turn I}
    (hq : (x.next t).state.retry.generation ∈ (x.next t).questions) :
    (x.next t).state.retry.generation ∈ (x.move t).questions ∨
      (x.next t).state.retry.generation = x.state.retry.generation ∧
        x.state.retry.generation ∈ x.questions := by
  have hold (hg : (x.next t).state.retry.generation = x.state.retry.generation + 1) :
      (x.next t).state.retry.generation ∉ t.question?.elim x.questions x.questions.erase :=
    fun hm => by
      have hmem : (x.next t).state.retry.generation ∈ x.questions := by
        cases ht : t.question? with
        | none => simpa [ht] using hm
        | some g =>
          rw [ht] at hm
          exact List.mem_of_mem_erase hm
      have hle := h.le _ (List.mem_append_right _ hmem)
      omega
  by_cases ha : x.admits t = true
  · rcases move_shape ha with hm | hm | hm
    · exact .inl ((List.mem_append.1 hq).resolve_left (hold hm.generation))
    · exact .inl ((List.mem_append.1 hq).resolve_left (hold hm.generation))
    · refine (List.mem_append.1 hq).symm.imp_right fun hmem => ⟨hm.generation, ?_⟩
      rw [state_next, hm.generation] at hmem
      cases ht : t.question? with
      | none => simpa [ht] using hmem
      | some g =>
        rw [ht] at hmem
        exact List.mem_of_mem_erase hmem
  · rw [next_of_not_admits ha] at hq ⊢
    exact .inr ⟨rfl, hq⟩

theorem asked_stretches_concat (x : Session I) (turns : List (Turn I)) (t : Turn I) :
    asked (x.stretches (turns ++ [t])) =
      asked (x.stretches turns) ++ ((x.after turns).move t).questions := by
  rw [asked, stretches_append, List.flatMap_append]
  exact congrArg _ (List.append_nil _)

/-- The interceptor is asked under the present generation. -/
theorem generation_of_asked {x : Session I} {t : Turn I} {g : Nat}
    (hg : g ∈ (x.move t).questions) : g = x.state.retry.generation := by
  by_cases ha : x.admits t = true
  · rcases move_shape ha with hm | hm | hm
    · simp [hm.questions] at hg
    · simp [hm.questions] at hg
    · rcases hm.questions with hq | ⟨hq, -, -⟩
      · simp [hq] at hg
      · simpa [hq] using hg
  · simp [move_of_not_admits ha, Move.questions] at hg

theorem le_generation_of_asked (x : Session I) (turns : List (Turn I)) :
    ∀ g ∈ asked (x.stretches turns), g ≤ (x.after turns).state.retry.generation := by
  induction turns using List.reverseRecOn with
  | nil => exact nofun
  | append_singleton turns t ih =>
    intro g hg
    rw [asked_stretches_concat] at hg
    have hle : (x.after turns).state.retry.generation ≤ _ := (x.after turns).generation_le_next t
    rw [after_append]
    rcases List.mem_append.1 hg with hg | hg
    · exact Nat.le_trans (ih g hg) hle
    · rw [generation_of_asked hg]
      exact hle

/-- With nothing asked at first, what is asked under the present generation was asked in the
run. -/
theorem mem_asked_of_question {x : Session I} (h : x.Sound)
    (hx : x.state.retry.generation ∉ x.questions) (turns : List (Turn I))
    (hq : (x.after turns).state.retry.generation ∈ (x.after turns).questions) :
    (x.after turns).state.retry.generation ∈ asked (x.stretches turns) := by
  induction turns using List.reverseRecOn with
  | nil => exact absurd hq hx
  | append_singleton turns t ih =>
    rw [asked_stretches_concat, List.mem_append]
    rw [after_append] at hq ⊢
    rcases asked_or_pending (h.after turns) hq with hnew | ⟨hsame, hold⟩
    · exact .inr hnew
    · refine .inl ?_
      have hgen : ((x.after turns).after [t]).state.retry.generation = _ := hsame
      rw [hgen]
      exact ih hold

/-- What opens a cycle schedules its first attempt. -/
theorem schedules_of_opens {x : Session I} {t : Turn I} (h : x.Sound)
    (ho : (Stretch.mk x t).Opens) : (x.move t).Schedules x.state := by
  obtain ⟨reason, rfl, -⟩ := (opens_iff h t).1 ho
  rcases move_shape (x := x) (t := .input true (.ended reason)) rfl with hm | hm | hm
  · exact absurd (hm.inCycle.symm.trans ho.2) nofun
  · exact hm
  · exact absurd ((hm.closed ho.1).symm.trans ho.2) nofun

/-- A cycle that is open again has gone on to a later generation. -/
theorem generation_lt_of_reopened {x : Session I} (h : x.Sound)
    (hx : x.state.retry.inCycle = false) (turns : List (Turn I))
    (hc : (x.after turns).state.retry.inCycle = true) :
    x.state.retry.generation < (x.after turns).state.retry.generation := by
  induction turns generalizing x with
  | nil => exact absurd (hx.symm.trans hc) nofun
  | cons t turns ih =>
    cases hn : (x.next t).state.retry.inCycle with
    | false => exact Nat.lt_of_le_of_lt (x.generation_le_next t) (ih (h.next t) hn hc)
    | true =>
      have hm : (x.move t).Schedules x.state := schedules_of_opens h ⟨hx, hn⟩
      have hle := (x.next t).generation_le_after turns
      rw [state_next, hm.generation] at hle
      exact hle

/-! ## One cycle -/

/-- Only the last stretch of a cycle may give it up. -/
theorem countP_givesUp {x : Session I} (h : x.Sound) (t : Turn I) (cycle : List (Turn I))
    (hcycle : ∀ s ∈ (x.next t).stretches cycle, s.before.state.retry.inCycle = true) :
    (x.stretches (t :: cycle)).countP Stretch.givesUp =
      ((x.stretches (t :: cycle)).getLast (List.cons_ne_nil _ _)).givesUp.toNat := by
  induction cycle generalizing x t with
  | nil => cases hu : (Stretch.mk x t).givesUp <;> simp [stretches, hu]
  | cons u us ih =>
    simp only [stretches, List.forall_mem_cons] at hcycle
    have hu : ¬ (Stretch.mk x t).givesUp = true := fun hu =>
      Bool.false_ne_true ((h.closes_of_givesUp hu).2.symm.trans hcycle.1)
    have hrest := ih (h.next t) u hcycle.2
    exact (List.countP_cons_of_neg hu).trans hrest

/-- The sum of what stretches count, where each counts for one of two reasons. -/
theorem sum_abandonments {run : List (Stretch I)} {of : Stretch I → Bool}
    (first : Stretch I → Bool) {second : Stretch I → Bool}
    (h : ∀ s ∈ run, (if of s then s.abandonments else 0) = (first s).toNat + (second s).toNat) :
    ((run.filter of).map Stretch.abandonments).sum = run.countP first + run.countP second := by
  induction run with
  | nil => rfl
  | cons s run ih =>
    obtain ⟨hs, hrun⟩ := List.forall_mem_cons.1 h
    have hsum : (((s :: run).filter of).map Stretch.abandonments).sum =
        (if of s then s.abandonments else 0) + ((run.filter of).map Stretch.abandonments).sum := by
      cases ho : of s <;> simp [ho]
    rw [hsum, hs, ih hrun]
    cases hf : first s <;> cases hs : second s <;> simp [hf, hs] <;> omega

/-- Every stretch of a run is that of a turn at the session that the run has reached. -/
theorem stretch_of_mem {x : Session I} {turns : List (Turn I)} {s : Stretch I}
    (hs : s ∈ x.stretches turns) :
    ∃ past later, turns = past ++ s.turn :: later ∧ s.before = x.after past := by
  obtain ⟨run, rest, hsplit⟩ := List.append_of_mem hs
  obtain ⟨ts, us, hturns, -, hbefore, -⟩ := stretches_eq_append_cons hsplit
  exact ⟨ts, us, hturns, hbefore⟩

theorem mem_asked_of_append {x : Session I} {past later : List (Turn I)} {g : Nat}
    (h : g ∈ asked (x.stretches past)) : g ∈ asked (x.stretches (past ++ later)) := by
  rw [asked, stretches_append, List.flatMap_append]
  exact List.mem_append_left _ h

/-- What a stretch of a cycle counts against the cycle. -/
theorem abandonments_of_cycle {x : Session I} (h : x.Sound)
    (hx : x.state.retry.generation ∉ x.questions) {turns : List (Turn I)} {s : Stretch I}
    (hs : s ∈ x.stretches turns) :
    (if s.isOf (asked (x.stretches turns)) true then s.abandonments else 0) =
      s.givesUp.toNat +
        (s.failsLate && s.isOf (asked (x.stretches turns)) false).toNat := by
  obtain ⟨past, later, rfl, hbefore⟩ := stretch_of_mem hs
  obtain ⟨y, t⟩ := s
  obtain rfl : y = x.after past := hbefore
  have habandon := abandonments_eq (h.after past) t
  cases hf : t.failure? with
  | none =>
    have hlate := Stretch.failsLate_of_failure? (s := ⟨x.after past, t⟩) hf
    simp [Stretch.isOf, hf, habandon, hlate]
  | some g =>
    by_cases hg : g ∈ asked (x.stretches (past ++ t :: later))
    · simp [Stretch.isOf, hf, hg, habandon]
    · have hup : (Stretch.mk (x.after past) t).givesUp = false := Bool.eq_false_iff.2 fun hup => by
        obtain ⟨rfl, hq⟩ := question_of_givesUp hup hf
        exact hg (mem_asked_of_append (mem_asked_of_question h hx past hq))
      simp [Stretch.isOf, hf, hg, hup]

/-- What a stretch after a cycle counts against the cycle. -/
theorem abandonments_after_cycle {x : Session I} (h : x.Sound) {turns later : List (Turn I)}
    (hc : later ≠ [] → (x.after turns).state.retry.inCycle = false) {s : Stretch I}
    (hs : s ∈ (x.after turns).stretches later) :
    (if s.isOf (asked (x.stretches turns)) false then s.abandonments else 0) =
      (s.failsLate && s.isOf (asked (x.stretches turns)) false).toNat := by
  obtain ⟨past, rest, rfl, hbefore⟩ := stretch_of_mem hs
  obtain ⟨y, t⟩ := s
  obtain rfl : y = (x.after turns).after past := hbefore
  have hy := (h.after turns).after past
  have habandon := abandonments_eq hy t
  cases ho : (Stretch.mk ((x.after turns).after past) t).isOf (asked (x.stretches turns)) false with
  | false => simp
  | true =>
    -- Its interceptor was asked in the cycle, and another cycle would be a later generation.
    have hup : (Stretch.mk ((x.after turns).after past) t).givesUp = false :=
      Bool.eq_false_iff.2 fun hup => by
        cases hf : t.failure? with
        | none => simp [Stretch.isOf, hf] at ho
        | some g =>
          have hg : g ∈ asked (x.stretches turns) := by simpa [Stretch.isOf, hf] using ho
          have hle := le_generation_of_asked x turns g hg
          obtain ⟨rfl, hq⟩ := question_of_givesUp hup hf
          have hopen := hy.inCycle (List.count_pos_iff.2 (List.mem_append_right _ hq))
          have hlt := generation_lt_of_reopened (h.after turns) (hc (by simp)) past hopen
          omega
    simp [habandon, hup]

/-- How often a cycle is counted. -/
theorem charged_eq {x : Session I} (h : x.Sound)
    (hx : x.state.retry.generation ∉ x.questions) {turns later : List (Turn I)}
    (hc : later ≠ [] → (x.after turns).state.retry.inCycle = false) :
    charged (x.stretches turns) ((x.after turns).stretches later) =
      (x.stretches turns).countP Stretch.givesUp +
        lateFailures (x.stretches turns) ((x.after turns).stretches later) := by
  have hcycle (s : Stretch I) (hs : s ∈ x.stretches turns) := abandonments_of_cycle h hx hs
  have hafter (s : Stretch I) (hs : s ∈ (x.after turns).stretches later) :=
    (abandonments_after_cycle h hc hs).trans (Nat.zero_add _).symm
  have hrun := sum_abandonments Stretch.givesUp hcycle
  have hrest := sum_abandonments (fun _ => false) hafter
  rw [charged, hrun, hrest, lateFailures, List.countP_append, List.countP_false,
    Function.const_apply]
  omega

/-- A call or an acknowledgement gives no cycle up. -/
theorem givesUp_of_spared {s : Stretch I}
    (h : s.turn.IsCall ∨ ∃ runtime, s.turn = .input runtime .acknowledged) :
    s.givesUp = false := by
  obtain ⟨x, t⟩ := s
  rcases h with h | ⟨runtime, rfl⟩
  · cases t with
    | input runtime input =>
      cases input with
      | connect overrides => exact Bool.and_false _
      | disconnect => exact Bool.and_false _
      | remove => exact Bool.and_false _
      | _ => cases h
    | install number interceptor => cases h
    | uninstall number => cases h
  · exact Bool.and_false _

/-- Every stretch of a run counts one abandonment for a cycle that it gives up, which closes the
cycle, and one for the failure of an interceptor that was superseded. So a cycle is counted once
if its last stretch gives it up, not at all if a call or an acknowledgement ended it, and once
more for each interceptor that was asked in it and fails late, in the cycle or after it: it is
counted at most once, and only if it was given up, exactly if none fails late. -/
theorem charged_of_cycle (options : Options) (random : Retry.Random) (early : List (Turn I))
    (t : Turn I) (cycle later : List (Turn I)) :
    let x := (fresh options random).after early
    let run := x.stretches (t :: cycle)
    let y := x.after (t :: cycle)
    let rest := y.stretches later
    let last := run.getLast (List.cons_ne_nil _ _)
    (∀ s ∈ (fresh options random).stretches (early ++ (t :: cycle) ++ later),
      s.abandonments = s.givesUp.toNat + s.failsLate.toNat ∧
      (s.givesUp = true → (s.Begins ∨ s.before.state.retry.inCycle = true) ∧
        s.after.state.retry.inCycle = false)) ∧
    ((Stretch.mk x t).Begins →
      (∀ s ∈ run.tail, s.before.state.retry.inCycle = true) →
      (later ≠ [] → y.state.retry.inCycle = false) →
      charged run rest = last.givesUp.toNat + lateFailures run rest ∧
      (last.turn.IsCall ∨ (∃ runtime, last.turn = .input runtime .acknowledged) →
        charged run rest = lateFailures run rest) ∧
      (charged run rest ≤ 1 ∧ (0 < charged run rest → last.givesUp = true) ↔
        lateFailures run rest = 0)) := by
  intro x run y rest last
  have h : x.Sound := sound_after options random early
  refine ⟨fun s hs => ?_, fun hbegins hcycle hlater => ?_⟩
  · obtain ⟨past, later, -, hbefore⟩ := stretch_of_mem hs
    have hsound : s.before.Sound := hbefore ▸ sound_after options random past
    exact ⟨abandonments_eq hsound s.turn, hsound.closes_of_givesUp (t := s.turn)⟩
  · have hx : x.state.retry.generation ∉ x.questions := fun hq => by
      have hopen := h.inCycle (List.count_pos_iff.2 (List.mem_append_right _ hq))
      exact absurd ((h.state.ofConnected hbegins.2.1).1.symm.trans hopen) nofun
    have hcharged : charged run rest = last.givesUp.toNat + lateFailures run rest := by
      rw [charged_eq h hx hlater, countP_givesUp h t cycle hcycle]
    refine ⟨hcharged, fun hspared => ?_, ?_⟩
    · rw [hcharged, givesUp_of_spared hspared]
      exact Nat.zero_add _
    · rw [hcharged]
      cases last.givesUp with
      | true =>
        simp only [Bool.toNat_true, implies_true, and_true]
        omega
      | false =>
        simp only [Bool.toNat_false, Bool.false_eq_true, imp_false]
        omega

/-- An interceptor fails in time: the cycle is counted once. -/
theorem charged_of_failing_interceptor :
    let x : Session Unit := (fresh { autoReconnect := some true } .middle).after
      [.install 1 (), .input true (.connect none), .input true .acknowledged]
    let run := x.stretches [.input true (.ended .connectionError), .input true (.fired 3),
      .input true (.failed 3 true)]
    let rest := (x.after [.input true (.ended .connectionError), .input true (.fired 3),
      .input true (.failed 3 true)]).stretches [.input true .disconnect]
    lateFailures run rest = 0 ∧ charged run rest = 1 := by
  intro x run rest
  have h := (charged_of_cycle (I := Unit) { autoReconnect := some true } .middle
    [.install 1 (), .input true (.connect none), .input true .acknowledged]
    (.input true (.ended .connectionError)) [.input true (.fired 3), .input true (.failed 3 true)]
    [.input true .disconnect]).2 ⟨by decide, by decide, by decide⟩ (by decide) (by decide)
  exact ⟨by decide, h.1.trans (by decide)⟩

/-- The application ends a cycle while its interceptor is asked, and the interceptor fails
afterwards: the cycle is counted as abandoned. And a failure that is reported twice uses up the
budget while the interceptor is asked: when the interceptor fails, the cycle is counted twice. -/
theorem late_failure_is_counted :
    let x : Session Unit := (fresh { autoReconnect := some true, retryCount := some 2 }
      .middle).after [.install 1 (), .input true (.connect none), .input true .acknowledged]
    let lost : Turn Unit := .input true (.ended .connectionError)
    let first := [.input true (.fired 3), .input true .disconnect]
    let second := [.input true (.fired 3), .input true (.answered 3 none), lost,
      .input true (.fired 4), lost]
    (Stretch.mk x lost).Begins ∧
    ((∀ s ∈ (x.stretches (lost :: first)).tail, s.before.state.retry.inCycle = true) ∧
      (x.after (lost :: first)).state.retry.inCycle = false ∧
      charged (x.stretches (lost :: first))
        ((x.after (lost :: first)).stretches [.input true (.failed 3 false)]) = 1) ∧
    (∀ s ∈ (x.stretches (lost :: second)).tail, s.before.state.retry.inCycle = true) ∧
      (x.after (lost :: second)).state.retry.inCycle = false ∧
      charged (x.stretches (lost :: second))
        ((x.after (lost :: second)).stretches [.input true (.failed 4 false)]) = 2 := by
  refine ⟨⟨?_, ?_, ?_⟩, ?_, ?_, ?_, ?_⟩ <;> decide

end Session

end MqttRelay.Client
