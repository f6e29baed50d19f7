import MqttRelay.Proofs.Client.Bookkeeping
import MqttRelay.Proofs.Client.Retries

/-!
# Attempts of a cycle

What the attempts that a cycle has counted were spent on. Every attempt that is planned becomes
a retry, or its timer or question is still out, or a failure overtook it: an end of a connection
that is reported while connecting and while the interceptor of the next attempt is asked plans
another attempt under a new generation, and what the interceptor answers is superseded. An end
that is reported while the timer runs plans nothing.

Results:
* `Session.Kept.count_next_eq`: what one turn plans and spends.
* `Session.count_eq_of_cycle`: the attempts of an open cycle are its retries, what is out and
  what was overtaken.
* `Session.failure_overtakes_question`: a failure that is reported twice uses up an attempt.
-/

namespace MqttRelay.Client

variable {I : Type}

/-- A stretch in which a failure is reported while the interceptor of the next attempt is
asked. -/
def Stretch.overtakes (s : Stretch I) : Bool :=
  s.turn.ended?.isSome && s.before.state.status == .connecting &&
    s.before.questions.contains s.before.state.retry.generation

theorem Stretch.overtakes_iff (s : Stretch I) :
    s.overtakes = true ↔ s.turn.ended? ≠ none ∧ s.before.state.status = .connecting ∧
      s.before.state.retry.generation ∈ s.before.questions := by
  simp [overtakes, Option.isSome_iff_ne_none, and_assoc]

namespace Session

/-! ## One turn -/

section

variable {x : Session I} {run : List (Stretch I)} (h : x.Sound) (hk : x.Kept run)

include h hk

/-- Without a timer, what is out under the present generation is a question. -/
theorem Kept.owed_of_timer (ht : x.state.retry.timer = false) :
    x.owed = if x.state.retry.generation ∈ x.questions then 1 else 0 := by
  have hn : x.state.retry.generation ∉ x.timers := fun hm =>
    absurd (ht.symm.trans (hk.timer.2 hm)) nofun
  have hle := h.owed_le
  rw [owed, pending, List.count_append, List.count_eq_zero_of_not_mem hn, Nat.zero_add] at hle ⊢
  split
  · next hm =>
    have := List.count_pos_iff.2 hm
    omega
  · next hm => exact List.count_eq_zero_of_not_mem hm

/-- While a question is out no timer runs. -/
theorem Kept.timer_of_question (hq : x.state.retry.generation ∈ x.questions) :
    x.state.retry.timer = false := by
  cases ht : x.state.retry.timer with
  | false => rfl
  | true =>
    have hle := h.owed_le
    have ht := List.count_pos_iff.2 (hk.timer.1 ht)
    have hq := List.count_pos_iff.2 hq
    rw [owed, pending, List.count_append] at hle
    omega

/-- A turn that stays within the generation overtakes nothing. -/
theorem Kept.not_overtakes {t : Turn I} (hx : x.state.retry.inCycle = true)
    (hgen : (x.move t).state.retry.generation = x.state.retry.generation) :
    (Stretch.mk x t).overtakes = false := by
  apply Bool.eq_false_iff.2
  intro hover
  obtain ⟨he, hs, hq⟩ := (Stretch.overtakes_iff _).1 hover
  have ht := h.timer_of_failure hx hs he hgen
  exact absurd (ht.symm.trans (hk.timer_of_question h hq)) nofun

omit hk in
/-- The timer that a turn starts is all that is out after it. -/
theorem Sound.owed_of_schedules {t : Turn I} (hm : (x.move t).Schedules x.state) :
    (x.next t).owed = 1 := by
  have hle := (h.next t).owed_le
  have hmem : (x.next t).state.retry.generation ∈ (x.next t).pending := by
    apply List.mem_append_left
    apply List.mem_append_right
    rw [state_next, hm.generation, hm.timers]
    exact List.mem_singleton_self _
  have hpos : 0 < (x.next t).owed := List.count_pos_iff.2 hmem
  omega

/-- The failed attempt that plans another overtakes what is asked. -/
theorem Kept.overtakes_of_schedules {t : Turn I} (hx : x.state.retry.inCycle = true)
    (hm : (x.move t).Schedules x.state) :
    (if (Stretch.mk x t).overtakes then 1 else 0) = x.owed := by
  have ht : (x.move t).timers ≠ [] := by
    rw [hm.timers]
    exact nofun
  cases t with
  | input runtime input =>
    by_cases ha : x.admits (.input runtime input) = true
    · rw [move_input ha] at ht
      obtain ⟨he, hs | ⟨hs, -, htimer⟩⟩ := State.ended_of_timers ht
      · exact absurd hs (h.state.status_of_inCycle hx)
      · rw [hk.owed_of_timer h htimer]
        apply if_congr _ rfl rfl
        rw [Stretch.overtakes_iff]
        exact ⟨fun ho => ho.2.2, fun hq => ⟨he, hs, hq⟩⟩
    · exact absurd (congrArg Move.timers (move_of_not_admits ha)) ht
  | install number interceptor => exact absurd rfl ht
  | uninstall number => exact absurd rfl ht

omit hk in
/-- A turn within the generation that leaves the cycle open makes a retry of what was out, or
leaves as much out as before. -/
theorem Sound.owed_of_continues {t : Turn I} (hx : x.state.retry.inCycle = true)
    (hc : (x.next t).state.retry.inCycle = true) (ha : x.admits t = true)
    (hm : (x.move t).Continues x.state t.generation?) :
    (if (Stretch.mk x t).retries then 1 else 0) + (x.next t).owed = x.owed := by
  have howed := owed_next_of_continues ha hm
  by_cases hg : t.generation? = some x.state.retry.generation
  · rw [if_pos hg] at howed
    rcases h.attempts hx ha hg hc with hq | ⟨ho, -⟩
    · have hno : ¬ (Stretch.mk x t).retries = true := fun hr => by
        have ho : (x.move t).origin? = some .retry := (Stretch.retries_iff _).1 hr
        rcases hm.questions with hnone | ⟨-, -, hno⟩
        · exact absurd (hnone.symm.trans hq) nofun
        · exact absurd (hno.symm.trans ho) nofun
      rw [if_neg hno]
      rw [hq, List.length_singleton] at howed
      omega
    · have hnone : (x.move t).questions = [] := by
        rcases hm.questions with hnone | ⟨-, -, hno⟩
        · exact hnone
        · exact absurd (hno.symm.trans ho) nofun
      rw [if_pos ((Stretch.retries_iff ⟨x, t⟩).2 ho)]
      rw [hnone, List.length_nil] at howed
      omega
  · have hno : ¬ (Stretch.mk x t).retries = true := fun hr =>
      hg (hm.origin ((Stretch.retries_iff _).1 hr))
    have hnone : (x.move t).questions = [] := by
      rcases hm.questions with hnone | ⟨-, hof, -⟩
      · exact hnone
      · exact absurd hof hg
    rw [if_neg hno]
    rw [if_neg hg, hnone, List.length_nil] at howed
    omega

/-- A turn that leaves an open cycle open counts what it plans, and what was out before or is
planned is out after it, became a retry or was overtaken. -/
theorem Kept.count_next_eq {t : Turn I} (hx : x.state.retry.inCycle = true)
    (hc : (x.next t).state.retry.inCycle = true) :
    ∃ planned,
      (x.next t).state.retry.count.toNat =
        min (x.state.retry.count.toNat + planned) 0xFFFFFFFF ∧
      (if (Stretch.mk x t).retries then 1 else 0) + (if (Stretch.mk x t).overtakes then 1 else 0) +
        (x.next t).owed = x.owed + planned := by
  have hbound := x.state.retry.count.toNat_lt
  by_cases ha : x.admits t = true
  · rcases move_shape ha with hm | hm | hm
    · exact absurd (hm.inCycle.symm.trans hc) nofun
    · refine ⟨1, State.toNat_of_decide hm.attempt, ?_⟩
      have hno : ¬ (Stretch.mk x t).retries = true := fun hr =>
        absurd (hm.origin.symm.trans ((Stretch.retries_iff _).1 hr)) nofun
      rw [if_neg hno, hk.overtakes_of_schedules h hx hm, h.owed_of_schedules hm]
      omega
    · refine ⟨0, ?_, ?_⟩
      · rw [state_next, hm.count]
        omega
      · have howed := h.owed_of_continues hx hc ha hm
        rw [hk.not_overtakes h hx hm.generation, if_neg Bool.false_ne_true]
        omega
  · have hno : ¬ (Stretch.mk x t).retries = true := fun hr =>
      ha (generation_of_retry ((Stretch.retries_iff _).1 hr)).1
    have hover : ¬ (Stretch.mk x t).overtakes = true := fun ho =>
      ha (admits_of_ended ((Stretch.overtakes_iff _).1 ho).1)
    refine ⟨0, ?_, ?_⟩
    · rw [next_of_not_admits ha]
      omega
    · rw [if_neg hno, if_neg hover, next_of_not_admits ha]
      omega

end

/-! ## One cycle -/

/-- The attempts that are counted at the end of a run in which a cycle stays open. -/
theorem Kept.count_after {x : Session I} {run : List (Stretch I)} (h : x.Sound)
    (hk : x.Kept run) (turns : List (Turn I)) (made : Nat)
    (hcount : x.state.retry.count.toNat = min (made + x.owed) 0xFFFFFFFF)
    (hcycle : ∀ s ∈ x.stretches turns, s.before.state.retry.inCycle = true)
    (hc : (x.after turns).state.retry.inCycle = true) :
    (x.after turns).state.retry.count.toNat =
      min (made + (x.stretches turns).countP Stretch.retries +
        (x.stretches turns).countP Stretch.overtakes + (x.after turns).owed) 0xFFFFFFFF := by
  induction turns generalizing x run made with
  | nil => simpa [stretches, after] using hcount
  | cons t turns ih =>
    simp only [stretches, List.forall_mem_cons] at hcycle
    have hnext : (x.next t).state.retry.inCycle = true := by
      cases turns with
      | nil => exact hc
      | cons u us => exact hcycle.2 _ List.mem_cons_self
    obtain ⟨planned, hstep, hspent⟩ := hk.count_next_eq h hcycle.1 hnext
    have hrest := ih (h.next t) (hk.next h t)
      (made + (if (Stretch.mk x t).retries then 1 else 0) +
        (if (Stretch.mk x t).overtakes then 1 else 0)) (by omega) hcycle.2 hc
    simp only [stretches, List.countP_cons]
    change ((x.next t).after turns).state.retry.count.toNat = _
    rw [hrest]
    show _ = min (_ + ((x.next t).after turns).owed) _
    omega

/-- A cycle begins with one attempt, whose timer is out. -/
theorem count_of_opens {x : Session I} {t : Turn I} (h : x.Sound)
    (ho : (Stretch.mk x t).Opens) :
    (x.next t).state.retry.count.toNat = 1 ∧ (x.next t).owed = 1 ∧
      (Stretch.mk x t).retries = false ∧ (Stretch.mk x t).overtakes = false := by
  obtain ⟨reason, rfl, hs, -⟩ := (opens_iff h t).1 ho
  have hm : (x.move (.input true (.ended reason))).Schedules x.state := by
    rcases move_shape (x := x) (t := .input true (.ended reason)) rfl with hm | hm | hm
    · exact absurd (hm.inCycle.symm.trans ho.2) nofun
    · exact hm
    · exact absurd ((hm.closed ho.1).symm.trans ho.2) nofun
  have hattempt := State.toNat_of_decide hm.attempt
  rw [(h.state.ofConnected hs).2] at hattempt
  refine ⟨hattempt, h.owed_of_schedules hm, Bool.eq_false_iff.2 fun hr => ?_,
    Bool.eq_false_iff.2 fun hover => ?_⟩
  · exact absurd (hm.origin.symm.trans ((Stretch.retries_iff _).1 hr)) nofun
  · have hconnecting := ((Stretch.overtakes_iff _).1 hover).2.1
    exact absurd (hs.symm.trans hconnecting) nofun

/-- The attempts that an open cycle has counted, up to the largest word, are the retries that it
made, at most one attempt whose timer or question is out, and those that a failure overtook while
their interceptor was asked. So they exceed the retries by more than one exactly if failures
overtook more than what is out leaves room for. -/
theorem count_eq_of_cycle (options : Options) (random : Retry.Random) (early : List (Turn I))
    (t : Turn I) (cycle : List (Turn I)) :
    let x := (fresh options random).after early
    let run := x.stretches (t :: cycle)
    let y := x.after (t :: cycle)
    let retries := run.countP Stretch.retries
    let overtaken := run.countP Stretch.overtakes
    (Stretch.mk x t).Opens →
    (∀ s ∈ run.tail, s.before.state.retry.inCycle = true) → y.state.retry.inCycle = true →
    y.state.retry.count.toNat = min (retries + overtaken + y.owed) 0xFFFFFFFF ∧ y.owed ≤ 1 ∧
    (y.state.retry.count.toNat ≤ retries + 1 ↔
      overtaken + y.owed ≤ 1 ∨ 0xFFFFFFFE ≤ retries) := by
  intro x run y retries overtaken ho hcycle hc
  have h : x.Sound := sound_after options random early
  have hk : x.Kept _ := kept_after options random early
  obtain ⟨hone, howed, hretries, hovertakes⟩ := count_of_opens h ho
  have hcount : y.state.retry.count.toNat = min (retries + overtaken + y.owed) 0xFFFFFFFF := by
    have hafter := (hk.next h t).count_after (h.next t) cycle 0 (by omega) hcycle hc
    simp only [retries, overtaken, run, stretches, List.countP_cons, hretries, hovertakes]
    rw [show y = (x.next t).after cycle from rfl, hafter]
    simp
  have hle : y.owed ≤ 1 := (h.after (t :: cycle)).owed_le
  refine ⟨hcount, hle, ?_⟩
  omega

/-- A connection is lost, its retry fails and so does the next one: with nothing overtaken, two
retries and a third attempt that is still to come. -/
theorem count_of_failing_cycle :
    let start : Session Unit := fresh { autoReconnect := some true } .middle
    let x := start.after [.input true (.connect none), .input true .acknowledged]
    let t : Turn Unit := .input true (.ended .connectionError)
    let cycle := [.input true (.fired 3), t, t, .input true (.fired 4), t]
    let run := x.stretches (t :: cycle)
    let y := x.after (t :: cycle)
    y.state.retry.count = 3 ∧ y.state.retry.count.toNat ≤ run.countP Stretch.retries + 1 := by
  refine ⟨by decide, ?_⟩
  have hcycle := count_eq_of_cycle (I := Unit) { autoReconnect := some true } .middle
    [.input true (.connect none), .input true .acknowledged]
    (.input true (.ended .connectionError))
    [.input true (.fired 3), .input true (.ended .connectionError),
      .input true (.ended .connectionError), .input true (.fired 4),
      .input true (.ended .connectionError)] ⟨by decide, by decide⟩ (by decide) (by decide)
  exact hcycle.2.2.2 (.inl (by decide))

/-- A connection is lost and its retry fails; while the interceptor of the second attempt is
asked, the failure is reported once more: three attempts are counted, and one retry was made. -/
theorem failure_overtakes_question :
    let start : Session Unit := fresh { autoReconnect := some true } .middle
    let x := start.after [.install 1 (), .input true (.connect none), .input true .acknowledged]
    let t : Turn Unit := .input true (.ended .connectionError)
    let cycle := [.input true (.fired 3), .input true (.answered 3 none), t,
      .input true (.fired 4), t]
    let run := x.stretches (t :: cycle)
    let y := x.after (t :: cycle)
    (Stretch.mk x t).Opens ∧ (∀ s ∈ run.tail, s.before.state.retry.inCycle = true) ∧
      y.state.retry.inCycle = true ∧ run.countP Stretch.retries = 1 ∧
      y.state.retry.count = 3 ∧
      ¬ y.state.retry.count.toNat ≤ run.countP Stretch.retries + 1 := by
  refine ⟨⟨?_, ?_⟩, ?_, ?_, ?_, ?_, ?_⟩ <;> decide

end Session

end MqttRelay.Client
