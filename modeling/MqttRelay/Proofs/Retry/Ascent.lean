import Mathlib.Tactic.Ring
import MqttRelay.Proofs.Retry.Delay
import MqttRelay.Proofs.Retry.Jitter

/-!
# Delays ascend

Every attempt draws a random term of its own, and still waits no shorter than the one before: the
doubling makes up for the largest term, as long as the jitter is at most what is doubled.

* `drawDelays` — the delays before attempts in a row, all terms drawn from one source.

Results:
* `delay_le_delay`: the delay of a later attempt is at least as long, whatever its term is.
* `delays_ascend`: the delays of successive attempts never decrease, and never exceed the longest
  delay.
-/

namespace MqttRelay.Retry

/-! ## Later attempts -/

section Later

variable {firstMs maxSecs jitter : UInt64}

/-- The delay of a later attempt is at least as long, whatever its term is, if the term of the
earlier one is at most what is doubled. -/
theorem delay_le_delay {attempt later : UInt32} (hlater : attempt.toNat < later.toNat)
    {term : UInt64} (hterm : term.toNat ≤ firstMs.toNat * 2 ^ attempt.toNat) (other : UInt64) :
    delay firstMs attempt maxSecs term ≤ delay firstMs later maxSecs other := by
  have hdoubled : firstMs.toNat * 2 ^ attempt.toNat + term.toNat ≤
      firstMs.toNat * 2 ^ later.toNat + other.toNat :=
    calc
      firstMs.toNat * 2 ^ attempt.toNat + term.toNat ≤
          firstMs.toNat * 2 ^ attempt.toNat + firstMs.toNat * 2 ^ attempt.toNat :=
        Nat.add_le_add_left hterm _
      _ = firstMs.toNat * 2 ^ (attempt.toNat + 1) := by ring
      _ ≤ firstMs.toNat * 2 ^ later.toNat :=
        Nat.mul_le_mul_left _ (Nat.pow_le_pow_right (by decide) hlater)
      _ ≤ _ := Nat.le_add_right ..
  rw [UInt64.le_iff_toNat_le, delay_toNat, delay_toNat]
  unfold exactDelay
  split <;> split <;> omega

theorem drawDelay_le_drawDelay {attempt later : UInt32} (hlater : attempt.toNat < later.toNat)
    (hjitter : jitter.toNat ≤ firstMs.toNat * 2 ^ attempt.toNat) (random other : Random) :
    (drawDelay firstMs attempt maxSecs jitter random).1 ≤
      (drawDelay firstMs later maxSecs jitter other).1 :=
  delay_le_delay hlater ((jitterTerm_le jitter _).trans hjitter) _

/-- The delays before attempts in a row, all random terms drawn from one source. -/
def drawDelays (firstMs maxSecs jitter : UInt64) : List UInt32 → Random → List UInt64
  | [], _ => []
  | attempt :: later, random =>
    let (first, random) := drawDelay firstMs attempt maxSecs jitter random
    first :: drawDelays firstMs maxSecs jitter later random

theorem exists_of_mem_drawDelays {attempts : List UInt32} {random : Random} {d : UInt64}
    (h : d ∈ drawDelays firstMs maxSecs jitter attempts random) :
    ∃ attempt ∈ attempts, ∃ r, d = (drawDelay firstMs attempt maxSecs jitter r).1 := by
  induction attempts generalizing random with
  | nil => cases h
  | cons attempt later ih =>
    rcases List.mem_cons.1 h with rfl | h
    · exact ⟨attempt, List.mem_cons_self, random, rfl⟩
    · obtain ⟨a, ha, r, hr⟩ := ih h
      exact ⟨a, List.mem_cons_of_mem _ ha, r, hr⟩

/-- The delays of attempts in ascending order ascend. -/
theorem pairwise_drawDelays {attempts : List UInt32} (hattempts : attempts.Pairwise (· < ·))
    (hjitter : ∀ a ∈ attempts, jitter.toNat ≤ firstMs.toNat * 2 ^ a.toNat) (random : Random) :
    (drawDelays firstMs maxSecs jitter attempts random).Pairwise (· ≤ ·) := by
  induction attempts generalizing random with
  | nil => exact List.Pairwise.nil
  | cons attempt later ih =>
    obtain ⟨hfirst, hlater⟩ := List.pairwise_cons.1 hattempts
    obtain ⟨hbound, hbounds⟩ := List.forall_mem_cons.1 hjitter
    refine List.pairwise_cons.2 ⟨fun d hd => ?_, ih hlater hbounds _⟩
    obtain ⟨a, ha, r, rfl⟩ := exists_of_mem_drawDelays hd
    exact drawDelay_le_drawDelay (UInt32.lt_iff_toNat_lt.1 (hfirst a ha)) hbound random r

end Later

/-- The delay of an attempt is at most that of the next one, whatever the random terms of the two
are, and neither exceeds the longest delay. So the delays of later and later attempts never
decrease, each with a random term of its own, also when the power of two leaves the words. -/
theorem delays_ascend (firstMs maxSecs jitter : UInt64) (attempt : UInt32)
    (hattempt : attempt.toNat < 2 ^ 32 - 1)
    (hjitter : jitter.toNat ≤ firstMs.toNat * 2 ^ attempt.toNat) :
    (∀ j k : UInt64, j ≤ jitter → k ≤ jitter →
      delay firstMs attempt maxSecs j ≤ delay firstMs (attempt + 1) maxSecs k ∧
      (delay firstMs attempt maxSecs j).toNat ≤ maxSecs.toNat * 1000 ∧
      (delay firstMs (attempt + 1) maxSecs k).toNat ≤ maxSecs.toNat * 1000) ∧
    ∀ later : List UInt32, (attempt :: later).Pairwise (· < ·) → ∀ random : Random,
      (drawDelays firstMs maxSecs jitter (attempt :: later) random).Pairwise (· ≤ ·) := by
  refine ⟨fun j k hj _ => ⟨?_, delay_le_cap .., delay_le_cap ..⟩, fun later hlater random => ?_⟩
  · have hnext : (attempt + 1).toNat = attempt.toNat + 1 := by
      rw [UInt32.toNat_add]
      exact Nat.mod_eq_of_lt (by simp only [UInt32.toNat_one]; omega)
    exact delay_le_delay (by omega) ((UInt64.le_iff_toNat_le.1 hj).trans hjitter) k
  · refine pairwise_drawDelays hlater (fun a ha => ?_) random
    have hle : attempt.toNat ≤ a.toNat := by
      rcases List.mem_cons.1 ha with rfl | ha
      · exact Nat.le_refl _
      · exact Nat.le_of_lt (UInt32.lt_iff_toNat_lt.1 ((List.pairwise_cons.1 hlater).1 a ha))
    exact hjitter.trans (Nat.mul_le_mul_left _ (Nat.pow_le_pow_right (by decide) hle))

/-- The power of two leaves the words at the second of three attempts, and the first one draws the
largest term and the others the smallest. -/
theorem delays_ascend_beyond_words :
    (63 : UInt32).toNat < 2 ^ 32 - 1 ∧
      (0x4000000000000000 : UInt64).toNat ≤ (1 : UInt64).toNat * 2 ^ (63 : UInt32).toNat ∧
      [63, 64, 65].Pairwise (fun a b : UInt32 => a < b) ∧
      (drawDelays 1 0xFFFFFFFFFFFFFFFF 0x4000000000000000 [63, 64, 65]
        ⟨[0xFFFFFFFFFFFFFFFF, 0]⟩).Pairwise (· ≤ ·) ∧
      delay 1 63 0xFFFFFFFFFFFFFFFF 0x4000000000000000 ≤ delay 1 (63 + 1) 0xFFFFFFFFFFFFFFFF 0 := by
  have hbound : (0x4000000000000000 : UInt64).toNat ≤
      (1 : UInt64).toNat * 2 ^ (63 : UInt32).toNat := by decide
  have hascend := delays_ascend 1 0xFFFFFFFFFFFFFFFF 0x4000000000000000 63 (by decide) hbound
  exact ⟨by decide, hbound, by decide, hascend.2 [64, 65] (by decide) _,
    (hascend.1 _ 0 (by decide) (by decide)).1⟩

end MqttRelay.Retry
