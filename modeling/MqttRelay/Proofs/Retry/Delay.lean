import Mathlib.Algebra.Group.Nat.Defs
import MqttRelay.Retry.Backoff

/-!
# Delays as numbers

A delay is computed in words, and each of four operations on them may saturate. Over the
naturals it is one minimum: of the doubled first delay with the random term on top, of the
longest delay, and of the largest word. A first delay of zero is the exception. Its multiples
are zero, but as soon as the power of two exceeds the words, the delay is the longest one.

* `exactDelay` — the delay over the naturals.

Results:
* `delay_toNat`: what a delay is as a number.
* `drawDelay_eq_exact_iff`: a delay is the exact one unless the first delay is zero and the
  attempt is number 64 or later.
-/

namespace MqttRelay.Retry

/-! ## Words as numbers -/

theorem toNat_ofNat_maxWord : (UInt64.ofNat maxWord).toNat = maxWord := rfl

/-- A power of two that is a word. -/
theorem toNat_shiftLeft {n : Nat} (h : n < 64) : (UInt64.ofNat (1 <<< n)).toNat = 2 ^ n := by
  rw [Nat.one_shiftLeft, UInt64.toNat_ofNat', Nat.mod_eq_of_lt (Nat.pow_lt_pow_right (by decide) h)]

/-! ## Delays -/

/-- The delay before an attempt as it is over the naturals, where only the result is cut off. -/
def exactDelay (firstMs attempt maxSecs term : Nat) : Nat :=
  min (firstMs * 2 ^ attempt + term) (min (maxSecs * 1000) maxWord)

/-- A first delay that is not zero exceeds the words as soon as the power of two does. -/
theorem maxWord_lt_doubled {first attempt : Nat} (hfirst : first ≠ 0) (h : 64 ≤ attempt) :
    maxWord < first * 2 ^ attempt :=
  calc
    maxWord < 1 * 2 ^ 64 := by decide
    _ ≤ first * 2 ^ attempt :=
      Nat.mul_le_mul (Nat.pos_of_ne_zero hfirst) (Nat.pow_le_pow_right (by decide) h)

/-- What a delay is as a number. -/
theorem delay_toNat (firstMs : UInt64) (attempt : UInt32) (maxSecs term : UInt64) :
    (delay firstMs attempt maxSecs term).toNat =
      if firstMs.toNat = 0 ∧ 64 ≤ attempt.toNat then min (maxSecs.toNat * 1000) maxWord
      else exactDelay firstMs.toNat attempt.toNat maxSecs.toNat term.toNat := by
  have hcap : (saturatingMul maxSecs 1000).toNat = min (maxSecs.toNat * 1000) maxWord :=
    saturatingMul_toNat maxSecs 1000
  unfold delay exactDelay
  dsimp only
  rw [min_toNat, saturatingAdd_toNat, hcap]
  by_cases hattempt : attempt.toNat < 64
  · rw [if_pos hattempt, saturatingMul_toNat, toNat_shiftLeft hattempt, if_neg (by omega)]
    omega
  · rw [if_neg hattempt, toNat_ofNat_maxWord]
    by_cases hfirst : firstMs.toNat = 0
    · rw [if_pos ⟨hfirst, Nat.le_of_not_lt hattempt⟩]
      omega
    · have hdoubled := maxWord_lt_doubled hfirst (Nat.le_of_not_lt hattempt)
      rw [if_neg fun h => hfirst h.1]
      omega

/-- A delay is the exact one unless the first delay is zero, the attempt is number 64 or later,
and the random term is below the longest delay. In that case it is the longest one. -/
theorem drawDelay_eq_exact_iff (firstMs : UInt64) (attempt : UInt32) (maxSecs jitter : UInt64)
    (random : Random) :
    let term := (jitterTerm jitter random.next.1).toNat
    let longest := min (maxSecs.toNat * 1000) (2 ^ 64 - 1)
    ((drawDelay firstMs attempt maxSecs jitter random).1.toNat =
        min (firstMs.toNat * 2 ^ attempt.toNat + term) longest ↔
      0 < firstMs.toNat ∨ attempt.toNat < 64 ∨ longest ≤ term) ∧
    (firstMs.toNat = 0 → 64 ≤ attempt.toNat →
      (drawDelay firstMs attempt maxSecs jitter random).1.toNat = longest) := by
  intro term longest
  have hdelay : (drawDelay firstMs attempt maxSecs jitter random).1.toNat =
      if firstMs.toNat = 0 ∧ 64 ≤ attempt.toNat then longest
      else min (firstMs.toNat * 2 ^ attempt.toNat + term) longest :=
    delay_toNat firstMs attempt maxSecs (jitterTerm jitter random.next.1)
  rw [hdelay]
  by_cases hzero : firstMs.toNat = 0 ∧ 64 ≤ attempt.toNat
  · rw [if_pos hzero, hzero.1, Nat.zero_mul]
    omega
  · rw [if_neg hzero]
    omega

/-- The first delay is zero and nothing is drawn on top, but the attempt with which the power of
two leaves the words waits for a minute. -/
theorem zero_delay_jumps :
    (drawDelay 0 63 60 0 (.constant 0)).1 = 0 ∧ (drawDelay 0 64 60 0 (.constant 0)).1 = 60000 ∧
      min ((0 : UInt64).toNat * 2 ^ (64 : UInt32).toNat + (jitterTerm 0 0).toNat)
        (min ((60 : UInt64).toNat * 1000) (2 ^ 64 - 1)) = 0 := by
  decide

end MqttRelay.Retry
