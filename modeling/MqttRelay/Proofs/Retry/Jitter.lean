import Mathlib.Tactic.Ring
import MqttRelay.Retry.Backoff

/-!
# The random term of a delay

A random term is computed in double precision: the jitter is rounded to 53 binary digits, which
may raise it, and so is its product with the fraction that was drawn. The fraction is below one
by enough to make up for both, so that no term exceeds the jitter itself.

Results:
* `round53_cases`: what rounding does.
* `round53_le`, `round53_le_of_lt`: rounding goes no further than the nearest number of 53 digits.
* `jitterTerm_le`: no random term exceeds the jitter.
-/

namespace MqttRelay.Retry

/-! ## Rounding -/

/-- A number is rounded to one of the two neighbours of 53 binary digits that it lies between, and
not to the farther one. Numbers of at most 53 digits stay as they are. -/
theorem round53_cases (n : Nat) :
    (n < 2 ^ 53 ∧ round53 n = n) ∨
    ∃ d q r, 2 ^ 52 ≤ q ∧ q < 2 ^ 53 ∧ n = q * 2 ^ (d + 1) + r ∧ r < 2 ^ (d + 1) ∧
      (round53 n = q * 2 ^ (d + 1) ∧ r ≤ 2 ^ d ∨
        round53 n = (q + 1) * 2 ^ (d + 1) ∧ 2 ^ d ≤ r) := by
  by_cases hbits : n.log2 + 1 ≤ 53
  · refine .inl ⟨?_, if_pos hbits⟩
    exact Nat.lt_of_lt_of_le Nat.lt_log2_self (Nat.pow_le_pow_right (by decide) hbits)
  · obtain ⟨d, hd⟩ : ∃ d, n.log2 = d + 53 := ⟨n.log2 - 53, by omega⟩
    have hne : n ≠ 0 := by
      rintro rfl
      simp at hbits
    have hlow : 2 ^ 52 * 2 ^ (d + 1) ≤ n := by
      rw [← Nat.pow_add, show 52 + (d + 1) = n.log2 by omega]
      exact Nat.log2_self_le hne
    have hhigh : n < 2 ^ 53 * 2 ^ (d + 1) := by
      rw [← Nat.pow_add, show 53 + (d + 1) = n.log2 + 1 by omega]
      exact Nat.lt_log2_self
    have hunit : 0 < 2 ^ (d + 1) := Nat.two_pow_pos (d + 1)
    have hrounded : round53 n =
        (if 2 ^ (d + 1) < 2 * (n % 2 ^ (d + 1)) ∨
            (2 ^ (d + 1) = 2 * (n % 2 ^ (d + 1)) ∧ n / 2 ^ (d + 1) % 2 = 1)
          then n / 2 ^ (d + 1) + 1 else n / 2 ^ (d + 1)) * 2 ^ (d + 1) := by
      unfold round53
      dsimp only
      rw [if_neg hbits, Nat.one_shiftLeft, show n.log2 + 1 - 53 = d + 1 by omega]
    refine .inr ⟨d, n / 2 ^ (d + 1), n % 2 ^ (d + 1), ?_, ?_, ?_, Nat.mod_lt n hunit, ?_⟩
    · exact (Nat.le_div_iff_mul_le hunit).2 hlow
    · exact (Nat.div_lt_iff_lt_mul hunit).2 hhigh
    · exact (Nat.div_add_mod' n (2 ^ (d + 1))).symm
    · rw [hrounded]
      split
      · next h => exact .inr ⟨rfl, by omega⟩
      · next h => exact .inl ⟨rfl, by omega⟩

/-- Rounding does not go beyond a number of 53 digits. -/
theorem round53_le {n q e : Nat} (hq : q ≤ 2 ^ 53) (h : n ≤ q * 2 ^ e) :
    round53 n ≤ q * 2 ^ e := by
  rcases round53_cases n with ⟨-, hround⟩ | ⟨d, p, r, hp, -, hn, -, ⟨hround, -⟩ | ⟨hround, hr⟩⟩
  · rwa [hround]
  · rw [hround]
    omega
  · rw [hround]
    rcases Nat.lt_or_ge d e with hde | hde
    · -- Both are multiples of the unit.
      obtain ⟨k, rfl⟩ := Nat.exists_eq_add_of_lt hde
      have hmultiple : q * 2 ^ (d + k + 1) = q * 2 ^ k * 2 ^ (d + 1) := by ring
      rw [hmultiple] at h ⊢
      refine Nat.mul_le_mul_right _ (Nat.succ_le_of_lt (Nat.lt_of_mul_lt_mul_right
        (a := 2 ^ (d + 1)) ?_))
      have := Nat.two_pow_pos d
      omega
    · -- There is no number of 53 digits above that is as small.
      have hsmall : q * 2 ^ e ≤ 2 ^ 53 * 2 ^ d :=
        Nat.mul_le_mul hq (Nat.pow_le_pow_right (by decide) hde)
      have hlarge : 2 ^ 52 * 2 ^ (d + 1) ≤ p * 2 ^ (d + 1) := Nat.mul_le_mul_right _ hp
      have hunit : 2 ^ (d + 1) = 2 * 2 ^ d := Nat.pow_succ'
      have hpos := Nat.two_pow_pos d
      omega

/-- The digits and the unit of a number that lies between two neighbours of 53 digits. -/
theorem neighbours_unique {n p q d e : Nat} (hp : 2 ^ 52 ≤ p) (hp' : p < 2 ^ 53)
    (hq : 2 ^ 52 ≤ q) (hq' : q < 2 ^ 53) (hd : p * 2 ^ d ≤ n ∧ n < (p + 1) * 2 ^ d)
    (he : q * 2 ^ e ≤ n ∧ n < (q + 1) * 2 ^ e) : d = e ∧ p = q := by
  have hlt {p q d e : Nat} (hp : 2 ^ 52 ≤ p) (hq : q < 2 ^ 53) (hd : p * 2 ^ d ≤ n)
      (he : n < (q + 1) * 2 ^ e) : d ≤ e := by
    refine Nat.le_of_lt_succ ((Nat.pow_lt_pow_iff_right (a := 2) (by decide)).1
      (Nat.lt_of_mul_lt_mul_left (a := 2 ^ 52) ?_))
    calc
      2 ^ 52 * 2 ^ d ≤ p * 2 ^ d := Nat.mul_le_mul_right _ hp
      _ < (q + 1) * 2 ^ e := Nat.lt_of_le_of_lt hd he
      _ ≤ 2 ^ 53 * 2 ^ e := Nat.mul_le_mul_right _ hq
      _ = 2 ^ 52 * 2 ^ (e + 1) := by ring
  obtain rfl : d = e := Nat.le_antisymm (hlt hp hq' hd.1 he.2) (hlt hq hp' he.1 hd.2)
  refine ⟨rfl, Nat.le_antisymm ?_ ?_⟩
  · exact Nat.le_of_lt_succ (Nat.lt_of_mul_lt_mul_right (Nat.lt_of_le_of_lt hd.1 he.2))
  · exact Nat.le_of_lt_succ (Nat.lt_of_mul_lt_mul_right (Nat.lt_of_le_of_lt he.1 hd.2))

/-- A number below the middle between two neighbours of 53 digits is rounded to the lower one. -/
theorem round53_le_of_lt {n q e : Nat} (hlow : 2 ^ 52 ≤ q) (hhigh : q < 2 ^ 53)
    (h : n < (2 * q + 1) * 2 ^ e) : round53 n ≤ q * 2 ^ (e + 1) := by
  by_cases hle : n ≤ q * 2 ^ (e + 1)
  · exact round53_le (Nat.le_of_lt hhigh) hle
  have hmiddle : (2 * q + 1) * 2 ^ e = q * 2 ^ (e + 1) + 2 ^ e := by ring
  have hnext : (q + 1) * 2 ^ (e + 1) = q * 2 ^ (e + 1) + 2 * 2 ^ e := by ring
  rcases round53_cases n with ⟨hsmall, -⟩ | ⟨d, p, r, hp, hp', hn, hr, hround⟩
  · have hlarge : 2 ^ 52 * 2 ^ 1 ≤ q * 2 ^ (e + 1) :=
      Nat.mul_le_mul hlow (Nat.pow_le_pow_right (by decide) (Nat.le_add_left 1 e))
    omega
  · have hbelow : (p + 1) * 2 ^ (d + 1) = p * 2 ^ (d + 1) + 2 ^ (d + 1) := Nat.succ_mul ..
    obtain ⟨hd, rfl⟩ := neighbours_unique (n := n) (d := d + 1) (e := e + 1) hp hp' hlow hhigh
      (by omega) (by omega)
    obtain rfl : d = e := Nat.succ_inj.1 hd
    rcases hround with ⟨hround, -⟩ | ⟨-, hfar⟩
    · exact Nat.le_of_eq hround
    · omega

/-- A fraction of a number that was rounded, rounded itself, is at most the number. -/
theorem round53_mul_le {m n : Nat} (hm : m ≤ 2 ^ 53 - 1) :
    round53 (m * round53 n) ≤ n * 2 ^ 53 := by
  rcases round53_cases n with
    ⟨hsmall, hround⟩ | ⟨d, q, r, hq, hq', hn, -, ⟨hround, -⟩ | ⟨hround, hr⟩⟩
  · rw [hround]
    refine round53_le (Nat.le_of_lt hsmall) ?_
    rw [Nat.mul_comm n]
    exact Nat.mul_le_mul_right n (by omega)
  · rw [hround]
    have hle : m * (q * 2 ^ (d + 1)) ≤ q * 2 ^ (d + 54) :=
      calc
        m * (q * 2 ^ (d + 1)) ≤ 2 ^ 53 * (q * 2 ^ (d + 1)) := Nat.mul_le_mul_right _ (by omega)
        _ = q * 2 ^ (d + 54) := by ring
    calc
      round53 (m * (q * 2 ^ (d + 1))) ≤ q * 2 ^ (d + 54) := round53_le (Nat.le_of_lt hq') hle
      _ = q * 2 ^ (d + 1) * 2 ^ 53 := by ring
      _ ≤ n * 2 ^ 53 := Nat.mul_le_mul_right _ (by omega)
  · rw [hround]
    -- The fraction is far enough below one to miss the middle, and with it the upper neighbour.
    have hlt : m * ((q + 1) * 2 ^ (d + 1)) < (2 * q + 1) * 2 ^ (d + 53) :=
      calc
        m * ((q + 1) * 2 ^ (d + 1)) ≤ (2 ^ 53 - 1) * ((q + 1) * 2 ^ (d + 1)) :=
          Nat.mul_le_mul_right _ hm
        _ = ((2 ^ 53 - 1) * ((q + 1) * 2)) * 2 ^ d := by ring
        _ < ((2 * q + 1) * 2 ^ 53) * 2 ^ d :=
          Nat.mul_lt_mul_of_pos_right (by omega) (Nat.two_pow_pos d)
        _ = (2 * q + 1) * 2 ^ (d + 53) := by ring
    calc
      round53 (m * ((q + 1) * 2 ^ (d + 1))) ≤ q * 2 ^ (d + 54) := round53_le_of_lt hq hq' hlt
      _ = q * 2 ^ (d + 1) * 2 ^ 53 := by ring
      _ ≤ n * 2 ^ 53 := Nat.mul_le_mul_right _ (by omega)

/-! ## The random term -/

/-- No random term exceeds the jitter, whatever word it is computed from. -/
theorem jitterTerm_le (jitter word : UInt64) :
    (jitterTerm jitter word).toNat ≤ jitter.toNat := by
  have hword : word.toNat >>> 11 ≤ 2 ^ 53 - 1 := by
    have := word.toNat_lt
    rw [Nat.shiftRight_eq_div_pow]
    omega
  have hproduct : round53 ((word.toNat >>> 11) * round53 jitter.toNat) ≤ jitter.toNat * 2 ^ 53 :=
    round53_mul_le hword
  unfold jitterTerm
  dsimp only
  rw [Nat.shiftRight_eq_div_pow, UInt64.toNat_ofNat', Nat.mod_eq_of_lt]
  · omega
  · have : maxWord < 2 ^ 64 := by decide
    omega

end MqttRelay.Retry
