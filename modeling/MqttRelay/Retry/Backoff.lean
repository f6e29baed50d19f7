/-!
# Backoff delays

The delay before a retry doubles from attempt to attempt, gets a random term on top, and is
cut off at a longest delay. All of it is computed in words of 64 bits that saturate.

Results:
* `saturatingAdd_toNat`, `saturatingMul_toNat`: a saturating word is the exact number, cut off
  at the largest word.
* `delay_le_cap`: no delay exceeds the longest one.
-/

namespace MqttRelay.Retry

/-! ## Random words -/

/-- A source of random words: those of the list in order, and the last of them for ever
after. -/
structure Random where
  words : List UInt64
  deriving Inhabited, Repr

namespace Random

/-- The next word, and the source after it. -/
def next : Random → UInt64 × Random
  | ⟨[]⟩ => (0, ⟨[]⟩)
  | ⟨[w]⟩ => (w, ⟨[w]⟩)
  | ⟨w :: v :: ws⟩ => (w, ⟨v :: ws⟩)

/-- A source whose every word is `w`. -/
def constant (w : UInt64) : Random := ⟨[w]⟩

/-- A source in the middle of its range. -/
def middle : Random := constant 0x8000000000000000

end Random

/-! ## Saturating words -/

/-- The largest word. -/
def maxWord : Nat := 0xFFFFFFFFFFFFFFFF

/-- The sum of two words, or the largest word. -/
def saturatingAdd (a b : UInt64) : UInt64 :=
  if a.toNat + b.toNat ≤ maxWord then a + b else UInt64.ofNat maxWord

/-- The product of two words, or the largest word. -/
def saturatingMul (a b : UInt64) : UInt64 :=
  if a.toNat * b.toNat ≤ maxWord then a * b else UInt64.ofNat maxWord

theorem saturatingAdd_toNat (a b : UInt64) :
    (saturatingAdd a b).toNat = min (a.toNat + b.toNat) maxWord := by
  unfold saturatingAdd
  split
  · next h =>
    rw [UInt64.toNat_add, Nat.mod_eq_of_lt (by simp only [maxWord] at h; omega),
      Nat.min_eq_left h]
  · next h =>
    rw [Nat.min_eq_right (by omega)]
    rfl

theorem saturatingMul_toNat (a b : UInt64) :
    (saturatingMul a b).toNat = min (a.toNat * b.toNat) maxWord := by
  unfold saturatingMul
  split
  · next h =>
    rw [UInt64.toNat_mul, Nat.mod_eq_of_lt (by simp only [maxWord] at h; omega),
      Nat.min_eq_left h]
  · next h =>
    rw [Nat.min_eq_right (by omega)]
    rfl

theorem min_toNat (a b : UInt64) : (min a b).toNat = min a.toNat b.toNat := by
  by_cases h : a ≤ b
  · rw [show min a b = a from if_pos h, Nat.min_eq_left (UInt64.le_iff_toNat_le.1 h)]
  · rw [show min a b = b from if_neg h,
      Nat.min_eq_right (Nat.le_of_not_le (mt UInt64.le_iff_toNat_le.2 h))]

/-! ## The random term -/

/-- A natural number rounded to 53 binary digits, a tie going to the even neighbour. -/
def round53 (n : Nat) : Nat :=
  let bits := n.log2 + 1
  if bits ≤ 53 then n
  else
    let unit := 1 <<< (bits - 53)
    let low := n / unit
    let rest := n % unit
    (if unit < 2 * rest ∨ (unit = 2 * rest ∧ low % 2 = 1) then low + 1 else low) * unit

/-- The random term of a word: its upper 53 bits as a fraction of one, times the bound, in
double precision, rounded up to a whole number of milliseconds. -/
def jitterTerm (jitter word : UInt64) : UInt64 :=
  let product := round53 ((word.toNat >>> 11) * round53 jitter.toNat)
  UInt64.ofNat (min ((product + 0x1FFFFFFFFFFFFF) >>> 53) maxWord)

/-! ## Delays -/

/-- The delay before an attempt: the first delay doubled once per attempt, plus the random
term, and at most the longest delay. A power of two beyond the words counts as the largest
word whatever it is multiplied by. -/
def delay (firstMs : UInt64) (attempt : UInt32) (maxSecs term : UInt64) : UInt64 :=
  let doubled :=
    if attempt.toNat < 64 then saturatingMul firstMs (UInt64.ofNat (1 <<< attempt.toNat))
    else UInt64.ofNat maxWord
  min (saturatingAdd doubled term) (saturatingMul maxSecs 1000)

/-- The delay before an attempt, with a random term drawn from a source. -/
def drawDelay (firstMs : UInt64) (attempt : UInt32) (maxSecs jitter : UInt64) (random : Random) :
    UInt64 × Random :=
  let (word, random) := random.next
  (delay firstMs attempt maxSecs (jitterTerm jitter word), random)

/-- No delay exceeds the longest one. -/
theorem delay_le_cap (firstMs : UInt64) (attempt : UInt32) (maxSecs term : UInt64) :
    (delay firstMs attempt maxSecs term).toNat ≤ maxSecs.toNat * 1000 := by
  unfold delay
  dsimp only
  rw [min_toNat, saturatingMul_toNat]
  exact Nat.le_trans (Nat.min_le_right ..) (Nat.min_le_left ..)

end MqttRelay.Retry
