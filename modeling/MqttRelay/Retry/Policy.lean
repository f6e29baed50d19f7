import MqttRelay.Options
import MqttRelay.Retry.Backoff

/-!
# Retry policy

What the options say about reconnection, and the decision whether a cycle goes on.

Results:
* `decide_eq_proceed_iff`: an attempt is made exactly when reconnection is on and the budget
  is not used up.
-/

namespace MqttRelay.Retry

/-- The reconnection parameters of a client. -/
structure Policy where
  enabled : Bool
  /-- Most attempts in one cycle; none means no bound. -/
  maxAttempts : Option UInt32
  firstMs : UInt64
  maxSecs : UInt64
  jitterMs : UInt64
  deriving DecidableEq, Inhabited, Repr

namespace Policy

/-- The parameters that options set: two seconds at first, a minute at most and one
millisecond of random delay, unless set. -/
def ofOptions (o : Options) : Policy where
  enabled := o.reconnects
  maxAttempts := o.retryCount
  firstMs := o.backoffTime.getD 2000
  maxSecs := o.maxBackoffTime.getD 60
  jitterMs := o.jitter.getD 1

/-- The parameters when nothing is set. -/
def standard : Policy := ofOptions .empty

/-- The fields of a policy. -/
def toValue (p : Policy) : Value :=
  .object [("enabled", .bool p.enabled),
    ("maxAttempts", .orNull (p.maxAttempts.map fun n => .nat n.toNat)),
    ("backoffTimeMs", .nat p.firstMs.toNat), ("maxBackoffTimeSecs", .nat p.maxSecs.toNat),
    ("jitterMs", .nat p.jitterMs.toNat)]

/-- The delay before an attempt under the policy. -/
def drawDelay (p : Policy) (attempt : UInt32) (random : Random) : UInt64 × Random :=
  Retry.drawDelay p.firstMs attempt p.maxSecs p.jitterMs random

end Policy

/-- Whether a cycle of reconnection goes on. -/
inductive Decision where
  /-- The attempt with this number is to be made; the first is number one. -/
  | proceed (attempt : UInt32)
  /-- Reconnection is off. -/
  | disabled
  /-- The cycle has used up its attempts. -/
  | exhausted
  deriving DecidableEq, Inhabited, Repr

/-- The decision after `attempts` attempts of a cycle. -/
def decide (attempts : UInt32) (p : Policy) : Decision :=
  if !p.enabled then .disabled
  else
    match p.maxAttempts with
    | some most =>
      if most ≤ attempts then .exhausted
      else .proceed (if attempts = 0xFFFFFFFF then attempts else attempts + 1)
    | none => .proceed (if attempts = 0xFFFFFFFF then attempts else attempts + 1)

/-- An attempt is made exactly when reconnection is on and fewer attempts than allowed have
been made. -/
theorem decide_eq_proceed_iff (attempts : UInt32) (p : Policy) :
    (∃ n, decide attempts p = .proceed n) ↔
      p.enabled = true ∧ ∀ most, p.maxAttempts = some most → attempts < most := by
  unfold decide
  cases he : p.enabled <;> cases hm : p.maxAttempts with
  | none => simp
  | some most =>
    by_cases h : most ≤ attempts
    · simp [h]
    · simp [h, UInt32.not_le.1 h]

theorem decide_eq_disabled_iff (attempts : UInt32) (p : Policy) :
    decide attempts p = .disabled ↔ p.enabled = false := by
  unfold decide
  cases he : p.enabled <;> cases hm : p.maxAttempts with
  | none => simp
  | some most => by_cases h : most ≤ attempts <;> simp [h]

end MqttRelay.Retry
