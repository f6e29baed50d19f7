/-!
# Digits

The values of digits in bases up to sixteen, and the number that a row of digits stands for.

Results:
* `digitValue?_hexDigit`: a digit is read back as its value.
* `ofDigits_toDigits`: the decimal digits of a number are read back as the number.
-/

namespace MqttRelay.Text

/-- The value of a digit in bases up to sixteen. -/
def digitValue? (c : Char) : Option Nat :=
  if '0' ≤ c ∧ c ≤ '9' then some (c.toNat - '0'.toNat)
  else if 'a' ≤ c ∧ c ≤ 'f' then some (c.toNat - 'a'.toNat + 10)
  else if 'A' ≤ c ∧ c ≤ 'F' then some (c.toNat - 'A'.toNat + 10)
  else none

/-- Whether a character is a digit of a base up to sixteen. -/
def isDigitOf (base : Nat) (c : Char) : Bool := (digitValue? c).any (· < base)

/-- A hexadecimal digit, with capital letters. -/
def hexDigit (n : Nat) : Char :=
  if n < 10 then Char.ofNat ('0'.toNat + n) else Char.ofNat ('A'.toNat + (n - 10))

/-- The number of a row of digits. -/
def ofDigits (base : Nat) (digits : List Char) : Nat :=
  digits.foldl (fun n d => base * n + (digitValue? d).getD 0) 0

theorem digitValue?_hexDigit (n : Nat) (h : n < 16) : digitValue? (hexDigit n) = some n := by
  have : ∀ n < 16, digitValue? (hexDigit n) = some n := by decide
  exact this n h

theorem digitValue?_digitChar (n : Nat) (h : n < 10) : digitValue? n.digitChar = some n := by
  have : ∀ n < 10, digitValue? n.digitChar = some n := by decide
  exact this n h

theorem ofDigits_concat (base : Nat) (ds : List Char) (d : Char) :
    ofDigits base (ds ++ [d]) = base * ofDigits base ds + (digitValue? d).getD 0 := by
  simp [ofDigits]

/-- The digits of a number are read back as the number. -/
theorem ofDigits_toDigits (n : Nat) : ofDigits 10 (Nat.toDigits 10 n) = n := by
  induction n using Nat.strongRecOn with
  | ind n ih =>
    by_cases h : n < 10
    · rw [Nat.toDigits_of_lt_base h]
      simp [ofDigits, digitValue?_digitChar n h]
    · rw [Nat.toDigits_of_base_le (by omega) (by omega), ofDigits_concat, ih _ (by omega),
        digitValue?_digitChar (n % 10) (by omega)]
      simp only [Option.getD_some]
      omega

end MqttRelay.Text
