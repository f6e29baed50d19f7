import MqttRelay.Assoc
import MqttRelay.Text.Quoted

/-!
# Dynamic values

The untyped data that event payloads and configuration carry: null, truth values, whole
numbers, decimal fractions, texts, arrays and objects. The fields of an object stand in
ascending order of their keys, each key once.

Results:
* `Value.asInt?_eq_some_iff`: the signed reading is the number itself, in range.
-/

namespace MqttRelay

/-- Untyped data; a decimal is `mantissa / 10 ^ places`. -/
inductive Value where
  | null
  | bool (b : Bool)
  | int (n : Int)
  | decimal (mantissa : Int) (places : Nat)
  | str (s : String)
  | arr (items : List Value)
  | obj (fields : List (String × Value))
  deriving Inhabited, Repr

/-- The fields of an object. -/
abbrev Fields := Assoc Value

namespace Value

/-- The object with the given fields. -/
def object (pairs : List (String × Value)) : Value :=
  .obj (Assoc.ofList pairs)

/-- A natural number. -/
def nat (n : Nat) : Value := .int n

/-- A value or null. -/
def orNull (o : Option Value) : Value := o.getD .null

/-- The text of a text value. -/
def asStr? : Value → Option String
  | .str s => some s
  | _ => none

/-- The number of a whole number that fits in 64 bits with sign. -/
def asInt? : Value → Option Int
  | .int n => if -0x8000000000000000 ≤ n ∧ n < 0x8000000000000000 then some n else none
  | _ => none

/-- The truth value of a truth value. -/
def asBool? : Value → Option Bool
  | .bool b => some b
  | _ => none

theorem asInt?_eq_some_iff (v : Value) (n : Int) :
    v.asInt? = some n ↔
      v = .int n ∧ -0x8000000000000000 ≤ n ∧ n < 0x8000000000000000 := by
  cases v <;> simp only [asInt?, reduceCtorEq, false_and]
  split
  · simp only [Option.some.injEq, int.injEq]
    constructor
    · rintro rfl
      exact ⟨rfl, by assumption⟩
    · exact fun h => h.1
  · simp only [reduceCtorEq, int.injEq, false_iff, not_and]
    rintro rfl
    omega

/-- The digits of a decimal fraction, with at least one on each side of the point. -/
def decimalText (mantissa : Int) (places : Nat) : String :=
  let digits := Nat.toDigits 10 mantissa.natAbs
  let padded := List.replicate (places + 1 - digits.length) '0' ++ digits
  let whole := padded.take (padded.length - places)
  let fraction := (padded.drop (padded.length - places)).reverse.dropWhile (· == '0')
  String.ofList ((if mantissa < 0 then ['-'] else []) ++ whole ++
    '.' :: (if fraction.isEmpty then ['0'] else fraction.reverse))

end Value

end MqttRelay
