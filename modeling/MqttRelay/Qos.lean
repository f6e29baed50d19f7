import MqttRelay.Value.Decode

/-!
# Quality of service

The three delivery guarantees of MQTT, ordered by strength and numbered 0, 1 and 2.

Results:
* `ofNat?_toNat`, `toNat_lt`: a level is its number, and no other number is one.
* `read_toValue`: a level is read back from what is written for it.
-/

namespace MqttRelay

/-- A delivery guarantee. -/
inductive Qos where
  | atMostOnce
  | atLeastOnce
  | exactlyOnce
  deriving DecidableEq, Inhabited, Repr

namespace Qos

/-- The number of a level. -/
def toNat : Qos → Nat
  | atMostOnce => 0
  | atLeastOnce => 1
  | exactlyOnce => 2

/-- The level of a number. -/
def ofNat? : Nat → Option Qos
  | 0 => some atMostOnce
  | 1 => some atLeastOnce
  | 2 => some exactlyOnce
  | _ => none

/-- The level of a subscription that asks for none. -/
def standard : Qos := atLeastOnce

/-- The stronger of two levels. -/
def max (a b : Qos) : Qos := if a.toNat < b.toNat then b else a

/-- The name of a level in diagnostics. -/
def debugText : Qos → String
  | atMostOnce => "AtMostOnce"
  | atLeastOnce => "AtLeastOnce"
  | exactlyOnce => "ExactlyOnce"

/-- The number of a level as text. -/
def text (q : Qos) : String := toString q.toNat

/-- A level is written as its number. -/
def toValue (q : Qos) : Value := .nat q.toNat

/-- A level is read from a word of 8 bits. -/
def read : Reader Qos := fun v => do
  let n ← Reader.uint8 v
  match ofNat? n.toNat with
  | some q => .ok q
  | none => .error (.level n.toNat)

theorem ofNat?_toNat (q : Qos) : ofNat? q.toNat = some q := by cases q <;> rfl

theorem toNat_lt (q : Qos) : q.toNat < 3 := by cases q <;> decide

theorem read_toValue (q : Qos) : read q.toValue = .ok q := by cases q <;> rfl

end Qos

end MqttRelay
