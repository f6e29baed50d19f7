import MqttRelay.Value.Decode

/-!
# Reason codes

The number attached to the outcome of an operation: acknowledgement codes of the protocol are
not negative and opaque, negative ones stand for failures found on this side of the wire.

Results:
* `read_toValue`: a code is read back from what is written for it.
* `read_int_eq_ok_iff`: a whole number is a code exactly when it fits in 32 bits.
-/

namespace MqttRelay

/-- The reason of an outcome. -/
structure ReasonCode where
  code : Int32
  deriving DecidableEq, Repr

namespace ReasonCode

/-- The code of a number; it is meant for numbers that fit in 32 bits. -/
def ofInt (n : Int) : ReasonCode := ⟨Int32.ofInt n⟩

/-- The number of a code. -/
def toInt (r : ReasonCode) : Int := r.code.toInt

/-- An ordinary end of a connection, or success. -/
def normal : ReasonCode := ofInt 0
/-- No reason was given. -/
def unspecified : ReasonCode := ofInt (-1)
/-- A connection could not be made or broke. -/
def connectionError : ReasonCode := ofInt (-2)
/-- A connection could not be closed in order. -/
def disconnectionError : ReasonCode := ofInt (-3)
/-- A subscription could not be made. -/
def subscriptionError : ReasonCode := ofInt (-4)
/-- A subscription could not be released. -/
def unsubscriptionError : ReasonCode := ofInt (-5)
/-- A client could not be made. -/
def initializationError : ReasonCode := ofInt (-6)

instance : Inhabited ReasonCode := ⟨unspecified⟩

/-- Whether the reason lies on this side of the wire. -/
def isInternal (r : ReasonCode) : Bool := r.toInt < 0

/-- A code as text. -/
def text (r : ReasonCode) : String := toString r.toInt

/-- The notation of a code in diagnostics. -/
def debugText (r : ReasonCode) : String := "ReasonCode(" ++ r.text ++ ")"

/-- A code is written as its number. -/
def toValue (r : ReasonCode) : Value := .int r.toInt

/-- A code is read from a signed word of 32 bits. -/
def read : Reader ReasonCode := fun v => (Reader.int32 v).map ReasonCode.mk

theorem read_toValue (r : ReasonCode) : read r.toValue = .ok r := by
  have h1 := r.code.le_toInt
  have h2 := r.code.toInt_lt
  have hb : (-0x80000000 : Int) ≤ r.code.toInt ∧ r.code.toInt ≤ 0x7FFFFFFF := by omega
  simp only [read, Reader.int32, toValue, toInt, Reader.int_of_mem hb, Except.map,
    Int32.ofInt_toInt]

/-- A whole number is a code exactly when it fits in a signed word of 32 bits. -/
theorem read_int_eq_ok_iff (n : Int) (r : ReasonCode) :
    read (.int n) = .ok r ↔ (-0x80000000 ≤ n ∧ n < 0x80000000) ∧ r = ofInt n := by
  by_cases h : (-0x80000000 : Int) ≤ n ∧ n ≤ 0x7FFFFFFF
  · have h' : (-0x80000000 : Int) ≤ n ∧ n < 0x80000000 := by omega
    simp only [read, Reader.int32, Reader.int_of_mem h, Except.map, Except.ok.injEq, h', ofInt]
    exact ⟨fun e => ⟨⟨trivial, trivial⟩, e.symm⟩, fun e => e.2.symm⟩
  · have h' : ¬((-0x80000000 : Int) ≤ n ∧ n < 0x80000000) := by omega
    simp only [read, Reader.int32, Reader.int_of_not_mem h, Except.map, reduceCtorEq, h', false_and]

end ReasonCode

end MqttRelay
