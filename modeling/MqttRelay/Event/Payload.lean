import MqttRelay.Value.Decode

/-!
# Event payloads

What an event carries: keys with values, flat on the outside.

Results:
* `get?_insert`: a set key has its value, every other key keeps its own.
-/

namespace MqttRelay.Event

/-- The fields that an event carries. -/
structure Payload where
  fields : Fields
  deriving Inhabited, Repr

namespace Payload

/-- The payload without fields. -/
def empty : Payload := ⟨[]⟩

/-- The payload of a value: the fields of an object, and none of anything else. -/
def ofValue : Value → Payload
  | .obj fields => ⟨fields⟩
  | _ => empty

/-- The object of a payload's fields. -/
def toValue (p : Payload) : Value := .obj p.fields

/-- Sets a key. -/
def insert (p : Payload) (key : String) (value : Value) : Payload :=
  ⟨Assoc.insert key value p.fields⟩

/-- The value of a key. -/
def get? (p : Payload) (key : String) : Option Value := Assoc.get? p.fields key

/-- The text of a key. -/
def getText? (p : Payload) (key : String) : Option String := (p.get? key).bind Value.asStr?

/-- The signed whole number of a key. -/
def getInt? (p : Payload) (key : String) : Option Int := (p.get? key).bind Value.asInt?

/-- The truth value of a key. -/
def getBool? (p : Payload) (key : String) : Option Bool := (p.get? key).bind Value.asBool?

/-- The number of fields. -/
def size (p : Payload) : Nat := p.fields.length

/-- Reads a payload as typed data. -/
def decode {α : Type} (p : Payload) (read : Reader α) : Except DecodeError α := read p.toValue

/-- Reads a payload as typed data, with a value that stands for an unreadable one. -/
def decodeD {α : Type} (p : Payload) (read : Reader α) (default : α) : α :=
  match p.decode read with
  | .ok a => a
  | .error _ => default

/-- A set key has its value, and every other key keeps its own. -/
theorem get?_insert (p : Payload) (key other : String) (value : Value) :
    (p.insert key value).get? other = if key = other then some value else p.get? other :=
  Assoc.get?_insert key other value p.fields

end Payload

end MqttRelay.Event
