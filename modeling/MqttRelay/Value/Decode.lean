import MqttRelay.Value

/-!
# Reading typed data out of dynamic values

A reader turns a value into typed data or says what is wrong with it. A record is read from
an object, whose fields are visited in the order of their keys, or from an array of its
fields in the order of their declaration; keys it does not know are passed over.

Results:
* `Record.readWith_obj_eq_ok_iff`: when an object is accepted, and as what.
-/

namespace MqttRelay

/-- What is wrong with a value that was to be read. -/
inductive DecodeError where
  /-- The value is of another type. -/
  | type (found : Value) (wanted : String)
  /-- The number does not fit the type. -/
  | range (n : Int) (wanted : String)
  /-- A field without a default is absent. -/
  | missing (key : String)
  /-- No alternative has this name. -/
  | variant (name : String) (choices : List String)
  /-- An object that should name one alternative has another number of keys. -/
  | notSingle
  /-- An array of fields ends before a field without a default. -/
  | tooShort (length : Nat) (record : String) (fields : Nat)
  /-- An array of fields goes on after the last field. -/
  | tooLong (length : Nat)
  /-- The number is not a quality-of-service level. -/
  | level (n : Nat)
  deriving Inhabited, Repr

/-- A value as an error text names it. -/
def Value.describe : Value → String
  | .null => "null"
  | .bool b => "boolean `" ++ Text.truth b ++ "`"
  | .int n => "integer `" ++ toString n ++ "`"
  | .decimal m p => "floating point `" ++ Value.decimalText m p ++ "`"
  | .str s => "string " ++ Text.quoted s
  | .arr _ => "sequence"
  | .obj _ => "map"

/-- A list of alternatives as an error text names it. -/
def DecodeError.choiceText (choices : List String) : String :=
  let quoted := choices.map fun c => "`" ++ c ++ "`"
  match quoted with
  | [one] => one
  | [one, two] => one ++ " or " ++ two
  | more => "one of " ++ String.intercalate ", " more

/-- The text of a fault. -/
def DecodeError.message : DecodeError → String
  | .type found wanted => s!"invalid type: {found.describe}, expected {wanted}"
  | .range n wanted => s!"invalid value: integer `{n}`, expected {wanted}"
  | .missing key => s!"missing field `{key}`"
  | .variant name choices => s!"unknown variant `{name}`, expected {choiceText choices}"
  | .notSingle => "invalid value: map, expected map with a single key"
  | .tooShort length record fields =>
    s!"invalid length {length}, expected struct {record} with {fields} element" ++
      (if fields = 1 then "" else "s")
  | .tooLong length => s!"invalid length {length}, expected fewer elements in array"
  | .level n => s!"invalid QoS level {n}, expected 0, 1 or 2"

/-- Reads one type. -/
abbrev Reader (α : Type) := Value → Except DecodeError α

namespace Reader

/-- Reads a text. -/
def string : Reader String
  | .str s => .ok s
  | v => .error (.type v "a string")

/-- Reads a truth value. -/
def bool : Reader Bool
  | .bool b => .ok b
  | v => .error (.type v "a boolean")

/-- Reads a whole number between two bounds. -/
def int (low high : Int) (wanted : String) : Reader Int
  | .int n => if low ≤ n ∧ n ≤ high then .ok n else .error (.range n wanted)
  | v => .error (.type v wanted)

theorem int_of_mem {low high n : Int} (h : low ≤ n ∧ n ≤ high) (wanted : String) :
    int low high wanted (.int n) = .ok n := if_pos h

theorem int_of_not_mem {low high n : Int} (h : ¬(low ≤ n ∧ n ≤ high)) (wanted : String) :
    int low high wanted (.int n) = .error (.range n wanted) := if_neg h

/-- Reads a word of 8 bits. -/
def uint8 : Reader UInt8 := fun v => (int 0 0xFF "u8" v).map fun n => UInt8.ofNat n.toNat

/-- Reads a word of 16 bits. -/
def uint16 : Reader UInt16 := fun v =>
  (int 0 0xFFFF "u16" v).map fun n => UInt16.ofNat n.toNat

/-- Reads a word of 32 bits. -/
def uint32 : Reader UInt32 := fun v =>
  (int 0 0xFFFFFFFF "u32" v).map fun n => UInt32.ofNat n.toNat

/-- Reads a word of 64 bits. -/
def uint64 : Reader UInt64 := fun v =>
  (int 0 0xFFFFFFFFFFFFFFFF "u64" v).map fun n => UInt64.ofNat n.toNat

/-- Reads a signed word of 32 bits. -/
def int32 : Reader Int32 := fun v =>
  (int (-0x80000000) 0x7FFFFFFF "i32" v).map Int32.ofInt

/-- Reads null as absence, and anything else by the given reader. -/
def optional {α : Type} (read : Reader α) : Reader (Option α)
  | .null => .ok none
  | v => (read v).map some

/-- Reads the name of an alternative, alone or as the single key of an object over null. -/
def alternative {α : Type} (choices : List (String × α)) : Reader α
  | .str name => pick name
  | .obj [(name, payload)] => do
    let a ← pick name
    match payload with
    | .null => .ok a
    | v => .error (.type v "unit")
  | .obj _ => .error .notSingle
  | v => .error (.type v "string or map")
where
  pick (name : String) : Except DecodeError α :=
    match choices.find? fun c => c.1 == name with
    | some c => .ok c.2
    | none => .error (.variant name (choices.map (·.1)))

end Reader

/-! ## Records -/

/-- Where a field may be absent. -/
inductive Absence where
  | nowhere
  /-- In an object, but not at the end of an array. -/
  | inObjects
  | anywhere
  deriving DecidableEq, Inhabited, Repr

/-- What a record expects of one of its fields. -/
structure Column where
  key : String
  absence : Absence
  /-- What is wrong with a value of the field. -/
  check : Value → Except DecodeError Unit

/-- The columns of a record, and the record built from the values of its keys. -/
structure Record (α : Type) where
  columns : List Column
  build : (String → Option Value) → Except DecodeError α

namespace Record

/-- The record without fields. -/
def pure {α : Type} (a : α) : Record α := ⟨[], fun _ => .ok a⟩

/-- Adds a field that must be present. -/
def required {α β : Type} (r : Record (α → β)) (key : String) (read : Reader α) : Record β where
  columns := r.columns ++ [⟨key, .nowhere, fun v => (read v).map fun _ => ()⟩]
  build values := do
    let f ← r.build values
    match values key with
    | some v => (read v).map f
    | none => .error (.missing key)

/-- Adds a field that may be absent. -/
def withDefault {α β : Type} (r : Record (α → β)) (key : String) (read : Reader α)
    (default : α) (absence : Absence := .anywhere) : Record β where
  columns := r.columns ++ [⟨key, absence, fun v => (read v).map fun _ => ()⟩]
  build values := do
    let f ← r.build values
    match values key with
    | some v => (read v).map f
    | none => .ok (f default)

/-- Adds a field that may be absent or null. -/
def optional {α β : Type} (r : Record (Option α → β)) (key : String) (read : Reader α) :
    Record β :=
  r.withDefault key (Reader.optional read) none

/-- Adds a field that may be null, or absent from an object. -/
def nullable {α β : Type} (r : Record (Option α → β)) (key : String) (read : Reader α) :
    Record β :=
  r.withDefault key (Reader.optional read) none .inObjects

/-- The first fault of the fields in the order in which they are visited. -/
def checkFields (columns : List Column) : Fields → Except DecodeError Unit
  | [] => .ok ()
  | (key, v) :: rest => do
    match columns.find? fun c => c.key == key with
    | some c => c.check v
    | none => .ok ()
    checkFields columns rest

/-- The position and key of the first column that is absent where it may not be. -/
def firstMissing (columns : List Column) (mayMiss : Absence → Bool)
    (values : String → Option Value) : Option (Nat × String) :=
  (columns.zipIdx.find? fun c => !mayMiss c.1.absence && (values c.1.key).isNone).map
    fun c => (c.2, c.1.key)

/-- What becomes of elements of an array beyond the last field of a record. -/
inductive Surplus where
  | refused
  | ignored
  deriving DecidableEq, Inhabited, Repr

/-- Reads a record of the given name, with a rule for arrays that are too long. -/
def readWith {α : Type} (surplus : Surplus) (r : Record α) (name : String) : Reader α
  | .obj fields => do
    checkFields r.columns fields
    match firstMissing r.columns (· != .nowhere) (Assoc.get? fields) with
    | some (_, key) => .error (.missing key)
    | none => r.build (Assoc.get? fields)
  | .arr items => do
    let fields : Fields := (r.columns.map (·.key)).zip items
    checkFields r.columns fields
    match firstMissing r.columns (· == .anywhere) (Assoc.get? fields) with
    | some (i, _) => .error (.tooShort i name r.columns.length)
    | none =>
      if surplus = .refused ∧ r.columns.length < items.length then .error (.tooLong items.length)
      else r.build (Assoc.get? fields)
  | v => .error (.type v s!"struct {name}")

/-- Reads a record of the given name. -/
def read {α : Type} (r : Record α) (name : String) : Reader α := r.readWith .refused name

/-- An object is accepted when its known fields are, none without a default is absent, and
the record can be built; it is then read as what is built. -/
theorem readWith_obj_eq_ok_iff {α : Type} (surplus : Surplus) (r : Record α) (name : String)
    (fields : Fields) (a : α) :
    r.readWith surplus name (.obj fields) = .ok a ↔
      checkFields r.columns fields = .ok () ∧
        firstMissing r.columns (· != .nowhere) (Assoc.get? fields) = none ∧
        r.build (Assoc.get? fields) = .ok a := by
  simp only [readWith, bind, Except.bind]
  cases h : checkFields r.columns fields with
  | error e => simp
  | ok u =>
    cases hm : firstMissing r.columns (· != .nowhere) (Assoc.get? fields) with
    | none => simp
    | some p => simp

end Record

end MqttRelay
