import MqttRelay.Text.Digits
import MqttRelay.Text.Split

/-!
# Numeric addresses

The addresses of the fourth and the sixth version of the internet protocol, as they stand in
the host of a URL. A short address of the sixth version leaves out one row of zero groups; it
is written with the first of its longest rows left out.

Results:
* `length_of_groups?`: an address of the sixth version has eight groups.
-/

namespace MqttRelay.Url

open Text (splitAt isDigitOf ofDigits)

/-! ## Version 4 -/

/-- One part of an address: decimal, octal after a zero, or hexadecimal after `0x`. -/
def numberPart? (cs : List Char) : Option Nat :=
  let (base, digits) : Nat × List Char :=
    match cs with
    | '0' :: 'x' :: rest => (16, rest)
    | '0' :: 'X' :: rest => (16, rest)
    | '0' :: c :: rest => (8, c :: rest)
    | cs => (10, cs)
  if cs.isEmpty || !digits.all (isDigitOf base) then none else some (ofDigits base digits)

/-- The parts of a name, without the empty part after a closing dot. -/
def nameParts (cs : List Char) : List (List Char) :=
  let parts := splitAt '.' cs
  if parts.getLast? = some [] then parts.dropLast else parts

/-- Whether a name ends in a number and so must be an address. -/
def endsInNumber (cs : List Char) : Bool :=
  match (nameParts cs).getLast? with
  | some part => (!part.isEmpty && part.all Char.isDigit) || (numberPart? part).isSome
  | none => false

/-- Whether a name is an address: at most four numbers, each but the last below 256, and the
last within the bytes that are left. -/
def isVersion4 (cs : List Char) : Bool :=
  let parts := nameParts cs
  match parts.mapM numberPart? with
  | none => false
  | some numbers =>
    numbers.length ≤ 4 && numbers.dropLast.all (· < 256) &&
      numbers.getLast?.any (· < 1 <<< (8 * (5 - numbers.length)))

/-! ## Version 6 -/

/-- One group of an address: up to four hexadecimal digits. -/
def group? (cs : List Char) : Option Nat :=
  if cs.isEmpty || 4 < cs.length || !cs.all (isDigitOf 16) then none else some (ofDigits 16 cs)

/-- One byte of an address of the fourth version, without leading zeros. -/
def byte? (cs : List Char) : Option Nat :=
  if cs.isEmpty || !cs.all Char.isDigit || (1 < cs.length && cs.head? == some '0') then none
  else if ofDigits 10 cs < 256 then some (ofDigits 10 cs)
  else none

/-- Two groups written as four bytes with dots. -/
def dotted? (cs : List Char) : Option (List Nat) :=
  match (splitAt '.' cs).mapM byte? with
  | some [a, b, c, d] => some [256 * a + b, 256 * c + d]
  | _ => none

/-- Groups between colons; the last two may be written as bytes if the groups end the
address. -/
def groupRow? (atEnd : Bool) (cs : List Char) : Option (List Nat) :=
  if cs.isEmpty then some []
  else
    let parts := splitAt ':' cs
    match parts.getLast? with
    | none => some []
    | some last =>
      if atEnd && last.contains '.' then do
        return (← parts.dropLast.mapM group?) ++ (← dotted? last)
      else parts.mapM group?

/-- Splits at the first pair of colons. -/
def splitGap : List Char → Option (List Char × List Char)
  | ':' :: ':' :: cs => some ([], cs)
  | c :: cs => (splitGap cs).map fun p => (c :: p.1, p.2)
  | [] => none

/-- The eight groups of an address. -/
def groups? (cs : List Char) : Option (List Nat) :=
  match splitGap cs with
  | none => (groupRow? true cs).filter (·.length == 8)
  | some (left, right) => do
    let front ← groupRow? false left
    let back ← groupRow? true right
    let found := front.length + back.length
    if found ≤ 7 then some (front ++ List.replicate (8 - found) 0 ++ back) else none

/-- An address has eight groups. -/
theorem length_of_groups? {cs : List Char} {gs : List Nat} (h : groups? cs = some gs) :
    gs.length = 8 := by
  unfold groups? at h
  split at h
  · obtain ⟨_, h⟩ := Option.filter_eq_some_iff.1 h
    simpa using h
  · simp only [Option.bind_eq_bind, Option.bind_eq_some_iff] at h
    obtain ⟨front, _, back, _, h⟩ := h
    split at h
    · simp only [Option.some.injEq] at h
      subst h
      simp
      omega
    · simp at h

/-- A group in lower-case hexadecimal digits. -/
def groupText (n : Nat) : List Char := Nat.toDigits 16 n

/-- The text of an address. -/
def addressText (groups : List Nat) : List Char :=
  let row (gs : List Nat) := List.intercalate [':'] (gs.map groupText)
  let runs := (List.range groups.length).map fun i =>
    ((groups.drop i).takeWhile (· == 0)).length
  let longest := runs.foldl max 0
  if longest < 2 then row groups
  else
    let start := runs.findIdx (· == longest)
    row (groups.take start) ++ [':', ':'] ++ row (groups.drop (start + longest))

end MqttRelay.Url
