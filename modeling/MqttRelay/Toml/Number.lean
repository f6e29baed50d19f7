import MqttRelay.Toml.Text
import MqttRelay.Value

/-!
# Numbers and dates in configuration files

Whole numbers in four bases, decimal fractions, and dates and times. Digits may be grouped by
single underscores between them. A number ends where it cannot go on; whether something may
follow it there is for the reader of the line to say.

Results:
* `wholeDigits_zero`: a leading zero is the whole number.
-/

namespace MqttRelay.Toml

open Text (isDigitOf ofDigits)

/-- A sign, if there is one: whether it is a minus. -/
def sign : List Char → Bool × List Char
  | '-' :: cs => (true, cs)
  | '+' :: cs => (false, cs)
  | cs => (false, cs)

/-- The digits that go on after a digit, with single underscores between digits left out. -/
def moreDigits (isDigit : Char → Bool) : List Char → List Char × List Char
  | [] => ([], [])
  | c :: cs =>
    if isDigit c then
      let (ds, rest) := moreDigits isDigit cs
      (c :: ds, rest)
    else if c = '_' ∧ (cs.head?.any isDigit) then moreDigits isDigit cs
    else ([], c :: cs)

/-- One digit or more. -/
def digits (isDigit : Char → Bool) : Scan (List Char)
  | [] => none
  | c :: cs =>
    if isDigit c then
      let (ds, rest) := moreDigits isDigit cs
      some (c :: ds, rest)
    else none

/-- A whole number in decimal digits, without leading zeros. -/
def wholeDigits : Scan (List Char)
  | '0' :: cs => some (['0'], cs)
  | cs => digits Char.isDigit cs

/-- The largest whole number. -/
def greatest : Nat := 0x7FFFFFFFFFFFFFFF

/-- A whole number without a sign, in a base with a mark. -/
def marked (base : Nat) (cs : List Char) : Option (Value × List Char) := do
  let (ds, rest) ← digits (isDigitOf base) cs
  let n := ofDigits base ds
  if n ≤ greatest then some (.nat n, rest) else none

/-- A whole number of 64 bits. -/
def integer : Scan Value
  | '0' :: 'x' :: cs => marked 16 cs
  | '0' :: 'o' :: cs => marked 8 cs
  | '0' :: 'b' :: cs => marked 2 cs
  | cs => do
    let (negative, cs) := sign cs
    let (ds, rest) ← wholeDigits cs
    let n := ofDigits 10 ds
    if negative then
      if n ≤ greatest + 1 then some (.int (-n), rest) else none
    else if n ≤ greatest then some (.nat n, rest)
    else none

/-! ## Fractions -/

/-- An exponent of ten. -/
def exponent : Scan Int
  | c :: cs => do
    if c = 'e' ∨ c = 'E' then
      let (negative, cs) := sign cs
      let (ds, rest) ← digits Char.isDigit cs
      let n := ofDigits 10 ds
      some (if negative then -n else n, rest)
    else none
  | [] => none

/-- Whether `mantissa * 10 ^ power` lies beyond the numbers of double precision: at least half
a step above the largest of them. -/
def exceeds (mantissa : Nat) (power : Int) : Bool :=
  let bound := (1 <<< 1024) - (1 <<< 970)
  if mantissa = 0 then false
  else if power < 0 then
    -- so many places leave nothing before the point
    if (Nat.toDigits 10 mantissa).length + power < 0 then false
    else bound * Nat.pow 10 power.natAbs ≤ mantissa
  else if 310 < power then true
  else bound ≤ mantissa * Nat.pow 10 power.natAbs

/-- A fraction: `mantissa * 10 ^ power`, if it is in range. -/
def fraction (negative : Bool) (mantissa : Nat) (power : Int) : Option Value :=
  if !negative && exceeds mantissa power then none
  else
    let m : Int := if negative then -mantissa else mantissa
    if power < 0 then some (.decimal m power.natAbs)
    else if mantissa = 0 ∨ exceeds mantissa power then some (.decimal m 0)
    else some (.decimal (m * Nat.pow 10 power.natAbs) 0)

/-- A number with a point or an exponent, or one that is no finite number. What is not finite
counts as a fraction without digits: nothing reads a fraction as a number. -/
def float (cs : List Char) : Option (Value × List Char) :=
  let (negative, cs) := sign cs
  match cs with
  | 'i' :: 'n' :: 'f' :: rest => some (.decimal 0 0, rest)
  | 'n' :: 'a' :: 'n' :: rest => some (.decimal 0 0, rest)
  | _ => do
    let (whole, rest) ← wholeDigits cs
    match rest with
    | '.' :: rest =>
      let (places, rest) ← digits Char.isDigit rest
      let mantissa := ofDigits 10 (whole ++ places)
      match exponent rest with
      | some (power, rest) =>
        return (← fraction negative mantissa (power - places.length), rest)
      | none => return (← fraction negative mantissa (-places.length), rest)
    | _ =>
      let (power, rest) ← exponent rest
      return (← fraction negative (ofDigits 10 whole) power, rest)

/-! ## Dates and times -/

/-- A number of exactly so many decimal digits, between two bounds. -/
def between (width low high : Nat) (cs : List Char) : Option (Nat × List Char) :=
  let ds := cs.take width
  let n := ofDigits 10 ds
  if ds.length = width ∧ ds.all Char.isDigit ∧ low ≤ n ∧ n ≤ high then some (n, cs.drop width)
  else none

/-- One given character. -/
def exactly (c : Char) : List Char → Option (List Char)
  | d :: cs => if c = d then some cs else none
  | [] => none

/-- The number of days of a month. -/
def daysOf (year month : Nat) : Nat :=
  if month = 2 then
    if year % 4 = 0 ∧ (year % 100 ≠ 0 ∨ year % 400 = 0) then 29 else 28
  else if month = 4 ∨ month = 6 ∨ month = 9 ∨ month = 11 then 30
  else 31

/-- What follows a date. -/
def date (cs : List Char) : Option (List Char) := do
  let (year, cs) ← between 4 0 9999 cs
  let (month, cs) ← between 2 1 12 (← exactly '-' cs)
  let (_, cs) ← between 2 1 (daysOf year month) (← exactly '-' cs)
  return cs

/-- What follows a time of day. -/
def timeOfDay (cs : List Char) : Option (List Char) := do
  let (_, cs) ← between 2 0 23 cs
  let (_, cs) ← between 2 0 59 (← exactly ':' cs)
  let (_, cs) ← between 2 0 60 (← exactly ':' cs)
  match cs with
  | '.' :: c :: rest => return if c.isDigit then rest.dropWhile Char.isDigit else cs
  | _ => return cs

/-- What follows the distance of a clock from the prime one, if it is given. -/
def clockOffset (cs : List Char) : Option (List Char) :=
  match cs with
  | [] => some []
  | c :: rest =>
    if c = 'Z' ∨ c = 'z' then some rest
    else if c = '+' ∨ c = '-' then do
      let (_, rest) ← between 2 0 23 rest
      let (_, rest) ← between 2 0 59 (← exactly ':' rest)
      return rest
    else some cs

/-- What follows a date, a time, or a date with a time. -/
def momentEnd (cs : List Char) : Option (List Char) :=
  match date cs with
  | none => timeOfDay cs
  | some rest =>
    match rest with
    | c :: time =>
      if c = 'T' ∨ c = 't' ∨ c = ' ' then
        match timeOfDay time with
        | some rest => clockOffset rest
        | none => some rest
      else some rest
    | [] => some []

/-- The only key of a date when it is read as an object. -/
def momentKey : String := "$date"

/-- A date, a time, or both. It reads as an object with one key that no record has. -/
def moment (cs : List Char) : Option (Value × List Char) :=
  (momentEnd cs).map fun rest =>
    (.obj [(momentKey, .str (String.ofList (cs.take (cs.length - rest.length))))], rest)

/-- A date, a fraction or a whole number. -/
def number (cs : List Char) : Option (Value × List Char) :=
  (moment cs).or ((float cs).or (integer cs))

/-- A leading zero is the whole number. -/
theorem wholeDigits_zero (cs : List Char) : wholeDigits ('0' :: cs) = some (['0'], cs) := rfl

end MqttRelay.Toml
