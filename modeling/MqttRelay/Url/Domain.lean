import MqttRelay.Text.Digits
import MqttRelay.Text.EscapeTable
import MqttRelay.Text.Lower
import MqttRelay.Text.Split
import MqttRelay.Text.Utf8
import MqttRelay.Url.DomainTable

/-!
# Domain names

The name in a URL of one of the schemes whose hosts are domain names. It is written in any
letter case and in any script, with bytes as percent signs and digits; its plain form is in
lower case, and a label in another script may stand as letters and digits after `xn--`.

Results:
* `plainChar?_letter`: a small letter is its own plain form.
-/

namespace MqttRelay.Url

open Text (digitValue? inRanges)

/-! ## Percent signs -/

/-- The bytes of a text in which a percent sign and two hexadecimal digits stand for a byte. -/
def percentDecode : List UInt8 → List UInt8
  | [] => []
  | 0x25 :: a :: b :: bs =>
    match digitValue? (Char.ofNat a.toNat), digitValue? (Char.ofNat b.toNat) with
    | some x, some y => UInt8.ofNat (16 * x + y) :: percentDecode bs
    | _, _ => 0x25 :: percentDecode (a :: b :: bs)
  | b :: bs => b :: percentDecode bs

/-! ## Plain form -/

/-- The ASCII characters that no domain name has. -/
def endsName (c : Char) : Bool :=
  c.toNat ≤ 0x20 || c.toNat == 0x7F || "%#/:<>?@[\\]^|".toList.contains c

/-- The plain form of a character: nothing for one that is passed over, and no form for one
that no domain name has. Characters that join their neighbours are not taken. -/
def plainChar? (c : Char) : Option (List Char) :=
  let n := c.toNat
  if n < 0x80 then if endsName c then none else some [c.toLower]
  else if inRanges passedOverRanges n then some []
  else if inRanges refusedRanges n || n == 0x200C || n == 0x200D then none
  else if n == 0x3002 || n == 0xFF61 then some ['.']
  else if 0xFF01 ≤ n && n ≤ 0xFF5E then some [(Char.ofNat (n - 0xFEE0)).toLower]
  else some [Text.lowerChar c]

theorem plainChar?_letter (c : Char) (h : c ∈ "abcdefghijklmnopqrstuvwxyz".toList) :
    plainChar? c = some [c] := by
  have letters : "abcdefghijklmnopqrstuvwxyz".toList.all (fun c => plainChar? c == some [c]) := by
    decide
  exact beq_iff_eq.1 (List.all_eq_true.1 letters c h)

/-! ## Labels in letters and digits -/

/-- Where the reading of an encoded label stands. -/
structure Encoded where
  /-- The characters so far. -/
  output : List Char
  /-- The number of the last character that was put in. -/
  code : Nat := 128
  /-- The place of the next character, as far as it is read. -/
  place : Nat := 0
  /-- The place before the number that is being read. -/
  start : Nat := 0
  /-- What the next digit counts. -/
  weight : Nat := 1
  /-- The position of the next digit of a number. -/
  position : Nat := 36
  bias : Nat := 72

/-- The bias after a number, from what is left of it. -/
def biasOf (delta bias : Nat) : Nat :=
  if 455 < delta then biasOf (delta / 35) (bias + 36) else bias + 36 * delta / (delta + 38)
termination_by delta
decreasing_by omega

/-- Reads one digit of an encoded label. -/
def Encoded.add (e : Encoded) (c : Char) : Option Encoded := do
  let digit ←
    if c.isLower then some (c.toNat - 'a'.toNat)
    else if c.isDigit then some (c.toNat - '0'.toNat + 26)
    else none
  let place := e.place + digit * e.weight
  let limit := max 1 (min 26 (e.position - e.bias))
  if limit ≤ digit then
    return { e with place, weight := e.weight * (36 - limit), position := e.position + 36 }
  else
    let length := e.output.length + 1
    let delta := (place - e.start) / (if e.start = 0 then 700 else 2)
    let code := e.code + place / length
    let at' := place % length
    if code.isValidChar then
      return {
        output := e.output.take at' ++ Char.ofNat code :: e.output.drop at'
        code
        place := at' + 1
        start := at' + 1
        bias := biasOf (delta + delta / length) 0 }
    else none

/-- The characters of an encoded label, after its mark: the ASCII ones stand before the last
hyphen. -/
def decodeLabel? (cs : List Char) : Option (List Char) := do
  let digits := (cs.reverse.takeWhile (· != '-')).reverse
  let basic := cs.take (cs.length - digits.length - 1)
  let e ← digits.foldlM Encoded.add { output := basic }
  if e.position = 36 then some e.output else none

/-- Whether a label begins with a mark that belongs to the character before it. -/
def beginsWithMark (label : List Char) : Bool :=
  label.head?.any fun c => inRanges Text.numberedRanges c.toNat

/-- Whether a label in plain form is one of a domain name. -/
def isLabel : List Char → Bool
  | 'x' :: 'n' :: '-' :: '-' :: cs =>
    match decodeLabel? cs with
    | none => false
    | some decoded =>
      decoded.any (fun c => 0x80 ≤ c.toNat) && decoded.all (fun c => plainChar? c == some [c]) &&
        !beginsWithMark decoded
  | label => !beginsWithMark label

/-- The plain form of a domain name. -/
def domain? (host : String) : Option (List Char) := do
  let text ← Text.ofBytes? (percentDecode host.toUTF8.toList)
  let plain := (← text.toList.mapM plainChar?).flatten
  if (Text.splitAt '.' plain).all isLabel then some plain else none

end MqttRelay.Url
