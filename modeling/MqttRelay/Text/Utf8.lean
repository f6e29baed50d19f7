/-!
# Texts as bytes

The length of a text in UTF-8, its longest beginning that fits into a number of bytes, and
the reading of bytes that may not be UTF-8.

Results:
* `byteLength_takeBytes_le`: what is kept fits.
* `takeBytes_isPrefix`: what is kept is a beginning of the text.
-/

namespace MqttRelay.Text

/-- The number of bytes of a text in UTF-8. -/
def byteLength : List Char → Nat
  | [] => 0
  | c :: cs => c.utf8Size + byteLength cs

/-- The longest beginning of a text that takes at most `limit` bytes. -/
def takeBytes (limit : Nat) : List Char → List Char
  | [] => []
  | c :: cs => if c.utf8Size ≤ limit then c :: takeBytes (limit - c.utf8Size) cs else []

theorem byteLength_takeBytes_le (limit : Nat) (cs : List Char) :
    byteLength (takeBytes limit cs) ≤ limit := by
  induction cs generalizing limit with
  | nil => simp [takeBytes, byteLength]
  | cons c cs ih =>
    by_cases h : c.utf8Size ≤ limit
    · have := ih (limit - c.utf8Size)
      simp [takeBytes, h, byteLength]
      omega
    · simp [takeBytes, h, byteLength]

theorem takeBytes_isPrefix (limit : Nat) (cs : List Char) : takeBytes limit cs <+: cs := by
  induction cs generalizing limit with
  | nil => exact List.prefix_rfl
  | cons c cs ih =>
    by_cases h : c.utf8Size ≤ limit
    · simpa [takeBytes, h] using ih _
    · simp [takeBytes, h]

/-! ## Reading bytes -/

/-- How many continuation bytes follow a leading byte, and the range of the first of them. -/
def leadByte (b : UInt8) : Option (Nat × UInt8 × UInt8) :=
  if 0xC2 ≤ b ∧ b ≤ 0xDF then some (1, 0x80, 0xBF)
  else if b = 0xE0 then some (2, 0xA0, 0xBF)
  else if b = 0xED then some (2, 0x80, 0x9F)
  else if 0xE1 ≤ b ∧ b ≤ 0xEF then some (2, 0x80, 0xBF)
  else if b = 0xF0 then some (3, 0x90, 0xBF)
  else if b = 0xF4 then some (3, 0x80, 0x8F)
  else if 0xF1 ≤ b ∧ b ≤ 0xF3 then some (3, 0x80, 0xBF)
  else none

/-- Takes up to `count` continuation bytes; the first one lies between `low` and `high`.
The code point so far, and how many bytes were found. -/
def continuation (count : Nat) (low high : UInt8) (acc : Nat) : List UInt8 → Nat × Nat
  | [] => (acc, 0)
  | b :: bs =>
    match count with
    | 0 => (acc, 0)
    | count + 1 =>
      if low ≤ b ∧ b ≤ high then
        let (code, found) := continuation count 0x80 0xBF (acc * 64 + (b.toNat - 0x80)) bs
        (code, found + 1)
      else (acc, 0)

/-- One character from the front of the bytes and how many bytes it took; an ill-formed
beginning has no character and covers its longest well-formed part. -/
def nextChar (b : UInt8) (bs : List UInt8) : Option Char × Nat :=
  if b < 0x80 then (some (Char.ofNat b.toNat), 1)
  else
    match leadByte b with
    | none => (none, 1)
    | some (count, low, high) =>
      let start := b.toNat % (1 <<< (6 - count))
      let (code, found) := continuation count low high start bs
      if found = count then (some (Char.ofNat code), found + 1) else (none, found + 1)

/-- Reads bytes as UTF-8; each ill-formed part becomes `ifBad`. -/
def readBytes (ifBad : List Char) : (fuel : Nat) → List UInt8 → List Char
  | 0, _ => []
  | _ + 1, [] => []
  | fuel + 1, b :: bs =>
    let (c, taken) := nextChar b bs
    (match c with | some c => [c] | none => ifBad) ++ readBytes ifBad fuel (bs.drop (taken - 1))

/-- Reads bytes as UTF-8, with a replacement character for each ill-formed part. -/
def ofBytesLossy (bytes : List UInt8) : String :=
  String.ofList (readBytes ['\ufffd'] bytes.length bytes)

/-- Whether the bytes are UTF-8 throughout. -/
def wellFormed : (fuel : Nat) → List UInt8 → Bool
  | 0, bs => bs.isEmpty
  | _ + 1, [] => true
  | fuel + 1, b :: bs =>
    let (c, taken) := nextChar b bs
    c.isSome && wellFormed fuel (bs.drop (taken - 1))

/-- Reads bytes that must be UTF-8. -/
def ofBytes? (bytes : List UInt8) : Option String :=
  if wellFormed bytes.length bytes then some (ofBytesLossy bytes) else none

end MqttRelay.Text
