import MqttRelay.Text.Blank
import MqttRelay.Text.Utf8

/-!
# Redaction of messages

A message that leaves the process keeps neither the values that follow a secret's name nor
the credentials in the address of a broker, and is cut to a bounded number of bytes.

Results:
* `byteLength_bounded_le`: a cut message fits.
* `bounded_eq_self`: a message that fits is left as it is.
-/

namespace MqttRelay.Redaction

/-- The letters that count as the small ASCII letter `p` when case does not matter: the letter
itself, its capital, and the long s and the kelvin sign for s and k. -/
def sameLetter (p c : Char) : Bool :=
  c.toLower == p || (p == 's' && c == 'ſ') || (p == 'k' && c == '\u212a')

/-- The length of a word at the front of a text, in any letter case. -/
def wordAt (word cs : List Char) : Option Nat :=
  match word, cs with
  | [], _ => some 0
  | _ :: _, [] => none
  | p :: ps, c :: cs => if sameLetter p c then (wordAt ps cs).map (· + 1) else none

/-- The length of the first of the words that stands at the front of a text. -/
def anyWordAt (words : List (List Char)) (cs : List Char) : Option Nat :=
  words.findSome? fun w => wordAt w cs

/-- What is found at the front of a text: how much of it is kept, what is put after that, and
how many characters are covered in all. -/
structure Finding where
  kept : Nat
  added : List Char
  length : Nat
  deriving DecidableEq, Inhabited, Repr

/-! ## Secrets -/

/-- The names after which a value is secret. -/
def secretWords : List (List Char) :=
  ["password".toList, "token".toList, "secret".toList]

/-- A secret at the front of a text: its name, an equals sign or a colon, any blanks, and at
least one character that is not blank. -/
def secretAt (cs : List Char) : Option Finding := do
  let word ← anyWordAt secretWords cs
  match cs.drop word with
  | sep :: rest =>
    if sep = '=' ∨ sep = ':' then
      let blanks := (rest.takeWhile Text.isBlank).length
      let value := ((rest.drop blanks).takeWhile fun c => !Text.isBlank c).length
      if value = 0 then none
      else some ⟨word, "=***".toList, word + 1 + blanks + value⟩
    else none
  | [] => none

/-! ## Credentials -/

/-- The schemes of addresses that may hold credentials; the longer of two that begin alike
comes first. -/
def schemes : List (List Char) :=
  ["mqtts://".toList, "mqtt://".toList, "wss://".toList, "ws://".toList, "tcp://".toList,
    "ssl://".toList]

/-- What may stand in the user part of an address. -/
def isUserChar (c : Char) : Bool := !(c == '/' || c == ':' || c == '@' || Text.isBlank c)

/-- What may stand in the password part of an address. -/
def isPasswordChar (c : Char) : Bool := !(c == '/' || c == '@' || Text.isBlank c)

/-- Credentials at the front of a text: a scheme, a user, a colon, a password and an at sign;
neither user nor password is empty. -/
def credentialsAt (cs : List Char) : Option Finding := do
  let scheme ← anyWordAt schemes cs
  let rest := cs.drop scheme
  let user := (rest.takeWhile isUserChar).length
  match rest.drop user with
  | ':' :: rest =>
    let password := (rest.takeWhile isPasswordChar).length
    match rest.drop password with
    | '@' :: _ =>
      if user = 0 ∨ password = 0 then none
      else some ⟨scheme, "***@".toList, scheme + user + 1 + password + 1⟩
    | _ => none
  | _ => none

/-! ## Messages -/

/-- Replaces every finding, from left to right; `skip` characters are already covered. -/
def replaceFrom (find : List Char → Option Finding) : (skip : Nat) → List Char → List Char
  | _, [] => []
  | skip + 1, _ :: cs => replaceFrom find skip cs
  | 0, c :: cs =>
    match find (c :: cs) with
    | some f => (c :: cs).take f.kept ++ f.added ++ replaceFrom find (f.length - 1) cs
    | none => c :: replaceFrom find 0 cs

/-- A text with every finding replaced. -/
def replaceAll (find : List Char → Option Finding) (cs : List Char) : List Char :=
  replaceFrom find 0 cs

/-- Most bytes of a message. -/
def maxBytes : Nat := 500

/-- What ends a message that was cut. -/
def cutMark : List Char := "...[truncated]".toList

/-- A message of at most `maxBytes` bytes. -/
def bounded (cs : List Char) : List Char :=
  if Text.byteLength cs ≤ maxBytes then cs
  else Text.takeBytes (maxBytes - Text.byteLength cutMark) cs ++ cutMark

/-- A message without secrets and credentials, before it is cut. -/
def redacted (cs : List Char) : List Char :=
  replaceAll credentialsAt (replaceAll secretAt cs)

/-- A message that may leave the process. -/
def sanitize (message : String) : String :=
  String.ofList (bounded (redacted message.toList))

theorem byteLength_append (a b : List Char) :
    Text.byteLength (a ++ b) = Text.byteLength a + Text.byteLength b := by
  induction a with
  | nil => simp [Text.byteLength]
  | cons c cs ih => simp [Text.byteLength, ih]; omega

/-- A bounded message fits. -/
theorem byteLength_bounded_le (cs : List Char) : Text.byteLength (bounded cs) ≤ maxBytes := by
  unfold bounded
  split
  · assumption
  · have h := Text.byteLength_takeBytes_le (maxBytes - Text.byteLength cutMark) cs
    have hm : Text.byteLength cutMark = 14 := by decide +kernel
    rw [byteLength_append, hm]
    rw [hm] at h
    simp only [maxBytes] at h ⊢
    omega

/-- A message that fits is left as it is. -/
theorem bounded_eq_self (cs : List Char) (h : Text.byteLength cs ≤ maxBytes) :
    bounded cs = cs := if_pos h

end MqttRelay.Redaction
