import MqttRelay.Url.Address
import MqttRelay.Url.Domain

/-!
# URLs

What is needed of a URL to reach a server: its scheme, its host and its port. Blanks and
control characters around a URL and tabs and line ends within it do not count. A few schemes of
the web have rules of their own: they need a host, their hosts are domain names or addresses,
and a backslash counts as a slash.

Results:
* `scheme?_eq_some`: a scheme that is in lower case is taken as it stands.
-/

namespace MqttRelay

/-- Scheme, host and port of a URL. -/
structure Url where
  scheme : String
  host : Option String := none
  port : Option UInt16 := none
  deriving DecidableEq, Inhabited, Repr

namespace Url

/-- Why a text is no URL. -/
inductive Fault where
  | emptyHost
  | badPort
  | badVersion4
  | badVersion6
  | badDomain
  | badDomainCharacter
  | noScheme
  deriving DecidableEq, Inhabited, Repr

/-- The text of a fault. -/
def Fault.message : Fault → String
  | .emptyHost => "empty host"
  | .badPort => "invalid port number"
  | .badVersion4 => "invalid IPv4 address"
  | .badVersion6 => "invalid IPv6 address"
  | .badDomain => "invalid international domain name"
  | .badDomainCharacter => "invalid domain character"
  | .noScheme => "relative URL without a base"

/-! ## Scheme -/

/-- The kinds of schemes. -/
inductive Kind where
  /-- A scheme of the web, whose URLs need a host. -/
  | web
  | file
  | other
  deriving DecidableEq, Inhabited, Repr

/-- The kind of a scheme. -/
def kindOf (scheme : String) : Kind :=
  if ["http", "https", "ws", "wss", "ftp"].contains scheme then .web
  else if scheme == "file" then .file
  else .other

/-- The characters of a scheme. -/
def isSchemeChar (c : Char) : Bool := c.isAlphanum || c == '+' || c == '-' || c == '.'

/-- The scheme before the first colon, in lower case, and what follows the colon. -/
def scheme? (cs : List Char) : Option (List Char × List Char) :=
  match cs.takeWhile isSchemeChar, cs.dropWhile isSchemeChar with
  | c :: name, ':' :: rest => if c.isAlpha then some ((c :: name).map Char.toLower, rest) else none
  | _, _ => none

/-! ## Hosts -/

/-- The characters that no opaque host has. -/
def endsHost (c : Char) : Bool := "\x00\t\n\r #/:<>?@[\\]^|".toList.contains c

/-- A byte as a percent sign and two digits. -/
def percentByte (b : UInt8) : List Char :=
  ['%', Text.hexDigit (b.toNat / 16), Text.hexDigit (b.toNat % 16)]

/-- A character of an opaque host: control characters and all beyond ASCII stand as bytes. -/
def opaqueChar (c : Char) : List Char :=
  if 0x20 ≤ c.toNat && c.toNat < 0x7F then [c]
  else c.toString.toUTF8.toList.flatMap percentByte

/-- An address of the sixth version between brackets, if the host begins with one. -/
def bracketed? : List Char → Option (Except Fault (List Char))
  | '[' :: cs =>
    some <|
      match cs.getLast?, groups? cs.dropLast with
      | some ']', some groups => .ok ('[' :: (addressText groups ++ [']']))
      | _, _ => .error .badVersion6
  | _ => none

/-- A host that is kept as it is. -/
def opaqueHost (cs : List Char) : Except Fault (List Char) :=
  match bracketed? cs with
  | some r => r
  | none =>
    if cs.any endsHost then .error .badDomainCharacter else .ok (cs.flatMap opaqueChar)

/-- A host that is a domain name or an address. -/
def namedHost (cs : List Char) : Except Fault (List Char) :=
  match bracketed? cs with
  | some r => r
  | none =>
    match domain? (String.ofList cs) with
    | none => .error .badDomain
    | some name =>
      if name.isEmpty then .error .emptyHost
      else if endsInNumber name && !isVersion4 name then .error .badVersion4
      else .ok name

/-- The characters of the host at the front, up to a colon outside brackets. -/
def takeHost : (inBrackets : Bool) → List Char → List Char × List Char
  | _, [] => ([], [])
  | inBrackets, c :: cs =>
    if c = ':' ∧ !inBrackets then ([], c :: cs)
    else
      let inBrackets := if c = '[' then true else if c = ']' then false else inBrackets
      let (host, rest) := takeHost inBrackets cs
      (c :: host, rest)

/-! ## Ports -/

/-- Reads a port, given its value so far. It ends with the text or where a path, a query or a
fragment begins. -/
def parsePort (value : Option Nat) : List Char → Except Fault (Option UInt16)
  | [] => .ok (value.map .ofNat)
  | c :: cs =>
    if c.isDigit then
      let n := 10 * value.getD 0 + (c.toNat - '0'.toNat)
      if n < UInt16.size then parsePort (some n) cs else .error .badPort
    else if ['/', '\\', '?', '#'].contains c then .ok (value.map .ofNat)
    else .error .badPort

/-! ## Authority -/

/-- Whether a character ends the part of a URL that names a server. -/
def endsAuthority (kind : Kind) (c : Char) : Bool :=
  c == '/' || c == '?' || c == '#' || (kind != .other && c == '\\')

/-- Splits after the last at sign; the part before it, if there is one. -/
def splitUser (cs : List Char) : Option (List Char) × List Char :=
  match cs.reverse.dropWhile (· != '@') with
  | [] => (none, cs)
  | _ :: user => (some user.reverse, (cs.reverse.takeWhile (· != '@')).reverse)

/-- Reads user, host and port. A user needs a host, and so does a port; a user that is a mere
colon does not count. -/
def authority (kind : Kind) (scheme : String) (cs : List Char) : Except Fault Url := do
  let (user, server) := splitUser (cs.takeWhile fun c => !endsAuthority kind c)
  let after := cs.dropWhile fun c => !endsAuthority kind c
  if user = some [] ∧ server.isEmpty ∧ !after.isEmpty then throw .emptyHost
  let (name, rest) := takeHost false server
  if kind = .web ∧ name.isEmpty then throw .emptyHost
  let host ← if kind = .web then namedHost name else opaqueHost name
  let port ←
    match rest with
    | ':' :: digits =>
      if host.isEmpty then throw .emptyHost
      parsePort none digits
    | _ => pure none
  if host.isEmpty then
    if user.all fun u => u = [] ∨ u = [':'] then return { scheme } else throw .emptyHost
  return { scheme, host := some (String.ofList host), port }

/-- Whether a text is the letter of a drive. -/
def isDrive : List Char → Bool
  | [c, mark] => c.isAlpha && (mark == ':' || mark == '|')
  | _ => false

/-- Reads the host of a file, which may be left out. -/
def fileHost (scheme : String) (cs : List Char) : Except Fault Url := do
  let name := cs.takeWhile fun c => !endsAuthority .file c
  if name.isEmpty || isDrive name then return { scheme }
  let host ← namedHost name
  return { scheme, host := some (String.ofList host) }

/-! ## Reading -/

/-- Whether a character is a blank or a control character. -/
def isOuter (c : Char) : Bool := c.toNat ≤ 0x20

/-- Whether a character does not count within a URL. -/
def isIgnored (c : Char) : Bool := c == '\t' || c == '\n' || c == '\r'

/-- The characters of a URL that count. -/
def counted (cs : List Char) : List Char :=
  ((cs.dropWhile isOuter).reverse.dropWhile isOuter).reverse.filter fun c => !isIgnored c

/-- Whether a character counts as a slash in the schemes of the web. -/
def isSlash (c : Char) : Bool := c == '/' || c == '\\'

/-- Reads the characters of a URL. -/
def parseChars (cs : List Char) : Except Fault Url :=
  match scheme? cs with
  | none => .error .noScheme
  | some (name, rest) =>
    let scheme := String.ofList name
    match kindOf scheme with
    | .web => authority .web scheme (rest.dropWhile isSlash)
    | .file =>
      match rest with
      | a :: b :: rest => if isSlash a && isSlash b then fileHost scheme rest else .ok { scheme }
      | _ => .ok { scheme }
    | .other =>
      match rest with
      | '/' :: '/' :: rest => authority .other scheme rest
      | _ => .ok { scheme }

/-- Reads a URL. -/
def parse (s : String) : Except Fault Url := parseChars (counted s.toList)

/-- A scheme in lower case is taken as it stands. -/
theorem scheme?_eq_some (c : Char) (name rest : List Char) (hc : c.isAlpha)
    (h : ∀ d ∈ c :: name, isSchemeChar d ∧ d.toLower = d) :
    scheme? (c :: name ++ ':' :: rest) = some (c :: name, rest) := by
  have hall : ∀ d ∈ c :: name, isSchemeChar d := fun d hd => (h d hd).1
  have hmap : (c :: name).map Char.toLower = c :: name := by
    rw [List.map_congr_left fun d hd => (h d hd).2, List.map_id']
  have hcolon : isSchemeChar ':' = false := by decide
  have htake : (c :: name ++ ':' :: rest).takeWhile isSchemeChar = c :: name := by
    rw [List.takeWhile_append_of_pos hall]
    simp [hcolon]
  have hdrop : (c :: name ++ ':' :: rest).dropWhile isSchemeChar = ':' :: rest := by
    rw [List.dropWhile_append_of_pos hall]
    simp [hcolon]
  rw [scheme?, htake, hdrop]
  simp only [hc, if_true, hmap]

end Url

end MqttRelay
