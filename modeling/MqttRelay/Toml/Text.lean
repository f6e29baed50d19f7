import MqttRelay.Text.Digits

/-!
# Texts in configuration files

The four notations of a text: between single or triple quotes, with escapes or without. A text
is read from the front of the characters that follow its opening quotes; between triple quotes
it may run over several lines, and a backslash at the end of a line joins it to the next
character that is not blank. A text is written in the plainest notation that can hold it.

Results:
* `spell_of_plain`: a text without quotes, backslashes and control characters is written between
  double quotes as it stands.
-/

namespace MqttRelay.Toml

open Text (digitValue? hexDigit digitValue?_hexDigit)

/-- Reads one thing from the front of a text: the thing, and what follows it. -/
abbrev Scan (α : Type) := List Char → Option (α × List Char)

/-- Puts a character before what is read. -/
def before (c : Char) (r : Option (List Char × List Char)) : Option (List Char × List Char) :=
  r.map fun p => (c :: p.1, p.2)

@[simp] theorem before_some (c : Char) (cs rest : List Char) :
    before c (some (cs, rest)) = some (c :: cs, rest) := rfl

/-- The characters that may stand as they are: tabs, and all but control characters. -/
def isPlain (c : Char) : Bool := c == '\t' || (0x20 ≤ c.toNat && c.toNat != 0x7F)

/-- The blanks within a line. -/
def isSpace (c : Char) : Bool := c == ' ' || c == '\t'

/-- The character with the given number. -/
def charOf? (n : Nat) : Option Char :=
  if n.isValidChar then some (Char.ofNat n) else none

theorem charOf?_toNat (c : Char) : charOf? c.toNat = some c := by
  have hvalid : c.toNat.isValidChar := c.valid
  rw [charOf?, if_pos hvalid, Char.ofNat_toNat]

/-- What a character stands for after a backslash. -/
def shortEscape? (c : Char) : Option Char :=
  match c with
  | 'b' => some '\x08'
  | 't' => some '\t'
  | 'n' => some '\n'
  | 'f' => some '\x0c'
  | 'r' => some '\r'
  | '"' => some '"'
  | '\\' => some '\\'
  | _ => none

/-- Where the reading of a text with escapes stands. -/
inductive Progress where
  /-- Between two characters. -/
  | plain
  /-- After a backslash. -/
  | escape
  /-- Before `left + 1` more digits of a character's number. -/
  | number (left value : Nat)
  /-- After a backslash at the end of a line. -/
  | join
  deriving DecidableEq

/-- One character within an escape, given how to go on. -/
def inEscape (c : Char) (goOn : Progress → Option (List Char × List Char)) :
    Progress → Option (List Char × List Char)
  | .escape =>
    match shortEscape? c with
    | some d => before d (goOn .plain)
    | none => if c = 'u' then goOn (.number 3 0) else if c = 'U' then goOn (.number 7 0) else none
  | .number left value => do
    let digit ← digitValue? c
    match left with
    | 0 => before (← charOf? (16 * value + digit)) (goOn .plain)
    | left + 1 => goOn (.number left (16 * value + digit))
  | _ => none

/-- Reads a text with escapes up to a quote. -/
def escaping : Progress → Scan (List Char)
  | _, [] => none
  | .plain, c :: cs =>
    if c = '"' then some ([], cs)
    else if c = '\\' then escaping .escape cs
    else if isPlain c then before c (escaping .plain cs)
    else none
  | progress, c :: cs => inEscape c (fun p => escaping p cs) progress

/-- Reads a text without escapes up to a quote. -/
def literal : Scan (List Char)
  | [] => none
  | c :: cs =>
    if c = '\'' then some ([], cs) else if isPlain c then before c (literal cs) else none

/-- What closes a text between triple quotes, after one quote: two more. Up to two quotes may
stand right before the closing ones. -/
def tripleEnd (quote : Char) : Scan (List Char)
  | a :: b :: c :: d :: cs =>
    if a = quote ∧ b = quote then
      if c = quote then
        if d = quote then some ([quote, quote], cs) else some ([quote], d :: cs)
      else some ([], c :: d :: cs)
    else none
  | [a, b, c] =>
    if a = quote ∧ b = quote then if c = quote then some ([quote], []) else some ([], [c])
    else none
  | [a, b] => if a = quote ∧ b = quote then some ([], []) else none
  | _ => none

/-- Whether a line ends here, after blanks. -/
def endsLine (cs : List Char) : Bool :=
  match cs.dropWhile isSpace with
  | '\n' :: _ => true
  | '\r' :: '\n' :: _ => true
  | _ => false

/-- Whether a line feed follows. -/
def feeds : List Char → Bool
  | '\n' :: _ => true
  | _ => false

/-- Reads a text with escapes up to triple quotes. A line ends with a line feed, alone or
after a carriage return. -/
def escapingLines : Progress → Scan (List Char)
  | _, [] => none
  | .plain, c :: cs => atPlain c cs (escapingLines .plain cs) (escapingLines .escape cs)
  | .join, c :: cs =>
    if isSpace c || c == '\n' || (c == '\r' && feeds cs) then escapingLines .join cs
    else atPlain c cs (escapingLines .plain cs) (escapingLines .escape cs)
  | .escape, c :: cs =>
    if endsLine (c :: cs) then escapingLines .join cs
    else inEscape c (fun p => escapingLines p cs) .escape
  | .number left value, c :: cs => inEscape c (fun p => escapingLines p cs) (.number left value)
where
  /-- One character outside escapes, given what is read after it and after a backslash. -/
  atPlain (c : Char) (cs : List Char) (plain escape : Option (List Char × List Char)) :
      Option (List Char × List Char) :=
    if c = '"' then (tripleEnd '"' cs).or (before c plain)
    else if c = '\\' then escape
    else if c = '\r' then if feeds cs then plain else none
    else if c = '\n' ∨ isPlain c then before c plain
    else none

/-- Reads a text without escapes up to triple quotes. -/
def literalLines : Scan (List Char)
  | [] => none
  | c :: cs =>
    if c = '\'' then (tripleEnd '\'' cs).or (before c (literalLines cs))
    else if c = '\r' then if feeds cs then literalLines cs else none
    else if c = '\n' ∨ isPlain c then before c (literalLines cs)
    else none

/-- A text between triple quotes may begin on the line after them. -/
def skipLine : List Char → List Char
  | '\n' :: cs => cs
  | '\r' :: '\n' :: cs => cs
  | cs => cs

/-- Reads a text in any of the four notations. -/
def text : Scan (List Char)
  | '"' :: '"' :: '"' :: cs => escapingLines .plain (skipLine cs)
  | '"' :: cs => escaping .plain cs
  | '\'' :: '\'' :: '\'' :: cs => literalLines (skipLine cs)
  | '\'' :: cs => literal cs
  | _ => none

/-! ## Writing -/

/-- A character as it is written between quotes, if it is escaped where it need not stand as it
is. -/
def quoteChar (c : Char) : List Char :=
  if c = '\x08' then ['\\', 'b']
  else if c = '\t' then ['\\', 't']
  else if c = '\n' then ['\\', 'n']
  else if c = '\x0c' then ['\\', 'f']
  else if c = '\r' then ['\\', 'r']
  else if c = '"' then ['\\', '"']
  else if c = '\\' then ['\\', '\\']
  else if c.toNat < 0x20 ∨ c.toNat = 0x7F then
    ['\\', 'u', '0', '0', hexDigit (c.toNat / 16), hexDigit (c.toNat % 16)]
  else [c]

/-- A text as it is written between triple quotes, after so many quotes. Lines end as they do in
the text, and of the quotes in a row every third one is escaped. -/
def quoteLines : (row : Nat) → List Char → List Char
  | _, [] => []
  | row, c :: cs =>
    if c = '"' then
      if row < 2 then '"' :: quoteLines (row + 1) cs else quoteChar '"' ++ quoteLines 0 cs
    else if c = '\n' then '\n' :: quoteLines 0 cs
    else quoteChar c ++ quoteLines 0 cs

/-- The notations of a text. -/
inductive Style where
  | basic
  | literal
  | basicLines
  | literalLines
  deriving DecidableEq, Inhabited, Repr

/-- Whether a character stands three times in a row. -/
def tripled (mark : Char) : List Char → Bool
  | a :: b :: c :: cs => (a == mark && b == mark && c == mark) || tripled mark (b :: c :: cs)
  | _ => false

/-- The notation in which a text is written: the first one that needs no escapes, or else one
with them. -/
def Style.of (cs : List Char) : Style :=
  let lines := cs.contains '\n'
  let raw := cs.all fun c => isPlain c || c == '\n'
  let unescaped := raw && !cs.contains '\\'
  if unescaped && !lines && !cs.contains '"' then .basic
  else if raw && !lines && !cs.contains '\'' then .literal
  else if unescaped && !tripled '"' cs then .basicLines
  else if raw && !tripled '\'' cs then .literalLines
  else if lines then .basicLines
  else .basic

/-- What follows the opening triple quotes of a text: one of several lines begins below them. -/
def opening (cs : List Char) : List Char := if cs.contains '\n' then ['\n'] else []

/-- A text in a notation. -/
def Style.write (cs : List Char) : Style → List Char
  | basic => '"' :: (cs.flatMap quoteChar ++ ['"'])
  | literal => '\'' :: (cs ++ ['\''])
  | basicLines => ['"', '"', '"'] ++ opening cs ++ quoteLines 0 cs ++ ['"', '"', '"']
  | literalLines => ['\'', '\'', '\''] ++ opening cs ++ cs ++ ['\'', '\'', '\'']

/-- A text as it is written. -/
def spell (s : String) : String := String.ofList ((Style.of s.toList).write s.toList)

theorem quoteChar_eq_self {c : Char} (hlow : 0x20 ≤ c.toNat) (hdelete : c.toNat ≠ 0x7F)
    (hquote : c ≠ '"') (hslash : c ≠ '\\') : quoteChar c = [c] := by
  have hne {d : Char} (hd : d.toNat < 0x20) : c ≠ d := by
    rintro rfl
    omega
  have hplain : ¬(c.toNat < 0x20 ∨ c.toNat = 0x7F) := by omega
  simp [quoteChar, hne (d := '\x08') (by decide), hne (d := '\t') (by decide),
    hne (d := '\n') (by decide), hne (d := '\x0c') (by decide), hne (d := '\r') (by decide),
    hquote, hslash, hplain]

/-- A text without quotes, backslashes and control characters is written between double quotes as
it stands. -/
theorem spell_of_plain {s : String} (h : ∀ c ∈ s.toList,
    0x20 ≤ c.toNat ∧ c.toNat ≠ 0x7F ∧ c ≠ '"' ∧ c ≠ '\\') :
    spell s = String.ofList ('"' :: (s.toList ++ ['"'])) := by
  have hraw : s.toList.all (fun c => isPlain c || c == '\n') = true :=
    List.all_eq_true.2 fun c hc => by simp [isPlain, (h c hc).1, (h c hc).2.1]
  have hlines : s.toList.contains '\n' = false := by
    simpa using fun hc => absurd (h _ hc).1 (by decide)
  have hslash : s.toList.contains '\\' = false := by simpa using fun hc => (h _ hc).2.2.2 rfl
  have hquote : s.toList.contains '"' = false := by simpa using fun hc => (h _ hc).2.2.1 rfl
  have hself (cs : List Char) (hcs : ∀ c ∈ cs, quoteChar c = [c]) : cs.flatMap quoteChar = cs := by
    induction cs with
    | nil => rfl
    | cons c cs ih =>
      rw [List.flatMap_cons, hcs c List.mem_cons_self,
        ih fun d hd => hcs d (List.mem_cons_of_mem c hd)]
      rfl
  have hstyle : Style.of s.toList = .basic := by
    simp only [Style.of, hraw, hlines, hslash, hquote]
    rfl
  rw [spell, hstyle, Style.write, hself s.toList fun c hc =>
    quoteChar_eq_self (h c hc).1 (h c hc).2.1 (h c hc).2.2.1 (h c hc).2.2.2]

example : spell "a\\b" = "'a\\b'" ∧ spell "a\nb\x00" = "\"\"\"\na\nb\\u0000\"\"\"" := by
  decide +kernel

end MqttRelay.Toml
