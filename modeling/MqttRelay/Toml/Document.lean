import MqttRelay.Toml.Number
import MqttRelay.Toml.Table

/-!
# Configuration files as text

A file is a sequence of headers and of keys with values, one to a line. Reading it gives the
object that its tables form, or nothing if the text is not well formed or sets something twice.

Results:
* `statements_blank_line`: an empty line says nothing.
-/

namespace MqttRelay.Toml

/-! ## Blanks and comments -/

/-- Leaves out blanks within a line. -/
def skipSpace (cs : List Char) : List Char := cs.dropWhile isSpace

/-- What follows the end of a line, or of the text. -/
def lineBreak : List Char → Option (List Char)
  | [] => some []
  | '\n' :: cs => some cs
  | '\r' :: '\n' :: cs => some cs
  | _ => none

/-- What follows the line when only blanks and a comment are left on it. -/
def lineEnd (cs : List Char) : Option (List Char) :=
  match skipSpace cs with
  | '#' :: cs => lineBreak (cs.dropWhile isPlain)
  | cs => lineBreak cs

/-- Leaves out blanks, line breaks and whole comments. -/
def skipLayout (inComment : Bool) : List Char → Option (List Char)
  | [] => if inComment then none else some []
  | c :: cs =>
    if c = '\n' ∨ (c = '\r' ∧ feeds cs) then skipLayout (inComment && c == '\r') cs
    else if inComment then if isPlain c then skipLayout true cs else none
    else if isSpace c then skipLayout false cs
    else if c = '#' then skipLayout true cs
    else some (c :: cs)

/-! ## Keys -/

/-- The characters of a key without quotes. -/
def isKeyChar (c : Char) : Bool := c.isAlphanum || c == '_' || c == '-'

/-- A key without dots. -/
def simpleKey (cs : List Char) : Option (String × List Char) :=
  match cs with
  | '"' :: cs => (escaping .plain cs).map fun p => (String.ofList p.1, p.2)
  | '\'' :: cs => (literal cs).map fun p => (String.ofList p.1, p.2)
  | _ =>
    match cs.takeWhile isKeyChar with
    | [] => none
    | name => some (String.ofList name, cs.dropWhile isKeyChar)

/-- Keys between dots. -/
def keyPath : (fuel : Nat) → Scan (List String)
  | 0, _ => none
  | fuel + 1, cs => do
    let (name, rest) ← simpleKey (skipSpace cs)
    match skipSpace rest with
    | '.' :: rest =>
      let (path, rest) ← keyPath fuel rest
      return (name :: path, rest)
    | rest => return ([name], rest)

/-- Most levels to which arrays and tables may be nested within a value, and most keys between
dots. -/
def depthLimit : Nat := 79

/-- A key, which may have dots. -/
def key (cs : List Char) : Option (List String × List Char) :=
  keyPath depthLimit cs

/-! ## Values -/

/-- The values of an array, given how one value is read. A comma may follow the last. -/
def elements (value : Scan Value) : (fuel : Nat) → Scan (List Value)
  | 0, _ => none
  | fuel + 1, cs => do
    match ← skipLayout false cs with
    | ']' :: rest => return ([], rest)
    | cs =>
      let (v, rest) ← value cs
      match ← skipLayout false rest with
      | ',' :: rest =>
        let (vs, rest) ← elements value fuel rest
        return (v :: vs, rest)
      | ']' :: rest => return ([v], rest)
      | _ => none

/-- The keys and values of a table within a line, given how one value is read. -/
def pairs (value : Scan Value) : (fuel : Nat) → Scan (List (List String × Value))
  | 0, _ => none
  | fuel + 1, cs => do
    let (path, rest) ← key cs
    match rest with
    | '=' :: rest =>
      let (v, rest) ← value (skipSpace rest)
      match skipSpace rest with
      | ',' :: rest =>
        let (more, rest) ← pairs value fuel rest
        return ((path, v) :: more, rest)
      | '}' :: rest => return ([(path, v)], rest)
      | _ => none
    | _ => none

/-- A text as a value. -/
def textValue (cs : List Char) : Option (Value × List Char) :=
  (text cs).map fun p => (.str (String.ofList p.1), p.2)

/-- A value that holds no other. -/
def scalar (cs : List Char) : Option (Value × List Char) :=
  match cs with
  | 't' :: 'r' :: 'u' :: 'e' :: rest => some (.bool true, rest)
  | 'f' :: 'a' :: 'l' :: 's' :: 'e' :: rest => some (.bool false, rest)
  | _ => (textValue cs).or (number cs)

/-- A value with at most so many levels of arrays and tables in it. -/
def value : (depth : Nat) → Scan Value
  | 0, cs => scalar cs
  | depth + 1, cs =>
    match cs with
    | '[' :: cs => (elements (value depth) (cs.length + 1) cs).map fun p => (.arr p.1, p.2)
    | '{' :: cs =>
      match skipSpace cs with
      | '}' :: rest => some (.obj [], rest)
      | _ => do
        let (entries, rest) ← pairs (value depth) (cs.length + 1) cs
        let fields ← entries.foldlM (fun fields e => assign e.1 e.2 .header fields) []
        return ((Node.table .header fields).toValue, rest)
    | cs => scalar cs

/-! ## Statements -/

/-- What one line of a file says. -/
inductive Statement where
  /-- The keys that follow belong to this table. -/
  | header (path : List String)
  /-- The keys that follow belong to one more table of this series. -/
  | next (path : List String)
  | assign (path : List String) (value : Value)

/-- A statement, up to the end of its line. -/
def statement (cs : List Char) : Option (Statement × List Char) :=
  match cs with
  | '[' :: '[' :: cs => do
    let (path, rest) ← key cs
    match rest with
    | ']' :: ']' :: rest => return (.next path, ← lineEnd rest)
    | _ => none
  | '[' :: cs => do
    let (path, rest) ← key cs
    match rest with
    | ']' :: rest => return (.header path, ← lineEnd rest)
    | _ => none
  | cs => do
    let (path, rest) ← key cs
    match rest with
    | '=' :: rest =>
      let (v, rest) ← value depthLimit (skipSpace rest)
      return (.assign path v, ← lineEnd rest)
    | _ => none

/-- All statements of a text. -/
def statements : (fuel : Nat) → List Char → Option (List Statement)
  | 0, _ => none
  | fuel + 1, cs =>
    match skipSpace cs with
    | [] => some []
    | c :: cs =>
      if c = '#' ∨ c = '\n' ∨ c = '\r' then do
        statements fuel (← lineEnd (c :: cs))
      else do
        let (s, rest) ← statement (c :: cs)
        return s :: (← statements fuel rest)

/-- The tables of a file so far, and the path of the table that is being filled. -/
structure Filling where
  root : Fields := []
  current : List String := []

/-- Adds what a statement says. -/
def Filling.add (f : Filling) : Statement → Option Filling
  | .header path => do return ⟨← openTable path f.root, path⟩
  | .next path => do return ⟨← openNext path f.root, path⟩
  | .assign path v => do
    return { f with root := ← enter false (assign path v) f.current .header f.root }

/-- A mark for the order of bytes, which may stand before a text. -/
def byteOrderMark : Char := '\ufeff'

/-- A text without the mark before it. -/
def withoutMark : List Char → List Char
  | [] => []
  | c :: cs => if c = byteOrderMark then cs else c :: cs

/-- Reads a file: the object that its tables form. -/
def read? (s : String) : Option Value := do
  let cs := withoutMark s.toList
  let filled ← (← statements (cs.length + 1) cs).foldlM Filling.add {}
  return (Node.table .header filled.root).toValue

/-- An empty line says nothing. -/
theorem statements_blank_line (fuel : Nat) (cs : List Char) :
    statements (fuel + 1) ('\n' :: cs) = statements fuel cs := rfl

/-! ## Writing -/

/-- The line that sets a key. -/
def line (key written : String) : String := key ++ " = " ++ written ++ "\n"

/-- A table with its header. -/
def tableText (name : String) (lines : List (String × String)) : String :=
  "[" ++ name ++ "]\n" ++ String.join (lines.map fun l => line l.1 l.2)

/-- Tables one below the other, with an empty line between them. -/
def write (tables : List (String × List (String × String))) : String :=
  String.intercalate "\n" (tables.map fun t => tableText t.1 t.2)

end MqttRelay.Toml
