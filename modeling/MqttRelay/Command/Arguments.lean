/-!
# Arguments of a command

A command takes options by a long or a short name and other words in order. An option is a
switch, a switch that may be repeated, or has a value: after an equals sign, right after the
short name, or as the next word. Short names may be written together behind one hyphen. After
two hyphens nothing is an option any more.

Results:
* `read_nil`: without arguments nothing is seen.
-/

namespace MqttRelay.Command

/-- What follows the name of an option. -/
inductive Shape where
  /-- Nothing; it may be given once. -/
  | switch
  /-- Nothing; it may be given more than once. -/
  | counter
  /-- Nothing; it asks for a text and ends the reading. -/
  | display
  /-- A value, if the value is acceptable; it may be given once. -/
  | value (accepts : String → Bool)

/-- An option. -/
structure Flag where
  long : String
  short : Option Char := none
  shape : Shape

/-- Why arguments are not carried out. -/
inductive Refusal where
  /-- A text about the program is asked for. -/
  | display
  /-- They are not what the command takes. -/
  | misuse
  deriving DecidableEq, Inhabited, Repr

/-- What has been read of the arguments. -/
structure Seen where
  /-- The options, by their long names, with their values, in order. -/
  options : List (String × String) := []
  /-- The words that are no options. -/
  words : List String := []
  deriving Inhabited

namespace Seen

/-- How often an option was given. -/
def count (s : Seen) (long : String) : Nat := (s.options.filter fun o => o.1 == long).length

/-- The value of an option. -/
def value? (s : Seen) (long : String) : Option String :=
  (s.options.find? fun o => o.1 == long).map (·.2)

/-- Adds an option. Only a repeatable one may be given again. -/
def add (s : Seen) (f : Flag) (value : String) : Except Refusal Seen :=
  let added := { s with options := s.options ++ [(f.long, value)] }
  match f.shape with
  | .display => .error .display
  | .counter => .ok added
  | .switch => if s.count f.long = 0 then .ok added else .error .misuse
  | .value accepts =>
    if s.count f.long = 0 && accepts value then .ok added else .error .misuse

end Seen

/-- Whether an option has a value. -/
def Flag.hasValue (f : Flag) : Bool :=
  match f.shape with
  | .value _ => true
  | _ => false

/-- What a word that looks like options comes to. -/
inductive Step where
  | done (s : Seen)
  /-- The value of this option is the next word. -/
  | wants (f : Flag) (s : Seen)

/-- Reads short options behind one hyphen. -/
def shorts (flags : List Flag) : List Char → Seen → Except Refusal Step
  | [], s => .ok (.done s)
  | c :: cs, s =>
    match flags.find? fun f => f.short == some c with
    | none => .error .misuse
    | some f =>
      if f.hasValue then
        match cs with
        | [] => .ok (.wants f s)
        | '=' :: value => (s.add f (String.ofList value)).map .done
        | value => (s.add f (String.ofList value)).map .done
      else do
        shorts flags cs (← s.add f "")

/-- Reads a long option after its two hyphens. -/
def long (flags : List Flag) (cs : List Char) (s : Seen) : Except Refusal Step :=
  let name := String.ofList (cs.takeWhile (· != '='))
  match flags.find? fun f => f.long == name, cs.dropWhile (· != '=') with
  | none, _ => .error .misuse
  | some f, [] => if f.hasValue then .ok (.wants f s) else (s.add f "").map .done
  | some f, _ :: value =>
    if f.hasValue then (s.add f (String.ofList value)).map .done else .error .misuse

/-- Whether a word can only be an option. -/
def looksLikeOption (word : String) : Bool :=
  match word.toList with
  | '-' :: _ :: _ => true
  | _ => false

/-- Reads arguments. If only one word is taken, it ends the reading, and the arguments after it
are left. -/
def read (flags : List Flag) (oneWord : Bool) :
    List String → Seen → Except Refusal (Seen × List String)
  | [], s => .ok (s, [])
  | arg :: rest, s =>
    match arg.toList with
    | ['-', '-'] =>
      if oneWord && !rest.isEmpty then .error .misuse
      else .ok ({ s with words := s.words ++ rest }, [])
    | '-' :: '-' :: cs => do follow (← long flags cs s) rest
    | '-' :: c :: cs => do follow (← shorts flags (c :: cs) s) rest
    | _ =>
      let s := { s with words := s.words ++ [arg] }
      if oneWord then .ok (s, rest) else read flags oneWord rest s
termination_by args => (args.length, 0)
where
  /-- Goes on after a word with options. -/
  follow (step : Step) (rest : List String) : Except Refusal (Seen × List String) :=
    match step, rest with
    | .done s, rest => read flags oneWord rest s
    | .wants _ _, [] => .error .misuse
    | .wants f s, value :: rest =>
      if looksLikeOption value then .error .misuse
      else do read flags oneWord rest (← s.add f value)
  termination_by (rest.length, 1)

theorem read_nil (flags : List Flag) (oneWord : Bool) (s : Seen) :
    read flags oneWord [] s = .ok (s, []) := by
  simp [read]

end MqttRelay.Command
