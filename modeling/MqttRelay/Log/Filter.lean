import MqttRelay.Log.Level
import MqttRelay.Text.Digits
import MqttRelay.Text.Split

/-!
# Log filters

A filter limits how verbose the log of each part of the program is. It is a list of rules
between commas, each for the parts whose names begin in one way, or for all; the rule with the
longest such beginning decides.

Results:
* `admits_of_nil`: without a rule nothing is logged.
* `admits_ofLevel`: a filter that is one level admits what is at most as verbose.
-/

namespace MqttRelay.Log

/-- One rule of a filter. -/
structure Rule where
  /-- How the names of the parts begin; unset means all parts. -/
  target : Option String := none
  /-- The most verbosity that is admitted; zero admits nothing. -/
  limit : Nat
  deriving DecidableEq, Inhabited, Repr

namespace Rule

/-- Whether a rule is for a part of the program. -/
def covers (r : Rule) (target : String) : Bool :=
  match r.target with
  | none => true
  | some t => t.toList.isPrefixOf target.toList

/-- How narrow a rule is: the longer the beginning that it asks for, the narrower. -/
def narrowness (r : Rule) : Nat :=
  match r.target with
  | none => 0
  | some t => t.utf8ByteSize + 1

end Rule

/-- The rules of a filter; of two equally narrow ones the later counts. -/
abbrev Filter := List Rule

namespace Filter

/-- The rule that decides about a part of the program. -/
def deciding? (f : Filter) (target : String) : Option Rule :=
  (f.filter (·.covers target)).foldl (fun best r =>
    match best with
    | none => some r
    | some b => if b.narrowness ≤ r.narrowness then some r else some b) none

/-- Whether a part of the program may log at a level. -/
def admits (f : Filter) (target : String) (level : Level) : Bool :=
  (deciding? f target).any fun r => level.verbosity ≤ r.limit

/-- The filter that admits a level in all parts. -/
def ofLevel (level : Level) : Filter := [⟨none, level.verbosity⟩]

theorem admits_of_nil (target : String) (level : Level) : admits [] target level = false := rfl

theorem admits_ofLevel (limit level : Level) (target : String) :
    (ofLevel limit).admits target level = decide (level.verbosity ≤ limit.verbosity) := by
  simp [ofLevel, admits, deciding?, Rule.covers]

/-! ## Reading -/

/-- The verbosity that a word stands for: a level in any letter case, `off`, or a digit. -/
def limit? (word : String) : Option Nat :=
  match Text.lowerAscii word with
  | "off" => some 0
  | "error" => some 1
  | "warn" => some 2
  | "info" => some 3
  | "debug" => some 4
  | "trace" => some 5
  | word =>
    let digits := word.toList
    if !digits.isEmpty && digits.all Char.isDigit && Text.ofDigits 10 digits ≤ 5 then
      some (Text.ofDigits 10 digits)
    else none

/-- The verbosity after an equals sign; none given means no limit. -/
def limitAfter? (word : List Char) : Option Nat :=
  if word.isEmpty then some 5 else limit? (String.ofList word)

/-- What one rule says. -/
inductive Reading where
  | rule (r : Rule)
  /-- A rule for what happens within spans of a certain kind, which admits nothing else. -/
  | spans
  deriving DecidableEq, Inhabited, Repr

/-- The characters with which a rule may begin. -/
def beginsRule (c : Char) : Bool :=
  c.isAlphanum || c == '-' || c == ':' || c == '_' || 0x80 ≤ c.toNat

/-- What follows a part between brackets: nothing, or an equals sign and a verbosity. -/
def afterBrackets? (cs : List Char) : Option Reading :=
  match (cs.dropWhile (· != ']')).drop 1 with
  | [] => if cs.contains ']' then some .spans else none
  | '=' :: word => (limitAfter? word).map fun _ => .spans
  | _ => none

/-- Reads one rule. -/
def rule? (cs : List Char) : Option Reading :=
  match cs with
  | '[' :: rest => afterBrackets? rest
  | c :: _ =>
    if beginsRule c then
      let name := cs.takeWhile fun c => c != '=' && c != '['
      match cs.dropWhile fun c => c != '=' && c != '[' with
      | [] =>
        match limit? (String.ofList name) with
        | some n => some (.rule ⟨none, n⟩)
        | none => some (.rule ⟨some (String.ofList name), 5⟩)
      | '=' :: word => (limitAfter? word).map fun n => .rule ⟨some (String.ofList name), n⟩
      | _ :: rest => afterBrackets? rest
    else none
  | [] => none

/-- Reads a filter. What is no rule does not count; without a rule errors alone are logged. -/
def ofText (s : String) : Filter :=
  let readings := (Text.splitAt ',' s.toList).filterMap rule?
  if readings.isEmpty then ofLevel .error
  else readings.filterMap fun
    | .rule r => some r
    | .spans => none

end Filter

end MqttRelay.Log
