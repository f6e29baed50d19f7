import MqttRelay.Command.Arguments
import MqttRelay.Qos
import MqttRelay.Text.Digits

/-!
# Invocations

What the program can be asked to do: to watch topics, or to check its configuration. The
options of the program stand before the name of the command, those of the command after it.

Results:
* `read_nil`: without a command nothing is done.
-/

namespace MqttRelay.Command

/-- What the program is asked to do. -/
inductive Action where
  /-- Subscribe to topics and print their messages. -/
  | watch (topics : List String) (qos : Qos) (broker clientId : Option String)
  /-- Check the configuration, and show it if that is wanted. -/
  | config (shown : Bool)
  deriving DecidableEq, Inhabited, Repr

/-- What the program is asked to do, and how. -/
structure Invocation where
  /-- The configuration file. -/
  config : Option String := none
  /-- How often more verbose logs were asked for. -/
  verbosity : Nat := 0
  action : Action
  deriving DecidableEq, Inhabited, Repr

/-- The level of a word: a number in decimal digits, perhaps with a sign. -/
def level? (word : String) : Option Qos :=
  let (negative, digits) : Bool × List Char :=
    match word.toList with
    | '+' :: cs => (false, cs)
    | '-' :: cs => (true, cs)
    | cs => (false, cs)
  let n := Text.ofDigits 10 digits
  if digits.isEmpty || !digits.all Char.isDigit || (negative && n != 0) then none
  else Qos.ofNat? n

/-- The option that asks for help. -/
def help : Flag := ⟨"help", some 'h', .display⟩

/-- The options of the program. -/
def programFlags : List Flag :=
  [⟨"config", some 'c', .value fun path => !path.isEmpty⟩, ⟨"verbose", some 'v', .counter⟩, help,
   ⟨"version", some 'V', .display⟩]

/-- The options for watching. -/
def watchFlags : List Flag :=
  [⟨"qos", none, .value fun word => (level? word).isSome⟩, ⟨"broker", none, .value fun _ => true⟩,
   ⟨"client-id", none, .value fun _ => true⟩, help]

/-- The options for checking the configuration. -/
def configFlags : List Flag := [⟨"show", none, .switch⟩, help]

/-- Reads what to watch; a broker that is not given is the one of the environment. -/
def readWatch (environmentBroker : Option String) (args : List String) :
    Except Refusal Action := do
  let (seen, _) ← read watchFlags false args {}
  if seen.words.isEmpty then throw .misuse
  return .watch seen.words (((seen.value? "qos").bind level?).getD .atLeastOnce)
    (seen.value? "broker" <|> environmentBroker) (seen.value? "client-id")

/-- Reads how to check the configuration. -/
def readConfig (args : List String) : Except Refusal Action := do
  let (seen, _) ← read configFlags false args {}
  if seen.words.isEmpty then return .config (seen.count "show" != 0) else throw .misuse

/-- Reads what text is asked for. -/
def readHelp (args : List String) : Refusal :=
  if args = [] ∨ args = ["watch"] ∨ args = ["config"] ∨ args = ["help"] then .display else .misuse

/-- Reads an invocation. -/
def Invocation.read (environmentBroker : Option String) (args : List String) :
    Except Refusal Invocation := do
  let (seen, rest) ← Command.read programFlags true args {}
  let action ←
    match seen.words with
    | ["watch"] => readWatch environmentBroker rest
    | ["config"] => readConfig rest
    | ["help"] => throw (readHelp rest)
    | _ => throw .misuse
  return ⟨seen.value? "config", seen.count "verbose", action⟩

/-- Without a command nothing is done. -/
theorem Invocation.read_nil (broker : Option String) :
    Invocation.read broker [] = .error .misuse := by
  simp [Invocation.read, Command.read_nil]
  rfl

end MqttRelay.Command
