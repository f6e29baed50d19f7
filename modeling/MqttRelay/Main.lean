import MqttRelay.Command.Watch

/-!
# The program

Reads the files and the environment variables that a command asks for, carries the command out,
and writes what it logs and prints.
-/

namespace MqttRelay.Program

/-- The text about the program. -/
def usage : String :=
  String.intercalate "\n"
    ["Event-driven MQTT client with automatic reconnection", "",
     "Usage: mqtt-bridge [OPTIONS] <COMMAND>", "",
     "Commands:",
     "  watch   Subscribe to topics and print messages as JSON lines",
     "  config  Validate configuration",
     "  help    Print this message or the help of the given subcommand(s)", "",
     "Options:",
     "  -c, --config <FILE>  Configuration file path",
     "  -v, --verbose...     Verbose logging",
     "  -h, --help           Print help",
     "  -V, --version        Print version"]

/-- The variables that the program itself asks for. -/
def programVariables : List String :=
  ["RUST_LOG", "LOG_LEVEL", "LOG_FORMAT", "LOG_SPANS", "MQTT_BROKER_URL"]

/-- The values of the variables that are set. -/
def readVariables (names : List String) : IO (Assoc String) := do
  let mut found : List (String × String) := []
  for name in names do
    if let some value ← IO.getEnv name then found := (name, value) :: found
  return Assoc.ofList found

/-- The bytes of the files that can be read. -/
def readFiles (paths : List String) : IO (Assoc (List UInt8)) := do
  let mut found : List (String × List UInt8) := []
  for path in paths do
    try
      found := (path, (← IO.FS.readBinFile path).toList) :: found
    catch _ => pure ()
  return Assoc.ofList found

end MqttRelay.Program

open MqttRelay Program

/-- Carries the command of the arguments out; where watching would begin, there is no network
to watch. -/
def main (args : List String) : IO UInt32 := do
  let environment ← readVariables programVariables
  let freshId := String.ofList (Nat.toDigits 16 (← IO.rand (1 <<< 124) ((1 <<< 128) - 1)))
  match Command.Invocation.read (environment.get? "MQTT_BROKER_URL") args with
  | .error .display => IO.println usage
  | .error .misuse => IO.eprintln usage
  | .ok i =>
    let files ← readFiles (i.config.toList ++ Command.standardPaths)
    let site : Command.Site := { files, environment, freshId }
    let named := match (Command.settings site i).2 with
      | .ok s => s.credentialVariables
      | .error _ => []
    let environment ← readVariables (programVariables ++ named)
    let outcome := Command.run { site with environment } args
    for e in outcome.log do
      IO.println (e.level.text ++ " " ++ e.message)
    IO.print outcome.printed
    return .ofNat outcome.ending.code
  return .ofNat (Command.run { environment, freshId } args).ending.code
