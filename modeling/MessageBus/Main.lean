import MessageBus.Demo.Run
/-!
The demo command. It reads its arguments, the variables it knows and the settings file, and writes
the log and the counters.
-/

set_option autoImplicit false
set_option relaxedAutoImplicit false

namespace MessageBus.Demo

def knownVariables : List String :=
  ["BUS_STAGE", "BUS_SERVICE", filterVariable, metricsVariable, Settings.pathVariable,
    "BUS__NAMING__CONVENTION", "BUS__NAMING__STAGE", "BUS__NAMING__SERVICE",
    "BUS__REGISTRY__MAX_RECEIVE_COUNT", "BUS__SUBSCRIBER__MAX_NUMBER_OF_MESSAGES",
    "BUS__SUBSCRIBER__RECEIVE_INTERVAL_MS", "BUS__SUBSCRIBER__WAIT_TIME_SECONDS",
    "BUS__SUBSCRIBER__VISIBILITY_TIMEOUT_SECONDS", "BUS__SUBSCRIBER__MAX_IN_FLIGHT"]

def readEnvironment : IO Environment :=
  knownVariables.filterMapM fun name ↦ do return (← IO.getEnv name).map fun value ↦ (name, value)

/-- The files that may be the settings file, with their paths. -/
def readFiles (env : Environment) : IO (List (String × String)) := do
  let path := Settings.pathOf env
  (path :: (SettingsFile.withExtension? path).toList).filterMapM fun (path : String) ↦ do
    try
      return some (path, ← IO.FS.readFile path)
    catch _ =>
      return none

def usage : String :=
  "Usage: bus-demo [--stage <STAGE>] [--service <SERVICE>] [--count <COUNT>]"
    ++ " [--interval-ms <INTERVAL_MS>] [--json-logs]"

def version : String := "bus-demo 0.1.0"

def showOutcome : Outcome → IO UInt32
  | .refused .help => do
    IO.println usage
    return 0
  | .refused .version => do
    IO.println version
    return 0
  | .refused .misuse => do
    IO.eprintln ("error: the arguments make no sense\n\n" ++ usage)
    return 2
  | .brokenFilter => do
    IO.eprintln "error: the filter of the log cannot be taken apart"
    return 101
  | .failed e => do
    IO.eprintln ("Error: " ++ e.message)
    return 1
  | .broken => do
    IO.eprintln "Error: the subscription broke down"
    return 1
  | .completed log jsonLogs counters => do
    for e in log do
      IO.println (if jsonLogs then e.jsonLine else e.plainLine)
    for (counter, n) in (counters.getD ∅).entries do
      IO.println (counter.text ++ " " ++ Decimal.text n)
    return 0

end MessageBus.Demo

open MessageBus.Demo in
def main (arguments : List String) : IO UInt32 := do
  let env ← readEnvironment
  let files ← readFiles env
  let file? (path : String) := files.findSome? fun f ↦ if f.1 = path then some f.2 else none
  showOutcome (run MessageBus.Instant.epoch file? env arguments)
