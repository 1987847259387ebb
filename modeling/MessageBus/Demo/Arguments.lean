import MessageBus.Settings.Variable
import MessageBus.Text.Split
/-!
The arguments of the demo command. Options are given as `--name value` or `--name=value`, each at
most once; the stage and the service may also come from the environment. Whatever is first in the
order of the arguments decides: a mistake, or a request for help or for the version.
-/

set_option autoImplicit false
set_option relaxedAutoImplicit false

namespace MessageBus.Demo

structure Arguments where
  /-- The deployment stage in front of resource names. -/
  stage : String := "dev"
  /-- The name of the consuming service. -/
  service : String := "demo"
  /-- How many greetings are published. -/
  count : Nat := 5
  /-- How many milliseconds lie between two of them. -/
  intervalMs : Nat := 500
  jsonLogs : Bool := false
deriving DecidableEq, Repr

/-- Why a command line does not lead to a run. -/
inductive Refusal where
  | help
  | version
  | misuse
deriving DecidableEq, Repr

def Refusal.exitCode : Refusal → Nat
  | help => 0
  | version => 0
  | misuse => 2

/-- The options that are given on a command line. -/
structure Given where
  stage : Option String := none
  service : Option String := none
  count : Option Nat := none
  intervalMs : Option Nat := none
  jsonLogs : Bool := false

def natBelow? (bound : Nat) (s : String) : Option Nat :=
  (Decimal.plusNat? s.toList).filter (· < bound)

/-- Takes a value for an option that has none yet. -/
def fill {α : Type} (old new : Option α) : Except Refusal (Option α) :=
  match old, new with
  | none, some a => .ok (some a)
  | _, _ => .error .misuse

/-- Sets an option that takes a value; there is no result where no such option exists. -/
def Given.setOption? (g : Given) (name value : String) : Option (Except Refusal Given) :=
  match name with
  | "stage" => some ((fill g.stage (some value)).map fun v ↦ { g with stage := v })
  | "service" => some ((fill g.service (some value)).map fun v ↦ { g with service := v })
  | "count" => some do
    let v ← fill g.count ((natBelow? wordBound value).filter (1 ≤ ·))
    .ok { g with count := v }
  | "interval-ms" => some do
    let v ← fill g.intervalMs (natBelow? wordBound value)
    .ok { g with intervalMs := v }
  | _ => none

/-- Sets an option that takes no value. -/
def Given.setFlag (g : Given) (name : String) : Except Refusal Given :=
  match name with
  | "json-logs" => if g.jsonLogs then .error .misuse else .ok { g with jsonLogs := true }
  | "help" => .error .help
  | "version" => .error .version
  | _ => .error .misuse

/-- Reads a cluster of short options. -/
def shortOptions : List Char → Refusal
  | 'h' :: _ => .help
  | 'V' :: _ => .version
  | _ => .misuse

/-- Whether an argument can be the value of the option before it. -/
def isValue (argument : String) : Bool :=
  argument = "-" || !(['-'].isPrefixOf argument.toList)

/-- Splits `name=value`. -/
def splitAssignment (s : List Char) : String × Option String :=
  let name := s.takeWhile (· ≠ '=')
  (String.ofList name,
    match s.drop name.length with
    | [] => none
    | _ :: value => some (String.ofList value))

def Given.read (g : Given) : List String → Except Refusal Given
  | [] => .ok g
  | argument :: rest =>
    match argument.toList with
    | ['-', '-'] => if rest = [] then .ok g else .error .misuse
    | '-' :: '-' :: long =>
      match splitAssignment long with
      | (name, some value) =>
        match g.setOption? name value with
        | some r => do (← r).read rest
        | none => .error .misuse
      | (name, none) =>
        match rest with
        | value :: later =>
          match g.setOption? name value with
          | some r => if isValue value then do (← r).read later else .error .misuse
          | none => do (← g.setFlag name).read (value :: later)
        | [] =>
          match g.setOption? name "" with
          | some _ => .error .misuse
          | none => g.setFlag name
    | ['-'] => .error .misuse
    | '-' :: short => .error (shortOptions short)
    | _ => .error .misuse

def Arguments.read (arguments : List String) (env : Environment) : Except Refusal Arguments := do
  let g ← Given.read {} arguments
  let d : Arguments := {}
  return {
    stage := (g.stage <|> env.find? "BUS_STAGE").getD d.stage
    service := (g.service <|> env.find? "BUS_SERVICE").getD d.service
    count := g.count.getD d.count
    intervalMs := g.intervalMs.getD d.intervalMs
    jsonLogs := g.jsonLogs }

end MessageBus.Demo
