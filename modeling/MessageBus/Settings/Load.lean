import MessageBus.Settings.File
import MessageBus.Toml.Document
/-!
Loading the settings: the built-in layer, then a TOML file if there is one, then the environment;
what comes out is converted and checked. Numbers too large for their field are refused, unless
another way to narrow them is given.
-/

set_option autoImplicit false
set_option relaxedAutoImplicit false

namespace MessageBus

namespace Settings

inductive Failure where
  | malformedFile
  | unconvertible
  | violation (v : Violation)
deriving DecidableEq, Repr

/-- The first two failures are the library's, whose own words say more than these. -/
def Failure.error : Failure → Error
  | malformedFile => .configuration "the settings file is malformed"
  | unconvertible => .configuration "a setting has no usable value"
  | violation v => v.error

/-- The layer under all others. -/
def defaultLayer : List (String × Setting) :=
  let registry : RegistrySettings := {}
  let subscriber : SubscriberSettings := {}
  [("naming", .table [(Naming.conventionKey, .text Naming.plainConvention)]),
    ("registry", .table [("max_receive_count", .integer registry.maxReceiveCount)]),
    ("subscriber", .table [
      ("max_number_of_messages", .integer subscriber.maxNumberOfMessages),
      ("receive_interval_ms", .integer subscriber.receiveIntervalMs),
      ("wait_time_seconds", .integer subscriber.waitTimeSeconds),
      ("visibility_timeout_seconds", .integer subscriber.visibilityTimeoutSeconds),
      ("max_in_flight", .integer subscriber.maxInFlight)])]

/-- The layer of a file; no file is an empty layer. -/
def fileLayer? : Option String → Option (List (String × Setting))
  | none => some []
  | some text => Toml.read? text

def ofLayers (narrowing : Narrowing) (layers : List (List (String × Setting))) :
    Except Failure Settings :=
  match ofSetting? narrowing (layers.foldl Setting.overlay (.table [])) with
  | none => .error .unconvertible
  | some s =>
    match s.violation? with
    | some v => .error (.violation v)
    | none => .ok s

def load (file : Option String) (env : Environment) (narrowing : Narrowing := .refusing) :
    Except Failure Settings :=
  match fileLayer? file with
  | none => .error .malformedFile
  | some layer => ofLayers narrowing [defaultLayer, layer, env.layer]

/-- Loads the file under a path, where `text?` reads files. -/
def loadFrom (text? : String → Option String) (path : String) (env : Environment)
    (narrowing : Narrowing := .refusing) : Except Failure Settings :=
  load (SettingsFile.read? text? path) env narrowing

/-- The variable that names the settings file, and the path taken without it. -/
def pathVariable : String := "BUS_CONFIG_PATH"

def defaultPath : String := "config/bus.toml"

def pathOf (env : Environment) : String := (env.find? pathVariable).getD defaultPath

/-- Loads the file that the environment names. -/
def loadDefault (text? : String → Option String) (env : Environment)
    (narrowing : Narrowing := .refusing) : Except Failure Settings :=
  loadFrom text? (pathOf env) env narrowing

end Settings

end MessageBus
