import MessageBus.Json.Reader
import MessageBus.Json.Record
import MessageBus.Settings.Basic
/-!
Settings sections as JSON records. Fields that are not there take their defaults, and numbers have
to be written as natural numbers in range. A naming names its convention first of all: as a member
of an object whose members all denote values, or as the first element of an array.
-/

set_option autoImplicit false
set_option relaxedAutoImplicit false

namespace MessageBus

namespace Naming

def conventionKey : String := "convention"

def plainConvention : String := "default"

def scopedConvention : String := "prefix"

def ofMembers? (members : List (Option String × JsonText)) : Option Naming :=
  match JsonText.valuesOf conventionKey members with
  | [.string (some convention)] =>
    if convention = plainConvention then some .plain
    else if convention = scopedConvention then
      match JsonText.valuesOf "stage" members, JsonText.valuesOf "service" members with
      | [.string (some stage)], [.string (some service)] => some (.scoped stage service)
      | _, _ => none
    else none
  | _ => none

/-- Reads a naming inside a value that may nest `depth` deep. -/
def ofTree? (depth : Nat) (t : JsonText) : Option Naming :=
  if t.denotesWithin depth then
    match t with
    | .object members => ofMembers? members
    | .array [.string (some convention)] =>
      if convention = plainConvention then some .plain else none
    | .array [.string (some convention), .string (some stage), .string (some service)] =>
      if convention = scopedConvention then some (.scoped stage service) else none
    | _ => none
  else none

def read? (text : String) : Option Naming := JsonText.read? text >>= ofTree? JsonText.maxDepth

end Naming

namespace RegistrySettings

def fieldNames : List String := ["max_receive_count"]

def ofTree? (t : JsonText) : Option RegistrySettings := do
  match ← t.record? fieldNames with
  | [count] =>
    let d : RegistrySettings := {}
    some { maxReceiveCount :=
      ← JsonText.orDefault (JsonText.natBelow? halfWordBound) d.maxReceiveCount count }
  | _ => none

def read? (text : String) : Option RegistrySettings := JsonText.read? text >>= ofTree?

end RegistrySettings

namespace SubscriberSettings

def fieldNames : List String := [
  "max_number_of_messages",
  "receive_interval_ms",
  "wait_time_seconds",
  "visibility_timeout_seconds",
  "max_in_flight"]

def ofTree? (t : JsonText) : Option SubscriberSettings := do
  match ← t.record? fieldNames with
  | [messages, interval, wait, visibility, inFlight] =>
    let d : SubscriberSettings := {}
    let small := JsonText.orDefault (JsonText.natBelow? halfWordBound)
    let large := JsonText.orDefault (JsonText.natBelow? wordBound)
    some {
      maxNumberOfMessages := ← small d.maxNumberOfMessages messages
      receiveIntervalMs := ← large d.receiveIntervalMs interval
      waitTimeSeconds := ← small d.waitTimeSeconds wait
      visibilityTimeoutSeconds := ← small d.visibilityTimeoutSeconds visibility
      maxInFlight := ← large d.maxInFlight inFlight }
  | _ => none

def read? (text : String) : Option SubscriberSettings := JsonText.read? text >>= ofTree?

end SubscriberSettings

namespace Settings

def fieldNames : List String := ["naming", "registry", "subscriber"]

def ofTree? (t : JsonText) : Option Settings := do
  match ← t.record? fieldNames with
  | [naming, registry, subscriber] =>
    let d : Settings := {}
    some {
      naming := ← JsonText.orDefault (Naming.ofTree? (JsonText.maxDepth - 1)) d.naming naming
      registry := ← JsonText.orDefault RegistrySettings.ofTree? d.registry registry
      subscriber := ← JsonText.orDefault SubscriberSettings.ofTree? d.subscriber subscriber }
  | _ => none

def read? (text : String) : Option Settings := JsonText.read? text >>= ofTree?

end Settings

end MessageBus
