import MessageBus.Binary64
import MessageBus.Settings.Record
import MessageBus.Text.Decimal
/-!
Values that settings are given in files and variables, and how they are converted. Where a number is
asked for, truth values, floating point numbers and texts that spell one of these are taken too; a
naming asks for texts. A section may be given as a table or as a list of the values of its fields.

The fields of a section differ in width. What becomes of a number that is too large for its field is
left to the library that reads the settings (`Narrowing`).
-/

set_option autoImplicit false
set_option relaxedAutoImplicit false

namespace MessageBus

inductive Setting where
  | unset
  | bool (b : Bool)
  | integer (n : Int)
  | real (x : Binary64)
  | text (s : String)
  | list (elements : List Setting)
  | table (entries : List (String × Setting))
deriving Repr, Inhabited

/-- How numbers are taken to a field that holds the numbers below a bound. A number below the bound
stays as it is; it is left open whether a larger one is refused, or what it becomes. -/
structure Narrowing where
  below? : (bound : Nat) → Nat → Option Nat
  of_lt : ∀ {bound n : Nat}, n < bound → below? bound n = some n

namespace Narrowing

/-- Refuses a number that the field does not hold. -/
def refusing : Narrowing where
  below? bound n := if n < bound then some n else none
  of_lt h := if_pos h

/-- Drops the high bits of a number that the field does not hold. -/
def truncating : Narrowing where
  below? bound n := some (n % bound)
  of_lt h := congrArg some (Nat.mod_eq_of_lt h)

end Narrowing

namespace Setting

def valueOf (key : String) : List (String × Setting) → Option Setting
  | [] => none
  | (k, v) :: rest => if k = key then some v else valueOf key rest

def wordOfText? (s : String) : Option Nat :=
  let word := s.toLower
  if word = "true" ∨ word = "on" ∨ word = "yes" then some 1
  else if word = "false" ∨ word = "off" ∨ word = "no" then some 0
  else (Decimal.plusNat? s.toList).filter (· < wordBound)

/-- The natural number that a value converts to. -/
def natural? : Setting → Option Nat
  | bool b => some (if b then 1 else 0)
  | integer n => if 0 ≤ n then some n.toNat else none
  | real x => some (x.toNatBelow wordBound)
  | text s => wordOfText? s
  | _ => none

def word? (v : Setting) : Option Nat := v.natural?.filter (· < wordBound)

def natBelow? (narrowing : Narrowing) (bound : Nat) (v : Setting) : Option Nat :=
  v.word?.bind (narrowing.below? bound)

def text? : Setting → Option String
  | text s => some s
  | _ => none

/-- The values of the named fields of a section, as far as they are given. -/
def fields? (names : List String) : Setting → Option (List (Option Setting))
  | table entries => some (names.map fun name ↦ valueOf name entries)
  | list elements =>
    some ((elements.take names.length).map some
      ++ List.replicate (names.length - elements.length) none)
  | _ => none

/-- Reads a field that has a default. -/
def orDefault {α : Type} (read : Setting → Option α) (default : α) : Option Setting → Option α
  | none => some default
  | some v => read v

end Setting

open Setting

def Naming.ofSetting? : Setting → Option Naming
  | .table entries => do
    let convention ← (← valueOf Naming.conventionKey entries).text?
    if convention = Naming.plainConvention then some .plain
    else if convention = Naming.scopedConvention then
      let stage ← (← valueOf "stage" entries).text?
      let service ← (← valueOf "service" entries).text?
      some (.scoped stage service)
    else none
  | .list [.text convention] =>
    if convention = Naming.plainConvention then some .plain else none
  | .list [.text convention, .text stage, .text service] =>
    if convention = Naming.scopedConvention then some (.scoped stage service) else none
  | _ => none

def RegistrySettings.ofSetting? (narrowing : Narrowing) (v : Setting) :
    Option RegistrySettings := do
  match ← v.fields? RegistrySettings.fieldNames with
  | [count] =>
    let d : RegistrySettings := {}
    some { maxReceiveCount :=
      ← orDefault (natBelow? narrowing halfWordBound) d.maxReceiveCount count }
  | _ => none

def SubscriberSettings.ofSetting? (narrowing : Narrowing) (v : Setting) :
    Option SubscriberSettings := do
  match ← v.fields? SubscriberSettings.fieldNames with
  | [messages, interval, wait, visibility, inFlight] =>
    let d : SubscriberSettings := {}
    let small := orDefault (natBelow? narrowing halfWordBound)
    let large := orDefault (natBelow? narrowing wordBound)
    some {
      maxNumberOfMessages := ← small d.maxNumberOfMessages messages
      receiveIntervalMs := ← large d.receiveIntervalMs interval
      waitTimeSeconds := ← small d.waitTimeSeconds wait
      visibilityTimeoutSeconds := ← small d.visibilityTimeoutSeconds visibility
      maxInFlight := ← large d.maxInFlight inFlight }
  | _ => none

def Settings.ofSetting? (narrowing : Narrowing) (v : Setting) : Option Settings := do
  match ← v.fields? Settings.fieldNames with
  | [naming, registry, subscriber] =>
    let d : Settings := {}
    some {
      naming := ← orDefault Naming.ofSetting? d.naming naming
      registry := ← orDefault (RegistrySettings.ofSetting? narrowing) d.registry registry
      subscriber := ← orDefault (SubscriberSettings.ofSetting? narrowing) d.subscriber subscriber }
  | _ => none

end MessageBus
