import MessageBus.Counter
import MessageBus.Envelope.Metadata
import MessageBus.Envelope.PayloadType
import MessageBus.Store
import MessageBus.Transport
/-!
Programs of the bus: what a publisher, a registry or the delivery of a message does, as a tree of
effects. An effect names what is asked of the surroundings and has a type of result; a program is
done with a value, or performs an effect and goes on with its result. Surroundings run programs one
effect at a time and can interleave them.
-/

set_option autoImplicit false
set_option relaxedAutoImplicit false

namespace MessageBus

/-- A store that has a name, or one that belongs to a single registry. -/
inductive StoreName where
  | shared (name : String)
  | own (serial : Nat)
deriving DecidableEq, Repr

/-- How a handler ended. A failure has causes, the outermost first. -/
inductive Handling where
  | success
  | failure (causes : List String)
  | panic
deriving DecidableEq, Repr

inductive Effect where
  /-- A call to the broker. -/
  | call (c : Call)
  /-- Looks a key up in a store. -/
  | lookup (store : StoreName) (key : ResourceKey)
  /-- Waits for the outcome of an initialization. -/
  | await (store : StoreName) (ticket : Nat)
  /-- Ends an initialization. -/
  | settle (store : StoreName) (key : ResourceKey) (ticket : Nat) (outcome : Except Error String)
  /-- A new identifier and the time. -/
  | stamp
  /-- Two new identifiers for a policy and its statement. -/
  | policyIds
  | count (c : Counter)
  /-- Lets time pass. -/
  | pause (millis : Nat)
  /-- Calls the handler. -/
  | handle (payload : Payload) (metadata : Metadata)
  /-- Passes an error to the error sink. -/
  | report (e : Error)

abbrev Effect.Result : Effect → Type
  | call c => Except Error c.Reply
  | lookup _ _ => Lookup
  | await _ _ => Except Error String
  | settle _ _ _ _ => Unit
  | stamp => Stamp
  | policyIds => String × String
  | count _ => Unit
  | pause _ => Unit
  | handle _ _ => Handling
  | report _ => Unit

inductive Program (α : Type) where
  | done (a : α)
  | perform (e : Effect) (next : e.Result → Program α)

namespace Program

variable {α β γ : Type}

def bind : Program α → (α → Program β) → Program β
  | done a, f => f a
  | perform e next, f => perform e fun r ↦ (next r).bind f

instance : Monad Program where
  pure := done
  bind := bind

/-- The program that performs one effect. -/
def effect (e : Effect) : Program e.Result := perform e done

def count (c : Counter) : Program Unit := effect (.count c)

end Program

/-- A program that can fail. -/
abbrev Attempt (α : Type) := ExceptT Error Program α

namespace Attempt

variable {α : Type}

def ofProgram (p : Program α) : Attempt α := ExceptT.lift p

def call (c : Call) : Attempt c.Reply := ExceptT.mk (Program.effect (.call c))

def ofResult (r : Except Error α) : Attempt α := ExceptT.mk (Program.done r)

def fail (e : Error) : Attempt α := ofResult (.error e)

def count (c : Counter) : Attempt Unit := ofProgram (Program.count c)

/-- Changes the error of a failure. -/
def mapError (f : Error → Error) (a : Attempt α) : Attempt α :=
  ExceptT.mk (a.run.bind fun r ↦ .done (r.mapError f))

/-- The address under a key of a store, which `init` makes where there is none. Who comes while it
is being made waits for the outcome. -/
def getOrSet (store : StoreName) (key : ResourceKey) (init : Attempt String) : Attempt String :=
  ExceptT.mk do
    match ← Program.effect (.lookup store key) with
    | .found address => return .ok address
    | .busy ticket => Program.effect (.await store ticket)
    | .vacant ticket =>
      let outcome ← init.run
      Program.effect (.settle store key ticket outcome)
      return outcome

end Attempt

end MessageBus
