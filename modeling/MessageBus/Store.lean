import MessageBus.Error
import MessageBus.Table
/-!
A store remembers the addresses of resolved resources, one initialization per key at a time. Who
looks a key up finds its address, or has to make it, or has to wait for the one who is making it.
The outcome of a making is shared by all who waited for it; only an address is kept, a failure is
not.
-/

set_option autoImplicit false
set_option relaxedAutoImplicit false

namespace MessageBus

inductive ResourceKind where
  | topic
  | queue
deriving DecidableEq, Repr

def ResourceKind.label : ResourceKind → String
  | .topic => "topic"
  | .queue => "queue"

structure ResourceKey where
  kind : ResourceKind
  name : String
deriving DecidableEq, Repr

def ResourceKey.text (key : ResourceKey) : String := key.kind.label ++ ":" ++ key.name

/-- The stored addresses, the keys that are being initialized, each under the ticket of its
initialization, and the outcomes of the initializations that have ended. -/
structure Store where
  addresses : Table ResourceKey String := ∅
  pending : Table ResourceKey Nat := ∅
  outcomes : Table Nat (Except Error String) := ∅
  tickets : Nat := 0

inductive Lookup where
  | found (address : String)
  | vacant (ticket : Nat)
  | busy (ticket : Nat)

def Lookup.isVacant : Lookup → Bool
  | vacant _ => true
  | _ => false

namespace Store

def get? (s : Store) (key : ResourceKey) : Option String := s.addresses.find? key

def count (s : Store) : Nat := s.addresses.size

/-- Looks a key up; who finds it vacant holds it until `settle`. -/
def lookup (s : Store) (key : ResourceKey) : Lookup × Store :=
  match s.addresses.find? key with
  | some address => (.found address, s)
  | none =>
    match s.pending.find? key with
    | some ticket => (.busy ticket, s)
    | none =>
      (.vacant s.tickets,
        { s with pending := s.pending.insert key s.tickets, tickets := s.tickets + 1 })

/-- Ends the initialization of a key. -/
def settle (s : Store) (key : ResourceKey) (ticket : Nat) (outcome : Except Error String) :
    Store where
  addresses :=
    match outcome with
    | .ok address => s.addresses.insert key address
    | .error _ => s.addresses
  pending := s.pending.erase key
  outcomes := s.outcomes.insert ticket outcome
  tickets := s.tickets

end Store

end MessageBus
