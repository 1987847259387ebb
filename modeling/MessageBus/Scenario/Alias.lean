import MessageBus.Table
import MessageBus.Text.Decimal
/-!
Short names for generated identifiers. The identifiers of a kind are numbered from one in the order
in which they are first seen, and an alias is the letter of the kind with the number.
-/

set_option autoImplicit false
set_option relaxedAutoImplicit false

namespace MessageBus

inductive IdKind where
  | published
  | message
  | receipt
  | subscription
deriving DecidableEq, Repr

def IdKind.letter : IdKind → String
  | .published => "p"
  | .message => "q"
  | .receipt => "r"
  | .subscription => "s"

/-- The identifiers seen, the latest one first. -/
structure Aliases where
  seen : List (IdKind × String) := []
deriving Repr

namespace Aliases

def ofKind (kind : IdKind) (a : Aliases) : List String :=
  (a.seen.filter fun e ↦ e.1 = kind).reverse.map Prod.snd

def see (kind : IdKind) (id : String) (a : Aliases) : Aliases :=
  if (kind, id) ∈ a.seen then a else ⟨(kind, id) :: a.seen⟩

def number? (kind : IdKind) (id : String) (a : Aliases) : Option Nat :=
  ((a.ofKind kind).idxOf? id).map (· + 1)

def shortName? (kind : IdKind) (id : String) (a : Aliases) : Option String :=
  (a.number? kind id).map fun n ↦ kind.letter ++ Decimal.text n

/-- The alias of an identifier, or the identifier itself where it has none. -/
def name (kind : IdKind) (id : String) (a : Aliases) : String := (a.shortName? kind id).getD id

/-- The identifier of a kind that an alias stands for. -/
def id? (kind : IdKind) (shortName : String) (a : Aliases) : Option String :=
  (a.ofKind kind).find? fun id ↦ a.shortName? kind id = some shortName

/-- A text with the identifiers in it replaced by their aliases. -/
def rename (text : String) (a : Aliases) : String :=
  a.seen.foldl (fun text e ↦ text.replace e.2 (a.name e.1 e.2)) text

end Aliases

end MessageBus
