/-!
Finite tables: a list of pairs in which a key is looked up by its first entry. `insert` replaces the
entry of a key in place and appends the entry of a new key, so the order of a table is the order in
which its keys first appeared.
-/

set_option autoImplicit false
set_option relaxedAutoImplicit false

namespace MessageBus

structure Table (κ α : Type) where
  entries : List (κ × α)
deriving Repr

namespace Table

variable {κ α β : Type}

def empty : Table κ α := ⟨[]⟩

instance : EmptyCollection (Table κ α) := ⟨empty⟩

instance : Inhabited (Table κ α) := ⟨empty⟩

def keys (t : Table κ α) : List κ := t.entries.map Prod.fst

def size (t : Table κ α) : Nat := t.entries.length

variable [DecidableEq κ]

def findIn (key : κ) : List (κ × α) → Option α
  | [] => none
  | (k, a) :: rest => if k = key then some a else findIn key rest

def find? (t : Table κ α) (key : κ) : Option α := findIn key t.entries

def contains (t : Table κ α) (key : κ) : Bool := (t.find? key).isSome

def insertIn (key : κ) (a : α) : List (κ × α) → List (κ × α)
  | [] => [(key, a)]
  | (k, b) :: rest => if k = key then (k, a) :: rest else (k, b) :: insertIn key a rest

def insert (t : Table κ α) (key : κ) (a : α) : Table κ α := ⟨insertIn key a t.entries⟩

/-- Inserts the entries of another table, which win over those that are there. -/
def insertAll (t u : Table κ α) : Table κ α :=
  u.entries.foldl (fun s e ↦ s.insert e.1 e.2) t

/-- The entries of the given keys. -/
def restrict (t : Table κ α) (keys : List κ) : Table κ α :=
  ⟨t.entries.filter fun e ↦ e.1 ∈ keys⟩

def erase (t : Table κ α) (key : κ) : Table κ α := ⟨t.entries.filter fun e ↦ e.1 ≠ key⟩

def ofList (entries : List (κ × α)) : Table κ α :=
  entries.foldl (fun t e ↦ t.insert e.1 e.2) ∅

theorem findIn_insertIn (key other : κ) (a : α) (entries : List (κ × α)) :
    findIn other (insertIn key a entries) =
      if key = other then some a else findIn other entries := by
  induction entries with
  | nil => simp [insertIn, findIn]
  | cons e rest ih =>
    obtain ⟨k, b⟩ := e
    by_cases hk : k = key
    · subst hk
      by_cases ho : k = other <;> simp [insertIn, findIn, ho]
    · by_cases ho : k = other
      · subst ho
        simp [insertIn, findIn, hk, Ne.symm hk]
      · simp [insertIn, findIn, hk, ho, ih]

@[simp]
theorem find?_insert (t : Table κ α) (key other : κ) (a : α) :
    (t.insert key a).find? other = if key = other then some a else t.find? other :=
  findIn_insertIn key other a t.entries

@[simp]
theorem find?_empty (key : κ) : (∅ : Table κ α).find? key = none := rfl

end Table

end MessageBus
