import MessageBus.Proofs.Wire.Canonical
/-!
What is written is read back. The fields of a message are read off the front of a buffer, each into
the message of those before it, and what follows the message stays. Messages nest only so deep:
where one goes deeper than the reader may, reading fails at the limit and nowhere before it.
-/

set_option autoImplicit false
set_option relaxedAutoImplicit false

namespace MessageBus.Wire

open Message

/-- The outcome of reading something of a nesting where so much is allowed: the value, or the
failure at the limit. -/
structure ReadsWithin {α : Type} (nesting depth : Nat) (a : α) (r : Except Failure α) : Prop where
  within : nesting ≤ depth → r = .ok a
  beyond : depth < nesting → ∃ path, r = .error ⟨path, .recursionLimit⟩

theorem ReadsWithin.of_eq_ok {α : Type} {depth : Nat} {a : α} {r : Except Failure α}
    (h : r = .ok a) : ReadsWithin 0 depth a r :=
  ⟨fun _ ↦ h, fun hdepth ↦ absurd hdepth (Nat.not_lt_zero depth)⟩

section Values

variable {schema : Schema} {type : MessageSpec} {spec : FieldSpec} {number depth : Nat}
  {message : Message} {tail : Bytes}
  {readEmbedded : MessageSpec → Nat → Ending → Message → Bytes → Except Failure (Message × Bytes)}

theorem readField_scalar {s : Scalar} {value : Datum} (hspec : type.field? number = some spec)
    (hkind : spec.kind = .plain s ∨ spec.kind = .optional s ∨ spec.kind = .repeated s)
    (hadmits : s.admits value) (hsize : (writeDatum s value).length < wordBound) :
    readField schema readEmbedded type depth number s.wireType message
        (writeDatum s value ++ tail) =
      .ok (message.put type (.scalar number value), tail) := by
  have hread := readDatum_writeDatum hadmits hsize tail
  rw [readField, hspec]
  -- One value stands alone: its wire type is the one of its scalar.
  have halone : ¬ (s.wireType = .lengthDelimited ∧ s.wireType ≠ .lengthDelimited) :=
    fun ⟨h, hne⟩ ↦ hne h
  rcases hkind with h | h | h <;>
    simp only [h, expect, if_true, if_neg halone, ok_bind, hread] <;> rfl

/-- The induction is on the values that are still to be read; those that were read stand before. -/
theorem readPacked_writeDatum {s : Scalar} {values : List Datum} (before : List Datum)
    (hadmits : ∀ v ∈ values, s.admits v)
    (hsize : (values.flatMap (writeDatum s)).length < wordBound) {fuel : Nat}
    (hfuel : (values.flatMap (writeDatum s)).length ≤ fuel) :
    readPacked s tail.length fuel before (values.flatMap (writeDatum s) ++ tail) =
      .ok (before ++ values, tail) := by
  induction values generalizing before fuel with
  | nil =>
    rw [readPacked.eq_def]
    simp
  | cons v rest ih =>
    have hv := length_writeDatum_pos s v
    simp only [List.flatMap_cons, List.length_append] at hsize hfuel
    obtain ⟨fuel, rfl⟩ : ∃ n, fuel = n + 1 := ⟨fuel - 1, by omega⟩
    have hmore : ¬ ((v :: rest).flatMap (writeDatum s) ++ tail).length ≤ tail.length := by
      simp only [List.flatMap_cons, List.length_append]
      omega
    rw [readPacked, if_neg hmore]
    simp only [List.flatMap_cons, List.append_assoc]
    rw [readDatum_writeDatum (hadmits v (by simp)) (by omega), ok_bind]
    simp only
    rw [ih (before ++ [v]) (fun w hw ↦ hadmits w (by simp [hw])) (by omega) (by omega)]
    simp only [List.append_assoc, List.singleton_append]

theorem readEnd_writeDelimited (bytes : Bytes) (h : bytes.length < wordBound) :
    readEnd (writeDelimited bytes ++ tail) = .ok (tail.length, bytes ++ tail) := by
  rw [readEnd, writeDelimited, List.append_assoc, varint_writeVarint _ _ h, ok_bind]
  simp

theorem readField_packed {s : Scalar} {values : List Datum} (hspec : type.field? number = some spec)
    (hkind : spec.kind = .packed s) (hadmits : ∀ v ∈ values, s.admits v)
    (hsize : (values.flatMap (writeDatum s)).length < wordBound) :
    readField schema readEmbedded type depth number .lengthDelimited message
        (writeDelimited (values.flatMap (writeDatum s)) ++ tail) =
      .ok (message.put type (.packed number (message.packed number ++ values)), tail) := by
  have hpacked : readPacked s tail.length _ [] _ = _ :=
    readPacked_writeDatum [] hadmits hsize (Nat.le_add_right _ tail.length)
  rw [readField, hspec]
  simp only [hkind, if_true, readEnd_writeDelimited _ hsize, ok_bind, List.length_append]
  rw [hpacked]
  rfl

theorem Embedding.expect_wireType (e : Embedding) : e.expect e.form.wireType = .ok () := by
  have hsame : Wire.expect e.form.wireType e.form.wireType = .ok () := if_pos rfl
  rw [expect]
  split <;> first | rfl | exact hsame

/-- A failure in a field has the cause that it had. -/
theorem exists_enclose (typeName field : String) (path : List (String × String)) (fault : Fault) :
    ∃ longer, Failure.enclose typeName field ⟨path, fault⟩ = ⟨longer, fault⟩ := by
  rw [Failure.enclose]
  split <;> exact ⟨_, rfl⟩

theorem readField_message_at_limit {e : Embedding} {bytes : Bytes}
    (hspec : type.field? number = some spec) (hkind : spec.kind = .message e) :
    ∃ path, readField schema readEmbedded type 0 number e.form.wireType message bytes =
      .error ⟨path, .recursionLimit⟩ := by
  obtain ⟨path, hpath⟩ := exists_enclose type.name spec.name [] .recursionLimit
  rw [readField, hspec]
  simp only [hkind, Embedding.expect_wireType, if_true, ok_bind]
  exact ⟨path, congrArg Except.error hpath⟩

end Values

/-! ### Where fields end -/

/-- Where the fields of a message end that has a tail behind it. -/
inductive Ending.IsBefore (tail : Bytes) : Ending → Prop
  | limit : IsBefore tail (.limit tail.length)
  | group {number : Nat} (hnumber : IsFieldNumber number) : IsBefore tail (.group number)

/-- What stands between the fields of a message and its tail. -/
def Ending.closing : Ending → Bytes
  | limit _ => []
  | group number => writeKey number .endGroup

section Endings

variable {ending : Ending} {tail : Bytes}

theorem Ending.IsBefore.rest?_closing (h : ending.IsBefore tail) :
    ending.rest? (ending.closing ++ tail) = .ok (some tail) := by
  cases h with
  | limit =>
    simp only [rest?, closing, List.nil_append, Nat.lt_irrefl, if_false, if_true]
  | group hnumber =>
    rw [rest?, closing, readKey_writeKey hnumber]
    simp

theorem Ending.IsBefore.rest?_writeKey (h : ending.IsBefore tail) {number : Nat}
    (hnumber : IsFieldNumber number) {w : WireType} (hw : w ≠ .endGroup) (more : Bytes) :
    ending.rest? (writeKey number w ++ (more ++ (ending.closing ++ tail))) = .ok none := by
  cases h with
  | limit =>
    have hkey := length_writeKey_pos number w
    have hmore : ¬ (writeKey number w ++ (more ++ (closing (.limit tail.length) ++ tail))).length <
        tail.length := by
      simp only [List.length_append]
      omega
    have hlonger :
        ¬ (writeKey number w ++ (more ++ (closing (.limit tail.length) ++ tail))).length =
          tail.length := by
      simp only [List.length_append]
      omega
    rw [rest?, if_neg hmore, if_neg hlonger]
  | group =>
    rw [rest?, readKey_writeKey hnumber]
    simp [hw]

end Endings

/-! ### Fields and messages -/

/-- What reading a field that was written asks of the buffer: the field is its key and a content,
and with enough fuel the content is read into any message whose fields may stand before it. -/
def IsReadBack (schema : Schema) (type : MessageSpec) (f : Field) : Prop :=
  ∃ w content, w ≠ .endGroup ∧ writeField schema type f = writeKey f.number w ++ content ∧
    ∀ {fuel depth : Nat} {before : Message} {tail : Bytes}, (∀ g ∈ before, type.precedes g f) →
      content.length < wordBound → content.length + tail.length < fuel →
      ReadsWithin f.nesting depth (before ++ [f], tail)
        (readField schema (readFields schema fuel) type depth f.number w before (content ++ tail))

/-- The fields of a message are read back, from wherever they may end. -/
def AreReadBack (schema : Schema) (type : MessageSpec) (fields : List Field) : Prop :=
  ∀ {fuel depth : Nat} {ending : Ending} {tail : Bytes}, ending.IsBefore tail →
    (write schema type fields).length < wordBound →
    (write schema type fields ++ (ending.closing ++ tail)).length < fuel →
    ReadsWithin (Message.nesting fields) depth (fields, tail)
      (readFields schema fuel type depth ending []
        (write schema type fields ++ (ending.closing ++ tail)))

section Fields

variable {schema : Schema} {type : MessageSpec} {spec : FieldSpec}

theorem Scalar.wireType_ne_endGroup (s : Scalar) : s.wireType ≠ .endGroup := by
  cases s <;> decide

theorem isReadBack_scalar {s : Scalar} {number : Nat} {value : Datum}
    (hspec : type.field? number = some spec)
    (hkind : spec.kind = .plain s ∨ spec.kind = .optional s ∨ spec.kind = .repeated s)
    (hadmits : s.admits value) (hset : (Field.scalar number value).isDefault type = false) :
    IsReadBack schema type (.scalar number value) := by
  have hscalar : spec.kind.scalar? = some s := by
    rcases hkind with h | h | h <;> rw [h] <;> rfl
  refine ⟨s.wireType, writeDatum s value, s.wireType_ne_endGroup, ?_, ?_⟩
  · simp only [writeField, MessageSpec.kind?_of_field? hspec, Option.bind_some, hscalar,
      Field.number]
  · intro fuel depth before tail hbefore hsize hfuel
    rw [← put_of_precedes hbefore hset]
    exact .of_eq_ok (readField_scalar hspec hkind hadmits hsize)

theorem isReadBack_packed {s : Scalar} {number : Nat} {values : List Datum}
    (hspec : type.field? number = some spec) (hkind : spec.kind = .packed s)
    (hadmits : ∀ v ∈ values, s.admits v)
    (hset : (Field.packed number values).isDefault type = false) :
    IsReadBack schema type (.packed number values) := by
  have hkind? := MessageSpec.kind?_of_field? hspec
  have hlabel : type.label? number = some .optional := by
    rw [MessageSpec.label?_of_kind? hkind?, hkind]
    rfl
  refine ⟨.lengthDelimited, writeDelimited (values.flatMap (writeDatum s)), by decide, ?_, ?_⟩
  · simp only [writeField, hkind?, Option.bind_some, hkind, FieldKind.scalar?, Field.number]
  · intro fuel depth before tail hbefore hsize hfuel
    have hothers : ∀ g ∈ before, g.number ≠ number := fun g hg ↦
      MessageSpec.number_ne_of_precedes (g := .packed number values) (.inr hlabel) (hbefore g hg)
    have hnone : before.packed number = [] := by
      rw [packed, field?_eq_none hothers]
    have hread : readField schema (readFields schema fuel) type depth number .lengthDelimited
        before (writeDelimited (values.flatMap (writeDatum s)) ++ tail) = _ :=
      readField_packed hspec hkind hadmits
        (Nat.lt_trans (length_writeDelimited_ge _) hsize)
    rw [hnone, List.nil_append, put_of_precedes hbefore hset] at hread
    exact .of_eq_ok hread

/-- Nothing is held for an embedded message that comes after all fields that are set. -/
theorem held_of_precedes {e : Embedding} {number : Nat} {fields : List Field} {before : Message}
    (hkind : type.kind? number = some (.message e))
    (hbefore : ∀ g ∈ before, type.precedes g (.message number fields)) :
    before.held e number = [] := by
  have hlabel := MessageSpec.label?_of_kind? hkind
  have hnone (hsingle : type.label? number = some .plain ∨ type.label? number = some .optional) :
      (before.message? number).getD [] = [] := by
    have hothers : ∀ g ∈ before, g.number ≠ number := fun g hg ↦
      MessageSpec.number_ne_of_precedes (g := .message number fields) hsingle (hbefore g hg)
    rw [message?, field?_eq_none hothers]
    rfl
  rw [FieldKind.label] at hlabel
  cases he : e.label with
  | plain =>
    simp only [held, he]
    exact hnone (.inl (he ▸ hlabel))
  | optional =>
    simp only [held, he]
    exact hnone (.inr (he ▸ hlabel))
  | repeated | keyed => simp only [held, he]

/-- How the content of an embedded message is read: its start, and then its fields up to their
end. -/
theorem exists_readStart (form : Form) {number : Nat} (hnumber : IsFieldNumber number)
    (inner tail : Bytes) (hsize : (form.enclose number inner).length < wordBound) :
    ∃ ending : Ending, ending.IsBefore tail ∧
      (ending.closing ++ tail).length ≤ (form.enclose number inner ++ tail).length - inner.length ∧
      form.readStart number (form.enclose number inner ++ tail) =
        .ok (ending, inner ++ (ending.closing ++ tail)) := by
  cases form with
  | delimited =>
    have hlength := length_writeDelimited_ge inner
    refine ⟨.limit tail.length, .limit, ?_, ?_⟩
    · simp only [Form.enclose, Ending.closing, List.length_append, List.nil_append]
      omega
    · simp only [Form.readStart, Form.enclose] at hsize ⊢
      rw [readEnd_writeDelimited inner (by omega)]
      rfl
  | group =>
    refine ⟨.group number, .group hnumber, ?_, ?_⟩
    · simp only [Form.enclose, Ending.closing, List.length_append]
      omega
    · simp only [Form.readStart, Form.enclose, Ending.closing, List.append_assoc]

theorem Form.length_le_enclose (form : Form) (number : Nat) (bytes : Bytes) :
    bytes.length ≤ (form.enclose number bytes).length := by
  cases form with
  | delimited => exact Nat.le_of_lt (length_writeDelimited_ge bytes)
  | group =>
    rw [enclose, List.length_append]
    exact Nat.le_add_right ..

theorem Form.wireType_ne_endGroup (form : Form) : form.wireType ≠ .endGroup := by
  cases form <;> decide

theorem isReadBack_message {e : Embedding} {number : Nat} {fields : List Field}
    (hnumber : IsFieldNumber number) (hspec : type.field? number = some spec)
    (hkind : spec.kind = .message e) (hset : (Field.message number fields).isDefault type = false)
    (hfields : AreReadBack schema (schema.embedded e) fields) :
    IsReadBack schema type (.message number fields) := by
  have hkind? : type.kind? number = some (.message e) := by
    rw [MessageSpec.kind?_of_field? hspec, hkind]
  refine ⟨e.form.wireType, e.form.enclose number (write schema (schema.embedded e) fields),
    e.form.wireType_ne_endGroup, ?_, ?_⟩
  · simp only [writeField, hkind?, Field.number]
  · intro fuel depth before tail hbefore hsize hfuel
    rw [Field.nesting, Field.number]
    cases depth with
    | zero => exact ⟨by omega, fun _ ↦ readField_message_at_limit hspec hkind⟩
    | succ depth =>
      obtain ⟨ending, hending, hlength, hstart⟩ :=
        exists_readStart e.form hnumber (write schema (schema.embedded e) fields) tail hsize
      have hinside := e.form.length_le_enclose number (write schema (schema.embedded e) fields)
      rw [List.length_append] at hlength
      have hinner : ReadsWithin _ depth _ (readFields schema fuel _ _ ending [] _) :=
        hfields hending (by omega) (by simp only [List.length_append] at hlength ⊢; omega)
      have hread : readField schema (readFields schema fuel) type (depth + 1) number
          e.form.wireType before
            (e.form.enclose number (write schema (schema.embedded e) fields) ++ tail) =
          Except.mapError (Failure.enclose type.name spec.name)
            ((readFields schema fuel (schema.embedded e) depth ending []
              (write schema (schema.embedded e) fields ++ (ending.closing ++ tail))).map
                fun r ↦ (before.put type (.message number r.1), r.2)) := by
        rw [readField, hspec]
        simp only [hkind, Embedding.expect_wireType, ok_bind, hstart,
          held_of_precedes hkind? hbefore]
        rfl
      rw [hread]
      constructor
      · intro hdepth
        rw [hinner.within (by omega), ← put_of_precedes hbefore hset]
        rfl
      · intro hdepth
        obtain ⟨path, hpath⟩ := hinner.beyond (by omega)
        obtain ⟨longer, hlonger⟩ := exists_enclose type.name spec.name path .recursionLimit
        rw [hpath]
        exact ⟨longer, congrArg Except.error hlonger⟩

end Fields

/-- The fields of a message are read into those before it. The induction is on the fields that are
still to be read. -/
theorem readFields_of_isReadBack {schema : Schema} {type : MessageSpec} {fields : List Field}
    (hread : ∀ f ∈ fields, IsFieldNumber f.number ∧ IsReadBack schema type f)
    (hsorted : fields.Pairwise fun f g ↦ type.precedes f g)
    {fuel depth : Nat} {before : Message} {ending : Ending} {tail : Bytes}
    (hbefore : ∀ g ∈ before, ∀ f ∈ fields, type.precedes g f) (hending : ending.IsBefore tail)
    (hsize : (write schema type fields).length < wordBound)
    (hfuel : (write schema type fields ++ (ending.closing ++ tail)).length < fuel) :
    ReadsWithin (Message.nesting fields) depth (before ++ fields, tail)
      (readFields schema fuel type depth ending before
        (write schema type fields ++ (ending.closing ++ tail))) := by
  obtain ⟨fuel, rfl⟩ : ∃ n, fuel = n + 1 := ⟨fuel - 1, by omega⟩
  induction fields generalizing fuel before with
  | nil =>
    refine .of_eq_ok ?_
    rw [readFields, write, List.nil_append, hending.rest?_closing, List.append_nil]
    rfl
  | cons f rest ih =>
    obtain ⟨hnumber, w, content, hw, hwrite, hcontent⟩ := hread f (by simp)
    obtain ⟨hfirst, hrest⟩ := List.pairwise_cons.mp hsorted
    have hkey := length_writeKey_pos f.number w
    simp only [write, hwrite, List.length_append] at hsize hfuel
    have hvalue : ReadsWithin _ depth _ (readField schema (readFields schema fuel) type depth
        f.number w before (content ++ (write schema type rest ++ (ending.closing ++ tail)))) :=
      hcontent (fun g hg ↦ hbefore g hg f (by simp)) (by omega)
        (by simp only [List.length_append]; omega)
    have hthen : ∀ g ∈ before ++ [f], ∀ h ∈ rest, type.precedes g h := by
      intro g hg h hh
      rcases List.mem_append.mp hg with hg | hg
      · exact hbefore g hg h (by simp [hh])
      · exact List.mem_singleton.mp hg ▸ hfirst h hh
    obtain ⟨fuel, rfl⟩ : ∃ n, fuel = n + 1 := ⟨fuel - 1, by omega⟩
    have hnext : ReadsWithin _ depth _ (readFields schema (fuel + 1) type depth ending _ _) :=
      ih (fun g hg ↦ hread g (by simp [hg])) hrest hthen (by omega) fuel
        (by simp only [List.length_append]; omega)
    have hmore := hending.rest?_writeKey hnumber hw (content ++ write schema type rest)
    simp only [List.append_assoc] at hmore
    rw [readFields]
    simp only [write, hwrite, List.append_assoc]
    rw [hmore, ok_bind]
    simp only [readKey_writeKey hnumber, ok_bind]
    simp only [List.append_assoc, List.singleton_append] at hnext
    constructor
    · intro hdepth
      rw [Message.nesting] at hdepth
      simp only [hvalue.within (by omega), ok_bind]
      exact hnext.within (by omega)
    · intro hdepth
      rw [Message.nesting] at hdepth
      by_cases hf : f.nesting ≤ depth
      · simp only [hvalue.within hf, ok_bind]
        exact hnext.beyond (by omega)
      · obtain ⟨path, hpath⟩ := hvalue.beyond (by omega)
        simp only [hpath, error_bind]
        exact ⟨path, rfl⟩

theorem areReadBack_of_isReadBack {schema : Schema} {type : MessageSpec} {fields : List Field}
    (hread : ∀ f ∈ fields, IsFieldNumber f.number ∧ IsReadBack schema type f)
    (hsorted : fields.Pairwise fun f g ↦ type.precedes f g) : AreReadBack schema type fields := by
  intro fuel depth ending tail hending hsize hfuel
  have hnone : ∀ g ∈ ([] : Message), ∀ f ∈ fields, type.precedes g f := nofun
  exact readFields_of_isReadBack hread hsorted hnone hending hsize hfuel

mutual

/-- Every field of a message type is read back. -/
theorem isReadBack_of_isCanonical {schema : Schema} (hwf : schema.isWellFormed)
    {type : MessageSpec} (htype : type.isWellFormed schema) : ∀ f : Field,
    f.isCanonical schema type → IsFieldNumber f.number ∧ IsReadBack schema type f
  | .scalar number value, h => by
    obtain ⟨hfits, hset⟩ := Field.isCanonical_iff.mp h
    rw [Field.fits] at hfits
    split at hfits
    · next s hkind =>
      obtain ⟨spec, hspec, hs⟩ := MessageSpec.exists_field? hkind
      exact ⟨MessageSpec.isFieldNumber_of_kind? htype hkind,
        isReadBack_scalar hspec (.inl hs) hfits hset⟩
    · next s hkind =>
      obtain ⟨spec, hspec, hs⟩ := MessageSpec.exists_field? hkind
      exact ⟨MessageSpec.isFieldNumber_of_kind? htype hkind,
        isReadBack_scalar hspec (.inr (.inl hs)) hfits hset⟩
    · next s hkind =>
      obtain ⟨spec, hspec, hs⟩ := MessageSpec.exists_field? hkind
      exact ⟨MessageSpec.isFieldNumber_of_kind? htype hkind,
        isReadBack_scalar hspec (.inr (.inr hs)) hfits hset⟩
    · cases hfits
  | .packed number values, h => by
    obtain ⟨hfits, hset⟩ := Field.isCanonical_iff.mp h
    rw [Field.fits] at hfits
    split at hfits
    · next s hkind =>
      obtain ⟨spec, hspec, hs⟩ := MessageSpec.exists_field? hkind
      exact ⟨MessageSpec.isFieldNumber_of_kind? htype hkind,
        isReadBack_packed hspec hs (List.all_eq_true.mp hfits) hset⟩
    · cases hfits
  | .message number fields, h => by
    obtain ⟨hfits, hset⟩ := Field.isCanonical_iff.mp h
    rw [Field.fits] at hfits
    split at hfits
    · next e hkind =>
      obtain ⟨spec, hspec, hs⟩ := MessageSpec.exists_field? hkind
      have hnumber := MessageSpec.isFieldNumber_of_kind? htype hkind
      exact ⟨hnumber, isReadBack_message hnumber hspec hs hset
        (areReadBack_of_isCanonical hwf (Schema.isWellFormed_embedded hwf e) fields hfits)⟩
    · cases hfits

theorem areReadBack_of_isCanonical {schema : Schema} (hwf : schema.isWellFormed)
    {type : MessageSpec} (htype : type.isWellFormed schema) (fields : List Field)
    (h : Message.isCanonical schema type fields) : AreReadBack schema type fields :=
  areReadBack_of_isReadBack
    (fun f hf ↦ isReadBack_of_isCanonical hwf htype f ((Message.isCanonical_iff.mp h).1 f hf))
    (Message.isCanonical_iff.mp h).2

end

/-- Fields that were written are read back exactly when they nest no deeper than messages may;
otherwise reading them fails at the limit. -/
theorem readsWithin_read_write {schema : Schema} {type : MessageSpec} (hwf : schema.isWellFormed)
    (htype : type.isWellFormed schema) {message : Message} (h : message.isCanonical schema type)
    (hsize : (write schema type message).length < wordBound) :
    ReadsWithin message.nesting maxDepth message
      (read schema type (write schema type message)) := by
  have hwhole : ReadsWithin message.nesting maxDepth (message, [])
      (readFields schema ((write schema type message).length + 1) type maxDepth (.limit 0) []
        (write schema type message ++ [])) :=
    areReadBack_of_isCanonical hwf htype message h .limit hsize
      (by simp [Ending.closing])
  rw [List.append_nil] at hwhole
  constructor
  · intro hdepth
    rw [read, mergeInto, hwhole.within hdepth]
    rfl
  · intro hdepth
    obtain ⟨path, hpath⟩ := hwhole.beyond hdepth
    rw [read, mergeInto, hpath]
    exact ⟨path, rfl⟩

end MessageBus.Wire
