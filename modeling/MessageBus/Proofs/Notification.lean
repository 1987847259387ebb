import MessageBus.Notification
import MessageBus.Proofs.Json.RoundTrip
/-!
What the subscriber unwraps. Notifications are read back from their text, and so is the published
text inside them (`extract_text`), and from every other JSON text of their fields (`read_back`). A
body is unwrapped exactly if it holds the fields of a notification, in an object or in an array, and
is refused otherwise (`extracts_iff_unwraps`).
-/

set_option autoImplicit false
set_option relaxedAutoImplicit false

namespace MessageBus.Notification

open JsonText

theorem ofTree?_tree (n : Notification) : ofTree? n.document.tree = some n := by
  obtain ⟨kind, messageId, topicArn, message, timestamp⟩ := n
  cases timestamp <;> rfl

/-- Every JSON text of the document of a notification is read as this notification. -/
theorem read?_of_isText {n : Notification} {body : String} (h : n.document.tree.IsText body) :
    read? body = some n := by
  rw [read?, read?_eq_some_iff.mpr h, Option.bind_eq_bind, Option.bind_some, ofTree?_tree]

theorem extract_of_read? {n : Notification} {body : String} (h : read? body = some n) :
    extract body = .ok n.message := by
  rw [extract, h]

theorem read?_text (n : Notification) : read? n.text = some n :=
  read?_of_isText n.document.isText_text

theorem extract_text (n : Notification) : extract n.text = .ok n.message :=
  extract_of_read? n.read?_text

/-- The time stamp of a notification as a JSON value: null where there is none. -/
def timestampValue (n : Notification) : JsonText :=
  match n.timestamp with
  | some time => .string (some time)
  | none => .null

theorem tree_document (n : Notification) : n.document.tree = .object [
    (some "Type", .string (some n.kind)), (some "MessageId", .string (some n.messageId)),
    (some "TopicArn", .string (some n.topicArn)), (some "Message", .string (some n.message)),
    (some "Timestamp", n.timestampValue)] := by
  obtain ⟨kind, messageId, topicArn, message, timestamp⟩ := n
  cases timestamp <;> rfl

/-- Notifications survive their JSON form, whatever their texts hold. What is written for one is a
JSON text of the object of its fields, in which the time stamp is null if there is none. From this
text, and from every other JSON text of this object, with other gaps and other escapes, the same
notification is read back, and its message is extracted. -/
theorem read_back (n : Notification) :
    let t : JsonText := .object [
      (some "Type", .string (some n.kind)), (some "MessageId", .string (some n.messageId)),
      (some "TopicArn", .string (some n.topicArn)), (some "Message", .string (some n.message)),
      (some "Timestamp", n.timestampValue)]
    t.IsText n.text ∧ read? n.text = some n ∧ extract n.text = .ok n.message ∧
      ∀ body, t.IsText body → read? body = some n ∧ extract body = .ok n.message := by
  intro t
  have htree : n.document.tree = t := n.tree_document
  refine ⟨htree ▸ n.document.isText_text, n.read?_text, n.extract_text, fun body hbody ↦ ?_⟩
  have hread : read? body = some n := read?_of_isText (htree ▸ hbody)
  exact ⟨hread, extract_of_read? hread⟩

/-- A notification without a time stamp, whose texts need escapes, with a gap in front of its
text. -/
theorem read_back_sample :
    let n : Notification := ⟨"", "a\"\\", "\x00\x1f\x7f", "😀\n", none⟩
    n.document.tree.IsText ("\n" ++ n.text) ∧ read? n.text = some n ∧
      extract n.text = .ok "😀\n" ∧ read? ("\n" ++ n.text) = some n ∧
      extract ("\n" ++ n.text) = .ok "😀\n" := by
  intro n
  have hgap : IsGap ['\n'] := List.forall_mem_singleton.mpr rfl
  obtain ⟨htext, hread, hextract, hall⟩ := read_back n
  have hpadded : n.document.tree.IsText ("\n" ++ n.text) := by
    rw [IsText, String.toList_append]
    exact htext.pad hgap
  exact ⟨hpadded, hread, hextract, hall _ hpadded⟩

section Unwrapping

variable {t : JsonText} {m : String} {kind messageId topicArn message timestamp : Option JsonText}

/-- Whether a field is missing or holds a text. -/
def MayHoldText (values : List JsonText) : Prop :=
  values = [] ∨ ∃ text, values = [.string (some text)]

/-- Whether a field is missing or holds a time stamp, which may be null. -/
def MayHoldTime (values : List JsonText) : Prop := MayHoldText values ∨ values = [.null]

/-- The JSON values that a message is unwrapped from: objects with the field of the message and no
field twice, and arrays of the values of the fields in the order of declaration. Only objects may
leave out the fields before the message. -/
inductive Unwraps : JsonText → String → Prop
  | object {members : List (Option String × JsonText)} {m : String}
    (hkeys : ∀ x ∈ members, x.1.isSome)
    (htexts : ∀ name ∈ ["Type", "MessageId", "TopicArn"], MayHoldText (valuesOf name members))
    (hmessage : valuesOf "Message" members = [.string (some m)])
    (htime : MayHoldTime (valuesOf "Timestamp" members)) : Unwraps (.object members) m
  | array {kind messageId topicArn m : String} {time : List JsonText} (htime : MayHoldTime time) :
    Unwraps (.array ([.string (some kind), .string (some messageId), .string (some topicArn),
      .string (some m)] ++ time)) m

theorem mayHoldText_singleton : MayHoldText [t] ↔ ∃ text, t = .string (some text) := by
  simp [MayHoldText]

theorem string?_eq_some_iff {text : String} : t.string? = some text ↔ t = .string (some text) := by
  cases t <;> simp [string?]

theorem exists_orDefault_iff {field : Option JsonText} :
    (∃ text, orDefault string? "" field = some text) ↔ MayHoldText field.toList := by
  cases field with
  | none => simp [orDefault, MayHoldText]
  | some t => simp [orDefault, MayHoldText, string?_eq_some_iff]

theorem exists_timestamp?_iff {field : Option JsonText} :
    (∃ time, timestamp? field = some time) ↔ MayHoldTime field.toList := by
  match field with
  | none => simp [timestamp?, MayHoldTime, MayHoldText]
  | some .null => simp [timestamp?, MayHoldTime]
  | some (.string text) => cases text <;> simp [timestamp?, string?, MayHoldTime, MayHoldText]
  | some (.bool _) | some (.number _) | some (.array _) | some (.object _) =>
    simp [timestamp?, string?, MayHoldTime, MayHoldText]

/-- What the fields of a record hold if a notification is read from it. -/
theorem exists_ofTree?_iff
    (h : t.record? fieldNames = some [kind, messageId, topicArn, message, timestamp]) :
    (∃ n, ofTree? t = some n ∧ n.message = m) ↔
      MayHoldText kind.toList ∧ MayHoldText messageId.toList ∧ MayHoldText topicArn.toList ∧
        message = some (.string (some m)) ∧ MayHoldTime timestamp.toList := by
  simp only [← exists_orDefault_iff, ← exists_timestamp?_iff]
  rw [ofTree?, h]
  cases message with
  | none => simp
  | some message =>
    simp only [Option.bind_eq_bind, Option.bind_some, Option.bind_eq_some_iff, Option.some.injEq,
      ← string?_eq_some_iff]
    constructor
    · rintro ⟨n, ⟨k, hk, i, hi, a, ha, m', hm, time, htime, rfl⟩, rfl⟩
      exact ⟨⟨k, hk⟩, ⟨i, hi⟩, ⟨a, ha⟩, hm, time, htime⟩
    · rintro ⟨⟨k, hk⟩, ⟨i, hi⟩, ⟨a, ha⟩, hm, time, htime⟩
      exact ⟨_, ⟨k, hk, i, hi, a, ha, m, hm, time, htime, rfl⟩, rfl⟩

theorem toList_head? {α : Type} {xs : List α} (h : xs.length ≤ 1) : xs.head?.toList = xs := by
  match xs, h with
  | [], _ => rfl
  | [_], _ => rfl

theorem MayHoldText.length_le_one {values : List JsonText} (h : MayHoldText values) :
    values.length ≤ 1 := by
  rcases h with rfl | ⟨text, rfl⟩ <;> simp

theorem MayHoldTime.length_le_one {values : List JsonText} (h : MayHoldTime values) :
    values.length ≤ 1 := by
  rcases h with h | rfl
  · exact h.length_le_one
  · simp

theorem record?_object_eq_some_iff {names : List String} {fields : List (Option JsonText)}
    {members : List (Option String × JsonText)} :
    (object members).record? names = some fields ↔
      (∀ x ∈ members, x.1.isSome) ∧ (∀ name ∈ names, (valuesOf name members).length ≤ 1) ∧
        names.map (fun name ↦ (valuesOf name members).head?) = fields := by
  simp [record?, and_assoc]

theorem exists_ofTree?_object_iff {members : List (Option String × JsonText)} :
    (∃ n, ofTree? (.object members) = some n ∧ n.message = m) ↔ Unwraps (.object members) m := by
  -- No field is there twice, so the first value under its name is all that there is.
  constructor
  · rintro ⟨n, hn, hm⟩
    obtain ⟨fields, hfields, -⟩ := Option.bind_eq_some_iff.mp hn
    obtain ⟨hkeys, hlength, rfl⟩ := record?_object_eq_some_iff.mp hfields
    have hlist (name : String) (hname : name ∈ fieldNames) := toList_head? (hlength name hname)
    obtain ⟨hkind, hid, harn, hmessage, htime⟩ := (exists_ofTree?_iff hfields).mp ⟨n, hn, hm⟩
    rw [hlist _ (by decide)] at hkind hid harn htime
    refine .object hkeys ?_ ?_ htime
    · simp [hkind, hid, harn]
    · have hmessage := congrArg Option.toList hmessage
      rwa [hlist _ (by decide)] at hmessage
  · rintro ⟨hkeys, htexts, hmessage, htime⟩
    simp only [List.forall_mem_cons, List.not_mem_nil] at htexts
    obtain ⟨hkind, hid, harn, -⟩ := htexts
    have hlength : ∀ name ∈ fieldNames, (valuesOf name members).length ≤ 1 := by
      simp [fieldNames, hkind.length_le_one, hid.length_le_one, harn.length_le_one, hmessage,
        htime.length_le_one]
    have hfields := record?_object_eq_some_iff.mpr ⟨hkeys, hlength, rfl⟩
    have hlist (name : String) (hname : name ∈ fieldNames) := toList_head? (hlength name hname)
    refine (exists_ofTree?_iff hfields).mpr ?_
    rw [hlist _ (by decide), hlist _ (by decide), hlist _ (by decide), hlist _ (by decide)]
    exact ⟨hkind, hid, harn, by simp [hmessage], htime⟩

theorem record?_array {kind messageId topicArn message : JsonText} {time : List JsonText}
    (h : time.length ≤ 1) :
    (array (kind :: messageId :: topicArn :: message :: time)).record? fieldNames =
      some [some kind, some messageId, some topicArn, some message, time.head?] := by
  match time, h with
  | [], _ => rfl
  | [_], _ => rfl

theorem exists_ofTree?_array_iff {elements : List JsonText} :
    (∃ n, ofTree? (.array elements) = some n ∧ n.message = m) ↔ Unwraps (.array elements) m := by
  constructor
  · rintro ⟨n, hn, hm⟩
    match elements, hn with
    | kind :: messageId :: topicArn :: message :: time, hn =>
      have hlength : time.length ≤ 1 := by
        obtain ⟨fields, hfields, -⟩ := Option.bind_eq_some_iff.mp hn
        rw [record?] at hfields
        split at hfields
        · next h =>
          simp only [List.length_cons, fieldNames, List.length_nil] at h
          omega
        · cases hfields
      obtain ⟨hkind, hid, harn, hmessage, htime⟩ :=
        (exists_ofTree?_iff (record?_array hlength)).mp ⟨n, hn, hm⟩
      obtain ⟨kind, rfl⟩ := mayHoldText_singleton.mp hkind
      obtain ⟨messageId, rfl⟩ := mayHoldText_singleton.mp hid
      obtain ⟨topicArn, rfl⟩ := mayHoldText_singleton.mp harn
      cases hmessage
      rw [toList_head? hlength] at htime
      exact .array htime
  · intro h
    cases h with
    | array htime =>
      refine (exists_ofTree?_iff (record?_array htime.length_le_one)).mpr ?_
      rw [toList_head? htime.length_le_one]
      exact ⟨.inr ⟨_, rfl⟩, .inr ⟨_, rfl⟩, .inr ⟨_, rfl⟩, rfl, htime⟩

theorem exists_ofTree?_iff_unwraps :
    (∃ n, ofTree? t = some n ∧ n.message = m) ↔ Unwraps t m := by
  cases t with
  | object members => exact exists_ofTree?_object_iff
  | array elements => exact exists_ofTree?_array_iff
  | null | bool | number | string =>
    constructor
    · rintro ⟨n, hn, -⟩
      cases hn
    · nofun

theorem extract_eq_ok_iff {body : String} :
    extract body = .ok m ↔ ∃ n, read? body = some n ∧ n.message = m := by
  rw [extract]
  cases read? body <;> simp

/-- A body is unwrapped exactly if it is a JSON text of a value that holds the fields of a
notification, and then to its message. Any other body is refused, as one that cannot be decoded. -/
theorem extracts_iff_unwraps (body : String) :
    (∀ m, extract body = .ok m ↔ ∃ t : JsonText, t.IsText body ∧ Unwraps t m) ∧
      (extract body = .error (.decode "body is not a topic notification") ↔
        ¬ ∃ (t : JsonText) (m : String), t.IsText body ∧ Unwraps t m) := by
  have hok (m : String) : extract body = .ok m ↔ ∃ t : JsonText, t.IsText body ∧ Unwraps t m := by
    rw [extract_eq_ok_iff, read?]
    simp only [Option.bind_eq_bind, Option.bind_eq_some_iff, ← read?_eq_some_iff,
      ← exists_ofTree?_iff_unwraps]
    constructor
    · rintro ⟨n, ⟨t, ht, hn⟩, hm⟩
      exact ⟨t, ht, n, hn, hm⟩
    · rintro ⟨t, ht, n, hn, hm⟩
      exact ⟨n, ⟨t, ht, hn⟩, hm⟩
  refine ⟨hok, ?_⟩
  rw [exists_comm]
  simp only [← hok, extract]
  cases read? body <;> simp [notNotification]

/-- An array is unwrapped, though it is no object. -/
theorem extracts_array :
    extract "[\"Notification\",\"m-1\",\"arn\",\"aGVsbG8=\"]" = .ok "aGVsbG8=" ∧
      ¬ ∃ members, (JsonText.object members).IsText
        "[\"Notification\",\"m-1\",\"arn\",\"aGVsbG8=\"]" := by
  have hread : JsonText.read? "[\"Notification\",\"m-1\",\"arn\",\"aGVsbG8=\"]" =
      some (.array [.string (some "Notification"), .string (some "m-1"), .string (some "arn"),
        .string (some "aGVsbG8=")]) := by
    cbv
  constructor
  · rw [extract, read?, hread]
    rfl
  · rintro ⟨members, h⟩
    rw [← read?_eq_some_iff, hread] at h
    cases h

end Unwrapping

end MessageBus.Notification
