import MessageBus.Policy
import MessageBus.Proofs.Json.RoundTrip
import MessageBus.Proofs.Text.Decimal
import MessageBus.Proofs.Text.Split
/-!
Policies are read back from their texts. A redrive policy is, as long as its count is a half word
(`Redrive.read?_text`). An access policy is JSON, and says the resource and the value of the
condition that it was written with (`Policy.says_text`); there is one for a topic exactly if its ARN
has a field for the account (`Policy.topicAccess_eq_error_iff`).
-/

set_option autoImplicit false
set_option relaxedAutoImplicit false

namespace MessageBus

namespace Redrive

theorem read?_text (r : Redrive) (h : r.maxReceiveCount < halfWordBound) :
    read? r.text = some r := by
  obtain ⟨target, count⟩ := r
  rw [read?, text, JsonText.readValue?, JsonDocument.read?_text]
  have hcount : count? (.string (some (Decimal.text count))) = some count := by
    rw [count?, Decimal.text, String.toList_ofList, Decimal.plusNat?_ofNat, Option.filter_some]
    exact if_pos (decide_eq_true h)
  change (count? (.string (some (Decimal.text count)))).bind _ = _
  rw [hcount]
  rfl

end Redrive

namespace Policy

/-- The statement of a policy that has only one. -/
def statement? (policy : String) : Option JsonText := do
  match ← (← JsonText.readValue? policy).member? "Statement" with
  | .array [statement] => some statement
  | _ => none

/-- What the statement of a policy is about. -/
def resource? (policy : String) : Option String := do
  (← (← statement? policy).member? "Resource").string?

/-- The value that a condition of the statement asks for. -/
def condition? (policy operator key : String) : Option String := do
  (← (← (← (← statement? policy).member? "Condition").member? operator).member? key).string?

/-- Whether a text is a JSON text of a policy of one statement, which is about a resource and asks
for a value under a key of one condition. -/
structure Says (policy resource operator key value : String) : Prop where
  json : ∃ t : JsonText, t.IsText policy ∧ t.denotesValue
  resource : resource? policy = some resource
  condition : condition? policy operator key = some value

theorem Says.isSome_readValue? {policy resource operator key value : String}
    (h : Says policy resource operator key value) : (JsonText.readValue? policy).isSome := by
  obtain ⟨t, ht⟩ := h.json
  rw [JsonText.readValue?_eq_some_iff.mpr ht]
  rfl

theorem elementsDenoteWithin_strings (depth : Nat) (texts : List String) :
    JsonText.elementsDenoteWithin depth (JsonDocument.treeElements (texts.map .string)) := by
  induction texts with
  | nil => cases depth <;> rfl
  | cons text texts ih =>
    rw [List.map_cons, JsonDocument.treeElements, JsonText.elementsDenoteWithin, ih]
    cases depth <;> rfl

/-- What is written for a policy is read as this policy. -/
theorem says_text (version id sid : String) (actions : List String)
    (resource who whom operator key value : String) :
    Says (document version id sid actions resource (.object [(who, .string whom)])
      (.object [(operator, .object [(key, .string value)])])).text resource operator key value := by
  let d := document version id sid actions resource (.object [(who, .string whom)])
    (.object [(operator, .object [(key, .string value)])])
  have hread : JsonText.readValue? d.text = some d.tree := by
    rw [JsonText.readValue?, JsonDocument.read?_text, Option.filter_some]
    refine if_pos ?_
    simp [d, document, JsonDocument.tree, JsonDocument.treeMembers, JsonDocument.treeElements,
      JsonText.denotesValue, JsonText.maxDepth, JsonText.denotesWithin,
      JsonText.elementsDenoteWithin, JsonText.membersDenoteWithin, elementsDenoteWithin_strings]
  refine ⟨⟨d.tree, JsonText.readValue?_eq_some_iff.mp hread⟩, ?_, ?_⟩
  · rw [resource?, statement?, hread]
    rfl
  · rw [condition?, statement?, hread]
    simp [d, document, JsonDocument.tree, JsonDocument.treeMembers, JsonDocument.treeElements,
      JsonText.member?, JsonText.string?]

section Account

variable {topicArn : String} {account : List Char}

theorem accountOfArn_eq_ok (h : (topicArn.toList.splitOn ':')[4]? = some account) :
    accountOfArn topicArn = .ok (String.ofList account) := by
  rw [accountOfArn, splitAtChar_eq_splitOn, h]

theorem accountOfArn_eq_error (h : (topicArn.toList.splitOn ':').length < 5) :
    accountOfArn topicArn = .error (.resolution ("invalid arn: " ++ topicArn)) := by
  rw [accountOfArn, splitAtChar_eq_splitOn, List.getElem?_eq_none (by omega)]

end Account

theorem exists_topicAccess {topicArn account : String} (h : accountOfArn topicArn = .ok account)
    (id sid : String) : ∃ policy, topicAccess id sid topicArn = .ok policy ∧
      Says policy topicArn "StringEquals" "AWS:SourceOwner" account := by
  refine ⟨_, by rw [topicAccess, h]; rfl, says_text ..⟩

/-- There is no access policy exactly if the ARN of the topic has no fifth field. -/
theorem topicAccess_eq_error_iff {id sid topicArn : String} :
    topicAccess id sid topicArn = .error (.resolution ("invalid arn: " ++ topicArn)) ↔
      (topicArn.toList.splitOn ':').length < 5 := by
  refine ⟨fun hrefused ↦ ?_, fun hshort ↦ ?_⟩
  · by_contra hlong
    have haccount : (topicArn.toList.splitOn ':')[4]? = some _ :=
      List.getElem?_eq_getElem (by omega)
    obtain ⟨policy, hok, -⟩ := exists_topicAccess (accountOfArn_eq_ok haccount) id sid
    cases hrefused.symm.trans hok
  · rw [topicAccess, accountOfArn_eq_error hshort]
    rfl

theorem says_queueAccess (id sid topicArn queueArn : String) :
    Says (queueAccess id sid topicArn queueArn) queueArn "ArnEquals" "AWS:SourceArn" topicArn :=
  says_text ..

end Policy

end MessageBus
