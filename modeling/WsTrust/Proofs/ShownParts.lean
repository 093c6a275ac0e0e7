import WsTrust.Proofs.MappedFragments
import WsTrust.Proofs.PrefixedMessages
import WsTrust.Proofs.ShownFragments

/-!
# What the parts of a message are shown as

Most parts are shown as objects with fixed names, some of them with a word for
the kind of the part in front.  Each part is told by what it is shown as, but for
the prefixes in its fragments and attributes.
-/

namespace WsTrust

open Json

/-! ## Values without names -/

theorem Uri.tells_toJson : Tells Uri.toJson :=
  fun _ _ same => congrArg Uri.mk same.string_inj

theorem Timestamp.tells_text :
    Tells fun moment : Timestamp => Json.string moment.text :=
  fun _ _ same => congrArg Timestamp.mk same.string_inj

theorem Lifetime.tells_toJson : Tells toJson := by
  intro left right same
  have shown (span : Lifetime) :
      span.toJson =
        .object (ofSlots ["created", "expires"]
          [span.created.map fun created => .string created.text,
            some (.string span.expires.text)]) := rfl
  rw [shown, shown] at same
  have slots := same.slots (by decide) rfl rfl
  simp only [List.forall₂_cons, Option.rel_some_some] at slots
  obtain ⟨created, expires, -⟩ := slots
  have sameCreated := Timestamp.tells_text.option created
  have sameExpires := Timestamp.tells_text _ _ expires
  exact congr (congrArg Lifetime.mk sameCreated) sameExpires

namespace BinarySecret

def shownValue (secret : BinarySecret) : Json :=
  .array (secret.value.map fun byte => .number byte.toNat)

/-- A secret is told by the two things that are shown of it. -/
theorem eq_of_same
    {left right : BinarySecret}
    (types : Option.Rel Same (left.type.map .string) (right.type.map .string))
    (values : Same left.shownValue right.shownValue) :
    left = right := by
  have bytes : Tells fun byte : UInt8 => Json.number byte.toNat :=
    fun _ _ same => UInt8.toNat_inj.mp same.number_inj
  have sameType := tells_string.option types
  have sameValue := bytes.list values.items
  exact congr (congrArg BinarySecret.mk sameType) sameValue

theorem tells_fields :
    Tells fun secret : BinarySecret => Json.object secret.jsonFields := by
  intro left right same
  have shown (secret : BinarySecret) :
      secret.jsonFields =
        ofSlots ["type", "value"]
          [secret.type.map .string, some secret.shownValue] := rfl
  simp only [shown] at same
  have slots := same.slots (by decide) rfl rfl
  simp only [List.forall₂_cons, Option.rel_some_some] at slots
  obtain ⟨types, values, -⟩ := slots
  exact eq_of_same types values

end BinarySecret

theorem Entropy.tells_toJson : Tells toJson := by
  intro left right same
  have shown (entropy : Entropy) :
      entropy.toJson =
        .object (ofSlots ["binary_secret"]
          [entropy.binarySecret.map fun secret =>
            .object secret.jsonFields]) := by
    simp [toJson, ofSlots]
  rw [shown, shown] at same
  have slots := same.slots (by decide) rfl rfl
  rw [List.forall₂_cons] at slots
  exact congrArg Entropy.mk (BinarySecret.tells_fields.option slots.1)

namespace ProofToken

def kindName : ProofToken → String
  | .binarySecret _ => "binary_secret"
  | .computedKey _ => "computed_key"
  | .none => "none"

def slots : ProofToken → List (Option Json)
  | .binarySecret secret =>
      [secret.type.map .string, some secret.shownValue, .none]
  | .computedKey algorithm => [.none, .none, some (.string algorithm)]
  | .none => [.none, .none, .none]

theorem toJson_eq (proof : ProofToken) :
    proof.toJson =
      .object (ofSlots ["kind", "type", "value", "algorithm"]
        (some (.string proof.kindName) :: proof.slots)) := by
  cases proof <;> rfl

theorem tells_toJson : Tells toJson := by
  intro left right same
  rw [toJson_eq, toJson_eq] at same
  have shown :=
    same.slots (by decide) (by cases left <;> rfl) (by cases right <;> rfl)
  rw [List.forall₂_cons, Option.rel_some_some] at shown
  obtain ⟨kinds, behind⟩ := shown
  have sameKind : left.kindName = right.kindName := kinds.string_inj
  cases left with
  | binarySecret secret =>
      cases right with
      | binarySecret other =>
          simp only [slots, List.forall₂_cons, Option.rel_some_some] at behind
          obtain ⟨types, values, -⟩ := behind
          exact congrArg binarySecret (BinarySecret.eq_of_same types values)
      | _ => simp [kindName] at sameKind
  | computedKey algorithm =>
      cases right with
      | computedKey other =>
          simp only [slots, List.forall₂_cons, Option.rel_some_some] at behind
          exact congrArg computedKey behind.2.2.1.string_inj
      | _ => simp [kindName] at sameKind
  | none =>
      cases right with
      | none => rfl
      | _ => simp [kindName] at sameKind

end ProofToken

theorem Status.tells_toJson : Tells toJson := by
  intro left right same
  have shown (status : Status) :
      status.toJson =
        .object (ofSlots ["code", "reason"]
          [some (.string status.code), some (.string status.reason)]) := rfl
  rw [shown, shown] at same
  have slots := same.slots (by decide) rfl rfl
  simp only [List.forall₂_cons, Option.rel_some_some] at slots
  obtain ⟨codes, reasons, -⟩ := slots
  exact congr (congrArg Status.mk codes.string_inj) reasons.string_inj

theorem Renewing.tells_toJson : Tells toJson := by
  intro left right same
  have shown (renewing : Renewing) :
      renewing.toJson =
        .object (ofSlots ["allow", "ok"]
          [some (.boolean renewing.allow), some (.boolean renewing.ok)]) := rfl
  rw [shown, shown] at same
  have slots := same.slots (by decide) rfl rfl
  simp only [List.forall₂_cons, Option.rel_some_some] at slots
  obtain ⟨permissions, expirations, -⟩ := slots
  exact congr (congrArg Renewing.mk permissions.boolean_inj)
    expirations.boolean_inj

/-! ## Prefixes -/

@[simp]
theorem Element.toJson_erasePrefixes (element : Element) :
    element.erasePrefixes.toJson = element.toJson :=
  element.toNode.toJson_erasePrefixes

@[simp]
theorem AttributeMap.toJson_erasePrefixes (map : AttributeMap) :
    map.erasePrefixes.toJson = map.toJson := by
  simp [toJson, erasePrefixes, Function.comp_def]

@[simp]
theorem RequestedToken.toJson_mapFragments (token : RequestedToken) :
    (token.mapFragments Element.erasePrefixes).toJson = token.toJson := by
  simp [toJson, mapFragments, Function.comp_def]

@[simp]
theorem AppliesTo.toJson_mapFragments (party : AppliesTo) :
    (party.mapFragments Element.erasePrefixes).toJson = party.toJson := by
  cases party <;> simp [toJson, mapFragments]

/-! ## Parts with fragments -/

theorem reveals_wrappedJson :
    Reveals Element.IsBraceless wrappedJson Element.erasePrefixes := by
  intro left right leftBraceless rightBraceless same
  have shown (fragment : Element) :
      wrappedJson fragment =
        .object (ofSlots ["any"] [some fragment.toJson]) := rfl
  rw [shown, shown] at same
  have slots := same.slots (by decide) rfl rfl
  rw [List.forall₂_cons, Option.rel_some_some] at slots
  exact Element.reveals_toJson _ _ leftBraceless rightBraceless slots.1

theorem OnBehalfOf.reveals_wrappedJson :
    Reveals
      (fun delegation =>
        ∀ fragment ∈ (Term.onBehalfOf delegation).fragments,
          fragment.IsBraceless)
      (fun delegation => wrappedJson delegation.any)
      (OnBehalfOf.mapFragments Element.erasePrefixes) := by
  intro left right leftBraceless rightBraceless same
  have leftContent := leftBraceless left.any List.mem_cons_self
  have rightContent := rightBraceless right.any List.mem_cons_self
  exact congrArg OnBehalfOf.mk <|
    WsTrust.reveals_wrappedJson _ _ leftContent rightContent same

theorem UseKey.reveals_wrappedJson :
    Reveals
      (fun key =>
        ∀ fragment ∈ (Term.useKey key).fragments, fragment.IsBraceless)
      (fun key => wrappedJson key.any)
      (UseKey.mapFragments Element.erasePrefixes) := by
  intro left right leftBraceless rightBraceless same
  have leftContent := leftBraceless left.any List.mem_cons_self
  have rightContent := rightBraceless right.any List.mem_cons_self
  exact congrArg UseKey.mk <|
    WsTrust.reveals_wrappedJson _ _ leftContent rightContent same

theorem RequestedToken.reveals_toJson :
    Reveals (fun token => ∀ fragment ∈ token.any, fragment.IsBraceless)
      RequestedToken.toJson
      (RequestedToken.mapFragments Element.erasePrefixes) := by
  intro left right leftBraceless rightBraceless same
  have shown (token : RequestedToken) :
      token.toJson =
        .object (ofSlots ["any"]
          [some (.array (token.any.map Element.toJson))]) := rfl
  rw [shown, shown] at same
  have slots := same.slots (by decide) rfl rfl
  rw [List.forall₂_cons, Option.rel_some_some] at slots
  exact congrArg RequestedToken.mk <|
    Element.reveals_toJson.list leftBraceless rightBraceless slots.1.items

namespace AppliesTo

def kindName : AppliesTo → String
  | .endpointReference _ => "endpoint_reference"
  | .value _ => "value"
  | .fragment _ => "fragment"

def shownValue : AppliesTo → Json
  | .endpointReference address => .object [("address", .string address)]
  | .value text => .string text
  | .fragment content => content.toJson

theorem toJson_eq (party : AppliesTo) :
    party.toJson =
      .object (ofSlots ["kind", "value"]
        [some (.string party.kindName), some party.shownValue]) := by
  cases party <;> rfl

theorem reveals_toJson :
    Reveals
      (fun party =>
        ∀ fragment ∈ (Term.appliesTo party).fragments, fragment.IsBraceless)
      toJson (mapFragments Element.erasePrefixes) := by
  intro left right leftBraceless rightBraceless same
  rw [toJson_eq, toJson_eq] at same
  have slots := same.slots (by decide) rfl rfl
  simp only [List.forall₂_cons, Option.rel_some_some] at slots
  obtain ⟨kinds, values, -⟩ := slots
  have sameKind : left.kindName = right.kindName := kinds.string_inj
  cases left with
  | endpointReference address =>
      cases right with
      | endpointReference other =>
          have addresses := values.lookup "address"
          have sameAddress : Same (.string address) (.string other) :=
            Option.rel_some_some.mp addresses
          exact congrArg endpointReference sameAddress.string_inj
      | _ => simp [kindName] at sameKind
  | value text =>
      cases right with
      | value other => exact congrArg value values.string_inj
      | _ => simp [kindName] at sameKind
  | fragment content =>
      cases right with
      | fragment other =>
          have contentBraceless : content.IsBraceless :=
            leftBraceless content List.mem_cons_self
          have otherBraceless : other.IsBraceless :=
            rightBraceless other List.mem_cons_self
          exact congrArg fragment <|
            Element.reveals_toJson _ _ contentBraceless otherBraceless values
      | _ => simp [kindName] at sameKind

end AppliesTo

namespace TokenReference

def withoutPrefixes (reference : TokenReference) : TokenReference :=
  (reference.mapFragments Element.erasePrefixes).erasePrefixes

@[simp]
theorem toWrappedJson_withoutPrefixes (reference : TokenReference) :
    reference.withoutPrefixes.toWrappedJson = reference.toWrappedJson := by
  simp [toWrappedJson, toJson, withoutPrefixes, erasePrefixes, mapFragments,
    Function.comp_def]

structure IsBraceless (reference : TokenReference) : Prop where
  attributes : reference.otherAttributes.IsBraceless
  fragments : ∀ fragment ∈ reference.any, fragment.IsBraceless

theorem reveals_toJson : Reveals IsBraceless toJson withoutPrefixes := by
  intro left right leftValid rightValid same
  have shown (reference : TokenReference) :
      reference.toJson =
        .object (ofSlots ["id", "usage", "other_attributes", "any"]
          [reference.id.map .string, reference.usage.map .string,
            some reference.otherAttributes.toJson,
            some (.array (reference.any.map Element.toJson))]) := by
    rw [toJson, List.append_assoc]
    rfl
  rw [shown, shown] at same
  have slots := same.slots (by decide) rfl rfl
  simp only [List.forall₂_cons, Option.rel_some_some] at slots
  obtain ⟨ids, usages, attributes, fragments, -⟩ := slots
  have sameId := tells_string.option ids
  have sameUsage := tells_string.option usages
  have sameAttributes :=
    AttributeMap.reveals_toJson _ _ leftValid.attributes
      rightValid.attributes attributes
  have sameFragments :=
    Element.reveals_toJson.list leftValid.fragments rightValid.fragments
      fragments.items
  simp only [withoutPrefixes, erasePrefixes, mapFragments, mk.injEq]
  exact ⟨sameId, sameUsage, sameAttributes, sameFragments⟩

theorem reveals_toWrappedJson :
    Reveals IsBraceless toWrappedJson withoutPrefixes := by
  intro left right leftValid rightValid same
  have shown (reference : TokenReference) :
      reference.toWrappedJson =
        .object (ofSlots ["security_token_reference"]
          [some reference.toJson]) := rfl
  rw [shown, shown] at same
  have slots := same.slots (by decide) rfl rfl
  rw [List.forall₂_cons, Option.rel_some_some] at slots
  exact reveals_toJson _ _ leftValid rightValid slots.1

end TokenReference

end WsTrust
