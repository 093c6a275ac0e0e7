import WsTrust.Proofs.JsonText
import WsTrust.Proofs.PrefixedMessages
import WsTrust.Proofs.ShownParts

/-!
# What messages are shown as

A message is told by what it is shown as, but for its prefixes, provided that no
local part contains a brace: its kind, its records in their order, which of
their fields are set, and the values of these.
-/

namespace WsTrust

open Json

/-! ## Terms -/

namespace Terms

def Field.shownName : Field → String
  | .context => "context"
  | .requestType => "request_type"
  | .tokenType => "token_type"
  | .keyType => "key_type"
  | .lifetime => "lifetime"
  | .onBehalfOf => "on_behalf_of"
  | .keySize => "key_size"
  | .entropy => "entropy"
  | .useKey => "use_key"
  | .renewing => "renewing"
  | .appliesTo => "applies_to"

def shown (terms : Terms) : Field → Option Json
  | .context => some (.string terms.context)
  | .requestType => terms.requestType.map Uri.toJson
  | .tokenType => terms.tokenType.map Uri.toJson
  | .keyType => terms.keyType.map Uri.toJson
  | .lifetime => terms.lifetime.map Lifetime.toJson
  | .onBehalfOf =>
      terms.onBehalfOf.map fun delegation => wrappedJson delegation.any
  | .keySize => terms.keySize.map .number
  | .entropy => terms.entropy.map Entropy.toJson
  | .useKey => terms.useKey.map fun key => wrappedJson key.any
  | .renewing => terms.renewing.map Renewing.toJson
  | .appliesTo => terms.appliesTo.map AppliesTo.toJson

def IsBraceless (terms : Terms) : Prop :=
  ∀ field term, terms.stated? field = some term →
    ∀ fragment ∈ term.fragments, fragment.IsBraceless

/-- The fragments of what a field holds are fragments of the terms. -/
theorem IsBraceless.held
    {terms : Terms} (braceless : terms.IsBraceless) {Value : Type}
    (field : Field) (ofValue : Value → Term) {held : Option Value}
    (stated : terms.stated? field = held.map ofValue)
    (value : Value) (present : held = some value) :
    ∀ fragment ∈ (ofValue value).fragments, fragment.IsBraceless := by
  rw [present] at stated
  exact braceless field (ofValue value) stated

theorem shown_mapFragments (terms : Terms) (field : Field) :
    (terms.mapFragments Element.erasePrefixes).shown field =
      terms.shown field := by
  cases field <;>
    simp [shown, mapFragments, OnBehalfOf.mapFragments, UseKey.mapFragments,
      wrappedJson, Function.comp_def]

/-- Terms are told by what is shown of each field, but for prefixes. -/
theorem mapFragments_eq_of_shown
    {left right : Terms} (leftBraceless : left.IsBraceless)
    (rightBraceless : right.IsBraceless)
    (same : ∀ field,
      Option.Rel Same (left.shown field) (right.shown field)) :
    left.mapFragments Element.erasePrefixes =
      right.mapFragments Element.erasePrefixes := by
  apply ext_get
  intro field
  have shown := same field
  cases field with
  | context => exact (Option.rel_some_some.mp shown).string_inj
  | requestType => exact Uri.tells_toJson.option shown
  | tokenType => exact Uri.tells_toJson.option shown
  | keyType => exact Uri.tells_toJson.option shown
  | lifetime => exact Lifetime.tells_toJson.option shown
  | onBehalfOf =>
      exact OnBehalfOf.reveals_wrappedJson.option
        (leftBraceless.held .onBehalfOf .onBehalfOf rfl)
        (rightBraceless.held .onBehalfOf .onBehalfOf rfl) shown
  | keySize => exact tells_number.option shown
  | entropy => exact Entropy.tells_toJson.option shown
  | useKey =>
      exact UseKey.reveals_wrappedJson.option
        (leftBraceless.held .useKey .useKey rfl)
        (rightBraceless.held .useKey .useKey rfl) shown
  | renewing => exact Renewing.tells_toJson.option shown
  | appliesTo =>
      exact AppliesTo.reveals_toJson.option
        (leftBraceless.held .appliesTo .appliesTo rfl)
        (rightBraceless.held .appliesTo .appliesTo rfl) shown

end Terms

/-! ## Requests -/

namespace Request

def Field.shownName : Field → String
  | .term field => field.shownName
  | .computedKeyAlgorithm => "computed_key_algorithm"
  | .signatureAlgorithm => "signature_algorithm"
  | .encryptionAlgorithm => "encryption_algorithm"
  | .canonicalizationAlgorithm => "canonicalization_algorithm"
  | .validateTarget => "validate_target"
  | .renewTarget => "renew_target"
  | .cancelTarget => "cancel_target"

def shown (request : Request) : Field → Option Json
  | .term field => request.toTerms.shown field
  | .computedKeyAlgorithm => request.computedKeyAlgorithm.map Uri.toJson
  | .signatureAlgorithm => request.signatureAlgorithm.map Uri.toJson
  | .encryptionAlgorithm => request.encryptionAlgorithm.map Uri.toJson
  | .canonicalizationAlgorithm =>
      request.canonicalizationAlgorithm.map Uri.toJson
  | .validateTarget => request.validateTarget.map Element.toJson
  | .renewTarget => request.renewTarget.map Element.toJson
  | .cancelTarget => request.cancelTarget.map Element.toJson

def shownOrder : List Field :=
  [.term .context, .term .requestType, .term .tokenType, .term .keyType,
    .term .appliesTo, .term .lifetime, .term .onBehalfOf, .term .keySize,
    .term .entropy, .term .useKey, .term .renewing, .computedKeyAlgorithm,
    .signatureAlgorithm, .encryptionAlgorithm, .canonicalizationAlgorithm,
    .validateTarget, .renewTarget, .cancelTarget]

theorem mem_shownOrder (field : Field) : field ∈ shownOrder := by
  cases field with
  | term field => cases field <;> decide
  | _ => decide

theorem toJson_eq (request : Request) :
    request.toJson =
      .object (ofRecord shownOrder Field.shownName request.shown) := by
  simp [toJson, ofRecord, shownOrder, ofSlots, shown, Terms.shown,
    Field.shownName, Terms.Field.shownName, Json.optional]

def IsBraceless (request : Request) : Prop :=
  ∀ child ∈ request.children, ∀ fragment ∈ child.fragments,
    fragment.IsBraceless

section Fragments

variable {request : Request} (braceless : request.IsBraceless)

include braceless

theorem IsBraceless.stated
    {field : Field} {child : RequestChild}
    (stated : request.stated? field = some child) :
    ∀ fragment ∈ child.fragments, fragment.IsBraceless :=
  braceless child
    (List.mem_filterMap.mpr ⟨field, Field.mem_all field, stated⟩)

theorem IsBraceless.terms : request.toTerms.IsBraceless := by
  intro field term termStated
  have stated : request.stated? (.term field) = some (.term term) := by
    rw [stated?, termStated]
    rfl
  exact braceless.stated stated

/-- The target that a field holds is a fragment of the request. -/
theorem IsBraceless.target
    (field : Field) (ofTarget : Element → RequestChild)
    {held : Option Element}
    (stated : request.stated? field = held.map ofTarget)
    (kept : ∀ token, (ofTarget token).fragments = [token])
    (token : Element) (present : held = some token) :
    token.IsBraceless := by
  rw [present] at stated
  apply braceless.stated stated
  simp [kept]

end Fragments

theorem toJson_mapFragments (request : Request) :
    (request.mapFragments Element.erasePrefixes).toJson = request.toJson := by
  have fields :
      (request.mapFragments Element.erasePrefixes).shown = request.shown := by
    funext field
    cases field with
    | term field => exact request.toTerms.shown_mapFragments field
    | _ => simp [shown, mapFragments, Function.comp_def]
  rw [toJson_eq, toJson_eq, fields]

/-- A request is told by what it is shown as, but for prefixes. -/
theorem reveals_toJson :
    Reveals IsBraceless toJson (mapFragments Element.erasePrefixes) := by
  intro left right leftBraceless rightBraceless same
  rw [toJson_eq, toJson_eq] at same
  have fields (field : Field) :
      Option.Rel Same (left.shown field) (right.shown field) :=
    same.record (by decide) (mem_shownOrder field)
  have terms :
      left.toTerms.mapFragments Element.erasePrefixes =
        right.toTerms.mapFragments Element.erasePrefixes :=
    Terms.mapFragments_eq_of_shown leftBraceless.terms rightBraceless.terms
      fun field => fields (.term field)
  apply ext_get
  intro field
  have shown := fields field
  cases field with
  | term field => exact congrArg (·.get field) terms
  | computedKeyAlgorithm => exact Uri.tells_toJson.option shown
  | signatureAlgorithm => exact Uri.tells_toJson.option shown
  | encryptionAlgorithm => exact Uri.tells_toJson.option shown
  | canonicalizationAlgorithm => exact Uri.tells_toJson.option shown
  | validateTarget =>
      exact Element.reveals_toJson.option
        (leftBraceless.target .validateTarget .validateTarget rfl fun _ => rfl)
        (rightBraceless.target .validateTarget .validateTarget rfl fun _ => rfl)
        shown
  | renewTarget =>
      exact Element.reveals_toJson.option
        (leftBraceless.target .renewTarget .renewTarget rfl fun _ => rfl)
        (rightBraceless.target .renewTarget .renewTarget rfl fun _ => rfl)
        shown
  | cancelTarget =>
      exact Element.reveals_toJson.option
        (leftBraceless.target .cancelTarget .cancelTarget rfl fun _ => rfl)
        (rightBraceless.target .cancelTarget .cancelTarget rfl fun _ => rfl)
        shown

end Request

/-! ## Responses -/

namespace Response

def Field.shownName : Field → String
  | .term field => field.shownName
  | .cancelled => "requested_token_cancelled"
  | .proofToken => "requested_proof_token"
  | .requestedToken => "requested_security_token"
  | .attachedReference => "requested_attached_reference"
  | .unattachedReference => "requested_unattached_reference"
  | .status => "status"

def shown (response : Response) : Field → Option Json
  | .term field => response.toTerms.shown field
  | .cancelled => some (.boolean response.cancelled)
  | .proofToken => response.proofToken.map ProofToken.toJson
  | .requestedToken => response.requestedToken.map RequestedToken.toJson
  | .attachedReference =>
      response.attachedReference.map TokenReference.toWrappedJson
  | .unattachedReference =>
      response.unattachedReference.map TokenReference.toWrappedJson
  | .status => response.status.map Status.toJson

def shownOrder : List Field :=
  [.term .context, .term .requestType, .term .tokenType, .term .keyType,
    .term .lifetime, .term .onBehalfOf, .term .keySize, .term .entropy,
    .term .useKey, .cancelled, .proofToken, .requestedToken,
    .attachedReference, .unattachedReference, .status, .term .renewing,
    .term .appliesTo]

theorem mem_shownOrder (field : Field) : field ∈ shownOrder := by
  cases field with
  | term field => cases field <;> decide
  | _ => decide

theorem toJson_eq (response : Response) :
    response.toJson =
      .object (ofRecord shownOrder Field.shownName response.shown) := by
  simp [toJson, ofRecord, shownOrder, ofSlots, shown, Terms.shown,
    Field.shownName, Terms.Field.shownName, Json.optional]

def references (response : Response) : List TokenReference :=
  response.attachedReference.toList ++ response.unattachedReference.toList

def withoutPrefixes (response : Response) : Response :=
  { response.mapFragments Element.erasePrefixes with
    attachedReference :=
      response.attachedReference.map TokenReference.withoutPrefixes
    unattachedReference :=
      response.unattachedReference.map TokenReference.withoutPrefixes }

structure IsBraceless (response : Response) : Prop where
  fragments : ∀ child ∈ response.children, ∀ fragment ∈ child.fragments,
    fragment.IsBraceless
  attributes : ∀ reference ∈ response.references,
    reference.otherAttributes.IsBraceless

section Fragments

variable {response : Response} (valid : response.IsBraceless)

include valid

theorem IsBraceless.stated
    {field : Field} {child : ResponseChild}
    (stated : response.stated? field = some child) :
    ∀ fragment ∈ child.fragments, fragment.IsBraceless :=
  valid.fragments child
    (List.mem_filterMap.mpr ⟨field, Field.mem_all field, stated⟩)

theorem IsBraceless.terms : response.toTerms.IsBraceless := by
  intro field term termStated
  have stated : response.stated? (.term field) = some (.term term) := by
    rw [stated?, termStated]
    rfl
  exact valid.stated stated

/-- The fragments of what a field holds are fragments of the response. -/
theorem IsBraceless.held
    {Value : Type} (field : Field) (ofValue : Value → ResponseChild)
    {held : Option Value}
    (stated : response.stated? field = held.map ofValue)
    (value : Value) (present : held = some value) :
    ∀ fragment ∈ (ofValue value).fragments, fragment.IsBraceless := by
  rw [present] at stated
  exact valid.stated stated

theorem IsBraceless.reference
    {reference : TokenReference} (listed : reference ∈ response.references)
    (fragments : ∀ fragment ∈ reference.any, fragment.IsBraceless) :
    reference.IsBraceless :=
  ⟨valid.attributes reference listed, fragments⟩

theorem IsBraceless.attachedReference
    (reference : TokenReference)
    (present : response.attachedReference = some reference) :
    reference.IsBraceless := by
  have listed : reference ∈ response.references := by
    simp [references, present]
  apply valid.reference listed
  exact valid.held .attachedReference .attachedReference rfl reference present

theorem IsBraceless.unattachedReference
    (reference : TokenReference)
    (present : response.unattachedReference = some reference) :
    reference.IsBraceless := by
  have listed : reference ∈ response.references := by
    simp [references, present]
  apply valid.reference listed
  exact valid.held .unattachedReference .unattachedReference rfl reference
    present

end Fragments

theorem toJson_withoutPrefixes (response : Response) :
    response.withoutPrefixes.toJson = response.toJson := by
  have fields : response.withoutPrefixes.shown = response.shown := by
    funext field
    cases field with
    | term field => exact response.toTerms.shown_mapFragments field
    | _ => simp [shown, withoutPrefixes, mapFragments, Function.comp_def]
  rw [toJson_eq, toJson_eq, fields]

/-- A response is told by what it is shown as, but for prefixes. -/
theorem reveals_toJson : Reveals IsBraceless toJson withoutPrefixes := by
  intro left right leftValid rightValid same
  rw [toJson_eq, toJson_eq] at same
  have fields (field : Field) :
      Option.Rel Same (left.shown field) (right.shown field) :=
    same.record (by decide) (mem_shownOrder field)
  have terms :
      left.toTerms.mapFragments Element.erasePrefixes =
        right.toTerms.mapFragments Element.erasePrefixes :=
    Terms.mapFragments_eq_of_shown leftValid.terms rightValid.terms
      fun field => fields (.term field)
  apply ext_get
  intro field
  have shown := fields field
  cases field with
  | term field => exact congrArg (·.get field) terms
  | cancelled => exact (Option.rel_some_some.mp shown).boolean_inj
  | proofToken => exact ProofToken.tells_toJson.option shown
  | requestedToken =>
      exact RequestedToken.reveals_toJson.option
        (leftValid.held .requestedToken .requestedToken rfl)
        (rightValid.held .requestedToken .requestedToken rfl) shown
  | attachedReference =>
      exact TokenReference.reveals_toWrappedJson.option
        leftValid.attachedReference rightValid.attachedReference shown
  | unattachedReference =>
      exact TokenReference.reveals_toWrappedJson.option
        leftValid.unattachedReference rightValid.unattachedReference shown
  | status => exact Status.tells_toJson.option shown

end Response

/-! ## Messages -/

namespace Payload

def typeName : Payload → String
  | .request _ => "request"
  | .requestCollection _ => "request_collection"
  | .response _ => "response"
  | .responseCollection _ => "response_collection"

def shownRecords : Payload → Json
  | .request single => single.toJson
  | .requestCollection members => .array (members.map Request.toJson)
  | .response single => single.toJson
  | .responseCollection members => .array (members.map Response.toJson)

theorem toJson_eq (payload : Payload) :
    payload.toJson =
      .object (ofSlots ["type", "payload"]
        [some (.string payload.typeName), some payload.shownRecords]) := by
  cases payload <;> rfl

def withoutPrefixes : Payload → Payload
  | .request single => .request (single.mapFragments Element.erasePrefixes)
  | .requestCollection members =>
      .requestCollection
        (members.map (·.mapFragments Element.erasePrefixes))
  | .response single => .response single.withoutPrefixes
  | .responseCollection members =>
      .responseCollection (members.map Response.withoutPrefixes)

def references (payload : Payload) : List TokenReference :=
  payload.responses.flatMap Response.references

/-- The qualified names in a message: those in its fragments, and those of the
attributes that its references keep. -/
def names (payload : Payload) : List QName :=
  payload.fragments.flatMap Element.names ++
    payload.references.flatMap fun reference =>
      reference.otherAttributes.names

def IsBraceless (payload : Payload) : Prop :=
  ∀ name ∈ payload.names, name.IsBraceless

instance (payload : Payload) : Decidable payload.IsBraceless :=
  inferInstanceAs (Decidable (∀ name ∈ payload.names, name.IsBraceless))

section Names

variable {payload : Payload} (braceless : payload.IsBraceless)

include braceless

theorem IsBraceless.fragments :
    ∀ fragment ∈ payload.fragments, fragment.IsBraceless := by
  intro fragment member name inFragment
  apply braceless
  apply List.mem_append_left
  exact List.mem_flatMap.mpr ⟨fragment, member, inFragment⟩

theorem IsBraceless.attributes :
    ∀ reference ∈ payload.references,
      reference.otherAttributes.IsBraceless := by
  intro reference member name inReference
  apply braceless
  apply List.mem_append_right
  exact List.mem_flatMap.mpr ⟨reference, member, inReference⟩

theorem IsBraceless.requests :
    ∀ request ∈ payload.requests, request.IsBraceless := by
  intro request listed child stated fragment kept
  have inRequest := List.mem_flatMap.mpr ⟨child, stated, kept⟩
  apply braceless.fragments
  apply List.mem_append_right
  exact List.mem_flatMap.mpr ⟨request, listed, inRequest⟩

theorem IsBraceless.responses :
    ∀ response ∈ payload.responses, response.IsBraceless := by
  intro response listed
  constructor
  · intro child stated fragment kept
    have inResponse := List.mem_flatMap.mpr ⟨child, stated, kept⟩
    apply braceless.fragments
    apply List.mem_append_left
    exact List.mem_flatMap.mpr ⟨response, listed, inResponse⟩
  · intro reference member
    have inPayload : reference ∈ payload.references :=
      List.mem_flatMap.mpr ⟨response, listed, member⟩
    exact braceless.attributes reference inPayload

end Names

theorem toJson_withoutPrefixes (payload : Payload) :
    payload.withoutPrefixes.toJson = payload.toJson := by
  cases payload <;>
    simp [toJson, withoutPrefixes, Request.toJson_mapFragments,
      Response.toJson_withoutPrefixes]

/-- Messages that are shown as the same are of one kind and agree in every
record, but for prefixes. -/
theorem withoutPrefixes_eq_of_same
    {left right : Payload} (leftBraceless : left.IsBraceless)
    (rightBraceless : right.IsBraceless)
    (same : Same left.toJson right.toJson) :
    left.withoutPrefixes = right.withoutPrefixes := by
  have leftRequests := leftBraceless.requests
  have rightRequests := rightBraceless.requests
  have leftResponses := leftBraceless.responses
  have rightResponses := rightBraceless.responses
  rw [toJson_eq, toJson_eq] at same
  have slots := same.slots (by decide) rfl rfl
  simp only [List.forall₂_cons, Option.rel_some_some] at slots
  obtain ⟨types, records, -⟩ := slots
  have sameType : left.typeName = right.typeName := types.string_inj
  cases left with
  | request single =>
      cases right with
      | request other =>
          have valid := leftRequests single List.mem_cons_self
          have otherValid := rightRequests other List.mem_cons_self
          exact congrArg request <|
            Request.reveals_toJson _ _ valid otherValid records
      | _ => simp [typeName] at sameType
  | requestCollection members =>
      cases right with
      | requestCollection others =>
          exact congrArg requestCollection <|
            Request.reveals_toJson.list leftRequests rightRequests
              records.items
      | _ => simp [typeName] at sameType
  | response single =>
      cases right with
      | response other =>
          have valid := leftResponses single List.mem_cons_self
          have otherValid := rightResponses other List.mem_cons_self
          exact congrArg response <|
            Response.reveals_toJson _ _ valid otherValid records
      | _ => simp [typeName] at sameType
  | responseCollection members =>
      cases right with
      | responseCollection others =>
          exact congrArg responseCollection <|
            Response.reveals_toJson.list leftResponses rightResponses
              records.items
      | _ => simp [typeName] at sameType

/-- The attributes that a reference keeps are shown under keys that differ from
each other, each with its value. -/
theorem attributes_shown
    {payload : Payload} (braceless : payload.IsBraceless) :
    ∀ reference ∈ payload.references, ∃ fields,
      reference.otherAttributes.toJson = .object fields ∧
        (fields.map Prod.fst).Nodup ∧
        ∀ entry ∈ reference.otherAttributes.entries,
          fields.lookup entry.1.clark = some (.string entry.2) := by
  intro reference member
  have mapBraceless := braceless.attributes reference member
  refine ⟨_, reference.otherAttributes.toJson_eq, ?_, ?_⟩
  · rw [List.map_map]
    exact AttributeMap.keys_distinct mapBraceless
  · intro entry inMap
    rw [lookup_map_value, AttributeMap.lookup_keyed mapBraceless inMap]
    rfl

/-- A message loses nothing but its prefixes where it is shown, if no local part
in it contains a brace.  Two messages have the same text, or say the same if
the order of fields does not count, exactly if they are equal but for their
prefixes; and every attribute of a reference is shown under its own key. -/
theorem shown_loses_only_prefixes
    {left right : Payload} (leftBraceless : left.IsBraceless)
    (rightBraceless : right.IsBraceless) :
    (left.toJson.toText = right.toJson.toText ↔
        left.withoutPrefixes = right.withoutPrefixes) ∧
      (left.toJson.Same right.toJson ↔
        left.withoutPrefixes = right.withoutPrefixes) ∧
      ∀ reference ∈ left.references, ∃ fields,
        reference.otherAttributes.toJson = .object fields ∧
          (fields.map Prod.fst).Nodup ∧
          ∀ entry ∈ reference.otherAttributes.entries,
            fields.lookup entry.1.clark = some (.string entry.2) := by
  have told (same : left.toJson.Same right.toJson) :
      left.withoutPrefixes = right.withoutPrefixes :=
    withoutPrefixes_eq_of_same leftBraceless rightBraceless same
  have shown (same : left.withoutPrefixes = right.withoutPrefixes) :
      left.toJson = right.toJson := by
    rw [← left.toJson_withoutPrefixes, same, right.toJson_withoutPrefixes]
  refine ⟨?_, ?_, attributes_shown leftBraceless⟩
  · constructor
    · intro sameText
      apply told
      rw [Json.toText_inj sameText]
      exact .refl _
    · intro same
      rw [shown same]
  · constructor
    · exact told
    · intro same
      rw [shown same]
      exact .refl _

end Payload

/-- A response with a reference that keeps two attributes of one local name, one
of them in a namespace that contains braces. -/
def referringResponse (sourcePrefix : String) (entropy : Option Entropy) :
    Payload :=
  let named (namespaceUri localPart : String) : QName :=
    ⟨⟨namespaceUri, localPart⟩, sourcePrefix⟩
  let reference : TokenReference :=
    { id := none
      usage := none
      otherAttributes :=
        (AttributeMap.empty.insert (named "urn:kind" "Kind") "1").insert
          (named "urn:kind\x7d\x7b" "Kind") "2"
      any := [⟨named "urn:kind" "Key", [], [.text "k"]⟩] }
  .response
    { context := "", entropy := entropy, attachedReference := some reference }

/-- A change of prefixes does not show; that an entropy is contributed, though it
be empty, does. -/
theorem referringResponse_loses_only_prefixes :
    let plain := referringResponse "a" none
    let renamed := referringResponse "b" none
    let contributing := referringResponse "a" (some ⟨none⟩)
    (plain.IsBraceless ∧ renamed.IsBraceless ∧ contributing.IsBraceless) ∧
      plain ≠ renamed ∧
      plain.toJson.toText = renamed.toJson.toText ∧
      plain.toJson.toText ≠ contributing.toJson.toText := by
  intro plain renamed contributing
  have plainBraceless : plain.IsBraceless := by decide
  have renamedBraceless : renamed.IsBraceless := by decide
  have contributingBraceless : contributing.IsBraceless := by decide
  have alike :=
    Payload.shown_loses_only_prefixes plainBraceless renamedBraceless
  have told :=
    Payload.shown_loses_only_prefixes plainBraceless contributingBraceless
  have same : plain.withoutPrefixes = renamed.withoutPrefixes := rfl
  have different : plain.withoutPrefixes ≠ contributing.withoutPrefixes := by
    decide
  exact ⟨⟨plainBraceless, renamedBraceless, contributingBraceless⟩,
    by decide, alike.1.mpr same, fun sameText => different (told.1.mp sameText)⟩

end WsTrust
