import WsTrust.Payload.Json
import WsTrust.Payload.Summary
import WsTrust.Proofs.Prefixes

/-!
# Messages and prefixes

Two streams that differ in nothing but prefixes are read as messages that
differ in nothing but prefixes, and so are equal where they are compared and
where they are shown, or they are refused for the same reason in the same words.
-/

namespace WsTrust

/-! ## Fragments -/

namespace Node

mutual

theorem toJson_erasePrefixes :
    (node : Node) → node.erasePrefixes.toJson = node.toJson
  | .text content => rfl
  | .element name attributes children => by
      rw [erasePrefixes, toJson, toJson, elementJson, elementJson,
        toJsonAll_erasePrefixesAll children, List.map_map]
      rfl

theorem toJsonAll_erasePrefixesAll :
    (nodes : List Node) → toJsonAll (erasePrefixesAll nodes) = toJsonAll nodes
  | [] => rfl
  | node :: rest => by
      rw [erasePrefixesAll, toJsonAll, toJsonAll, toJson_erasePrefixes node,
        toJsonAll_erasePrefixesAll rest]

end

theorem text?_erasePrefixes (node : Node) :
    node.erasePrefixes.text? = node.text? := by
  cases node with
  | text content => rfl
  | element name attributes children => rfl

end Node

namespace Element

variable {left right : Element}
  (same : Likeness.prefixes.comparison.element left right)

include same

theorem toJson_eq_of_prefixes : left.toJson = right.toJson := by
  have erased :
      left.toNode.erasePrefixes = right.toNode.erasePrefixes := same
  rw [toJson, toJson, ← left.toNode.toJson_erasePrefixes, erased,
    right.toNode.toJson_erasePrefixes]

theorem text_eq_of_prefixes : left.text = right.text := by
  have erased :
      left.toNode.erasePrefixes = right.toNode.erasePrefixes := same
  have shown (element : Element) :
      element.text =
        String.join
          ((element.children.map Node.erasePrefixes).filterMap
            Node.text?) := by
    rw [text, List.filterMap_map]
    refine congrArg String.join (List.filterMap_congr fun node _ => ?_)
    exact node.text?_erasePrefixes.symm
  rw [shown left, shown right, ← Node.erasePrefixesAll_eq_map,
    ← Node.erasePrefixesAll_eq_map]
  rw [toNode, toNode, Node.erasePrefixes, Node.erasePrefixes,
    Node.element.injEq] at erased
  rw [erased.2.2]

end Element

/-! ## Records -/

theorem AttributeMap.toJson_eq_of_prefixes
    {left right : AttributeMap}
    (same : left.erasePrefixes = right.erasePrefixes) :
    left.toJson = right.toJson := by
  have shown (map : AttributeMap) :
      map.toJson =
        .object (map.erasePrefixes.entries.map fun entry =>
          (entry.1.clark, .string entry.2)) := by
    rw [toJson, erasePrefixes, List.map_map]
    rfl
  rw [shown left, shown right, same]

theorem TokenReference.toJson_eq_of_prefixes
    {left right : TokenReference}
    (same : left.Matches Likeness.prefixes.comparison right) :
    left.toJson = right.toJson := by
  have fragments :=
    eq_of_forall₂_map
      (fun _ _ content => Element.toJson_eq_of_prefixes content) same.any
  rw [toJson, toJson, same.id, same.usage,
    AttributeMap.toJson_eq_of_prefixes same.otherAttributes, fragments]

theorem AppliesTo.toJson_eq_of_prefixes
    {left right : AppliesTo}
    (same : left.Matches Likeness.prefixes.comparison right) :
    left.toJson = right.toJson := by
  cases same with
  | endpointReference address => rw [address]
  | value text => rw [text]
  | fragment content =>
      rw [toJson, toJson, Element.toJson_eq_of_prefixes content]

theorem AppliesTo.identifier_eq_of_prefixes
    {left right : AppliesTo}
    (same : left.Matches Likeness.prefixes.comparison right) :
    left.identifier = right.identifier := by
  cases same with
  | endpointReference address => exact address
  | value text => exact text
  | fragment content =>
      rw [identifier, identifier, Element.text_eq_of_prefixes content]

/-- What an absent or present value is shown as in an object. -/
theorem Terms.Matches.shown_eq
    {left right : Terms}
    (same : left.Matches Likeness.prefixes.comparison right) :
    left.lifetime = right.lifetime ∧
      (left.onBehalfOf.map fun delegation => wrappedJson delegation.any) =
        (right.onBehalfOf.map fun delegation =>
          wrappedJson delegation.any) ∧
      left.entropy = right.entropy ∧
      (left.useKey.map fun key => wrappedJson key.any) =
        (right.useKey.map fun key => wrappedJson key.any) ∧
      left.appliesTo.map AppliesTo.toJson =
        right.appliesTo.map AppliesTo.toJson := by
  have values := Likeness.prefixes.value_eq
  have wrapped (left right : Element)
      (content : Likeness.prefixes.comparison.element left right) :
      wrappedJson left = wrappedJson right := by
    rw [wrappedJson, wrappedJson, Element.toJson_eq_of_prefixes content]
  exact ⟨eq_of_optionRel (fun _ _ spans => spans.eq values) same.lifetime,
    eq_of_optionRel_map (fun _ _ both => wrapped _ _ both) same.onBehalfOf,
    eq_of_optionRel (fun _ _ both => both.eq values) same.entropy,
    eq_of_optionRel_map (fun _ _ both => wrapped _ _ both) same.useKey,
    eq_of_optionRel_map (fun _ _ parties => AppliesTo.toJson_eq_of_prefixes parties)
      same.appliesTo⟩

theorem Request.toJson_eq_of_prefixes
    {left right : Request}
    (same : left.Matches Likeness.prefixes.comparison right) :
    left.toJson = right.toJson := by
  obtain ⟨lifetime, onBehalfOf, entropy, useKey, appliesTo⟩ :=
    same.toMatches.shown_eq
  have shown {left right : Option Element}
      (tokens :
        Option.Rel Likeness.prefixes.comparison.element left right) :=
    eq_of_optionRel_map
      (fun _ _ token => Element.toJson_eq_of_prefixes token) tokens
  rw [toJson, toJson, same.context, same.requestType, same.tokenType,
    same.keyType, same.keySize, same.renewing, lifetime, onBehalfOf,
    entropy, useKey, appliesTo, same.computedKeyAlgorithm,
    same.signatureAlgorithm, same.encryptionAlgorithm,
    same.canonicalizationAlgorithm, shown same.validateTarget,
    shown same.renewTarget, shown same.cancelTarget]

theorem Response.toJson_eq_of_prefixes
    {left right : Response}
    (same : left.Matches Likeness.prefixes.comparison right) :
    left.toJson = right.toJson := by
  obtain ⟨lifetime, onBehalfOf, entropy, useKey, appliesTo⟩ :=
    same.toMatches.shown_eq
  have values := Likeness.prefixes.value_eq
  have proofToken :=
    eq_of_optionRel (fun _ _ proofs => proofs.eq values) same.proofToken
  have status :=
    eq_of_optionRel (fun _ _ outcomes => outcomes.eq values) same.status
  have tokens :
      left.requestedToken.map RequestedToken.toJson =
        right.requestedToken.map RequestedToken.toJson := by
    refine eq_of_optionRel_map (fun _ _ issued => ?_) same.requestedToken
    rw [RequestedToken.toJson, RequestedToken.toJson,
      eq_of_forall₂_map
        (fun _ _ content => Element.toJson_eq_of_prefixes content) issued]
  have references {left right : Option TokenReference}
      (both :
        Option.Rel (TokenReference.Matches Likeness.prefixes.comparison)
          left right) :
      left.map TokenReference.toWrappedJson =
        right.map TokenReference.toWrappedJson := by
    refine eq_of_optionRel_map (fun _ _ reference => ?_) both
    rw [TokenReference.toWrappedJson, TokenReference.toWrappedJson,
      TokenReference.toJson_eq_of_prefixes reference]
  rw [toJson, toJson, same.context, same.requestType, same.tokenType,
    same.keyType, same.keySize, same.renewing, lifetime, onBehalfOf,
    entropy, useKey, appliesTo, same.cancelled, proofToken, tokens,
    references same.attachedReference,
    references same.unattachedReference, status]

theorem Terms.Matches.identifier_eq
    {left right : Terms}
    (same : left.Matches Likeness.prefixes.comparison right) :
    left.appliesTo.map AppliesTo.identifier =
      right.appliesTo.map AppliesTo.identifier :=
  eq_of_optionRel_map
    (fun _ _ parties => AppliesTo.identifier_eq_of_prefixes parties)
    same.appliesTo

theorem Request.summary_eq_of_prefixes
    {left right : Request}
    (same : left.Matches Likeness.prefixes.comparison right) :
    left.summary = right.summary := by
  unfold summary
  rw [same.context, same.requestType, same.tokenType,
    same.toMatches.identifier_eq, same.keySize]

theorem Response.summary_eq_of_prefixes
    {left right : Response}
    (same : left.Matches Likeness.prefixes.comparison right) :
    left.summary = right.summary := by
  have values := Likeness.prefixes.value_eq
  have lifetime :=
    eq_of_optionRel (fun _ _ spans => spans.eq values) same.lifetime
  have status :=
    eq_of_optionRel (fun _ _ outcomes => outcomes.eq values) same.status
  unfold summary
  rw [same.context, same.tokenType, same.requestType,
    same.toMatches.identifier_eq, lifetime, status, same.cancelled]

/-! ## Messages -/

namespace Payload

variable {left right : Payload}
  (same : left.Matches Likeness.prefixes.comparison right)

include same

theorem toJson_eq_of_prefixes : left.toJson = right.toJson := by
  cases same with
  | request single =>
      rw [toJson, toJson, Request.toJson_eq_of_prefixes single]
  | response single =>
      rw [toJson, toJson, Response.toJson_eq_of_prefixes single]
  | requestCollection members =>
      rw [toJson, toJson,
        eq_of_forall₂_map
          (fun _ _ single => Request.toJson_eq_of_prefixes single) members]
  | responseCollection members =>
      rw [toJson, toJson,
        eq_of_forall₂_map
          (fun _ _ single => Response.toJson_eq_of_prefixes single) members]

theorem summaries_eq_of_prefixes : left.summaries = right.summaries := by
  cases same with
  | request single =>
      rw [summaries, summaries, Request.summary_eq_of_prefixes single]
  | response single =>
      rw [summaries, summaries, Response.summary_eq_of_prefixes single]
  | requestCollection members =>
      exact eq_of_forall₂_map
        (fun _ _ single => Request.summary_eq_of_prefixes single) members
  | responseCollection members =>
      exact eq_of_forall₂_map
        (fun _ _ single => Response.summary_eq_of_prefixes single) members

end Payload

/-- Both readings give messages that are equal but for their prefixes, and are
shown alike, or both fail for the same reason and with the same words; either
way they leave as many tokens. -/
def Payload.SameOutcome
    (left right : EStateM.Result Failure TokenStream Payload) : Prop :=
  match left, right with
  | .ok payload rest, .ok other others =>
      payload.Matches Likeness.prefixes.comparison other ∧
        payload.toJson = other.toJson ∧
        payload.summaries = other.summaries ∧
        rest.tokens.items.length = others.tokens.items.length
  | .error failure rest, .error other others =>
      failure.erasePrefixes = other.erasePrefixes ∧
        failure.message = other.message ∧
        failure.family = other.family ∧
        rest.tokens.items.length = others.tokens.items.length
  | _, _ => False

/-- Prefixes never influence what is read: the registry for WS-Policy ignores
them, and under every registry that does, streams that are equal without their
prefixes have the same outcome. -/
theorem Payload.prefixes_never_influence_reading :
    Registry.standard.IgnoresPrefixes ∧
      ∀ (registry : Registry), registry.IgnoresPrefixes →
        ∀ (maxDepth : Nat) (left right : TokenStream),
          left.erasePrefixes = right.erasePrefixes →
            SameOutcome (read registry maxDepth left)
              (read registry maxDepth right) := by
  refine ⟨Registry.standard_ignoresPrefixes,
    fun registry ignores maxDepth left right same => ?_⟩
  have lockstep :=
    Likeness.prefixes.correspondence.readPayload
      (fun extension registered => (ignores extension registered).corresponds)
      (fun _ left right tags => .fail (Failure.unclaimed_prefixes tags))
      (fun localPart left right same => by
        rw [QName.localPart_eq_of_erasePrefix same])
      maxDepth
  have ended := lockstep.runsAlike (TokenStream.streams_prefixes same)
  generalize read registry maxDepth left = leftEnd,
    read registry maxDepth right = rightEnd at ended
  cases ended with
  | ok payloads stops =>
      exact ⟨payloads, toJson_eq_of_prefixes payloads,
        summaries_eq_of_prefixes payloads, stops.tokens_alike.1.length_eq⟩
  | error failures stops =>
      refine ⟨failures, ?_, ?_, stops.tokens_alike.1.length_eq⟩
      · rw [← Failure.message_erasePrefixes, failures,
          Failure.message_erasePrefixes]
      · rw [← Failure.family_erasePrefixes, failures,
          Failure.family_erasePrefixes]

/-- A response with a reference, on which one attribute is written twice under
different prefixes, and with a note that its grammar does not know. -/
def notedResponse (first second : String) : List Token :=
  let named (namespaceUri localPart sourcePrefix : String) : QName :=
    ⟨⟨namespaceUri, localPart⟩, sourcePrefix⟩
  [.startTag ⟨.ofLocal "RequestSecurityTokenResponse", []⟩,
    .startTag ⟨.ofLocal "RequestedAttachedReference", []⟩,
    .startTag
      ⟨.ofLocal "SecurityTokenReference",
        [⟨named "urn:kind" "Kind" first, "1"⟩,
          ⟨named "urn:kind" "Kind" second, "2"⟩]⟩,
    .startTag ⟨named "urn:kind" "Key" first, []⟩,
    .endTag (named "urn:kind" "Key" first),
    .endTag (.ofLocal "SecurityTokenReference"),
    .endTag (.ofLocal "RequestedAttachedReference"),
    .startTag ⟨named "urn:note" "Note" second, []⟩,
    .endTag (named "urn:note" "Note" second),
    .endTag (.ofLocal "RequestSecurityTokenResponse")]

theorem notedResponse_has_the_same_outcome :
    let registry := Registry.standard.register
      ⟨Claim.inNamespace "urn:note", ExtensionValue.readOptionalText⟩
    let left := TokenStream.ofTokens (notedResponse "a" "b")
    let right := TokenStream.ofTokens (notedResponse "b" "")
    registry.IgnoresPrefixes ∧
      left.erasePrefixes = right.erasePrefixes ∧
      Payload.SameOutcome (Payload.read registry 1 left)
        (Payload.read registry 1 right) := by
  intro registry left right
  obtain ⟨standard, same⟩ := Payload.prefixes_never_influence_reading
  have ignores : registry.IgnoresPrefixes := by
    intro extension registered
    rcases List.mem_append.mp registered with known | added
    · exact standard extension known
    · rw [List.mem_singleton.mp added]
      exact ⟨fun equal =>
        Claim.inNamespace_eq_of_prefixes equal "urn:note",
        ExtensionValue.readOptionalText_ignoresPrefixes⟩
  have erased : left.erasePrefixes = right.erasePrefixes := by decide
  exact ⟨ignores, erased, same registry ignores 1 left right erased⟩

end WsTrust
