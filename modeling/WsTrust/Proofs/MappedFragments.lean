import WsTrust.Payload.Summary
import WsTrust.Proofs.Comparison
import WsTrust.Proofs.NestingLimit

/-!
# Messages with changed fragments

A change of elements is made to a message by making it to each of the fragments
that the message keeps, and to nothing else.
-/

namespace WsTrust

variable (change : Element → Element)

/-! ## Parts -/

def OnBehalfOf.mapFragments (delegation : OnBehalfOf) : OnBehalfOf :=
  ⟨change delegation.any⟩

def UseKey.mapFragments (key : UseKey) : UseKey :=
  ⟨change key.any⟩

def RequestedToken.mapFragments (token : RequestedToken) : RequestedToken :=
  ⟨token.any.map change⟩

def AppliesTo.mapFragments : AppliesTo → AppliesTo
  | .endpointReference address => .endpointReference address
  | .value text => .value text
  | .fragment content => .fragment (change content)

def TokenReference.mapFragments (reference : TokenReference) :
    TokenReference :=
  { reference with any := reference.any.map change }

def Terms.mapFragments (terms : Terms) : Terms :=
  { terms with
    onBehalfOf := terms.onBehalfOf.map (·.mapFragments change)
    useKey := terms.useKey.map (·.mapFragments change)
    appliesTo := terms.appliesTo.map (·.mapFragments change) }

/-! ## Messages -/

def Request.mapFragments (request : Request) : Request :=
  { request with
    toTerms := request.toTerms.mapFragments change
    validateTarget := request.validateTarget.map change
    renewTarget := request.renewTarget.map change
    cancelTarget := request.cancelTarget.map change }

def Response.mapFragments (response : Response) : Response :=
  { response with
    toTerms := response.toTerms.mapFragments change
    requestedToken := response.requestedToken.map (·.mapFragments change)
    attachedReference :=
      response.attachedReference.map (·.mapFragments change)
    unattachedReference :=
      response.unattachedReference.map (·.mapFragments change) }

def Payload.mapFragments : Payload → Payload
  | .request single => .request (single.mapFragments change)
  | .requestCollection members =>
      .requestCollection (members.map (·.mapFragments change))
  | .response single => .response (single.mapFragments change)
  | .responseCollection members =>
      .responseCollection (members.map (·.mapFragments change))

/-! ## The fragments that are kept -/

def Term.mapFragments : Term → Term
  | .onBehalfOf delegation => .onBehalfOf (delegation.mapFragments change)
  | .useKey key => .useKey (key.mapFragments change)
  | .appliesTo party => .appliesTo (party.mapFragments change)
  | other => other

def RequestChild.mapFragments : RequestChild → RequestChild
  | .term stated => .term (stated.mapFragments change)
  | .validateTarget token => .validateTarget (change token)
  | .renewTarget token => .renewTarget (change token)
  | .cancelTarget token => .cancelTarget (change token)
  | other => other

def ResponseChild.mapFragments : ResponseChild → ResponseChild
  | .term stated => .term (stated.mapFragments change)
  | .requestedToken token => .requestedToken (token.mapFragments change)
  | .attachedReference reference =>
      .attachedReference (reference.mapFragments change)
  | .unattachedReference reference =>
      .unattachedReference (reference.mapFragments change)
  | other => other

theorem Term.fragments_mapFragments (term : Term) :
    (term.mapFragments change).fragments = term.fragments.map change := by
  cases term with
  | appliesTo party => cases party <;> rfl
  | _ => rfl

theorem RequestChild.fragments_mapFragments (child : RequestChild) :
    (child.mapFragments change).fragments = child.fragments.map change := by
  cases child with
  | term stated => exact stated.fragments_mapFragments change
  | _ => rfl

theorem ResponseChild.fragments_mapFragments (child : ResponseChild) :
    (child.mapFragments change).fragments = child.fragments.map change := by
  cases child with
  | term stated => exact stated.fragments_mapFragments change
  | _ => rfl

theorem Terms.stated?_mapFragments (terms : Terms) (field : Field) :
    (terms.mapFragments change).stated? field =
      (terms.stated? field).map (·.mapFragments change) := by
  cases field with
  | context => rfl
  | _ =>
      simp only [stated?, mapFragments, Option.map_map]
      rfl

theorem Request.children_mapFragments (request : Request) :
    (request.mapFragments change).children =
      request.children.map (·.mapFragments change) := by
  have stated (field : Field) :
      (request.mapFragments change).stated? field =
        (request.stated? field).map (·.mapFragments change) := by
    cases field with
    | term field =>
        simp only [stated?, mapFragments, Terms.stated?_mapFragments,
          Option.map_map]
        rfl
    | _ =>
        simp only [stated?, mapFragments, Option.map_map]
        rfl
  rw [children, children, List.map_filterMap]
  exact List.filterMap_congr fun field _ => stated field

theorem Response.children_mapFragments (response : Response) :
    (response.mapFragments change).children =
      response.children.map (·.mapFragments change) := by
  have stated (field : Field) :
      (response.mapFragments change).stated? field =
        (response.stated? field).map (·.mapFragments change) := by
    cases field with
    | term field =>
        simp only [stated?, mapFragments, Terms.stated?_mapFragments,
          Option.map_map]
        rfl
    | cancelled =>
        rw [stated?, stated?, apply_ite (Option.map _)]
        rfl
    | _ =>
        simp only [stated?, mapFragments, Option.map_map]
        rfl
  rw [children, children, List.map_filterMap]
  exact List.filterMap_congr fun field _ => stated field

/-- The fragments of a message after a change are those before it, changed. -/
theorem Payload.fragments_mapFragments (payload : Payload) :
    (payload.mapFragments change).fragments =
      payload.fragments.map change := by
  have requests :
      (payload.mapFragments change).requests =
        payload.requests.map (·.mapFragments change) := by
    cases payload <;> rfl
  have responses :
      (payload.mapFragments change).responses =
        payload.responses.map (·.mapFragments change) := by
    cases payload <;> rfl
  rw [fragments, fragments, requests, responses]
  simp only [List.flatMap_map, List.map_append, List.map_flatMap,
    Request.children_mapFragments, Response.children_mapFragments,
    RequestChild.fragments_mapFragments,
    ResponseChild.fragments_mapFragments]

/-! ## Summaries -/

section Summaries

variable {change}
  (texts : ∀ element : Element, (change element).text = element.text)

include texts

theorem Terms.identifier_mapFragments (terms : Terms) :
    (terms.mapFragments change).appliesTo.map AppliesTo.identifier =
      terms.appliesTo.map AppliesTo.identifier := by
  rw [mapFragments, Option.map_map]
  refine Option.map_congr fun party _ => ?_
  cases party with
  | endpointReference address => rfl
  | value text => rfl
  | fragment content => exact congrArg Text.trim (texts content)

theorem Request.summary_mapFragments (request : Request) :
    (request.mapFragments change).summary = request.summary := by
  have identified :
      (request.mapFragments change).appliesTo.map AppliesTo.identifier =
        request.appliesTo.map AppliesTo.identifier :=
    request.toTerms.identifier_mapFragments texts
  unfold summary
  rw [identified]
  rfl

theorem Response.summary_mapFragments (response : Response) :
    (response.mapFragments change).summary = response.summary := by
  have identified :
      (response.mapFragments change).appliesTo.map AppliesTo.identifier =
        response.appliesTo.map AppliesTo.identifier :=
    response.toTerms.identifier_mapFragments texts
  unfold summary
  rw [identified]
  rfl

/-- A change that keeps the texts of elements keeps summaries. -/
theorem Payload.summaries_mapFragments (payload : Payload) :
    (payload.mapFragments change).summaries = payload.summaries := by
  cases payload with
  | request single =>
      exact congrArg (fun line => [line]) (single.summary_mapFragments texts)
  | response single =>
      exact congrArg (fun line => [line]) (single.summary_mapFragments texts)
  | requestCollection members =>
      simp only [mapFragments, summaries, List.map_map]
      exact List.map_congr_left fun member _ =>
        member.summary_mapFragments texts
  | responseCollection members =>
      simp only [mapFragments, summaries, List.map_map]
      exact List.map_congr_left fun member _ =>
        member.summary_mapFragments texts

end Summaries

/-! ## Messages that match -/

section Matches

variable {change} {comparison : Comparison}
  (values : ∀ left right, comparison.value left right → left = right)
  (elements : ∀ left right,
    comparison.element left right → change left = change right)

include elements

theorem AppliesTo.Matches.mapFragments_eq
    (values : ∀ left right, comparison.value left right → left = right)
    {left right : AppliesTo} (matched : left.Matches comparison right) :
    left.mapFragments change = right.mapFragments change := by
  cases matched with
  | endpointReference address => rw [values _ _ address]
  | value text => rw [values _ _ text]
  | fragment content =>
      rw [AppliesTo.mapFragments, AppliesTo.mapFragments,
        elements _ _ content]

theorem TokenReference.Matches.mapFragments_eq
    (attributes : ∀ left right,
      comparison.attributes left right → left = right)
    {left right : TokenReference} (matched : left.Matches comparison right) :
    left.mapFragments change = right.mapFragments change := by
  rw [TokenReference.mapFragments, TokenReference.mapFragments, matched.id,
    matched.usage, attributes _ _ matched.otherAttributes,
    eq_of_forall₂_map elements matched.any]

include values

theorem Terms.Matches.mapFragments_eq
    {left right : Terms} (matched : left.Matches comparison right) :
    left.mapFragments change = right.mapFragments change := by
  have lifetime :=
    eq_of_optionRel (fun _ _ spans => spans.eq values) matched.lifetime
  have onBehalfOf :
      left.onBehalfOf.map (·.mapFragments change) =
        right.onBehalfOf.map (·.mapFragments change) :=
    eq_of_optionRel_map
      (fun _ _ both => congrArg OnBehalfOf.mk (elements _ _ both))
      matched.onBehalfOf
  have entropy :=
    eq_of_optionRel (fun _ _ both => both.eq values) matched.entropy
  have useKey :
      left.useKey.map (·.mapFragments change) =
        right.useKey.map (·.mapFragments change) :=
    eq_of_optionRel_map
      (fun _ _ both => congrArg UseKey.mk (elements _ _ both))
      matched.useKey
  have appliesTo :
      left.appliesTo.map (·.mapFragments change) =
        right.appliesTo.map (·.mapFragments change) :=
    eq_of_optionRel_map
      (fun _ _ parties => parties.mapFragments_eq elements values)
      matched.appliesTo
  rw [Terms.mapFragments, Terms.mapFragments, matched.context,
    matched.requestType, matched.tokenType, matched.keyType, lifetime,
    onBehalfOf, matched.keySize, entropy, useKey, matched.renewing,
    appliesTo]

theorem Request.Matches.mapFragments_eq
    {left right : Request} (matched : left.Matches comparison right) :
    left.mapFragments change = right.mapFragments change := by
  have terms := matched.toMatches.mapFragments_eq values elements
  have tokens {first second : Option Element}
      (both : Option.Rel comparison.element first second) :
      first.map change = second.map change :=
    eq_of_optionRel_map elements both
  rw [Request.mapFragments, Request.mapFragments, terms,
    matched.computedKeyAlgorithm, matched.signatureAlgorithm,
    matched.encryptionAlgorithm, matched.canonicalizationAlgorithm,
    tokens matched.validateTarget, tokens matched.renewTarget,
    tokens matched.cancelTarget]

theorem Response.Matches.mapFragments_eq
    (attributes : ∀ left right,
      comparison.attributes left right → left = right)
    {left right : Response} (matched : left.Matches comparison right) :
    left.mapFragments change = right.mapFragments change := by
  have terms := matched.toMatches.mapFragments_eq values elements
  have proofToken :=
    eq_of_optionRel (fun _ _ proofs => proofs.eq values) matched.proofToken
  have requestedToken :
      left.requestedToken.map (·.mapFragments change) =
        right.requestedToken.map (·.mapFragments change) :=
    eq_of_optionRel_map
      (fun _ _ tokens =>
        congrArg RequestedToken.mk (eq_of_forall₂_map elements tokens))
      matched.requestedToken
  have references {first second : Option TokenReference}
      (both :
        Option.Rel (TokenReference.Matches comparison) first second) :
      first.map (·.mapFragments change) =
        second.map (·.mapFragments change) :=
    eq_of_optionRel_map
      (fun _ _ reference => reference.mapFragments_eq elements attributes)
      both
  have status :=
    eq_of_optionRel (fun _ _ outcomes => outcomes.eq values) matched.status
  rw [Response.mapFragments, Response.mapFragments, terms, matched.cancelled,
    proofToken, requestedToken, references matched.attachedReference,
    references matched.unattachedReference, status]

/-- Messages that match become equal by a change that makes matching fragments
equal, if matching values and attributes are equal already. -/
theorem Payload.Matches.mapFragments_eq
    (attributes : ∀ left right,
      comparison.attributes left right → left = right)
    {left right : Payload} (matched : left.Matches comparison right) :
    left.mapFragments change = right.mapFragments change := by
  cases matched with
  | request single =>
      exact congrArg Payload.request
        (single.mapFragments_eq values elements)
  | response single =>
      exact congrArg Payload.response
        (single.mapFragments_eq values elements attributes)
  | requestCollection members =>
      exact congrArg Payload.requestCollection
        (eq_of_forall₂_map
          (fun _ _ single => single.mapFragments_eq values elements) members)
  | responseCollection members =>
      exact congrArg Payload.responseCollection
        (eq_of_forall₂_map
          (fun _ _ single =>
            single.mapFragments_eq values elements attributes)
          members)

end Matches

end WsTrust
