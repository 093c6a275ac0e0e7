import WsTrust.Proofs.ValidRecords

/-!
# How deeply fragments are nested

A message is read with a limit on the nesting of the fragments that it keeps.
Every child keeps to it but a relying party, which is captured under a limit of
its own.
-/

namespace WsTrust

open Cursor

/-! ## Fragments of a message -/

def Term.fragments : Term → List Element
  | .onBehalfOf delegation => [delegation.any]
  | .useKey key => [key.any]
  | .appliesTo (.fragment content) => [content]
  | _ => []

def ResponseChild.fragments : ResponseChild → List Element
  | .term stated => stated.fragments
  | .requestedToken token => token.any
  | .attachedReference reference => reference.any
  | .unattachedReference reference => reference.any
  | _ => []

def RequestChild.fragments : RequestChild → List Element
  | .term stated => stated.fragments
  | .validateTarget token => [token]
  | .renewTarget token => [token]
  | .cancelTarget token => [token]
  | _ => []

def Payload.fragments (payload : Payload) : List Element :=
  (payload.responses.flatMap fun response =>
      response.children.flatMap ResponseChild.fragments) ++
    payload.requests.flatMap fun request =>
      request.children.flatMap RequestChild.fragments

/-! ## The limit that a child keeps to -/

def Term.nestingLimit (maxDepth : Nat) : Term → Nat
  | .appliesTo _ => AppliesTo.maxDepth
  | _ => maxDepth

def ResponseChild.nestingLimit (maxDepth : Nat) : ResponseChild → Nat
  | .term stated => stated.nestingLimit maxDepth
  | _ => maxDepth

def RequestChild.nestingLimit (maxDepth : Nat) : RequestChild → Nat
  | .term stated => stated.nestingLimit maxDepth
  | _ => maxDepth

variable {maxDepth : Nat}

theorem Term.fragments_fit
    {term : Term} (writable : term.IsWritable maxDepth) :
    ∀ fragment ∈ term.fragments,
      fragment.FitsDepth (term.nestingLimit maxDepth) := by
  intro fragment member
  cases term with
  | onBehalfOf delegation =>
      rw [List.mem_singleton.mp member]
      exact writable
  | useKey key =>
      rw [List.mem_singleton.mp member]
      exact writable.2
  | appliesTo party =>
      cases party with
      | fragment content =>
          rw [List.mem_singleton.mp member]
          exact writable.2
      | endpointReference address => cases member
      | value text => cases member
  | _ => cases member

theorem ResponseChild.fragments_fit
    {child : ResponseChild} (writable : child.IsWritable maxDepth) :
    ∀ fragment ∈ child.fragments,
      fragment.FitsDepth (child.nestingLimit maxDepth) := by
  intro fragment member
  cases child with
  | term stated => exact Term.fragments_fit writable fragment member
  | requestedToken token => exact writable fragment member
  | attachedReference reference => exact writable.2 fragment member
  | unattachedReference reference => exact writable.2 fragment member
  | cancelled => cases member
  | proofToken proof => cases member
  | status outcome => cases member

theorem RequestChild.fragments_fit
    {child : RequestChild} (writable : child.IsWritable maxDepth) :
    ∀ fragment ∈ child.fragments,
      fragment.FitsDepth (child.nestingLimit maxDepth) := by
  intro fragment member
  cases child with
  | term stated => exact Term.fragments_fit writable fragment member
  | validateTarget token =>
      rw [List.mem_singleton.mp member]
      exact writable
  | renewTarget token =>
      rw [List.mem_singleton.mp member]
      exact writable
  | cancelTarget token =>
      rw [List.mem_singleton.mp member]
      exact writable
  | _ => cases member

theorem Term.nestingLimit_le (term : Term) :
    term.nestingLimit maxDepth ≤ max maxDepth AppliesTo.maxDepth := by
  cases term with
  | appliesTo party => exact Nat.le_max_right _ _
  | _ => exact Nat.le_max_left _ _

theorem ResponseChild.nestingLimit_le (child : ResponseChild) :
    child.nestingLimit maxDepth ≤ max maxDepth AppliesTo.maxDepth := by
  cases child with
  | term stated => exact stated.nestingLimit_le
  | _ => exact Nat.le_max_left _ _

theorem RequestChild.nestingLimit_le (child : RequestChild) :
    child.nestingLimit maxDepth ≤ max maxDepth AppliesTo.maxDepth := by
  cases child with
  | term stated => exact stated.nestingLimit_le
  | _ => exact Nat.le_max_left _ _

theorem Element.FitsDepth.mono
    {element : Element} {larger : Nat}
    (fits : element.FitsDepth maxDepth) (atMost : maxDepth ≤ larger) :
    element.FitsDepth larger := by
  rw [Element.FitsDepth] at fits ⊢
  omega

/-! ## Messages -/

/-- The only extension that is registered at first yields relying parties that
can be written. -/
theorem Registry.standard_ensures
    {extension : Extension} (member : extension ∈ standard.extensions) :
    Ensures extension.read fun value =>
      ∀ party, value = .appliesTo party → party.IsWritable := by
  rw [List.mem_singleton.mp member]
  refine Ensures.map (AppliesTo.read_ensures.mono ?_)
  intro read writable party same
  cases same
  exact writable

/-- Every fragment of a message keeps to the limit for the child that holds
it. -/
theorem Payload.children_fit
    {stream after : TokenStream} {payload : Payload}
    (succeeded : read .standard maxDepth stream = .ok payload after) :
    (∀ response ∈ payload.responses, ∀ child ∈ response.children,
      ∀ fragment ∈ child.fragments,
        fragment.FitsDepth (child.nestingLimit maxDepth)) ∧
    (∀ request ∈ payload.requests, ∀ child ∈ request.children,
      ∀ fragment ∈ child.fragments,
        fragment.FitsDepth (child.nestingLimit maxDepth)) := by
  have foreign (extension : Extension)
      (member : extension ∈ Registry.standard.extensions) :=
    Registry.standard_ensures member
  have responses :=
    Response.validates (Response.children_ensure maxDepth) foreign
  have requests :=
    Request.validates (Request.children_ensure maxDepth) foreign
  obtain ⟨responsesValid, requestsValid⟩ :=
    Payload.read_ensures responses requests succeeded
  constructor
  · intro response listed child stated
    exact ResponseChild.fragments_fit
      (responsesValid response listed child stated)
  · intro request listed child stated
    exact RequestChild.fragments_fit
      (requestsValid request listed child stated)

/-- No fragment of a message is nested more deeply than the larger one of the
two limits. -/
theorem Payload.fragments_fit
    {stream after : TokenStream} {payload : Payload}
    (succeeded : read .standard maxDepth stream = .ok payload after) :
    ∀ fragment ∈ payload.fragments,
      fragment.FitsDepth (max maxDepth AppliesTo.maxDepth) := by
  obtain ⟨responsesFit, requestsFit⟩ := Payload.children_fit succeeded
  intro fragment member
  rcases List.mem_append.mp member with inResponse | inRequest
  · obtain ⟨response, listed, inResponse⟩ := List.mem_flatMap.mp inResponse
    obtain ⟨child, stated, inChild⟩ := List.mem_flatMap.mp inResponse
    have fits := responsesFit response listed child stated fragment inChild
    exact fits.mono child.nestingLimit_le
  · obtain ⟨request, listed, inRequest⟩ := List.mem_flatMap.mp inRequest
    obtain ⟨child, stated, inChild⟩ := List.mem_flatMap.mp inRequest
    have fits := requestsFit request listed child stated fragment inChild
    exact fits.mono child.nestingLimit_le

/-! ## A relying party that is nested deeply -/

/-- An element with this many others in it, one inside another. -/
def tower : Nat → Element
  | 0 => Element.ofName (QName.ofLocal "Level")
  | inner + 1 => ⟨QName.ofLocal "Level", [], [(tower inner).toNode]⟩

theorem height_tower (inner : Nat) : (tower inner).height = inner + 1 := by
  induction inner with
  | zero => rfl
  | succ inner inductionHypothesis =>
      have content :
          Node.heightOfAll (tower (inner + 1)).children =
            (tower inner).height := Nat.max_zero _
      rw [Element.height_eq, content, inductionHypothesis]

theorem localName_tower (inner : Nat) : (tower inner).localName = "Level" := by
  cases inner <;> rfl

def towerResponse (inner : Nat) : Response where
  context := ""
  appliesTo := some (.fragment (tower inner))

def towerMessage (inner : Nat) : Element :=
  Style.plain.message .response ""
    ((towerResponse inner).children.map (ResponseChild.toElement .plain))

theorem fragments_towerResponse (inner : Nat) :
    (Payload.response (towerResponse inner)).fragments = [tower inner] := rfl

/-- Up to its own limit a relying party is read whatever the limit for
fragments is. -/
theorem towerMessage_reads
    {inner : Nat} (below : inner < AppliesTo.maxDepth) (maxDepth : Nat) :
    Reads (Payload.read .standard maxDepth) (towerMessage inner).tokens
      (.response (towerResponse inner)) := by
  have writable : (towerResponse inner).IsWritable maxDepth := by
    intro child member
    have isParty : child = .term (.appliesTo (.fragment (tower inner))) :=
      List.mem_singleton.mp member
    rw [isParty]
    refine ⟨?_, ?_⟩
    · rw [localName_tower]
      decide
    · rw [Element.FitsDepth, height_tower]
      exact Nat.le_trans below (Nat.le_max_right _ _)
  exact Response.reads_back .plain writable
    (Style.plain.isMessage_message .response "" (List.Perm.refl _))

/-! ## The limit of a message -/

/-- The limit that a message is read with bounds all fragments of all messages
exactly if it is no less than the limit for relying parties.  Whatever it is,
each child of a message keeps to its own limit. -/
theorem limit_bounds_fragments_iff (maxDepth : Nat) :
    ((∀ (stream after : TokenStream) (payload : Payload),
        Payload.read .standard maxDepth stream = .ok payload after →
        ∀ fragment ∈ payload.fragments, fragment.FitsDepth maxDepth) ↔
      AppliesTo.maxDepth ≤ maxDepth) ∧
    (∀ (stream after : TokenStream) (payload : Payload),
      Payload.read .standard maxDepth stream = .ok payload after →
      (∀ response ∈ payload.responses, ∀ child ∈ response.children,
        ∀ fragment ∈ child.fragments,
          fragment.FitsDepth (child.nestingLimit maxDepth)) ∧
      (∀ request ∈ payload.requests, ∀ child ∈ request.children,
        ∀ fragment ∈ child.fragments,
          fragment.FitsDepth (child.nestingLimit maxDepth))) := by
  refine ⟨⟨?_, ?_⟩, fun _ _ _ => Payload.children_fit⟩
  · intro bounded
    have below : AppliesTo.maxDepth - 1 < AppliesTo.maxDepth := by decide
    have held :=
      TokenStream.holds_ofTokens
        ((towerMessage (AppliesTo.maxDepth - 1)).tokens ++ [])
    obtain ⟨after, succeeded, _⟩ :=
      (towerMessage_reads below maxDepth).holds held
    have fits := bounded _ after _ succeeded
      (tower (AppliesTo.maxDepth - 1)) (by
        rw [fragments_towerResponse]
        exact List.mem_singleton_self _)
    rw [Element.FitsDepth, height_tower] at fits
    have large : 1 < AppliesTo.maxDepth := by decide
    omega
  · intro atLeast stream after payload succeeded fragment member
    have fits := Payload.fragments_fit succeeded fragment member
    rwa [Nat.max_eq_left atLeast] at fits

/-- With a limit of one level a message still keeps a relying party of two. -/
theorem not_all_fragments_fit_the_limit :
    ¬ ∀ (maxDepth : Nat) (stream after : TokenStream) (payload : Payload),
      Payload.read .standard maxDepth stream = .ok payload after →
      ∀ fragment ∈ payload.fragments, fragment.FitsDepth maxDepth := by
  intro bounded
  have succeeded :
      Payload.read .standard 1
          (TokenStream.ofTokens (towerMessage 1).tokens) =
        .ok (.response (towerResponse 1)) (TokenStream.ofTokens []) := by
    with_unfolding_all rfl
  have fits := bounded 1 _ _ _ succeeded (tower 1)
    (List.mem_singleton_self _)
  exact absurd fits (by decide)

end WsTrust
