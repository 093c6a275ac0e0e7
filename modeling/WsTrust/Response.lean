import WsTrust.Terms
import WsTrust.TokenReference

/-!
# Responses

A response to a request for a security token, with the tokens issued, how they
are referred to, and the outcome of a validation or a cancellation.
-/

namespace WsTrust

structure Response extends Terms where
  cancelled : Bool := false
  proofToken : Option ProofToken := none
  requestedToken : Option RequestedToken := none
  attachedReference : Option TokenReference := none
  unattachedReference : Option TokenReference := none
  status : Option Status := none
  deriving DecidableEq

inductive ResponseChild where
  | term (term : Term)
  | cancelled
  | proofToken (proof : ProofToken)
  | requestedToken (token : RequestedToken)
  | attachedReference (reference : TokenReference)
  | unattachedReference (reference : TokenReference)
  | status (status : Status)
  deriving DecidableEq

namespace Response

def ofContext (context : String) : Response :=
  { context }

@[simp]
theorem context_ofContext (context : String) :
    (ofContext context).context = context := rfl

/-- The response with what a child says, which replaces what was said
before. -/
def add (response : Response) : ResponseChild → Response
  | .term stated => { response with toTerms := response.toTerms.add stated }
  | .cancelled => { response with cancelled := true }
  | .proofToken proof => { response with proofToken := some proof }
  | .requestedToken token => { response with requestedToken := some token }
  | .attachedReference reference =>
      { response with attachedReference := some reference }
  | .unattachedReference reference =>
      { response with unattachedReference := some reference }
  | .status outcome => { response with status := some outcome }

@[simp]
theorem context_add (response : Response) (child : ResponseChild) :
    (response.add child).context = response.context := by
  cases child with
  | term stated => exact Terms.context_add response.toTerms stated
  | _ => rfl

def grammar : BodyGrammar Response ResponseChild where
  elementName := "RequestSecurityTokenResponse"
  ofContext := ofContext
  children :=
    Term.readersAs .term ++
      [("RequestedTokenCancelled", fun _ => do
          Cursor.skipElement
          return .cancelled),
        ("RequestedProofToken", fun _ => .proofToken <$> ProofToken.read),
        ("RequestedSecurityToken", fun maxDepth =>
          .requestedToken <$> RequestedToken.read maxDepth),
        ("RequestedAttachedReference", fun maxDepth =>
          .attachedReference <$>
            TokenReference.readWrapped "RequestedAttachedReference" maxDepth),
        ("RequestedUnattachedReference", fun maxDepth =>
          .unattachedReference <$>
            TokenReference.readWrapped "RequestedUnattachedReference"
              maxDepth),
        ("Status", fun _ => .status <$> Status.read)]
  appliesTo party := .term (.appliesTo party)
  add := add

end Response

end WsTrust
