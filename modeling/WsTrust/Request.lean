import WsTrust.Terms

/-!
# Requests

A request for a security token, with the algorithms it asks for and the tokens
it is about.
-/

namespace WsTrust

structure Request extends Terms where
  computedKeyAlgorithm : Option Uri := none
  signatureAlgorithm : Option Uri := none
  encryptionAlgorithm : Option Uri := none
  canonicalizationAlgorithm : Option Uri := none
  validateTarget : Option Element := none
  renewTarget : Option Element := none
  cancelTarget : Option Element := none
  deriving DecidableEq

inductive RequestChild where
  | term (term : Term)
  | computedKeyAlgorithm (uri : Uri)
  | signatureAlgorithm (uri : Uri)
  | encryptionAlgorithm (uri : Uri)
  | canonicalizationAlgorithm (uri : Uri)
  | validateTarget (token : Element)
  | renewTarget (token : Element)
  | cancelTarget (token : Element)
  deriving DecidableEq

namespace Request

def ofContext (context : String) : Request :=
  { context }

@[simp]
theorem context_ofContext (context : String) :
    (ofContext context).context = context := rfl

/-- The request with what a child says, which replaces what was said before. -/
def add (request : Request) : RequestChild → Request
  | .term stated => { request with toTerms := request.toTerms.add stated }
  | .computedKeyAlgorithm uri =>
      { request with computedKeyAlgorithm := some uri }
  | .signatureAlgorithm uri =>
      { request with signatureAlgorithm := some uri }
  | .encryptionAlgorithm uri =>
      { request with encryptionAlgorithm := some uri }
  | .canonicalizationAlgorithm uri =>
      { request with canonicalizationAlgorithm := some uri }
  | .validateTarget token => { request with validateTarget := some token }
  | .renewTarget token => { request with renewTarget := some token }
  | .cancelTarget token => { request with cancelTarget := some token }

@[simp]
theorem context_add (request : Request) (child : RequestChild) :
    (request.add child).context = request.context := by
  cases child with
  | term stated => exact Terms.context_add request.toTerms stated
  | _ => rfl

def grammar : BodyGrammar Request RequestChild where
  elementName := "RequestSecurityToken"
  ofContext := ofContext
  children :=
    Term.readersAs .term ++
      [("ComputedKeyAlgorithm", fun _ =>
          .computedKeyAlgorithm <$>
            Scalar.readUri "ComputedKeyAlgorithm" "computed key algorithm"),
        ("SignatureAlgorithm", fun _ =>
          .signatureAlgorithm <$>
            Scalar.readUri "SignatureAlgorithm" "signature algorithm"),
        ("EncryptionAlgorithm", fun _ =>
          .encryptionAlgorithm <$>
            Scalar.readUri "EncryptionAlgorithm" "encryption algorithm"),
        ("CanonicalizationAlgorithm", fun _ =>
          .canonicalizationAlgorithm <$>
            Scalar.readUri "CanonicalizationAlgorithm"
              "canonicalization algorithm"),
        ("ValidateTarget", fun maxDepth =>
          .validateTarget <$> Fragment.readOne "ValidateTarget" maxDepth),
        ("RenewTarget", fun maxDepth =>
          .renewTarget <$> Fragment.readOne "RenewTarget" maxDepth),
        ("CancelTarget", fun maxDepth =>
          .cancelTarget <$> Fragment.readOne "CancelTarget" maxDepth)]
  appliesTo party := .term (.appliesTo party)
  add := add

end Request

end WsTrust
