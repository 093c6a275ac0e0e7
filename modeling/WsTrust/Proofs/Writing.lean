import WsTrust.Proofs.AttributeOrder
import WsTrust.Proofs.Fragments
import WsTrust.Request
import WsTrust.Response

/-!
# The canonical form of children

Each child of a message is written as an element that says it and nothing else.
What no reader looks at may be chosen: the namespaces and prefixes of names, and
what stands in a lifetime in place of its start.
-/

namespace WsTrust

/-- The choices that writing a message leaves open. -/
structure Style where
  /-- The name that an element with a local part is given. -/
  name : String → QName
  localPart_name : ∀ localPart, (name localPart).localPart = localPart
  /-- The prefix of a relying party. -/
  policyPrefix : String
  /-- The first child of a lifetime whose start is not said. -/
  placeholder : Element
  placeholder_name : placeholder.localName ≠ "Created"
  placeholder_childless : placeholder.childElements = []

/-! ## Texts and elements -/

/-- A text that is the same after trimming and is not blank. -/
def Text.IsValue (text : String) : Prop :=
  IsTrimmed text ∧ text ≠ ""

instance (text : String) : Decidable (Text.IsValue text) :=
  inferInstanceAs (Decidable (_ ∧ _))

namespace Style

variable (style : Style) (localPart : String)

def enclosing (attributes : List Attribute) (parts : List Element) :
    Element :=
  ⟨style.name localPart, attributes, parts.map Element.toNode⟩

/-- An element that holds a text, which is left out if it is empty. -/
def holding (attributes : List Attribute) (text : String) : Element :=
  ⟨style.name localPart, attributes,
    if text = "" then [] else [.text text]⟩

/-- The elements that a text takes: one that holds it, or none if it is
empty. -/
def optional (text : String) : List Element :=
  if text = "" then [] else [style.holding localPart [] text]

@[simp]
theorem localName_enclosing
    (attributes : List Attribute) (parts : List Element) :
    (style.enclosing localPart attributes parts).localName = localPart :=
  style.localPart_name localPart

@[simp]
theorem localName_holding (attributes : List Attribute) (text : String) :
    (style.holding localPart attributes text).localName = localPart :=
  style.localPart_name localPart

@[simp]
theorem childElements_enclosing
    (attributes : List Attribute) (parts : List Element) :
    (style.enclosing localPart attributes parts).childElements = parts := by
  rw [Element.childElements, enclosing, List.filterMap_map]
  exact List.filterMap_some

@[simp]
theorem childElements_holding
    (attributes : List Attribute) (text : String) :
    (style.holding localPart attributes text).childElements = [] := by
  rw [Element.childElements, holding]
  by_cases empty : text = ""
  · rw [if_pos empty]
    rfl
  · rw [if_neg empty]
    rfl

theorem text_holding (attributes : List Attribute) (text : String) :
    (style.holding localPart attributes text).text = text := by
  rw [Element.text, holding]
  by_cases empty : text = ""
  · rw [if_pos empty, empty]
    rfl
  · rw [if_neg empty]
    exact String.empty_append

theorem trimmedText_holding
    (attributes : List Attribute) {text : String}
    (trimmed : Text.IsTrimmed text) :
    (style.holding localPart attributes text).trimmedText = text := by
  rw [Element.trimmedText, text_holding]
  exact trimmed

theorem holdsText_holding
    (attributes : List Attribute) {text : String}
    (value : Text.IsValue text) :
    (style.holding localPart attributes text).HoldsText := by
  constructor
  · exact style.childElements_holding localPart attributes text
  · rw [style.trimmedText_holding localPart attributes value.1]
    exact value.2

theorem mem_optional_iff {text : String} {part : Element} :
    part ∈ style.optional localPart text ↔
      text ≠ "" ∧ part = style.holding localPart [] text := by
  rw [optional]
  by_cases empty : text = ""
  · simp [empty]
  · simp [empty]

end Style

/-! ## Values inside children -/

def BinarySecret.toElement (style : Style) (secret : BinarySecret) :
    Element :=
  style.holding "BinarySecret"
    (secret.type.map (Attribute.mk (QName.ofLocal "Type"))).toList
    (secret.text?.getD "")

def BinarySecret.IsWritable (secret : BinarySecret) : Prop :=
  ∃ text, secret.value = Text.bytesOf text ∧ Text.IsValue text

def Lifetime.toElement (style : Style) (span : Lifetime) : Element :=
  let start :=
    match span.created with
    | some created => style.holding "Created" [] created.text
    | none => style.placeholder
  style.enclosing "Lifetime" []
    [start, style.holding "Expires" [] span.expires.text]

/-- Both ends of a lifetime are trimmed, and its end is not blank. -/
def Lifetime.IsWritable (span : Lifetime) : Prop :=
  (∀ created, span.created = some created →
      Text.IsTrimmed created.text) ∧
    Text.IsValue span.expires.text

def Entropy.toElement (style : Style) (entropy : Entropy) : Element :=
  style.enclosing "Entropy" []
    (entropy.binarySecret.map (BinarySecret.toElement style)).toList

/-- The secret that entropy consists of, if there is one, can be written. -/
def Entropy.IsWritable (entropy : Entropy) : Prop :=
  ∀ secret, entropy.binarySecret = some secret → secret.IsWritable

def UseKey.IsWritable (maxDepth : Nat) (key : UseKey) : Prop :=
  (key.any.localName = "X509Certificate" ∨ key.any.localName = "KeyValue") ∧
    key.any.FitsDepth maxDepth

/-- The element that says whether a token may be renewed. -/
def Renewing.toElement (style : Style) (renewal : Renewing) : Element :=
  style.enclosing "Renewing"
    [⟨QName.ofLocal "Allow", toString renewal.allow⟩,
      ⟨QName.ofLocal "OK", toString renewal.ok⟩]
    []

def ProofToken.toElement (style : Style) (proof : ProofToken) : Element :=
  style.enclosing "RequestedProofToken" []
    (match proof with
    | .binarySecret secret => [secret.toElement style]
    | .computedKey algorithm => [style.holding "ComputedKey" [] algorithm]
    | .none => [])

/-- A secret has a type, and an algorithm is a value. -/
def ProofToken.IsWritable : ProofToken → Prop
  | .binarySecret secret => secret.IsWritable ∧ secret.type.isSome
  | .computedKey algorithm => Text.IsValue algorithm
  | .none => True

def Status.parts (style : Style) (status : Status) : List Element :=
  style.optional "Code" status.code ++
    style.optional "Reason" status.reason

def Status.toElement (style : Style) (status : Status) : Element :=
  style.enclosing "Status" [] (status.parts style)

/-- Code and reason are trimmed. -/
def Status.IsWritable (status : Status) : Prop :=
  Text.IsTrimmed status.code ∧ Text.IsTrimmed status.reason

def TokenReference.toElement
    (style : Style) (localPart : String) (reference : TokenReference) :
    Element :=
  style.enclosing localPart []
    [style.enclosing "SecurityTokenReference" reference.attributes
      reference.any]

/-- No attribute that the reference keeps has a meaning of its own, and its
content is not nested too deeply. -/
def TokenReference.IsWritable
    (maxDepth : Nat) (reference : TokenReference) : Prop :=
  reference.KeepsOthers ∧
    ∀ fragment ∈ reference.any, fragment.FitsDepth maxDepth

def AppliesTo.toElement (style : Style) (party : AppliesTo) : Element :=
  let content :=
    match party with
    | .endpointReference address =>
        [style.enclosing "EndpointReference" []
          [style.holding "Address" [] address]]
    | .value _ => []
    | .fragment content => [content]
  ⟨⟨⟨Vocabulary.policy, "AppliesTo"⟩, style.policyPrefix⟩, [],
    content.map Element.toNode⟩

/-- An address is a value, a plain value is empty, and a fragment is not taken
for an endpoint. -/
def AppliesTo.IsWritable : AppliesTo → Prop
  | .endpointReference address => Text.IsValue address
  | .value text => text = ""
  | .fragment content =>
      content.localName ≠ "EndpointReference" ∧
        content.FitsDepth AppliesTo.maxDepth

/-- A URI reference that is not empty. -/
def Uri.IsWritable (uri : Uri) : Prop :=
  IsReference uri.text ∧ uri.text ≠ ""

/-! ## Children -/

namespace Term

def toElement (style : Style) : Term → Element
  | .requestType uri => style.holding "RequestType" [] uri.text
  | .tokenType uri => style.holding "TokenType" [] uri.text
  | .keyType uri => style.holding "KeyType" [] uri.text
  | .lifetime span => span.toElement style
  | .onBehalfOf delegation => style.enclosing "OnBehalfOf" [] [delegation.any]
  | .keySize bits => style.holding "KeySize" [] (Nat.repr bits)
  | .entropy contributed => contributed.toElement style
  | .useKey key => style.enclosing "UseKey" [] [key.any]
  | .renewing renewal => renewal.toElement style
  | .appliesTo party => party.toElement style

def IsWritable (maxDepth : Nat) : Term → Prop
  | .requestType uri => uri.IsWritable
  | .tokenType uri => uri.IsWritable
  | .keyType uri => uri.IsWritable
  | .lifetime span => span.IsWritable
  | .onBehalfOf delegation => delegation.any.FitsDepth maxDepth
  | .keySize bits => bits < Text.wordBound
  | .entropy contributed => contributed.IsWritable
  | .useKey key => key.IsWritable maxDepth
  | .renewing _ => True
  | .appliesTo party => party.IsWritable

end Term

namespace ResponseChild

def toElement (style : Style) : ResponseChild → Element
  | .term stated => stated.toElement style
  | .cancelled => style.enclosing "RequestedTokenCancelled" [] []
  | .proofToken proof => proof.toElement style
  | .requestedToken token =>
      style.enclosing "RequestedSecurityToken" [] token.any
  | .attachedReference reference =>
      reference.toElement style "RequestedAttachedReference"
  | .unattachedReference reference =>
      reference.toElement style "RequestedUnattachedReference"
  | .status outcome => outcome.toElement style

def IsWritable (maxDepth : Nat) : ResponseChild → Prop
  | .term stated => stated.IsWritable maxDepth
  | .cancelled => True
  | .proofToken proof => proof.IsWritable
  | .requestedToken token =>
      ∀ fragment ∈ token.any, fragment.FitsDepth maxDepth
  | .attachedReference reference => reference.IsWritable maxDepth
  | .unattachedReference reference => reference.IsWritable maxDepth
  | .status outcome => outcome.IsWritable

end ResponseChild

namespace RequestChild

def toElement (style : Style) : RequestChild → Element
  | .term stated => stated.toElement style
  | .computedKeyAlgorithm uri =>
      style.holding "ComputedKeyAlgorithm" [] uri.text
  | .signatureAlgorithm uri => style.holding "SignatureAlgorithm" [] uri.text
  | .encryptionAlgorithm uri =>
      style.holding "EncryptionAlgorithm" [] uri.text
  | .canonicalizationAlgorithm uri =>
      style.holding "CanonicalizationAlgorithm" [] uri.text
  | .validateTarget token => style.enclosing "ValidateTarget" [] [token]
  | .renewTarget token => style.enclosing "RenewTarget" [] [token]
  | .cancelTarget token => style.enclosing "CancelTarget" [] [token]

def IsWritable (maxDepth : Nat) : RequestChild → Prop
  | .term stated => stated.IsWritable maxDepth
  | .computedKeyAlgorithm uri => uri.IsWritable
  | .signatureAlgorithm uri => uri.IsWritable
  | .encryptionAlgorithm uri => uri.IsWritable
  | .canonicalizationAlgorithm uri => uri.IsWritable
  | .validateTarget token => token.FitsDepth maxDepth
  | .renewTarget token => token.FitsDepth maxDepth
  | .cancelTarget token => token.FitsDepth maxDepth

end RequestChild

end WsTrust
