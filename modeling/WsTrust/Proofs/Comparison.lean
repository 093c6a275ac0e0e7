import Mathlib.Data.List.Forall2
import WsTrust.Payload

/-!
# Comparing messages

Two messages are compared part by part.  How texts, fragments and sets of
attributes are compared is left open; contexts, identifiers, numbers and flags
have to be equal, and every collection has to have as many members on either
side, in the same order.
-/

namespace WsTrust

/-- How the parts of two messages are compared that need not be equal. -/
structure Comparison where
  /-- Texts that are kept as they were read. -/
  value : String → String → Prop
  /-- Fragments. -/
  element : Element → Element → Prop
  /-- The attributes of a token reference. -/
  attributes : AttributeMap → AttributeMap → Prop

variable (comparison : Comparison)

/-! ## Values -/

structure Lifetime.Matches (left right : Lifetime) : Prop where
  created :
    Option.Rel (fun first second => comparison.value first.text second.text)
      left.created right.created
  expires : comparison.value left.expires.text right.expires.text

/-- The types are equal, and the texts that the secrets are the bytes of
match. -/
structure BinarySecret.Matches (left right : BinarySecret) : Prop where
  type : left.type = right.type
  value : ∃ text other,
    left.value = Text.bytesOf text ∧ right.value = Text.bytesOf other ∧
      comparison.value text other

def Entropy.Matches (left right : Entropy) : Prop :=
  Option.Rel (BinarySecret.Matches comparison) left.binarySecret
    right.binarySecret

def UseKey.Matches (left right : UseKey) : Prop :=
  comparison.element left.any right.any

def OnBehalfOf.Matches (left right : OnBehalfOf) : Prop :=
  comparison.element left.any right.any

def RequestedToken.Matches (left right : RequestedToken) : Prop :=
  List.Forall₂ comparison.element left.any right.any

inductive ProofToken.Matches : ProofToken → ProofToken → Prop
  | binarySecret {left right : BinarySecret}
      (secret : left.Matches comparison right) :
      Matches (.binarySecret left) (.binarySecret right)
  | computedKey {left right : String}
      (algorithm : comparison.value left right) :
      Matches (.computedKey left) (.computedKey right)
  | none : Matches .none .none

inductive AppliesTo.Matches : AppliesTo → AppliesTo → Prop
  | endpointReference {left right : String}
      (address : comparison.value left right) :
      Matches (.endpointReference left) (.endpointReference right)
  | value {left right : String} (text : comparison.value left right) :
      Matches (.value left) (.value right)
  | fragment {left right : Element}
      (content : comparison.element left right) :
      Matches (.fragment left) (.fragment right)

structure Status.Matches (left right : Status) : Prop where
  code : comparison.value left.code right.code
  reason : comparison.value left.reason right.reason

structure TokenReference.Matches (left right : TokenReference) : Prop where
  id : left.id = right.id
  usage : left.usage = right.usage
  otherAttributes :
    comparison.attributes left.otherAttributes right.otherAttributes
  any : List.Forall₂ comparison.element left.any right.any

inductive ExtensionValue.Matches : ExtensionValue → ExtensionValue → Prop
  | appliesTo {left right : AppliesTo}
      (party : left.Matches comparison right) :
      Matches (.appliesTo left) (.appliesTo right)
  | fragment {left right : Element}
      (content : comparison.element left right) :
      Matches (.fragment left) (.fragment right)
  | empty : Matches .empty .empty

/-! ## Terms -/

/-- Both state one term, by matching values. -/
inductive Term.Matches : Term → Term → Prop
  | requestType (uri : Uri) : Matches (.requestType uri) (.requestType uri)
  | tokenType (uri : Uri) : Matches (.tokenType uri) (.tokenType uri)
  | keyType (uri : Uri) : Matches (.keyType uri) (.keyType uri)
  | lifetime {left right : Lifetime}
      (span : left.Matches comparison right) :
      Matches (.lifetime left) (.lifetime right)
  | onBehalfOf {left right : OnBehalfOf}
      (delegation : left.Matches comparison right) :
      Matches (.onBehalfOf left) (.onBehalfOf right)
  | keySize (bits : Nat) : Matches (.keySize bits) (.keySize bits)
  | entropy {left right : Entropy}
      (contributed : left.Matches comparison right) :
      Matches (.entropy left) (.entropy right)
  | useKey {left right : UseKey} (key : left.Matches comparison right) :
      Matches (.useKey left) (.useKey right)
  | renewing (renewal : Renewing) :
      Matches (.renewing renewal) (.renewing renewal)
  | appliesTo {left right : AppliesTo}
      (party : left.Matches comparison right) :
      Matches (.appliesTo left) (.appliesTo right)

/-- Both state the same terms, by matching values, in the same context. -/
structure Terms.Matches (left right : Terms) : Prop where
  context : left.context = right.context
  requestType : left.requestType = right.requestType
  tokenType : left.tokenType = right.tokenType
  keyType : left.keyType = right.keyType
  lifetime :
    Option.Rel (Lifetime.Matches comparison) left.lifetime right.lifetime
  onBehalfOf :
    Option.Rel (OnBehalfOf.Matches comparison) left.onBehalfOf
      right.onBehalfOf
  keySize : left.keySize = right.keySize
  entropy : Option.Rel (Entropy.Matches comparison) left.entropy right.entropy
  useKey : Option.Rel (UseKey.Matches comparison) left.useKey right.useKey
  renewing : left.renewing = right.renewing
  appliesTo :
    Option.Rel (AppliesTo.Matches comparison) left.appliesTo right.appliesTo

variable {comparison}

theorem Terms.Matches.ofContext (context : String) :
    ({ context } : Terms).Matches comparison { context } :=
  ⟨rfl, rfl, rfl, rfl, .none, .none, rfl, .none, .none, rfl, .none⟩

theorem Terms.Matches.add
    {left right : Terms} (matched : left.Matches comparison right)
    {term other : Term} (stated : term.Matches comparison other) :
    (left.add term).Matches comparison (right.add other) := by
  cases stated with
  | requestType uri => exact { matched with requestType := rfl }
  | tokenType uri => exact { matched with tokenType := rfl }
  | keyType uri => exact { matched with keyType := rfl }
  | lifetime span => exact { matched with lifetime := .some span }
  | onBehalfOf delegation =>
      exact { matched with onBehalfOf := .some delegation }
  | keySize bits => exact { matched with keySize := rfl }
  | entropy contributed =>
      exact { matched with entropy := .some contributed }
  | useKey key => exact { matched with useKey := .some key }
  | renewing renewal => exact { matched with renewing := rfl }
  | appliesTo party => exact { matched with appliesTo := .some party }

variable (comparison)

/-! ## Requests -/

inductive RequestChild.Matches : RequestChild → RequestChild → Prop
  | term {left right : Term} (stated : left.Matches comparison right) :
      Matches (.term left) (.term right)
  | computedKeyAlgorithm (uri : Uri) :
      Matches (.computedKeyAlgorithm uri) (.computedKeyAlgorithm uri)
  | signatureAlgorithm (uri : Uri) :
      Matches (.signatureAlgorithm uri) (.signatureAlgorithm uri)
  | encryptionAlgorithm (uri : Uri) :
      Matches (.encryptionAlgorithm uri) (.encryptionAlgorithm uri)
  | canonicalizationAlgorithm (uri : Uri) :
      Matches (.canonicalizationAlgorithm uri)
        (.canonicalizationAlgorithm uri)
  | validateTarget {left right : Element}
      (token : comparison.element left right) :
      Matches (.validateTarget left) (.validateTarget right)
  | renewTarget {left right : Element}
      (token : comparison.element left right) :
      Matches (.renewTarget left) (.renewTarget right)
  | cancelTarget {left right : Element}
      (token : comparison.element left right) :
      Matches (.cancelTarget left) (.cancelTarget right)

/-- Both requests state the same terms and ask for the same algorithms, about
matching tokens. -/
structure Request.Matches (left right : Request) : Prop
    extends Terms.Matches comparison left.toTerms right.toTerms where
  computedKeyAlgorithm :
    left.computedKeyAlgorithm = right.computedKeyAlgorithm
  signatureAlgorithm : left.signatureAlgorithm = right.signatureAlgorithm
  encryptionAlgorithm : left.encryptionAlgorithm = right.encryptionAlgorithm
  canonicalizationAlgorithm :
    left.canonicalizationAlgorithm = right.canonicalizationAlgorithm
  validateTarget :
    Option.Rel comparison.element left.validateTarget right.validateTarget
  renewTarget :
    Option.Rel comparison.element left.renewTarget right.renewTarget
  cancelTarget :
    Option.Rel comparison.element left.cancelTarget right.cancelTarget

variable {comparison}

theorem Request.Matches.ofContext (context : String) :
    (Request.ofContext context).Matches comparison (.ofContext context) :=
  ⟨.ofContext context, rfl, rfl, rfl, rfl, .none, .none, .none⟩

theorem Request.Matches.add
    {left right : Request} (matched : left.Matches comparison right)
    {child other : RequestChild} (said : child.Matches comparison other) :
    (left.add child).Matches comparison (right.add other) := by
  cases said with
  | term stated =>
      exact { matched with toMatches := matched.toMatches.add stated }
  | computedKeyAlgorithm uri =>
      exact { matched with computedKeyAlgorithm := rfl }
  | signatureAlgorithm uri => exact { matched with signatureAlgorithm := rfl }
  | encryptionAlgorithm uri =>
      exact { matched with encryptionAlgorithm := rfl }
  | canonicalizationAlgorithm uri =>
      exact { matched with canonicalizationAlgorithm := rfl }
  | validateTarget token =>
      exact { matched with validateTarget := .some token }
  | renewTarget token => exact { matched with renewTarget := .some token }
  | cancelTarget token => exact { matched with cancelTarget := .some token }

variable (comparison)

/-! ## Responses -/

inductive ResponseChild.Matches : ResponseChild → ResponseChild → Prop
  | term {left right : Term} (stated : left.Matches comparison right) :
      Matches (.term left) (.term right)
  | cancelled : Matches .cancelled .cancelled
  | proofToken {left right : ProofToken}
      (proof : left.Matches comparison right) :
      Matches (.proofToken left) (.proofToken right)
  | requestedToken {left right : RequestedToken}
      (token : left.Matches comparison right) :
      Matches (.requestedToken left) (.requestedToken right)
  | attachedReference {left right : TokenReference}
      (reference : left.Matches comparison right) :
      Matches (.attachedReference left) (.attachedReference right)
  | unattachedReference {left right : TokenReference}
      (reference : left.Matches comparison right) :
      Matches (.unattachedReference left) (.unattachedReference right)
  | status {left right : Status} (outcome : left.Matches comparison right) :
      Matches (.status left) (.status right)

/-- Both responses state the same terms, issue matching tokens and report
matching outcomes. -/
structure Response.Matches (left right : Response) : Prop
    extends Terms.Matches comparison left.toTerms right.toTerms where
  cancelled : left.cancelled = right.cancelled
  proofToken :
    Option.Rel (ProofToken.Matches comparison) left.proofToken
      right.proofToken
  requestedToken :
    Option.Rel (RequestedToken.Matches comparison) left.requestedToken
      right.requestedToken
  attachedReference :
    Option.Rel (TokenReference.Matches comparison) left.attachedReference
      right.attachedReference
  unattachedReference :
    Option.Rel (TokenReference.Matches comparison) left.unattachedReference
      right.unattachedReference
  status : Option.Rel (Status.Matches comparison) left.status right.status

variable {comparison}

theorem Response.Matches.ofContext (context : String) :
    (Response.ofContext context).Matches comparison (.ofContext context) :=
  ⟨.ofContext context, rfl, .none, .none, .none, .none, .none⟩

theorem Response.Matches.add
    {left right : Response} (matched : left.Matches comparison right)
    {child other : ResponseChild} (said : child.Matches comparison other) :
    (left.add child).Matches comparison (right.add other) := by
  cases said with
  | term stated =>
      exact { matched with toMatches := matched.toMatches.add stated }
  | cancelled => exact { matched with cancelled := rfl }
  | proofToken proof => exact { matched with proofToken := .some proof }
  | requestedToken token =>
      exact { matched with requestedToken := .some token }
  | attachedReference reference =>
      exact { matched with attachedReference := .some reference }
  | unattachedReference reference =>
      exact { matched with unattachedReference := .some reference }
  | status outcome => exact { matched with status := .some outcome }

variable (comparison)

/-! ## Payloads -/

/-- Both messages are of one kind, with matching records in the same order. -/
inductive Payload.Matches : Payload → Payload → Prop
  | request {left right : Request}
      (single : left.Matches comparison right) :
      Matches (.request left) (.request right)
  | requestCollection {left right : List Request}
      (members : List.Forall₂ (Request.Matches comparison) left right) :
      Matches (.requestCollection left) (.requestCollection right)
  | response {left right : Response}
      (single : left.Matches comparison right) :
      Matches (.response left) (.response right)
  | responseCollection {left right : List Response}
      (members : List.Forall₂ (Response.Matches comparison) left right) :
      Matches (.responseCollection left) (.responseCollection right)

/-! ## Comparisons that distinguish -/

theorem eq_of_optionRel
    {Value : Type} {related : Value → Value → Prop}
    (distinguishes : ∀ left right, related left right → left = right)
    {left right : Option Value} (values : Option.Rel related left right) :
    left = right := by
  cases values with
  | none => rfl
  | some value => rw [distinguishes _ _ value]

theorem eq_of_optionRel_map
    {Value Shown : Type} {related : Value → Value → Prop}
    {shown : Value → Shown}
    (sameShown : ∀ left right, related left right →
      shown left = shown right)
    {left right : Option Value} (values : Option.Rel related left right) :
    left.map shown = right.map shown := by
  cases values with
  | none => rfl
  | some value => rw [Option.map_some, Option.map_some, sameShown _ _ value]

theorem eq_of_forall₂_map
    {Value Shown : Type} {related : Value → Value → Prop}
    {shown : Value → Shown}
    (sameShown : ∀ left right, related left right →
      shown left = shown right)
    {left right : List Value} (values : List.Forall₂ related left right) :
    left.map shown = right.map shown := by
  induction values with
  | nil => rfl
  | cons head _ inductionHypothesis =>
      rw [List.map_cons, List.map_cons, sameShown _ _ head,
        inductionHypothesis]

section Values

variable {comparison}
  (values : ∀ left right, comparison.value left right → left = right)

include values

theorem Timestamp.eq_of_value
    (left right : Timestamp)
    (texts : comparison.value left.text right.text) :
    left = right :=
  congrArg Timestamp.mk (values _ _ texts)

theorem Lifetime.Matches.eq
    {left right : Lifetime} (matched : left.Matches comparison right) :
    left = right := by
  have created :=
    eq_of_optionRel (Timestamp.eq_of_value values) matched.created
  have expires := Timestamp.eq_of_value values _ _ matched.expires
  exact congr (congrArg Lifetime.mk created) expires

theorem BinarySecret.Matches.eq
    {left right : BinarySecret} (matched : left.Matches comparison right) :
    left = right := by
  obtain ⟨text, other, leftBytes, rightBytes, texts⟩ := matched.value
  have bytes : left.value = right.value := by
    rw [leftBytes, rightBytes, values _ _ texts]
  exact congr (congrArg BinarySecret.mk matched.type) bytes

theorem Entropy.Matches.eq
    {left right : Entropy} (matched : left.Matches comparison right) :
    left = right :=
  congrArg Entropy.mk <|
    eq_of_optionRel (fun _ _ secret => secret.eq values) matched

theorem ProofToken.Matches.eq
    {left right : ProofToken} (matched : left.Matches comparison right) :
    left = right := by
  cases matched with
  | binarySecret secret => rw [secret.eq values]
  | computedKey algorithm => rw [values _ _ algorithm]
  | none => rfl

theorem Status.Matches.eq
    {left right : Status} (matched : left.Matches comparison right) :
    left = right :=
  congr (congrArg Status.mk (values _ _ matched.code))
    (values _ _ matched.reason)

variable
  (elements : ∀ left right, comparison.element left right → left = right)

include elements

/-- Terms that match are equal if both their values and their fragments
are. -/
theorem Terms.Matches.eq
    {left right : Terms} (matched : left.Matches comparison right) :
    left = right := by
  have lifetime :=
    eq_of_optionRel (fun _ _ spans => spans.eq values) matched.lifetime
  have onBehalfOf : left.onBehalfOf = right.onBehalfOf :=
    eq_of_optionRel
      (fun _ _ same => congrArg OnBehalfOf.mk (elements _ _ same))
      matched.onBehalfOf
  have entropy :=
    eq_of_optionRel (fun _ _ both => both.eq values) matched.entropy
  have useKey : left.useKey = right.useKey :=
    eq_of_optionRel
      (fun _ _ same => congrArg UseKey.mk (elements _ _ same))
      matched.useKey
  have appliesTo : left.appliesTo = right.appliesTo := by
    refine eq_of_optionRel (fun _ _ parties => ?_) matched.appliesTo
    cases parties with
    | endpointReference address => rw [values _ _ address]
    | value text => rw [values _ _ text]
    | fragment content => rw [elements _ _ content]
  obtain ⟨context, requestType, tokenType, keyType, _, _, keySize, _, _,
    renewing, _⟩ := matched
  cases left
  cases right
  rw [Terms.mk.injEq]
  exact ⟨context, requestType, tokenType, keyType, lifetime, onBehalfOf,
    keySize, entropy, useKey, renewing, appliesTo⟩

end Values

end WsTrust
