import WsTrust.Proofs.Fields
import WsTrust.Request
import WsTrust.Response

/-!
# The fields of requests and responses

Both records share the fields of their terms.  A child of either belongs to the
field named like it, and a child that is no name of the grammar to the relying
party.
-/

namespace WsTrust

open Cursor

/-! ## Tables by name -/

theorem mem_of_lookup_eq_some
    {Value : Type} {table : List (String × Value)} {key : String}
    {value : Value} (found : table.lookup key = some value) :
    (key, value) ∈ table := by
  obtain ⟨before, after, rfl, _⟩ := List.lookup_eq_some_iff.mp found
  exact List.mem_append_right before List.mem_cons_self

theorem lookup_of_mem
    {Value : Type} {table : List (String × Value)}
    (distinct : (table.map Prod.fst).Nodup) {key : String} {value : Value}
    (member : (key, value) ∈ table) :
    table.lookup key = some value := by
  induction table with
  | nil => cases member
  | cons entry rest inductionHypothesis =>
      obtain ⟨fresh, distinctRest⟩ := List.nodup_cons.mp distinct
      rcases List.mem_cons.mp member with rfl | inRest
      · exact List.lookup_cons_self
      · have different : key ≠ entry.1 := by
          intro same
          rw [← same] at fresh
          exact fresh (List.mem_map.mpr ⟨(key, value), inRest, rfl⟩)
        rw [List.lookup_cons, beq_false_of_ne different]
        exact inductionHypothesis distinctRest inRest

theorem lookup_eq_none_iff_notMem_keys
    {Value : Type} {table : List (String × Value)} {key : String} :
    table.lookup key = none ↔ key ∉ table.map Prod.fst := by
  rw [List.lookup_eq_none_iff]
  constructor
  · intro absent member
    obtain ⟨entry, inTable, equality⟩ := List.mem_map.mp member
    have different := absent entry inTable
    rw [equality] at different
    simp at different
  · intro absent entry inTable
    have different : key ≠ entry.1 := by
      rintro rfl
      exact absent (List.mem_map_of_mem inTable)
    simpa using different

theorem lookup_map_value
    {Value Other : Type} (change : Value → Other)
    (table : List (String × Value)) (key : String) :
    (table.map fun (name, value) => (name, change value)).lookup key =
      (table.lookup key).map change := by
  induction table with
  | nil => rfl
  | cons entry rest inductionHypothesis =>
      obtain ⟨name, value⟩ := entry
      rw [List.map_cons, List.lookup_cons, List.lookup_cons,
        inductionHypothesis]
      cases key == name <;> rfl

/-! ## Terms -/

namespace Terms

inductive Field where
  | context
  | requestType
  | tokenType
  | keyType
  | lifetime
  | onBehalfOf
  | keySize
  | entropy
  | useKey
  | renewing
  | appliesTo
  deriving DecidableEq, Repr

namespace Field

def Value : Field → Type
  | context => String
  | requestType => Option Uri
  | tokenType => Option Uri
  | keyType => Option Uri
  | lifetime => Option Lifetime
  | onBehalfOf => Option OnBehalfOf
  | keySize => Option Nat
  | entropy => Option Entropy
  | useKey => Option UseKey
  | renewing => Option Renewing
  | appliesTo => Option AppliesTo

def byName : List (String × Field) :=
  [("RequestType", requestType), ("TokenType", tokenType),
    ("KeyType", keyType), ("Lifetime", lifetime),
    ("OnBehalfOf", onBehalfOf), ("KeySize", keySize), ("Entropy", entropy),
    ("UseKey", useKey), ("Renewing", renewing)]

end Field

def get (terms : Terms) : (field : Field) → field.Value
  | .context => terms.context
  | .requestType => terms.requestType
  | .tokenType => terms.tokenType
  | .keyType => terms.keyType
  | .lifetime => terms.lifetime
  | .onBehalfOf => terms.onBehalfOf
  | .keySize => terms.keySize
  | .entropy => terms.entropy
  | .useKey => terms.useKey
  | .renewing => terms.renewing
  | .appliesTo => terms.appliesTo

theorem ext_get
    {left right : Terms}
    (agree : ∀ field, left.get field = right.get field) :
    left = right := by
  have context := agree .context
  have requestType := agree .requestType
  have tokenType := agree .tokenType
  have keyType := agree .keyType
  have lifetime := agree .lifetime
  have onBehalfOf := agree .onBehalfOf
  have keySize := agree .keySize
  have entropy := agree .entropy
  have useKey := agree .useKey
  have renewing := agree .renewing
  have appliesTo := agree .appliesTo
  cases left
  cases right
  simp only [get] at *
  subst_vars
  rfl

end Terms

namespace Term

def field : Term → Terms.Field
  | .requestType _ => .requestType
  | .tokenType _ => .tokenType
  | .keyType _ => .keyType
  | .lifetime _ => .lifetime
  | .onBehalfOf _ => .onBehalfOf
  | .keySize _ => .keySize
  | .entropy _ => .entropy
  | .useKey _ => .useKey
  | .renewing _ => .renewing
  | .appliesTo _ => .appliesTo

def meaning : (term : Term) → term.field.Value
  | .requestType uri => some uri
  | .tokenType uri => some uri
  | .keyType uri => some uri
  | .lifetime span => some span
  | .onBehalfOf delegation => some delegation
  | .keySize bits => some bits
  | .entropy contributed => some contributed
  | .useKey key => some key
  | .renewing renewal => some renewal
  | .appliesTo party => some party

theorem get_add_field (terms : Terms) (term : Term) :
    (terms.add term).get term.field = term.meaning := by
  cases term <;> rfl

theorem get_add_other
    (terms : Terms) (term : Term) {field : Terms.Field}
    (different : field ≠ term.field) :
    (terms.add term).get field = terms.get field := by
  cases term <;> cases field <;> first | rfl | exact absurd rfl different

/-- The reader of a term yields a term for the field of this name. -/
theorem byName_of_reader
    {localPart : String} {read : Nat → Cursor Term}
    (member : (localPart, read) ∈ readers)
    {maxDepth : Nat} {stream rest : TokenStream} {term : Term}
    (succeeded : read maxDepth stream = .ok term rest) :
    Terms.Field.byName.lookup localPart = some term.field := by
  simp only [readers, List.mem_cons, Prod.mk.injEq,
    List.not_mem_nil, or_false] at member
  rcases member with
    ⟨rfl, rfl⟩ | ⟨rfl, rfl⟩ | ⟨rfl, rfl⟩ | ⟨rfl, rfl⟩ | ⟨rfl, rfl⟩ |
      ⟨rfl, rfl⟩ | ⟨rfl, rfl⟩ | ⟨rfl, rfl⟩ | ⟨rfl, rfl⟩
  all_goals
    obtain ⟨value, _, rfl⟩ := map_eq_ok_iff.mp succeeded
    rfl

end Term

/-! ## Responses -/

namespace Response

inductive Field where
  | term (field : Terms.Field)
  | cancelled
  | proofToken
  | requestedToken
  | attachedReference
  | unattachedReference
  | status
  deriving DecidableEq, Repr

namespace Field

def Value : Field → Type
  | term field => field.Value
  | cancelled => Bool
  | proofToken => Option ProofToken
  | requestedToken => Option RequestedToken
  | attachedReference => Option TokenReference
  | unattachedReference => Option TokenReference
  | status => Option Status

def byName : List (String × Field) :=
  Terms.Field.byName.map (fun (localPart, field) => (localPart, .term field)) ++
    [("RequestedTokenCancelled", cancelled),
      ("RequestedProofToken", proofToken),
      ("RequestedSecurityToken", requestedToken),
      ("RequestedAttachedReference", attachedReference),
      ("RequestedUnattachedReference", unattachedReference),
      ("Status", status)]

end Field

def get (response : Response) : (field : Field) → field.Value
  | .term field => response.toTerms.get field
  | .cancelled => response.cancelled
  | .proofToken => response.proofToken
  | .requestedToken => response.requestedToken
  | .attachedReference => response.attachedReference
  | .unattachedReference => response.unattachedReference
  | .status => response.status

theorem ext_get
    {left right : Response}
    (agree : ∀ field, left.get field = right.get field) :
    left = right := by
  have terms : left.toTerms = right.toTerms :=
    Terms.ext_get fun field => agree (.term field)
  have cancelled := agree .cancelled
  have proofToken := agree .proofToken
  have requestedToken := agree .requestedToken
  have attachedReference := agree .attachedReference
  have unattachedReference := agree .unattachedReference
  have status := agree .status
  cases left
  cases right
  simp only [get] at *
  subst_vars
  rfl

end Response

namespace ResponseChild

def field : ResponseChild → Response.Field
  | .term stated => .term stated.field
  | .cancelled => .cancelled
  | .proofToken _ => .proofToken
  | .requestedToken _ => .requestedToken
  | .attachedReference _ => .attachedReference
  | .unattachedReference _ => .unattachedReference
  | .status _ => .status

def meaning : (child : ResponseChild) → child.field.Value
  | .term stated => stated.meaning
  | .cancelled => true
  | .proofToken proof => some proof
  | .requestedToken token => some token
  | .attachedReference reference => some reference
  | .unattachedReference reference => some reference
  | .status outcome => some outcome

theorem get_add_field (response : Response) (child : ResponseChild) :
    (response.add child).get child.field = child.meaning := by
  cases child with
  | term stated => exact Term.get_add_field response.toTerms stated
  | _ => rfl

theorem get_add_other
    (response : Response) (child : ResponseChild) {field : Response.Field}
    (different : field ≠ child.field) :
    (response.add child).get field = response.get field := by
  cases child with
  | term stated =>
      cases field with
      | term field =>
          exact Term.get_add_other response.toTerms stated fun equality =>
            different (congrArg Response.Field.term equality)
      | _ => rfl
  | _ => cases field <;> first | rfl | exact absurd rfl different

/-- The reader of a child yields a child for the field of this name. -/
theorem byName_of_reader
    {localPart : String} {read : Nat → Cursor ResponseChild}
    (found : Response.grammar.children.lookup localPart = some read)
    {maxDepth : Nat} {stream rest : TokenStream} {child : ResponseChild}
    (succeeded : read maxDepth stream = .ok child rest) :
    Response.Field.byName.lookup localPart = some child.field := by
  have member := mem_of_lookup_eq_some found
  simp only [Response.grammar, Term.readersAs, List.mem_append, List.mem_map,
    List.mem_cons, Prod.mk.injEq, List.not_mem_nil, or_false] at member
  rcases member with ⟨⟨name, reader⟩, inTerms, rfl, rfl⟩ |
    ⟨rfl, rfl⟩ | ⟨rfl, rfl⟩ | ⟨rfl, rfl⟩ | ⟨rfl, rfl⟩ | ⟨rfl, rfl⟩ |
      ⟨rfl, rfl⟩
  · obtain ⟨term, read, rfl⟩ := map_eq_ok_iff.mp succeeded
    have named := Term.byName_of_reader inTerms read
    rw [Response.Field.byName, List.lookup_append, lookup_map_value, named]
    rfl
  · obtain ⟨_, _, _, concluded⟩ := bind_eq_ok_iff.mp succeeded
    cases concluded
    rfl
  all_goals
    obtain ⟨value, _, rfl⟩ := map_eq_ok_iff.mp succeeded
    rfl

end ResponseChild

namespace Response

/-- The names that a response reads its children by are those of its
fields. -/
theorem names_eq :
    grammar.children.map Prod.fst = Field.byName.map Prod.fst := rfl

/-- The fields of a response, as its children set them. -/
def fields : grammar.Fields where
  Field := Field
  decideEq := inferInstance
  Value := Field.Value
  get := get
  target := ResponseChild.field
  meaning := ResponseChild.meaning
  named localPart := (Field.byName.lookup localPart).getD (.term .appliesTo)
  get_add_target := ResponseChild.get_add_field
  get_add_other := fun response child _ different =>
    ResponseChild.get_add_other response child different
  ext := fun _ _ agree => ext_get agree
  target_of_read := by
    intro localPart read found maxDepth stream child rest succeeded
    rw [ResponseChild.byName_of_reader found succeeded]
    rfl
  target_appliesTo := by
    intro localPart absent party
    rw [lookup_eq_none_iff_notMem_keys, names_eq,
      ← lookup_eq_none_iff_notMem_keys] at absent
    rw [absent]
    rfl

end Response

/-! ## Requests -/

namespace Request

inductive Field where
  | term (field : Terms.Field)
  | computedKeyAlgorithm
  | signatureAlgorithm
  | encryptionAlgorithm
  | canonicalizationAlgorithm
  | validateTarget
  | renewTarget
  | cancelTarget
  deriving DecidableEq, Repr

namespace Field

def Value : Field → Type
  | term field => field.Value
  | computedKeyAlgorithm => Option Uri
  | signatureAlgorithm => Option Uri
  | encryptionAlgorithm => Option Uri
  | canonicalizationAlgorithm => Option Uri
  | validateTarget => Option Element
  | renewTarget => Option Element
  | cancelTarget => Option Element

def byName : List (String × Field) :=
  Terms.Field.byName.map (fun (localPart, field) => (localPart, .term field)) ++
    [("ComputedKeyAlgorithm", computedKeyAlgorithm),
      ("SignatureAlgorithm", signatureAlgorithm),
      ("EncryptionAlgorithm", encryptionAlgorithm),
      ("CanonicalizationAlgorithm", canonicalizationAlgorithm),
      ("ValidateTarget", validateTarget), ("RenewTarget", renewTarget),
      ("CancelTarget", cancelTarget)]

end Field

def get (request : Request) : (field : Field) → field.Value
  | .term field => request.toTerms.get field
  | .computedKeyAlgorithm => request.computedKeyAlgorithm
  | .signatureAlgorithm => request.signatureAlgorithm
  | .encryptionAlgorithm => request.encryptionAlgorithm
  | .canonicalizationAlgorithm => request.canonicalizationAlgorithm
  | .validateTarget => request.validateTarget
  | .renewTarget => request.renewTarget
  | .cancelTarget => request.cancelTarget

theorem ext_get
    {left right : Request}
    (agree : ∀ field, left.get field = right.get field) :
    left = right := by
  have terms : left.toTerms = right.toTerms :=
    Terms.ext_get fun field => agree (.term field)
  have computedKeyAlgorithm := agree .computedKeyAlgorithm
  have signatureAlgorithm := agree .signatureAlgorithm
  have encryptionAlgorithm := agree .encryptionAlgorithm
  have canonicalizationAlgorithm := agree .canonicalizationAlgorithm
  have validateTarget := agree .validateTarget
  have renewTarget := agree .renewTarget
  have cancelTarget := agree .cancelTarget
  cases left
  cases right
  simp only [get] at *
  subst_vars
  rfl

end Request

namespace RequestChild

def field : RequestChild → Request.Field
  | .term stated => .term stated.field
  | .computedKeyAlgorithm _ => .computedKeyAlgorithm
  | .signatureAlgorithm _ => .signatureAlgorithm
  | .encryptionAlgorithm _ => .encryptionAlgorithm
  | .canonicalizationAlgorithm _ => .canonicalizationAlgorithm
  | .validateTarget _ => .validateTarget
  | .renewTarget _ => .renewTarget
  | .cancelTarget _ => .cancelTarget

def meaning : (child : RequestChild) → child.field.Value
  | .term stated => stated.meaning
  | .computedKeyAlgorithm uri => some uri
  | .signatureAlgorithm uri => some uri
  | .encryptionAlgorithm uri => some uri
  | .canonicalizationAlgorithm uri => some uri
  | .validateTarget token => some token
  | .renewTarget token => some token
  | .cancelTarget token => some token

theorem get_add_field (request : Request) (child : RequestChild) :
    (request.add child).get child.field = child.meaning := by
  cases child with
  | term stated => exact Term.get_add_field request.toTerms stated
  | _ => rfl

theorem get_add_other
    (request : Request) (child : RequestChild) {field : Request.Field}
    (different : field ≠ child.field) :
    (request.add child).get field = request.get field := by
  cases child with
  | term stated =>
      cases field with
      | term field =>
          exact Term.get_add_other request.toTerms stated fun equality =>
            different (congrArg Request.Field.term equality)
      | _ => rfl
  | _ => cases field <;> first | rfl | exact absurd rfl different

/-- The reader of a child yields a child for the field of this name. -/
theorem byName_of_reader
    {localPart : String} {read : Nat → Cursor RequestChild}
    (found : Request.grammar.children.lookup localPart = some read)
    {maxDepth : Nat} {stream rest : TokenStream} {child : RequestChild}
    (succeeded : read maxDepth stream = .ok child rest) :
    Request.Field.byName.lookup localPart = some child.field := by
  have member := mem_of_lookup_eq_some found
  simp only [Request.grammar, Term.readersAs, List.mem_append, List.mem_map,
    List.mem_cons, Prod.mk.injEq, List.not_mem_nil, or_false] at member
  rcases member with ⟨⟨name, reader⟩, inTerms, rfl, rfl⟩ |
    ⟨rfl, rfl⟩ | ⟨rfl, rfl⟩ | ⟨rfl, rfl⟩ | ⟨rfl, rfl⟩ | ⟨rfl, rfl⟩ |
      ⟨rfl, rfl⟩ | ⟨rfl, rfl⟩
  · obtain ⟨term, read, rfl⟩ := map_eq_ok_iff.mp succeeded
    have named := Term.byName_of_reader inTerms read
    rw [Request.Field.byName, List.lookup_append, lookup_map_value, named]
    rfl
  all_goals
    obtain ⟨value, _, rfl⟩ := map_eq_ok_iff.mp succeeded
    rfl

end RequestChild

namespace Request

/-- The names that a request reads its children by are those of its
fields. -/
theorem names_eq :
    grammar.children.map Prod.fst = Field.byName.map Prod.fst := rfl

/-- The fields of a request, as its children set them. -/
def fields : grammar.Fields where
  Field := Field
  decideEq := inferInstance
  Value := Field.Value
  get := get
  target := RequestChild.field
  meaning := RequestChild.meaning
  named localPart := (Field.byName.lookup localPart).getD (.term .appliesTo)
  get_add_target := RequestChild.get_add_field
  get_add_other := fun request child _ different =>
    RequestChild.get_add_other request child different
  ext := fun _ _ agree => ext_get agree
  target_of_read := by
    intro localPart read found maxDepth stream child rest succeeded
    rw [RequestChild.byName_of_reader found succeeded]
    rfl
  target_appliesTo := by
    intro localPart absent party
    rw [lookup_eq_none_iff_notMem_keys, names_eq,
      ← lookup_eq_none_iff_notMem_keys] at absent
    rw [absent]
    rfl

end Request

end WsTrust
