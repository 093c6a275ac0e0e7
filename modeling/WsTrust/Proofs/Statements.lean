import WsTrust.Proofs.RecordFields

/-!
# What a record states

A record states the fields that are set, each by one child.  The children that
it states build it up again, in whatever order they come.
-/

namespace WsTrust

open Cursor

/-! ## Statements field by field -/

namespace BodyGrammar.Fields

variable {Record Child : Type} {grammar : BodyGrammar Record Child}

/-- A choice of at most one child for each field that tells a record from the
one that says only its context. -/
structure States
    (fields : grammar.Fields) (initial record : Record)
    (stated? : fields.Field → Option Child) : Prop where
  sound : ∀ field child, stated? field = some child →
    fields.target child = field ∧ fields.IsTrueOf record child
  complete : ∀ field, stated? field = none →
    fields.get initial field = fields.get record field

theorem States.addAll_eq
    {fields : grammar.Fields} {initial record : Record}
    {stated? : fields.Field → Option Child}
    (states : fields.States initial record stated?)
    {all : List fields.Field} (exhaustive : ∀ field, field ∈ all)
    {children : List Child} (listed : children.Perm (all.filterMap stated?)) :
    grammar.addAll initial (children.map some) = record := by
  apply fields.addAll_eq_of_true
  · intro child member
    obtain ⟨field, _, stated⟩ :=
      List.mem_filterMap.mp (listed.mem_iff.mp member)
    exact (states.sound field child stated).2
  · intro field
    cases stated : stated? field with
    | none => exact Or.inr (states.complete field stated)
    | some child =>
        have member : child ∈ children :=
          listed.mem_iff.mpr
            (List.mem_filterMap.mpr ⟨field, exhaustive field, stated⟩)
        exact Or.inl ⟨child, member, (states.sound field child stated).1⟩

end BodyGrammar.Fields

/-! ## Terms -/

namespace Terms

def Field.all : List Field :=
  [.context, .requestType, .tokenType, .keyType, .lifetime, .onBehalfOf,
    .keySize, .entropy, .useKey, .renewing, .appliesTo]

theorem Field.mem_all (field : Field) : field ∈ Field.all := by
  cases field <;> decide

def stated? (terms : Terms) : Field → Option Term
  | .context => none
  | .requestType => terms.requestType.map .requestType
  | .tokenType => terms.tokenType.map .tokenType
  | .keyType => terms.keyType.map .keyType
  | .lifetime => terms.lifetime.map .lifetime
  | .onBehalfOf => terms.onBehalfOf.map .onBehalfOf
  | .keySize => terms.keySize.map .keySize
  | .entropy => terms.entropy.map .entropy
  | .useKey => terms.useKey.map .useKey
  | .renewing => terms.renewing.map .renewing
  | .appliesTo => terms.appliesTo.map .appliesTo

/-- A term that is stated belongs to its field and says what is in it. -/
theorem sound_stated?
    {terms : Terms} {field : Field} {term : Term}
    (stated : terms.stated? field = some term) :
    term.field = field ∧ terms.get term.field = term.meaning := by
  cases field with
  | context => cases stated
  | _ =>
      obtain ⟨value, set, rfl⟩ := Option.map_eq_some_iff.mp stated
      exact ⟨rfl, set⟩

def ofContext (context : String) : Terms :=
  { context }

theorem complete_stated?
    {terms : Terms} {field : Field}
    (unstated : terms.stated? field = none) :
    (ofContext terms.context).get field = terms.get field := by
  cases field with
  | context => rfl
  | _ => exact (Option.map_eq_none_iff.mp unstated).symm

end Terms

/-! ## Responses -/

namespace Response

def Field.all : List Field :=
  Terms.Field.all.map .term ++
    [.cancelled, .proofToken, .requestedToken, .attachedReference,
      .unattachedReference, .status]

theorem Field.mem_all (field : Field) : field ∈ Field.all := by
  cases field with
  | term field =>
      exact List.mem_append_left _
        (List.mem_map_of_mem (Terms.Field.mem_all field))
  | _ => decide

def stated? (response : Response) : Field → Option ResponseChild
  | .term field => (response.toTerms.stated? field).map .term
  | .cancelled => if response.cancelled then some .cancelled else none
  | .proofToken => response.proofToken.map .proofToken
  | .requestedToken => response.requestedToken.map .requestedToken
  | .attachedReference => response.attachedReference.map .attachedReference
  | .unattachedReference =>
      response.unattachedReference.map .unattachedReference
  | .status => response.status.map .status

def children (response : Response) : List ResponseChild :=
  Field.all.filterMap response.stated?

theorem states (response : Response) :
    fields.States (ofContext response.context) response
      response.stated? where
  sound := by
    intro field child stated
    cases field with
    | term field =>
        obtain ⟨term, termStated, rfl⟩ := Option.map_eq_some_iff.mp stated
        obtain ⟨rfl, isTrue⟩ := Terms.sound_stated? termStated
        exact ⟨rfl, isTrue⟩
    | cancelled =>
        obtain ⟨reported, equality⟩ :=
          Option.ite_none_right_eq_some.mp stated
        cases equality
        exact ⟨rfl, reported⟩
    | _ =>
        obtain ⟨value, set, rfl⟩ := Option.map_eq_some_iff.mp stated
        exact ⟨rfl, set⟩
  complete := by
    intro field unstated
    cases field with
    | term field =>
        exact Terms.complete_stated? (Option.map_eq_none_iff.mp unstated)
    | cancelled =>
        have unreported : response.cancelled = false := by
          simpa [stated?] using unstated
        exact unreported.symm
    | _ => exact (Option.map_eq_none_iff.mp unstated).symm

/-- The children that a response states build it up again in any order. -/
theorem addAll_children
    {response : Response} {stated : List ResponseChild}
    (listed : stated.Perm response.children) :
    grammar.addAll (ofContext response.context) (stated.map some) =
      response :=
  response.states.addAll_eq Field.mem_all listed

end Response

/-! ## Requests -/

namespace Request

def Field.all : List Field :=
  Terms.Field.all.map .term ++
    [.computedKeyAlgorithm, .signatureAlgorithm, .encryptionAlgorithm,
      .canonicalizationAlgorithm, .validateTarget, .renewTarget,
      .cancelTarget]

theorem Field.mem_all (field : Field) : field ∈ Field.all := by
  cases field with
  | term field =>
      exact List.mem_append_left _
        (List.mem_map_of_mem (Terms.Field.mem_all field))
  | _ => decide

def stated? (request : Request) : Field → Option RequestChild
  | .term field => (request.toTerms.stated? field).map .term
  | .computedKeyAlgorithm =>
      request.computedKeyAlgorithm.map .computedKeyAlgorithm
  | .signatureAlgorithm => request.signatureAlgorithm.map .signatureAlgorithm
  | .encryptionAlgorithm =>
      request.encryptionAlgorithm.map .encryptionAlgorithm
  | .canonicalizationAlgorithm =>
      request.canonicalizationAlgorithm.map .canonicalizationAlgorithm
  | .validateTarget => request.validateTarget.map .validateTarget
  | .renewTarget => request.renewTarget.map .renewTarget
  | .cancelTarget => request.cancelTarget.map .cancelTarget

def children (request : Request) : List RequestChild :=
  Field.all.filterMap request.stated?

theorem states (request : Request) :
    fields.States (ofContext request.context) request request.stated? where
  sound := by
    intro field child stated
    cases field with
    | term field =>
        obtain ⟨term, termStated, rfl⟩ := Option.map_eq_some_iff.mp stated
        obtain ⟨rfl, isTrue⟩ := Terms.sound_stated? termStated
        exact ⟨rfl, isTrue⟩
    | _ =>
        obtain ⟨value, set, rfl⟩ := Option.map_eq_some_iff.mp stated
        exact ⟨rfl, set⟩
  complete := by
    intro field unstated
    cases field with
    | term field =>
        exact Terms.complete_stated? (Option.map_eq_none_iff.mp unstated)
    | _ => exact (Option.map_eq_none_iff.mp unstated).symm

/-- The children that a request states build it up again in any order. -/
theorem addAll_children
    {request : Request} {stated : List RequestChild}
    (listed : stated.Perm request.children) :
    grammar.addAll (ofContext request.context) (stated.map some) =
      request :=
  request.states.addAll_eq Field.mem_all listed

end Request

end WsTrust
