import WsTrust.Proofs.RoundTrip
import WsTrust.Proofs.Validation

/-!
# What records carry

A record is built up from what its children say.  If every reader of a child
yields only valid values, then a record carries only valid values, however the
children are mixed and wherever the message ends.
-/

namespace WsTrust

open Cursor

/-! ## Bodies -/

namespace BodyGrammar

variable {Record Child : Type}

/-- All children that are read are valid, and a record to which only valid
children are added keeps a property. -/
structure Validates
    (grammar : BodyGrammar Record Child) (registry : Registry)
    (maxDepth : Nat) (valid : Child → Prop) (carries : Record → Prop) :
    Prop where
  tabled : ∀ row ∈ grammar.children, Ensures (row.2 maxDepth) valid
  foreign : ∀ extension ∈ registry.extensions,
    Ensures extension.read fun value =>
      ∀ party, value = .appliesTo party → valid (grammar.appliesTo party)
  initial : ∀ context, carries (grammar.ofContext context)
  add : ∀ record child, carries record → valid child →
    carries (grammar.add record child)

variable {grammar : BodyGrammar Record Child} {registry : Registry}
  {maxDepth : Nat} {valid : Child → Prop} {carries : Record → Prop}

theorem Validates.readExtension_ensures
    (validates : grammar.Validates registry maxDepth valid carries)
    (name : QName) :
    Ensures (grammar.readExtension registry name) fun child =>
      ∀ stated, child = some stated → valid stated := by
  rw [readExtension]
  cases claimed : registry.lookup? name with
  | none => exact Ensures.refuse _
  | some extension =>
      have registered : extension ∈ registry.extensions :=
        List.mem_of_find?_eq_some claimed
      refine (validates.foreign extension registered).bind
        fun value parties => ?_
      cases value with
      | appliesTo party =>
          refine Ensures.pure fun stated same => ?_
          rw [← Option.some.inj same]
          exact parties party rfl
      | fragment content =>
          refine Ensures.pure fun stated same => ?_
          cases same
      | empty =>
          refine Ensures.pure fun stated same => ?_
          cases same

theorem Validates.readChild_ensures
    (validates : grammar.Validates registry maxDepth valid carries)
    (name : QName) :
    Ensures (grammar.readChild registry maxDepth name) fun child =>
      ∀ stated, child = some stated → valid stated := by
  rw [readChild]
  cases found : grammar.children.lookup name.localPart with
  | none => exact validates.readExtension_ensures name
  | some read =>
      have row := validates.tabled _ (mem_of_lookup_eq_some found)
      refine Ensures.map (row.mono fun child isValid stated same => ?_)
      rw [← Option.some.inj same]
      exact isValid

/-- One turn of reading a body keeps what the record carries. -/
theorem Validates.turn_keeps
    (validates : grammar.Validates registry maxDepth valid carries)
    {record : Record} (before : carries record) :
    Ensures (grammar.turn registry maxDepth record)
      (Turn.Keeps carries carries) := by
  refine Ensures.bind_anything fun boundary => ?_
  split
  · refine (validates.readChild_ensures _).bind fun child isValid => ?_
    apply Ensures.pure
    cases child with
    | none => exact before
    | some stated =>
        exact validates.add record stated before (isValid stated rfl)
  · split
    · exact Ensures.bind_anything fun _ => Ensures.pure before
    · exact Ensures.refuse _
  · exact Ensures.pure before

theorem Validates.read_ensures
    (validates : grammar.Validates registry maxDepth valid carries) :
    Ensures (grammar.read registry maxDepth) carries := by
  refine Ensures.bind_anything fun root => ?_
  rw [readRest_eq_repeating]
  exact repeating_ensures carries (fun _ => validates.turn_keeps)
    (validates.initial _)

theorem Validates.readCollection_ensures
    (validates : grammar.Validates registry maxDepth valid carries)
    (elementName : String) :
    Ensures (grammar.readCollection registry maxDepth elementName)
      fun records => ∀ record ∈ records, carries record := by
  let AllCarry (records : List Record) : Prop :=
    ∀ record ∈ records, carries record
  have turn_keeps (earlier : List Record) (before : AllCarry earlier) :
      Ensures
        (grammar.collectionTurn registry maxDepth elementName earlier)
        (Turn.Keeps AllCarry AllCarry) := by
    refine Ensures.bind_anything fun boundary => ?_
    split
    · split
      · refine validates.read_ensures.bind fun record carried => ?_
        exact Ensures.pure (List.forall_mem_cons.mpr ⟨carried, before⟩)
      · exact Ensures.refuse _
    · split
      · refine Ensures.bind_anything fun _ => Ensures.pure ?_
        exact fun record member => before record (List.mem_reverse.mp member)
      · exact Ensures.refuse _
    · exact Ensures.refuse _
  have none : AllCarry [] := fun _ absurd => nomatch absurd
  exact Ensures.bind_anything fun _ =>
    repeating_ensures AllCarry turn_keeps none

end BodyGrammar

/-! ## Payloads -/

theorem Payload.read_ensures
    {registry : Registry} {maxDepth : Nat}
    {validResponse : ResponseChild → Prop} {responseCarries : Response → Prop}
    {validRequest : RequestChild → Prop} {requestCarries : Request → Prop}
    (responses : Response.grammar.Validates registry maxDepth validResponse
      responseCarries)
    (requests : Request.grammar.Validates registry maxDepth validRequest
      requestCarries) :
    Ensures (Payload.read registry maxDepth) fun payload =>
      (∀ response ∈ payload.responses, responseCarries response) ∧
        ∀ request ∈ payload.requests, requestCarries request := by
  refine Ensures.bind_anything fun root => ?_
  split
  · exact Ensures.refuse _
  · split
    · rename_i kind _
      cases kind with
      | request =>
          refine Ensures.map (requests.read_ensures.mono ?_)
          intro request carried
          simpa [Payload.responses, Payload.requests] using carried
      | response =>
          refine Ensures.map (responses.read_ensures.mono ?_)
          intro response carried
          simpa [Payload.responses, Payload.requests] using carried
      | requestCollection =>
          refine Ensures.map ((requests.readCollection_ensures _).mono ?_)
          intro members carried
          simpa [Payload.responses, Payload.requests] using carried
      | responseCollection =>
          refine Ensures.map ((responses.readCollection_ensures _).mono ?_)
          intro members carried
          simpa [Payload.responses, Payload.requests] using carried
    · exact Ensures.refuse _

/-! ## What a record states after an addition -/

theorem Terms.stated?_add (terms : Terms) (term : Term) (field : Field) :
    (terms.add term).stated? field =
      if field = term.field then some term else terms.stated? field := by
  cases term <;> cases field <;> rfl

theorem Response.stated?_add
    (response : Response) (child : ResponseChild) (field : Field) :
    (response.add child).stated? field =
      if field = child.field then some child
      else response.stated? field := by
  cases child with
  | term stated =>
      cases field with
      | term field =>
          have added := Terms.stated?_add response.toTerms stated field
          by_cases same : field = stated.field
          · simp_all [stated?, add, ResponseChild.field]
          · simp_all [stated?, add, ResponseChild.field]
      | _ => rfl
  | _ => cases field <;> rfl

theorem Request.stated?_add
    (request : Request) (child : RequestChild) (field : Field) :
    (request.add child).stated? field =
      if field = child.field then some child
      else request.stated? field := by
  cases child with
  | term stated =>
      cases field with
      | term field =>
          have added := Terms.stated?_add request.toTerms stated field
          by_cases same : field = stated.field
          · simp_all [stated?, add, RequestChild.field]
          · simp_all [stated?, add, RequestChild.field]
      | _ => rfl
  | _ => cases field <;> rfl

/-! ## Valid records -/

/-- A record states valid children only, if it states none at first and if what
is added to it replaces what it stated about the same field. -/
theorem BodyGrammar.Validates.of_stated
    {Record Child Field : Type} [DecidableEq Field]
    {grammar : BodyGrammar Record Child} {registry : Registry}
    {maxDepth : Nat} {valid : Child → Prop}
    (tabled : ∀ row ∈ grammar.children, Ensures (row.2 maxDepth) valid)
    (foreign : ∀ extension ∈ registry.extensions,
      Ensures extension.read fun value =>
        ∀ party, value = .appliesTo party → valid (grammar.appliesTo party))
    {stated? : Record → Field → Option Child} {target : Child → Field}
    {all : List Field} (exhaustive : ∀ field, field ∈ all)
    (unstated : ∀ context field,
      stated? (grammar.ofContext context) field = none)
    (stated?_add : ∀ record child field,
      stated? (grammar.add record child) field =
        if field = target child then some child else stated? record field) :
    grammar.Validates registry maxDepth valid fun record =>
      ∀ child ∈ all.filterMap (stated? record), valid child where
  tabled := tabled
  foreign := foreign
  initial := by
    intro context child member
    obtain ⟨field, _, stated⟩ := List.mem_filterMap.mp member
    rw [unstated] at stated
    cases stated
  add := by
    intro record added before isValid child member
    obtain ⟨field, _, stated⟩ := List.mem_filterMap.mp member
    rw [stated?_add] at stated
    split at stated
    · cases stated
      exact isValid
    · exact before child
        (List.mem_filterMap.mpr ⟨field, exhaustive field, stated⟩)

section Records

variable {registry : Registry} {maxDepth : Nat}

theorem Terms.stated?_ofContext (context : String) (field : Field) :
    (ofContext context).stated? field = none := by
  cases field <;> rfl

theorem Response.validates
    {valid : ResponseChild → Prop}
    (tabled : ∀ row ∈ grammar.children, Ensures (row.2 maxDepth) valid)
    (foreign : ∀ extension ∈ registry.extensions,
      Ensures extension.read fun value =>
        ∀ party, value = .appliesTo party →
          valid (.term (.appliesTo party))) :
    grammar.Validates registry maxDepth valid fun response =>
      ∀ child ∈ response.children, valid child := by
  refine .of_stated tabled foreign Field.mem_all ?_ stated?_add
  intro context field
  cases field with
  | term field =>
      exact Option.map_eq_none_iff.mpr
        (Terms.stated?_ofContext context field)
  | _ => rfl

theorem Request.validates
    {valid : RequestChild → Prop}
    (tabled : ∀ row ∈ grammar.children, Ensures (row.2 maxDepth) valid)
    (foreign : ∀ extension ∈ registry.extensions,
      Ensures extension.read fun value =>
        ∀ party, value = .appliesTo party →
          valid (.term (.appliesTo party))) :
    grammar.Validates registry maxDepth valid fun request =>
      ∀ child ∈ request.children, valid child := by
  refine .of_stated tabled foreign Field.mem_all ?_ stated?_add
  intro context field
  cases field with
  | term field =>
      exact Option.map_eq_none_iff.mpr
        (Terms.stated?_ofContext context field)
  | _ => rfl

end Records

/-- Whatever a record of a message states, apart from a relying party that an
extension yields, is a value that can be written: the URI references, secrets,
algorithms, times and outcomes are those that their readers accept. -/
theorem records_carry_valid_values
    {registry : Registry} {maxDepth : Nat} {stream after : TokenStream}
    {payload : Payload}
    (succeeded : Payload.read registry maxDepth stream =
      .ok payload after) :
    (∀ response ∈ payload.responses, ∀ child ∈ response.children,
      (∀ party, child ≠ .term (.appliesTo party)) →
        child.IsWritable maxDepth) ∧
    (∀ request ∈ payload.requests, ∀ child ∈ request.children,
      (∀ party, child ≠ .term (.appliesTo party)) →
        child.IsWritable maxDepth) := by
  have responses := Response.validates
    (fun row member =>
      (Response.children_ensure maxDepth row member).mono
        fun child writable (_ : ∀ party, child ≠ .term (.appliesTo party)) =>
          writable)
    fun (extension : Extension) (_ : extension ∈ registry.extensions) =>
      (Ensures.anything extension.read).mono
        fun _ _ party _ notParty => absurd rfl (notParty party)
  have requests := Request.validates
    (fun row member =>
      (Request.children_ensure maxDepth row member).mono
        fun child writable (_ : ∀ party, child ≠ .term (.appliesTo party)) =>
          writable)
    fun (extension : Extension) (_ : extension ∈ registry.extensions) =>
      (Ensures.anything extension.read).mono
        fun _ _ party _ notParty => absurd rfl (notParty party)
  exact Payload.read_ensures responses requests succeeded

def truncatedResponse : List Token :=
  [.startTag (responseOf "c" []).startTag,
    .startTag ⟨QName.ofLocal "Status", []⟩,
    .startTag ⟨QName.ofLocal "Code", []⟩, .text " valid ",
    .endTag (QName.ofLocal "Code"), .endTag (QName.ofLocal "Status")]

theorem truncatedResponse_carries_valid_status :
    let response : Response := { context := "c", status := some ⟨"valid", ""⟩ }
    Payload.read .standard 8 (TokenStream.ofTokens truncatedResponse) =
        .ok (.response response) (TokenStream.ofTokens []) ∧
      (ResponseChild.status ⟨"valid", ""⟩).IsWritable 8 := by
  intro response
  have succeeded :
      Payload.read .standard 8 (TokenStream.ofTokens truncatedResponse) =
        .ok (.response response) (TokenStream.ofTokens []) := by
    with_unfolding_all rfl
  have valid := records_carry_valid_values succeeded
  have listed : response ∈ (Payload.response response).responses :=
    List.mem_singleton_self response
  have stated : ResponseChild.status ⟨"valid", ""⟩ ∈ response.children :=
    List.mem_singleton_self _
  exact ⟨succeeded, valid.1 response listed _ stated nofun⟩

end WsTrust
