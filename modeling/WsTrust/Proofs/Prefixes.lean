import WsTrust.Extension.Readers
import WsTrust.Proofs.Lockstep

/-!
# Prefixes

A prefix is kept for writing a fragment back.  To differ in nothing but
prefixes is a likeness of streams: no reader of messages looks at them, nor do
the ready-made extensions, unless one claims elements by their prefix.
-/

namespace WsTrust

/-! ## Names and attributes -/

namespace QName

@[simp]
theorem clark_erasePrefix (name : QName) :
    name.erasePrefix.clark = name.clark := rfl

theorem localPart_eq_of_erasePrefix
    {left right : QName} (same : left.erasePrefix = right.erasePrefix) :
    left.localPart = right.localPart :=
  congrArg (fun name => name.localPart) same

theorem namespaceUri_eq_of_erasePrefix
    {left right : QName} (same : left.erasePrefix = right.erasePrefix) :
    left.namespaceUri = right.namespaceUri :=
  congrArg (fun name => name.namespaceUri) same

end QName

theorem AttributeMap.erasePrefixes_insert
    (map : AttributeMap) (name : QName) (value : String) :
    (map.insert name value).erasePrefixes =
      map.erasePrefixes.insert name.erasePrefix value := by
  have inserted (entries : List (QName × String)) :
      (insertEntry name value entries).map
          (fun entry => (entry.1.erasePrefix, entry.2)) =
        insertEntry name.erasePrefix value
          (entries.map fun entry => (entry.1.erasePrefix, entry.2)) := by
    induction entries with
    | nil => rfl
    | cons entry rest inductionHypothesis =>
        have sameOrder :
            name.erasePrefix.order entry.1.erasePrefix =
              name.order entry.1 := rfl
        rw [insertEntry, List.map_cons, insertEntry, sameOrder]
        cases name.order entry.1 with
        | lt => rfl
        | eq => rfl
        | gt => rw [List.map_cons, inductionHypothesis]
  exact AttributeMap.ext (inserted map.entries)

/-- The first attribute that a test accepts is found whatever its prefix is, if
the test does not look at it. -/
theorem Attribute.valueWhere?_erasePrefix
    {accepts : QName → Bool}
    (ignores : ∀ name : QName, accepts name.erasePrefix = accepts name)
    (attributes : List Attribute) :
    valueWhere? (attributes.map erasePrefix) accepts =
      valueWhere? attributes accepts := by
  rw [valueWhere?, valueWhere?, List.find?_map]
  have sameTest :
      ((fun each : Attribute => accepts each.name) ∘ erasePrefix) =
        fun each => accepts each.name := by
    funext each
    exact ignores each.name
  rw [sameTest, Option.map_map]
  rfl

@[simp]
theorem StartTag.attribute?_erasePrefixes
    (tag : StartTag) (localPart : String) :
    tag.erasePrefixes.attribute? localPart = tag.attribute? localPart := by
  rw [attribute?, attribute?, attributeIn?, attributeIn?]
  exact Attribute.valueWhere?_erasePrefix (fun _ => rfl) tag.attributes

namespace TokenReference

def erasePrefixes (reference : TokenReference) : TokenReference :=
  { reference with
    otherAttributes := reference.otherAttributes.erasePrefixes }

theorem erasePrefixes_addAttribute
    (reference : TokenReference) (added : Attribute) :
    (reference.addAttribute added).erasePrefixes =
      reference.erasePrefixes.addAttribute added.erasePrefix := by
  have sameUsage : isUsage added.erasePrefix.name = isUsage added.name := rfl
  have sameId :
      added.erasePrefix.name.isNamed Vocabulary.utility "Id" =
        added.name.isNamed Vocabulary.utility "Id" := rfl
  have sameNamespace :
      added.erasePrefix.name.namespaceUri = added.name.namespaceUri := rfl
  rw [addAttribute, addAttribute, sameUsage, sameId, sameNamespace]
  split
  · rfl
  · split
    · rfl
    · split
      · rfl
      · simp only [erasePrefixes, AttributeMap.erasePrefixes_insert]
        rfl

theorem erasePrefixes_ofAttributes (attributes : List Attribute) :
    (ofAttributes attributes).erasePrefixes =
      ofAttributes (attributes.map Attribute.erasePrefix) := by
  have folded (reference : TokenReference) :
      (attributes.foldl addAttribute reference).erasePrefixes =
        (attributes.map Attribute.erasePrefix).foldl addAttribute
          reference.erasePrefixes := by
    induction attributes generalizing reference with
    | nil => rfl
    | cons added rest inductionHypothesis =>
        rw [List.map_cons, List.foldl_cons, List.foldl_cons,
          inductionHypothesis, erasePrefixes_addAttribute]
  exact folded empty

end TokenReference

def Failure.erasePrefixes : Failure → Failure
  | .fault (.unclaimedExtension name) =>
      .fault (.unclaimedExtension name.erasePrefix)
  | other => other

/-- No message quotes a prefix. -/
@[simp]
theorem Failure.message_erasePrefixes (failure : Failure) :
    failure.erasePrefixes.message = failure.message := by
  cases failure with
  | parse cause => rfl
  | fault cause => cases cause <;> rfl

@[simp]
theorem Failure.family_erasePrefixes (failure : Failure) :
    failure.erasePrefixes.family = failure.family := by
  cases failure with
  | parse cause => rfl
  | fault cause => cases cause <;> rfl

/-! ## Streams that are the same but for their prefixes -/

def Item.erasePrefixes : Item → Item
  | .token delivered => .token delivered.erasePrefixes
  | other => other

def TokenStream.erasePrefixes (stream : TokenStream) : TokenStream :=
  { stream with items := stream.items.map Item.erasePrefixes }

/-- Nothing but prefixes may differ. -/
def Likeness.prefixes : Likeness where
  name left right := left.erasePrefix = right.erasePrefix
  tag left right := left.erasePrefixes = right.erasePrefixes
  node left right := left.erasePrefixes = right.erasePrefixes
  attributes left right := left.erasePrefixes = right.erasePrefixes
  failure left right := left.erasePrefixes = right.erasePrefixes
  localName_eq same := congrArg (fun tag => tag.name.localPart) same
  attribute?_eq {left right} same localPart := by
    rw [← left.attribute?_erasePrefixes, same,
      right.attribute?_erasePrefixes]
  references {left right} same := by
    have references :
        (TokenReference.ofAttributes left.attributes).erasePrefixes =
          (TokenReference.ofAttributes right.attributes).erasePrefixes := by
      rw [TokenReference.erasePrefixes_ofAttributes,
        TokenReference.erasePrefixes_ofAttributes]
      exact congrArg
        (fun tag => TokenReference.ofAttributes tag.attributes) same
    simp only [TokenReference.erasePrefixes,
      TokenReference.mk.injEq] at references
    obtain ⟨ids, usages, others, fragments⟩ := references
    refine ⟨ids, usages, others, ?_⟩
    rw [fragments]
    exact List.forall₂_same.mpr fun _ _ => rfl
  closes {left right} same localPart _ := by
    rw [QName.localPart_eq_of_erasePrefix same]
  text _ := rfl
  element {left right} same children others nodes := by
    have sameName := congrArg StartTag.name same
    have sameAttributes := congrArg StartTag.attributes same
    have sameChildren :
        children.map Node.erasePrefixes = others.map Node.erasePrefixes := by
      induction nodes with
      | nil => rfl
      | cons head _ inductionHypothesis =>
          rw [List.map_cons, List.map_cons, head, inductionHypothesis]
    simp only [Node.erasePrefixes, Node.erasePrefixesAll_eq_map,
      sameChildren, Node.element.injEq]
    exact ⟨sameName, sameAttributes, trivial⟩
  failure_refl _ := rfl
  unexpectedTag expected {left right} same := by
    rw [QName.localPart_eq_of_erasePrefix same]
  unexpectedClose {left right} same := by
    rw [QName.localPart_eq_of_erasePrefix same]

theorem Failure.unclaimed_prefixes
    {left right : StartTag} (same : Likeness.prefixes.tag left right) :
    Likeness.prefixes.failure (.fault (.unclaimedExtension left.name))
      (.fault (.unclaimedExtension right.name)) := by
  have sameName : left.name.erasePrefix = right.name.erasePrefix :=
    congrArg StartTag.name same
  show erasePrefixes _ = erasePrefixes _
  rw [erasePrefixes, erasePrefixes, sameName]

namespace TokenStream

theorem tokens_prefixes
    {left right : Token} (same : left.erasePrefixes = right.erasePrefixes) :
    Likeness.prefixes.Tokens left right := by
  cases left with
  | startTag tag =>
      cases right with
      | startTag other => exact .startTag (Token.startTag.inj same)
      | endTag name => cases same
      | text content => cases same
  | endTag name =>
      cases right with
      | startTag tag => cases same
      | endTag other => exact .endTag (Token.endTag.inj same)
      | text content => cases same
  | text content =>
      cases right with
      | startTag tag => cases same
      | endTag name => cases same
      | text other =>
          cases same
          exact .text content

theorem items_prefixes
    {left right : Item} (same : left.erasePrefixes = right.erasePrefixes) :
    Likeness.prefixes.Items left right := by
  cases left with
  | token token =>
      cases right with
      | token other => exact .token (tokens_prefixes (Item.token.inj same))
      | characters content => cases same
      | fault cause => cases same
  | characters content =>
      cases right with
      | token token => cases same
      | characters other =>
          cases same
          exact .characters content
      | fault cause => cases same
  | fault cause =>
      cases right with
      | token token => cases same
      | characters content => cases same
      | fault other =>
          cases same
          exact .fault cause

/-- Streams that are equal without their prefixes are alike item by item. -/
theorem streams_prefixes
    {left right : TokenStream}
    (same : left.erasePrefixes = right.erasePrefixes) :
    Likeness.prefixes.Streams left right := by
  rw [erasePrefixes, erasePrefixes, TokenStream.mk.injEq] at same
  obtain ⟨sameItems, sameTrimText, sameVerbatim⟩ := same
  have items : List.Forall₂ Eq (left.items.map Item.erasePrefixes)
      (right.items.map Item.erasePrefixes) := by
    rw [sameItems]
    exact List.forall₂_same.mpr fun _ _ => rfl
  rw [List.forall₂_map_left_iff, List.forall₂_map_right_iff] at items
  exact ⟨sameTrimText, sameVerbatim,
    items.imp fun _ _ both => items_prefixes both⟩

end TokenStream

/-! ## Registries that ignore prefixes -/

/-- A reader of an extension that does not inspect prefixes. -/
def ExtensionValue.IgnoresPrefixes (reader : Cursor ExtensionValue) : Prop :=
  Likeness.prefixes.Lockstep (Matches Likeness.prefixes.comparison) reader
    reader

/-- The extension claims names whatever their prefixes are, and reads by a
program that does not inspect them. -/
structure Extension.IgnoresPrefixes (extension : Extension) : Prop where
  claims {left right : QName} (same : left.erasePrefix = right.erasePrefix) :
    extension.claims left = extension.claims right
  reads : ExtensionValue.IgnoresPrefixes extension.read

def Registry.IgnoresPrefixes (registry : Registry) : Prop :=
  ∀ extension ∈ registry.extensions, extension.IgnoresPrefixes

theorem Extension.IgnoresPrefixes.corresponds
    {extension : Extension} (ignores : extension.IgnoresPrefixes) :
    extension.Corresponds Likeness.prefixes.tag
      Likeness.prefixes.comparison Likeness.prefixes.Lockstep where
  claims_eq same := ignores.claims (congrArg StartTag.name same)
  reads := ignores.reads

/-- The extension for WS-Policy ignores prefixes. -/
theorem Registry.standard_ignoresPrefixes : standard.IgnoresPrefixes := by
  intro extension member
  rw [List.mem_singleton.mp member]
  refine ⟨fun {left right} same => ?_, ?_⟩
  · simp only [policyExtension, QName.isNamed,
      QName.localPart_eq_of_erasePrefix same,
      QName.namespaceUri_eq_of_erasePrefix same]
  · exact Likeness.prefixes.correspondence.map
      Likeness.prefixes.correspondence.appliesTo
      fun _ _ parties => .appliesTo parties

/-! ## Ready-made extensions -/

theorem Claim.inNamespace_eq_of_prefixes
    {left right : QName} (same : left.erasePrefix = right.erasePrefix)
    (namespaceUri : String) :
    inNamespace namespaceUri left = inNamespace namespaceUri right := by
  rw [inNamespace, inNamespace, QName.namespaceUri_eq_of_erasePrefix same]

namespace ExtensionValue

open Likeness

theorem readOptionalText_ignoresPrefixes :
    IgnoresPrefixes readOptionalText := by
  refine (Lockstep.nextStartTag _).bind fun left right tags => ?_
  refine Lockstep.hasTextAhead.bind ?_
  rintro ahead _ rfl
  split
  · refine (Lockstep.elementText _).bind fun text other texts => ?_
    exact .pure (.appliesTo (.value texts))
  · rw [prefixes.localName_eq tags]
    refine (Lockstep.expectEndTag fun left right same => ?_).bind
      fun _ _ _ => .pure .empty
    rw [QName.localPart_eq_of_erasePrefix same]

end ExtensionValue

end WsTrust
