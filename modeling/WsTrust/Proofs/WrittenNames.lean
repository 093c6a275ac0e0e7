import WsTrust.Proofs.Bindings
import WsTrust.Xml.Document

/-!
# Written names under a scope

A written name with a prefix divides at its colon again, and a scope resolves it
as bindings do that agree with the scope.  Declarations that are written out
keep the two in agreement.
-/

namespace WsTrust

/-! ## Written names -/

namespace QName

theorem written_eq_iff (name : QName) :
    name.written.toList = "xmlns".toList ↔
      name.sourcePrefix = "" ∧ name.localPart = "xmlns" := by
  by_cases unprefixed : name.sourcePrefix = ""
  · rw [toList_written_of_unprefixed unprefixed, String.toList_inj]
    simp [unprefixed]
  · rw [toList_written_of_prefixed unprefixed]
    refine iff_of_false ?_ (by simp [unprefixed])
    intro equality
    have colon : ':' ∈ "xmlns".toList := by
      rw [← equality]
      simp
    revert colon
    decide

theorem toList_written_of_xmlns
    {name : QName} (declares : name.sourcePrefix = "xmlns") :
    name.written.toList = "xmlns:".toList ++ name.localPart.toList := by
  have prefixed : name.sourcePrefix ≠ "" := by
    rw [declares]
    decide
  rw [toList_written_of_prefixed prefixed, declares]
  rfl

variable {name : QName} (named : name.IsXmlName)

include named

/-- A written name begins with `xmlns:` only if this is its prefix. -/
theorem IsXmlName.isPrefixOf_written_iff :
    "xmlns:".toList.isPrefixOf name.written.toList = true ↔
      name.sourcePrefix = "xmlns" := by
  rw [List.isPrefixOf_iff_prefix]
  constructor
  · rintro ⟨rest, equality⟩
    have divided := named.splitName_written
    have declared :
        Xml.splitName ("xmlns:".toList ++ rest) =
          (some "xmlns".toList, rest) := rfl
    rw [← equality, declared] at divided
    by_cases unprefixed : name.sourcePrefix = ""
    · rw [if_pos unprefixed] at divided
      cases divided
    · rw [if_neg unprefixed] at divided
      have same := Option.some.inj (congrArg Prod.fst divided)
      exact (String.toList_inj.mp same).symm
  · intro declares
    rw [toList_written_of_xmlns declares]
    exact List.prefix_append _ _

/-- The prefix that a written name declares is found again. -/
theorem IsXmlName.declaredPrefix?_written :
    Xml.declaredPrefix? name.written.toList =
      name.declaredPrefix?.map String.toList := by
  rw [Xml.declaredPrefix?, declaredPrefix?]
  by_cases declares : name.sourcePrefix = "xmlns"
  · have notDefault : ¬ name.written.toList = "xmlns".toList := by
      rw [written_eq_iff, declares]
      simp
    rw [if_neg notDefault,
      if_pos (named.isPrefixOf_written_iff.mpr declares), if_pos declares,
      toList_written_of_xmlns declares]
    rfl
  · have notPrefixed :=
      mt named.isPrefixOf_written_iff.mp declares
    rw [if_neg declares, if_neg notPrefixed]
    by_cases isDefault : name.sourcePrefix = "" ∧ name.localPart = "xmlns"
    · rw [if_pos isDefault, if_pos (name.written_eq_iff.mpr isDefault)]
      rfl
    · rw [if_neg isDefault, if_neg (mt name.written_eq_iff.mp isDefault)]
      rfl

/-- Only the name `xmlns` alone declares the empty prefix. -/
theorem IsXmlName.written_eq_iff_of_declares
    {declared : String} (declares : name.declaredPrefix? = some declared) :
    name.written.toList = "xmlns".toList ↔ declared = "" := by
  rw [written_eq_iff]
  by_cases prefixed : name.sourcePrefix = "xmlns"
  · rw [declaredPrefix?, if_pos prefixed] at declares
    cases declares
    refine iff_of_false (by simp [prefixed]) ?_
    intro empty
    exact named.local_ne_nil (by simp [empty])
  · rw [declaredPrefix?, if_neg prefixed] at declares
    by_cases isDefault : name.sourcePrefix = "" ∧ name.localPart = "xmlns"
    · rw [if_pos isDefault] at declares
      cases declares
      exact iff_of_true isDefault rfl
    · rw [if_neg isDefault] at declares
      cases declares

end QName

theorem Attribute.declaredUri_eq_iff
    (declaration : Attribute) (uri : String) :
    declaration.declaredUri = uri ↔
      Xml.escape declaration.value.toList = uri.toList := by
  rw [declaredUri, ← String.toList_inj, String.toList_ofList]

theorem Attribute.isAdmissible_iff
    {declaration : Attribute} {declared : String}
    (declares : declaration.name.declaredPrefix? = some declared)
    (present : declared ≠ "") :
    declaration.IsAdmissible ↔
      if declared = "xml" then
        declaration.declaredUri = Vocabulary.reserved
      else
        declared ≠ "xmlns" ∧
          declaration.declaredUri ≠ Vocabulary.reserved ∧
          declaration.declaredUri ≠ Vocabulary.declarations := by
  simp [IsAdmissible, declares, present]

/-! ## Scopes and bindings -/

namespace Xml

/-- The scope resolves every prefix as the bindings do, and `xml` stands for
its own namespace in both. -/
structure Scope.Realizes (scope : Scope) (bindings : Bindings) : Prop where
  uri : ∀ boundPrefix : String,
    String.ofList (scope.uriOf boundPrefix.toList) = bindings boundPrefix
  reserved : bindings "xml" = Vocabulary.reserved

theorem Scope.uriOf_cons
    (binding : Binding) (scope : Scope) (boundPrefix : List Char) :
    uriOf (binding :: scope) boundPrefix =
      if boundPrefix = binding.boundPrefix then binding.uri
      else scope.uriOf boundPrefix := by
  rw [uriOf, uriOf, List.find?_cons]
  by_cases same : boundPrefix = binding.boundPrefix
  · rw [if_pos same, beq_iff_eq.mpr same.symm]
  · rw [if_neg same, beq_eq_false_iff_ne.mpr (Ne.symm same)]

theorem Scope.outermost_realizes : Scope.outermost.Realizes .initial where
  uri := by
    intro boundPrefix
    rw [outermost, uriOf_cons, uriOf_cons, Bindings.initial]
    by_cases isXml : boundPrefix = "xml"
    · rw [if_pos isXml, isXml]
      rfl
    · by_cases isXmlns : boundPrefix = "xmlns"
      · rw [if_neg isXml, if_pos isXmlns, isXmlns]
        rfl
      · have notXml := mt String.toList_inj.mp isXml
        have notXmlns := mt String.toList_inj.mp isXmlns
        rw [if_neg isXml, if_neg isXmlns, if_neg notXml, if_neg notXmlns]
        rfl
  reserved := rfl

/-- A written name is resolved by the URI of its prefix, or by the default if it
has none. -/
theorem Scope.resolve_written
    (scope : Scope) (default : List Char)
    {name : QName} (named : name.IsXmlName) :
    scope.resolve default name.written.toList =
      name.inNamespace (String.ofList
        (if name.sourcePrefix = "" then default
          else scope.uriOf name.sourcePrefix.toList)) := by
  rw [resolve, named.splitName_written]
  by_cases unprefixed : name.sourcePrefix = ""
  · rw [if_pos unprefixed, if_pos unprefixed]
    simp [namespaceOf, QName.inNamespace, unprefixed]
  · rw [if_neg unprefixed, if_neg unprefixed]
    have notEmpty : name.sourcePrefix.toList ≠ [] := by
      simpa using unprefixed
    have found :
        scope.namespaceOf default (some name.sourcePrefix.toList) =
          scope.uriOf name.sourcePrefix.toList := by
      cases characters : name.sourcePrefix.toList with
      | nil => exact absurd characters notEmpty
      | cons first rest => rfl
    simp [found, QName.inNamespace]

namespace Scope.Realizes

variable {scope : Scope} {bindings : Bindings}
  (realized : scope.Realizes bindings)

include realized

theorem elementName_written {name : QName} (named : name.IsXmlName) :
    scope.elementName name.written.toList =
      name.inNamespace (bindings.ofElement name) := by
  rw [elementName, resolve_written _ _ named, Bindings.ofElement,
    ← realized.uri]
  by_cases unprefixed : name.sourcePrefix = ""
  · rw [if_pos unprefixed, unprefixed]
    rfl
  · rw [if_neg unprefixed]

theorem attributeName_written {name : QName} (named : name.IsXmlName) :
    scope.attributeName name.written.toList =
      name.inNamespace (bindings.ofAttribute name) := by
  rw [attributeName, Bindings.ofAttribute]
  by_cases isDefault : name.sourcePrefix = "" ∧ name.localPart = "xmlns"
  · have declares : name.declaredPrefix?.isSome = true := by
      simp [QName.declaredPrefix?, isDefault]
    rw [if_pos (name.written_eq_iff.mpr isDefault), if_pos declares]
    simp [QName.ofParts, QName.inNamespace, isDefault]
  · rw [if_neg (mt name.written_eq_iff.mp isDefault)]
    by_cases prefixed : name.sourcePrefix = "xmlns"
    · have declares : name.declaredPrefix?.isSome = true := by
        simp [QName.declaredPrefix?, prefixed]
      rw [if_pos (named.isPrefixOf_written_iff.mpr prefixed),
        if_pos declares, QName.toList_written_of_xmlns prefixed]
      simp [QName.inNamespace, prefixed]
    · have plain : ¬ name.declaredPrefix?.isSome = true := by
        simp [QName.declaredPrefix?, prefixed, isDefault]
      rw [if_neg (mt named.isPrefixOf_written_iff.mp prefixed),
        if_neg plain, resolve_written _ _ named, ← realized.uri]
      by_cases unprefixed : name.sourcePrefix = ""
      · rw [if_pos unprefixed, if_pos unprefixed]
      · rw [if_neg unprefixed, if_neg unprefixed]

/-- Adding a binding to the scope is binding the prefix anew. -/
theorem bind (declared : String) (uri : List Char)
    (keepsXml : declared = "xml" → String.ofList uri = Vocabulary.reserved) :
    Realizes (⟨declared.toList, uri⟩ :: scope) fun boundPrefix =>
      if boundPrefix = declared then String.ofList uri
      else bindings boundPrefix where
  uri := by
    intro boundPrefix
    rw [uriOf_cons]
    by_cases same : boundPrefix = declared
    · rw [if_pos same, if_pos (congrArg String.toList same)]
    · rw [if_neg same, if_neg (mt String.toList_inj.mp same), realized.uri]
  reserved := by
    by_cases isXml : "xml" = declared
    · rw [if_pos isXml, keepsXml isXml.symm]
    · rw [if_neg isXml, realized.reserved]

end Scope.Realizes

/-- An attribute that is written out declares what its name says, if that is
admissible.  The binding of `xml` is there already. -/
theorem Scope.declare_written
    (scope : Scope) {whole : Attribute} (named : whole.name.IsXmlName) :
    scope.declare whole.name.written.toList (escape whole.value.toList) =
      match whole.name.declaredPrefix? with
      | none => .ok scope
      | some declared =>
          if whole.IsAdmissible then
            .ok (if declared = "xml" then scope
              else ⟨declared.toList, escape whole.value.toList⟩ :: scope)
          else
            .error ⟨declared.toList, escape whole.value.toList⟩ := by
  rw [declare, named.declaredPrefix?_written]
  cases declares : whole.name.declaredPrefix? with
  | none => rfl
  | some declared =>
      simp only [Option.map_some, named.written_eq_iff_of_declares declares,
        String.toList_inj, ← Attribute.declaredUri_eq_iff]
      by_cases isDefault : declared = ""
      · have admissible : whole.IsAdmissible := by
          intro other member present
          rw [declares, Option.mem_def, Option.some.injEq] at member
          exact absurd (member ▸ isDefault) present
        rw [if_pos isDefault, if_pos admissible, isDefault]
        rfl
      · have admissibleIff := Attribute.isAdmissible_iff declares isDefault
        rw [if_neg isDefault]
        by_cases isXml : declared = "xml"
        · rw [if_pos isXml] at admissibleIff
          simp only [if_pos isXml, admissibleIff]
        · rw [if_neg isXml] at admissibleIff
          simp only [if_neg isXml]
          by_cases admissible : whole.IsAdmissible
          · obtain ⟨notXmlns, notReserved, notDeclarations⟩ :=
              admissibleIff.mp admissible
            rw [if_neg (by simp [notXmlns, notReserved, notDeclarations]),
              if_pos admissible]
          · have reserved :
                declared = "xmlns" ∨
                  whole.declaredUri = Vocabulary.reserved ∨
                  whole.declaredUri = Vocabulary.declarations := by
              rw [admissibleIff] at admissible
              by_contra none
              simp only [not_or] at none
              exact admissible none
            rw [if_pos reserved, if_neg admissible]

/-- Scopes go on to agree with the bindings after a declaration. -/
theorem Scope.Realizes.declare
    {scope : Scope} {bindings : Bindings}
    (realized : scope.Realizes bindings)
    {whole : Attribute} (named : whole.name.IsXmlName)
    (admissible : whole.IsAdmissible) :
    ∃ inner,
      scope.declare whole.name.written.toList
          (escape whole.value.toList) = .ok inner ∧
        inner.Realizes (bindings.declare whole) := by
  rw [scope.declare_written named, Bindings.declare]
  cases declares : whole.name.declaredPrefix? with
  | none => exact ⟨scope, rfl, realized⟩
  | some declared =>
      have xmlKept :
          declared = "xml" → whole.declaredUri = Vocabulary.reserved := by
        intro isXml
        have present : declared ≠ "" := by
          rw [isXml]
          decide
        have kept :=
          (Attribute.isAdmissible_iff declares present).mp admissible
        rwa [if_pos isXml] at kept
      refine ⟨_, if_pos admissible, ?_⟩
      by_cases isXml : declared = "xml"
      · rw [if_pos isXml]
        have unchanged :
            (fun boundPrefix =>
              if boundPrefix = declared then whole.declaredUri
              else bindings boundPrefix) = bindings := by
          funext boundPrefix
          by_cases same : boundPrefix = declared
          · rw [if_pos same, xmlKept isXml, same, isXml, realized.reserved]
          · rw [if_neg same]
        simp only [unchanged]
        exact realized
      · rw [if_neg isXml]
        exact realized.bind declared _ xmlKept

end Xml

end WsTrust
