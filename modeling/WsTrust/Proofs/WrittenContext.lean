import Mathlib.Data.List.TakeWhile
import Mathlib.Data.String.Basic
import WsTrust.Body
import WsTrust.Xml.Document

/-!
# The context that a start tag is written with

The context of a message is the first attribute of its start tag that is
resolved to `Context` in no namespace.  That is not always the attribute written
so: a prefix that is bound to nothing puts a name in no namespace as well.
-/

namespace WsTrust

namespace Xml

/-! ## Attributes as they are written -/

/-- The key of an attribute with its unescaped value, unless the value has a
flaw. -/
def RawAttribute.unescaped? (raw : RawAttribute) :
    Option (List Char × String) :=
  match raw.value with
  | .error _ => none
  | .ok written =>
      match unescape written with
      | .error _ => none
      | .ok value => some (raw.key, String.ofList value)

/-- The attributes in the content of a start tag, up to the first flaw. -/
def rawAttributesOf (content : List Char) :
    Interrupted RawAttribute AttributeFlaw :=
  rawAttributes (byteLength (content.takeWhile (!isMarkupBlank ·)))
    (content.dropWhile (!isMarkupBlank ·))

def writtenAttributes (content : List Char) : List (List Char × String) :=
  (rawAttributesOf content).items.filterMap RawAttribute.unescaped?

/-- Attributes that are read are resolved one by one from what is written. -/
theorem attributes_of_readAttributes
    {scope : Scope} {earlier raws : List RawAttribute}
    {flaw : Option AttributeFlaw} {attributes : List Attribute}
    (read : readAttributes scope earlier raws flaw = .ok attributes) :
    attributes =
      (raws.filterMap RawAttribute.unescaped?).map fun written =>
        ⟨scope.attributeName written.1, written.2⟩ := by
  induction raws generalizing earlier attributes with
  | nil =>
      cases flaw with
      | none =>
          cases read
          rfl
      | some flaw => cases read
  | cons raw rest inductionHypothesis =>
      rw [readAttributes] at read
      split at read
      · cases read
      · split at read
        · cases read
        · rename_i written quoted
          split at read
          · cases read
          · rename_i value unescaped
            split at read
            · cases read
            · rename_i others readOthers
              cases read
              have shown :
                  raw.unescaped? = some (raw.key, String.ofList value) := by
                simp only [RawAttribute.unescaped?, quoted, unescaped]
              rw [List.filterMap_cons_some shown, List.map_cons,
                inductionHypothesis readOthers]

theorem attributes_of_readStartTag
    {outer : Scope} {content : List Char} {tag : StartTag}
    (read : (readStartTag outer content).tag = .ok tag) :
    tag.attributes =
      (writtenAttributes content).map fun written =>
        ⟨(readStartTag outer content).scope.attributeName written.1,
          written.2⟩ := by
  simp only [readStartTag] at read
  split at read
  · cases read
  · split at read
    · cases read
    · rename_i attributes readAll
      cases read
      exact attributes_of_readAttributes readAll

/-! ## Names that are taken for the context -/

def Scope.isContext (scope : Scope) (key : List Char) : Bool :=
  (scope.attributeName key).isNamed "" "Context"

theorem splitName_of_colon
    {beforeColon : List Char} (none : ':' ∉ beforeColon)
    (localPart : List Char) :
    splitName (beforeColon ++ ':' :: localPart) =
      (some beforeColon, localPart) := by
  have passed : ∀ c ∈ beforeColon, (c != ':') = true := by
    intro c member
    rw [bne_iff_ne]
    rintro rfl
    exact none member
  rw [splitName, List.dropWhile_append_of_pos passed,
    List.takeWhile_append_of_pos passed]
  simp

/-- A name has a colon that is its first one in only one way. -/
theorem divided_at_colon
    {first second firstLocal secondLocal : List Char}
    (firstNone : ':' ∉ first) (secondNone : ':' ∉ second)
    (same : first ++ ':' :: firstLocal = second ++ ':' :: secondLocal) :
    first = second ∧ firstLocal = secondLocal := by
  have split := splitName_of_colon firstNone firstLocal
  rw [same, splitName_of_colon secondNone] at split
  simp only [Prod.mk.injEq, Option.some.injEq] at split
  exact ⟨split.1.symm, split.2.symm⟩

namespace Scope

theorem attributeName_of_no_colon
    (scope : Scope) {key : List Char} (none : ':' ∉ key) :
    scope.attributeName key =
      if key = "xmlns".toList then
        QName.ofParts Vocabulary.declarations "xmlns"
      else
        QName.ofLocal (String.ofList key) := by
  have undeclared : ¬ "xmlns:".toList.isPrefixOf key = true := by
    intro declares
    obtain ⟨rest, rfl⟩ := List.isPrefixOf_iff_prefix.mp declares
    exact none (by simp)
  have passed : key.dropWhile (· != ':') = [] := by
    apply List.dropWhile_eq_nil_iff.mpr
    intro c member
    rw [bne_iff_ne]
    rintro rfl
    exact none member
  rw [attributeName, if_neg undeclared, resolve, splitName, passed]
  rfl

theorem attributeName_of_colon
    (scope : Scope) {beforeColon : List Char} (none : ':' ∉ beforeColon)
    (localPart : List Char) :
    scope.attributeName (beforeColon ++ ':' :: localPart) =
      { namespaceUri :=
          if beforeColon = "xmlns".toList then Vocabulary.declarations
          else if beforeColon = [] then ""
          else String.ofList (scope.uriOf beforeColon)
        localPart := String.ofList localPart
        sourcePrefix := String.ofList beforeColon } := by
  have split := splitName_of_colon none localPart
  have notDefault : beforeColon ++ ':' :: localPart ≠ "xmlns".toList := by
    intro equality
    have colon : ':' ∈ "xmlns".toList := by
      rw [← equality]
      simp
    exact absurd colon (by decide)
  rw [attributeName, if_neg notDefault]
  by_cases declares : beforeColon = "xmlns".toList
  · subst declares
    rfl
  · have undeclared :
        ¬ "xmlns:".toList.isPrefixOf (beforeColon ++ ':' :: localPart) =
          true := by
      intro isPrefixed
      obtain ⟨rest, equality⟩ := List.isPrefixOf_iff_prefix.mp isPrefixed
      have reserved : ':' ∉ "xmlns".toList := by decide
      exact declares (divided_at_colon reserved none equality).1.symm
    rw [if_neg undeclared, if_neg declares, resolve, split]
    cases beforeColon with
    | nil => rfl
    | cons head tail => rfl

theorem isContext_of_no_colon
    (scope : Scope) {key : List Char} (none : ':' ∉ key) :
    scope.isContext key = true ↔ key = "Context".toList := by
  rw [isContext, scope.attributeName_of_no_colon none]
  by_cases default : key = "xmlns".toList
  · subst default
    decide
  · rw [if_neg default]
    simp [QName.isNamed, QName.ofLocal, QName.ofParts, String.ofList_eq]

theorem isContext_of_colon
    (scope : Scope) {beforeColon : List Char} (none : ':' ∉ beforeColon)
    (localPart : List Char) :
    scope.isContext (beforeColon ++ ':' :: localPart) = true ↔
      localPart = "Context".toList ∧ beforeColon ≠ "xmlns".toList ∧
        (beforeColon = [] ∨ scope.uriOf beforeColon = []) := by
  rw [isContext, scope.attributeName_of_colon none, QName.isNamed]
  simp only [Bool.and_eq_true, beq_iff_eq, String.ofList_eq]
  by_cases reserved : beforeColon = "xmlns".toList
  · subst reserved
    simp [Vocabulary.declarations]
  · rw [if_neg reserved]
    by_cases empty : beforeColon = []
    · simp [empty]
    · rw [if_neg empty]
      simp only [reserved, empty, ne_eq, not_false_eq_true, true_and,
        false_or, String.ofList_eq_empty_iff, and_comm]

/-- Besides `Context` itself exactly the names with this local part are taken
for a context whose prefix is empty or bound to nothing. -/
theorem isContext_iff (scope : Scope) (key : List Char) :
    scope.isContext key = true ↔
      key = "Context".toList ∨
        ∃ unbound : List Char,
          key = unbound ++ ':' :: "Context".toList ∧ ':' ∉ unbound ∧
            unbound ≠ "xmlns".toList ∧
              (unbound = [] ∨ scope.uriOf unbound = []) := by
  by_cases colon : ':' ∈ key
  · have notContext : key ≠ "Context".toList := by
      rintro rfl
      exact absurd colon (by decide)
    obtain ⟨beforeColon, localPart, rfl, none⟩ :=
      List.eq_append_cons_of_mem colon
    rw [or_iff_right notContext, scope.isContext_of_colon none]
    constructor
    · rintro ⟨rfl, free⟩
      exact ⟨beforeColon, rfl, none, free⟩
    · rintro ⟨unbound, same, unboundNone, free⟩
      obtain ⟨rfl, rfl⟩ := divided_at_colon none unboundNone same
      exact ⟨rfl, free⟩
  · have noPrefix : ¬ ∃ unbound : List Char,
        key = unbound ++ ':' :: "Context".toList ∧ ':' ∉ unbound ∧
          unbound ≠ "xmlns".toList ∧
            (unbound = [] ∨ scope.uriOf unbound = []) := by
      rintro ⟨unbound, rfl, _⟩
      exact colon (by simp)
    rw [or_iff_left noPrefix, scope.isContext_of_no_colon colon]

end Scope

/-! ## The attribute that is taken -/

/-- The context that attributes are written with: the value under `Context`, or
nothing. -/
def contextWritten (written : List (List Char × String)) : String :=
  (written.lookup "Context".toList).getD ""

/-- The first attribute that is taken for a context, if it is another one than
`Context`. -/
def shadowing? (scope : Scope) (written : List (List Char × String)) :
    Option (List Char × String) :=
  (written.find? fun entry => scope.isContext entry.1).filter
    fun entry => entry.1 != "Context".toList

variable {scope : Scope} {written : List (List Char × String)}

/-- Where no other attribute comes before it, the first one that is taken for a
context is `Context`. -/
theorem first_eq_lookup (clear : shadowing? scope written = none) :
    (written.find? fun entry => scope.isContext entry.1).map Prod.snd =
      written.lookup "Context".toList := by
  induction written with
  | nil => rfl
  | cons head rest inductionHypothesis =>
      obtain ⟨key, value⟩ := head
      rw [shadowing?] at clear
      by_cases own : key = "Context".toList
      · subst own
        rfl
      · have differs : ("Context".toList == key) = false := by
          simpa [beq_eq_false_iff_ne] using Ne.symm own
        rw [List.find?_cons] at clear ⊢
        cases taken : scope.isContext key with
        | true =>
            rw [taken, Option.filter_eq_none_iff] at clear
            exact absurd (by simpa using own) (clear _ rfl)
        | false =>
            rw [taken] at clear
            rw [List.lookup_cons, differs]
            exact inductionHypothesis clear

variable {tag : StartTag}
  (resolved : tag.attributes =
    written.map fun entry => ⟨scope.attributeName entry.1, entry.2⟩)

include resolved

/-- The first attribute that is taken for a context gives the context. -/
theorem contextOf_eq_first :
    BodyGrammar.contextOf tag =
      ((written.find? fun entry => scope.isContext entry.1).map
        Prod.snd).getD "" := by
  rw [BodyGrammar.contextOf, StartTag.attribute?, StartTag.attributeIn?,
    Attribute.valueWhere?, resolved, List.find?_map, Option.map_map]
  rfl

/-- Where no other attribute is taken for it, the context is the one that is
written. -/
theorem contextOf_of_unshadowed (clear : shadowing? scope written = none) :
    BodyGrammar.contextOf tag = contextWritten written := by
  rw [contextOf_eq_first resolved, first_eq_lookup clear, contextWritten]

/-- An attribute that is taken for the context gives it, whatever `Context`
says. -/
theorem contextOf_of_shadowed
    {entry : List Char × String}
    (shadowed : shadowing? scope written = some entry) :
    BodyGrammar.contextOf tag = entry.2 := by
  rw [contextOf_eq_first resolved,
    (Option.filter_eq_some_iff.mp shadowed).1]
  rfl

end Xml

end WsTrust
