import Mathlib.Data.List.Sort
import WsTrust.Payload.Json
import WsTrust.Proofs.AttributeOrder
import WsTrust.Proofs.JsonObjects
import WsTrust.Proofs.RecordFields

/-!
# What fragments are shown as

A name is shown in Clark notation.  If its local part contains no braces, this
tells the name but for its prefix, even where the namespace contains braces.
So what a fragment or a map of attributes is shown as tells everything but
prefixes, and no two attributes of a map are shown under one key.
-/

namespace WsTrust

open Json

/-! ## Names -/

namespace QName

def IsBraceless (name : QName) : Prop :=
  '\x7b' ∉ name.localPart.toList ∧ '\x7d' ∉ name.localPart.toList

instance (name : QName) : Decidable name.IsBraceless :=
  inferInstanceAs (Decidable (_ ∧ _))

/-- A text is divided in one way at the last occurrence of a character. -/
theorem append_cons_inj_of_last
    {mark : Char} {left right leftEnd rightEnd : List Char}
    (leftLast : mark ∉ leftEnd) (rightLast : mark ∉ rightEnd)
    (same : left ++ mark :: leftEnd = right ++ mark :: rightEnd) :
    left = right ∧ leftEnd = rightEnd := by
  induction left generalizing right with
  | nil =>
      cases right with
      | nil => exact ⟨rfl, (List.cons.inj same).2⟩
      | cons head tail =>
          have later : leftEnd = tail ++ mark :: rightEnd :=
            (List.cons.inj same).2
          refine absurd ?_ leftLast
          rw [later]
          exact List.mem_append_right tail List.mem_cons_self
  | cons head tail inductionHypothesis =>
      cases right with
      | nil =>
          have later : tail ++ mark :: leftEnd = rightEnd :=
            (List.cons.inj same).2
          refine absurd ?_ rightLast
          rw [← later]
          exact List.mem_append_right tail List.mem_cons_self
      | cons other others =>
          obtain ⟨sameHead, sameTail⟩ := List.cons.inj same
          obtain ⟨sameBefore, sameEnd⟩ := inductionHypothesis sameTail
          exact ⟨by rw [sameHead, sameBefore], sameEnd⟩

theorem clark_of_isEmpty
    {name : QName} (absent : name.namespaceUri.isEmpty = true) :
    name.clark = name.localPart :=
  if_pos absent

theorem toList_clark
    {name : QName} (present : ¬name.namespaceUri.isEmpty = true) :
    name.clark.toList =
      ('\x7b' :: name.namespaceUri.toList) ++
        '\x7d' :: name.localPart.toList := by
  rw [clark, if_neg present]
  simp only [String.toList_append, List.append_assoc, List.cons_append]
  rfl

/-- A name in no namespace is not shown like one in a namespace. -/
theorem clark_ne
    {name other : QName} (braceless : name.IsBraceless)
    (absent : name.namespaceUri.isEmpty = true)
    (present : ¬other.namespaceUri.isEmpty = true) :
    name.clark ≠ other.clark := by
  intro same
  have shown : name.localPart.toList = other.clark.toList := by
    rw [← same, clark_of_isEmpty absent]
  refine absurd ?_ braceless.1
  rw [shown, toList_clark present]
  exact List.mem_cons_self

/-- Names without braces in their local parts are told by Clark notation, but
for their prefixes. -/
theorem erasePrefix_eq_of_clark
    {left right : QName} (leftBraceless : left.IsBraceless)
    (rightBraceless : right.IsBraceless) (same : left.clark = right.clark) :
    left.erasePrefix = right.erasePrefix := by
  have parts : left.namespaceUri = right.namespaceUri ∧
      left.localPart = right.localPart := by
    by_cases leftAbsent : left.namespaceUri.isEmpty = true
    · by_cases rightAbsent : right.namespaceUri.isEmpty = true
      · rw [clark_of_isEmpty leftAbsent, clark_of_isEmpty rightAbsent] at same
        have leftEmpty := String.isEmpty_iff.mp leftAbsent
        have rightEmpty := String.isEmpty_iff.mp rightAbsent
        exact ⟨leftEmpty.trans rightEmpty.symm, same⟩
      · exact absurd same (clark_ne leftBraceless leftAbsent rightAbsent)
    · by_cases rightAbsent : right.namespaceUri.isEmpty = true
      · exact absurd same.symm
          (clark_ne rightBraceless rightAbsent leftAbsent)
      · have texts := congrArg String.toList same
        rw [toList_clark leftAbsent, toList_clark rightAbsent] at texts
        have halves :=
          append_cons_inj_of_last leftBraceless.2 rightBraceless.2 texts
        have namespaces := (List.cons.inj halves.1).2
        exact ⟨String.toList_inj.mp namespaces,
          String.toList_inj.mp halves.2⟩
  obtain ⟨⟨namespaceUri, localPart⟩, sourcePrefix⟩ := left
  obtain ⟨⟨otherUri, otherPart⟩, otherPrefix⟩ := right
  obtain ⟨rfl, rfl⟩ := parts
  rfl

/-- With braces in its local part, a name in no namespace is shown like one in
a namespace. -/
example :
    (ofLocal "\x7burn:a\x7dKind").clark = (ofParts "urn:a" "Kind").clark := by
  decide

theorem reveals_toJson : Reveals IsBraceless toJson erasePrefix :=
  fun _ _ leftBraceless rightBraceless same =>
    erasePrefix_eq_of_clark leftBraceless rightBraceless same.string_inj

end QName

/-! ## Fragments -/

theorem Attribute.reveals_toJson :
    Reveals (fun whole => whole.name.IsBraceless) toJson erasePrefix := by
  intro left right leftBraceless rightBraceless same
  have shown (whole : Attribute) :
      whole.toJson =
        .object (ofSlots ["name", "value"]
          [some whole.name.toJson, some (.string whole.value)]) := rfl
  rw [shown, shown] at same
  have slots := same.slots (by decide) rfl rfl
  simp only [List.forall₂_cons, Option.rel_some_some] at slots
  obtain ⟨names, values, -⟩ := slots
  have sameName :=
    QName.reveals_toJson _ _ leftBraceless rightBraceless names
  have sameValue : left.value = right.value := values.string_inj
  rw [erasePrefix, erasePrefix, sameName, sameValue]

namespace Node

mutual

def names : Node → List QName
  | .text _ => []
  | .element name attributes children =>
      name :: (attributes.map Attribute.name ++ namesOfAll children)

def namesOfAll : List Node → List QName
  | [] => []
  | node :: rest => node.names ++ namesOfAll rest

end

theorem elementJson_eq
    (name : QName) (attributes : List Attribute) (children : List Json) :
    elementJson name attributes children =
      .object (ofSlots ["name", "attributes", "children"]
        [some name.toJson, some (.array (attributes.map Attribute.toJson)),
          some (.array children)]) := rfl

mutual

/-- What a node is shown as tells whether it is a text, and everything in it
but prefixes. -/
theorem erasePrefixes_eq_of_same :
    (left right : Node) →
      (∀ name ∈ left.names, name.IsBraceless) →
      (∀ name ∈ right.names, name.IsBraceless) →
      Same left.toJson right.toJson →
        left.erasePrefixes = right.erasePrefixes
  | .text _, .text _, _, _, same => congrArg Node.text same.string_inj
  | .text _, .element .., _, _, same => nomatch same
  | .element .., .text _, _, _, same => nomatch same
  | .element name attributes children, .element other added nodes,
      leftBraceless, rightBraceless, same => by
      rw [toJson, toJson, elementJson_eq, elementJson_eq] at same
      have slots := same.slots (by decide) rfl rfl
      simp only [List.forall₂_cons, Option.rel_some_some] at slots
      obtain ⟨sameNames, sameAttributes, sameChildren, -⟩ := slots
      simp only [names, List.forall_mem_cons, List.forall_mem_append,
        List.forall_mem_map] at leftBraceless rightBraceless
      obtain ⟨leftName, leftAttributes, leftChildren⟩ := leftBraceless
      obtain ⟨rightName, rightAttributes, rightChildren⟩ := rightBraceless
      have nameErased : name.erasePrefix = other.erasePrefix :=
        QName.reveals_toJson _ _ leftName rightName sameNames
      have attributesErased :
          attributes.map Attribute.erasePrefix =
            added.map Attribute.erasePrefix :=
        Attribute.reveals_toJson.list leftAttributes rightAttributes
          sameAttributes.items
      have childrenErased :
          erasePrefixesAll children = erasePrefixesAll nodes :=
        erasePrefixesAll_eq_of_same children nodes leftChildren rightChildren
          sameChildren.items
      rw [erasePrefixes, erasePrefixes, nameErased, attributesErased,
        childrenErased]

theorem erasePrefixesAll_eq_of_same :
    (left right : List Node) →
      (∀ name ∈ namesOfAll left, name.IsBraceless) →
      (∀ name ∈ namesOfAll right, name.IsBraceless) →
      List.Forall₂ Same (toJsonAll left) (toJsonAll right) →
        erasePrefixesAll left = erasePrefixesAll right
  | [], [], _, _, _ => rfl
  | [], _ :: _, _, _, same => nomatch same
  | _ :: _, [], _, _, same => nomatch same
  | node :: rest, other :: others, leftBraceless, rightBraceless, same => by
      obtain ⟨first, behind⟩ := List.forall₂_cons.mp same
      rw [namesOfAll, List.forall_mem_append] at leftBraceless rightBraceless
      have nodeErased : node.erasePrefixes = other.erasePrefixes :=
        erasePrefixes_eq_of_same node other leftBraceless.1 rightBraceless.1
          first
      have restErased : erasePrefixesAll rest = erasePrefixesAll others :=
        erasePrefixesAll_eq_of_same rest others leftBraceless.2
          rightBraceless.2 behind
      rw [erasePrefixesAll, erasePrefixesAll, nodeErased, restErased]

end

end Node

namespace Element

def names (element : Element) : List QName :=
  element.toNode.names

def IsBraceless (element : Element) : Prop :=
  ∀ name ∈ element.names, name.IsBraceless

theorem reveals_toJson : Reveals IsBraceless toJson erasePrefixes := by
  intro left right leftBraceless rightBraceless same
  have nodes :=
    Node.erasePrefixes_eq_of_same left.toNode right.toNode leftBraceless
      rightBraceless same
  have erased (element : Element) :
      element.toNode.erasePrefixes = element.erasePrefixes.toNode := rfl
  rw [erased, erased] at nodes
  exact toNode_inj nodes

end Element

/-! ## Attributes of references -/

namespace AttributeMap

def IsBraceless (map : AttributeMap) : Prop :=
  ∀ name ∈ map.names, name.IsBraceless

def keyed (map : AttributeMap) : List (String × String) :=
  map.entries.map fun (name, value) => (name.clark, value)

theorem toJson_eq (map : AttributeMap) :
    map.toJson =
      .object (map.keyed.map fun (key, value) => (key, .string value)) := by
  rw [toJson, keyed, List.map_map]
  rfl

/-- No two entries have one key. -/
theorem keys_distinct
    {map : AttributeMap} (braceless : map.IsBraceless) :
    (map.keyed.map Prod.fst).Nodup := by
  rw [keyed, List.map_map, List.Nodup, List.pairwise_map]
  refine map.sorted.imp_of_mem ?_
  intro earlier later earlierMember laterMember before sameKey
  have sameName : earlier.1.erasePrefix = later.1.erasePrefix :=
    QName.erasePrefix_eq_of_clark
      (braceless _ (List.mem_map_of_mem earlierMember))
      (braceless _ (List.mem_map_of_mem laterMember)) sameKey
  exact absurd before (QName.order_ne_lt_of_same sameName)

/-- Every entry is shown under its own key. -/
theorem lookup_keyed
    {map : AttributeMap} (braceless : map.IsBraceless) {entry : QName × String}
    (member : entry ∈ map.entries) :
    map.keyed.lookup entry.1.clark = some entry.2 := by
  have shown : (entry.1.clark, entry.2) ∈ map.keyed :=
    List.mem_map_of_mem member
  exact lookup_of_mem (keys_distinct braceless) shown

variable {left right : AttributeMap}

/-- What is under the same keys stands under the same names. -/
theorem mem_erasePrefixes_of_keyed
    (leftBraceless : left.IsBraceless) (rightBraceless : right.IsBraceless)
    (sameKeys : ∀ key, left.keyed.lookup key = right.keyed.lookup key)
    {entry : QName × String} (member : entry ∈ left.erasePrefixes.entries) :
    entry ∈ right.erasePrefixes.entries := by
  obtain ⟨⟨name, value⟩, inLeft, rfl⟩ := List.mem_map.mp member
  have found := lookup_keyed leftBraceless inLeft
  rw [sameKeys] at found
  obtain ⟨⟨other, otherValue⟩, inRight, sameEntry⟩ :=
    List.mem_map.mp (mem_of_lookup_eq_some found)
  obtain ⟨sameKey, sameValue⟩ := Prod.mk.inj sameEntry
  have sameName : other.erasePrefix = name.erasePrefix :=
    QName.erasePrefix_eq_of_clark
      (rightBraceless _ (List.mem_map_of_mem inRight))
      (leftBraceless _ (List.mem_map_of_mem inLeft)) sameKey
  rw [← sameName, ← sameValue]
  exact List.mem_map_of_mem inRight

/-- Maps with the same entries are equal, since both are in order. -/
theorem eq_of_mem_iff
    (same : ∀ entry, entry ∈ left.entries ↔ entry ∈ right.entries) :
    left = right := by
  let before (earlier later : QName × String) : Prop :=
    earlier.1.order later.1 = .lt
  have irreflexive : Std.Irrefl before :=
    ⟨fun _ first => QName.order_ne_lt_of_same rfl first⟩
  have antisymmetric : Std.Antisymm before := by
    constructor
    intro _ _ first second
    have circular := QName.order_trans first second
    exact absurd circular (QName.order_ne_lt_of_same rfl)
  apply AttributeMap.ext
  exact List.Pairwise.eq_of_mem_iff left.sorted right.sorted same

end AttributeMap

/-- Maps are told by what they are shown as, but for prefixes. -/
theorem AttributeMap.reveals_toJson :
    Reveals IsBraceless toJson erasePrefixes := by
  intro left right leftBraceless rightBraceless same
  rw [toJson_eq, toJson_eq] at same
  have sameKeys (key : String) :
      left.keyed.lookup key = right.keyed.lookup key := by
    have found := same.lookup key
    rw [lookup_map_value, lookup_map_value] at found
    exact tells_string.option found
  apply eq_of_mem_iff
  intro entry
  constructor
  · exact mem_erasePrefixes_of_keyed leftBraceless rightBraceless sameKeys
  · exact mem_erasePrefixes_of_keyed rightBraceless leftBraceless fun key =>
      (sameKeys key).symm

end WsTrust
