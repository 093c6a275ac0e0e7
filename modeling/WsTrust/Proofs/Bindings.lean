import WsTrust.Proofs.Escaping
import WsTrust.Proofs.XmlNames
import WsTrust.Token

/-!
# Prefixes and what they are bound to

A fragment declares prefixes by attributes of its elements.  From the
declarations inside the fragment alone follows what each of its names would
stand for if the fragment were a document of its own; the fragment is
self-contained if its names stand for that already.
-/

namespace WsTrust

/-! ## Declarations -/

/-- The prefix that an attribute of this name declares, empty for the namespace
of unprefixed elements. -/
def QName.declaredPrefix? (name : QName) : Option String :=
  if name.sourcePrefix = "xmlns" then
    some name.localPart
  else if name.sourcePrefix = "" ∧ name.localPart = "xmlns" then
    some ""
  else
    none

namespace Attribute

/-- The URI that a declaration binds its prefix to: the value as it is written,
with its references unread. -/
def declaredUri (declaration : Attribute) : String :=
  String.ofList (Xml.escape declaration.value.toList)

/-- A declaration may bind `xml` only to its own namespace, `xmlns` to nothing,
and no other prefix to the namespaces of these two. -/
def IsAdmissible (declaration : Attribute) : Prop :=
  ∀ declared ∈ declaration.name.declaredPrefix?, declared ≠ "" →
    if declared = "xml" then
      declaration.declaredUri = Vocabulary.reserved
    else
      declared ≠ "xmlns" ∧
        declaration.declaredUri ≠ Vocabulary.reserved ∧
        declaration.declaredUri ≠ Vocabulary.declarations

instance (declaration : Attribute) : Decidable declaration.IsAdmissible :=
  inferInstanceAs (Decidable (∀ declared ∈ _, _))

end Attribute

/-! ## Bindings -/

/-- The URI of each prefix, empty if it is not bound.  The empty prefix stands
for unprefixed elements. -/
abbrev Bindings := String → String

namespace Bindings

def initial : Bindings := fun boundPrefix =>
  if boundPrefix = "xml" then
    Vocabulary.reserved
  else if boundPrefix = "xmlns" then
    Vocabulary.declarations
  else
    ""

/-- The bindings after an attribute, which may be a declaration. -/
def declare (bindings : Bindings) (whole : Attribute) : Bindings :=
  match whole.name.declaredPrefix? with
  | none => bindings
  | some declared => fun boundPrefix =>
      if boundPrefix = declared then
        whole.declaredUri
      else
        bindings boundPrefix

def declareAll (bindings : Bindings) (attributes : List Attribute) :
    Bindings :=
  attributes.foldl declare bindings

def ofElement (bindings : Bindings) (name : QName) : String :=
  bindings name.sourcePrefix

def ofAttribute (bindings : Bindings) (name : QName) : String :=
  if name.declaredPrefix?.isSome then
    Vocabulary.declarations
  else if name.sourcePrefix = "" then
    ""
  else
    bindings name.sourcePrefix

end Bindings

/-! ## Start tags under bindings -/

namespace StartTag

/-- Nothing is wrong with the attributes of the tag: no two are written under
the same name, and the declarations among them are admissible. -/
def IsDeclarable (tag : StartTag) : Prop :=
  (tag.attributes.map fun each => each.name.written).Nodup ∧
    ∀ each ∈ tag.attributes, each.IsAdmissible

instance (tag : StartTag) : Decidable tag.IsDeclarable :=
  inferInstanceAs (Decidable (_ ∧ _))

/-- The names on the tag are in the namespaces that their prefixes are bound
to. -/
def IsBound (inner : Bindings) (tag : StartTag) : Prop :=
  tag.name.namespaceUri = inner.ofElement tag.name ∧
    ∀ each ∈ tag.attributes,
      each.name.namespaceUri = inner.ofAttribute each.name

instance (inner : Bindings) (tag : StartTag) :
    Decidable (tag.IsBound inner) :=
  inferInstanceAs (Decidable (_ ∧ _))

def HasXmlNames (tag : StartTag) : Prop :=
  tag.name.IsXmlName ∧ ∀ each ∈ tag.attributes, each.name.IsXmlName

instance (tag : StartTag) : Decidable tag.HasXmlNames :=
  inferInstanceAs (Decidable (_ ∧ _))

end StartTag

namespace QName

def inNamespace (name : QName) (namespaceUri : String) : QName :=
  { name with namespaceUri }

theorem inNamespace_eq_self_iff (name : QName) (namespaceUri : String) :
    name.inNamespace namespaceUri = name ↔
      name.namespaceUri = namespaceUri := by
  constructor
  · intro equality
    rw [← equality]
    rfl
  · rintro rfl
    rfl

end QName

namespace Attribute

def rebound (inner : Bindings) (whole : Attribute) : Attribute :=
  { whole with
    name := whole.name.inNamespace (inner.ofAttribute whole.name) }

theorem rebound_eq_self_iff (inner : Bindings) (whole : Attribute) :
    whole.rebound inner = whole ↔
      whole.name.namespaceUri = inner.ofAttribute whole.name := by
  rw [← QName.inNamespace_eq_self_iff]
  constructor
  · intro equality
    exact congrArg Attribute.name equality
  · intro sameName
    rw [rebound, sameName]

end Attribute

def StartTag.rebound (inner : Bindings) (tag : StartTag) : StartTag :=
  ⟨tag.name.inNamespace (inner.ofElement tag.name),
    tag.attributes.map (Attribute.rebound inner)⟩

theorem StartTag.rebound_eq_self_iff (inner : Bindings) (tag : StartTag) :
    tag.rebound inner = tag ↔ tag.IsBound inner := by
  obtain ⟨name, attributes⟩ := tag
  have unchanged :
      attributes.map (Attribute.rebound inner) = attributes ↔
        ∀ each ∈ attributes, each.rebound inner = each := by
    have identity := List.map_inj_left (l := attributes)
      (f := Attribute.rebound inner) (g := id)
    rwa [List.map_id] at identity
  simp only [rebound, IsBound, StartTag.mk.injEq,
    QName.inNamespace_eq_self_iff, unchanged,
    Attribute.rebound_eq_self_iff]

/-! ## Whole fragments -/

namespace Node

mutual

/-- Every start tag in the node fulfils a condition under the bindings inside
its element. -/
def EveryTag (condition : Bindings → StartTag → Prop) (outer : Bindings) :
    Node → Prop
  | .text _ => True
  | .element name attributes children =>
      condition (outer.declareAll attributes) ⟨name, attributes⟩ ∧
        EveryTagOfAll condition (outer.declareAll attributes) children

/-- Every start tag in the nodes fulfils a condition under the bindings inside
its element. -/
def EveryTagOfAll (condition : Bindings → StartTag → Prop)
    (outer : Bindings) : List Node → Prop
  | [] => True
  | node :: rest =>
      node.EveryTag condition outer ∧ EveryTagOfAll condition outer rest

end

mutual

def decideEveryTag
    (condition : Bindings → StartTag → Prop)
    [∀ inner tag, Decidable (condition inner tag)] (outer : Bindings) :
    (node : Node) → Decidable (node.EveryTag condition outer)
  | .text _ => isTrue trivial
  | .element name attributes children =>
      let inner := outer.declareAll attributes
      have : Decidable (EveryTagOfAll condition inner children) :=
        decideEveryTagOfAll condition inner children
      inferInstanceAs (Decidable (condition inner ⟨name, attributes⟩ ∧ _))

def decideEveryTagOfAll
    (condition : Bindings → StartTag → Prop)
    [∀ inner tag, Decidable (condition inner tag)] (outer : Bindings) :
    (nodes : List Node) → Decidable (EveryTagOfAll condition outer nodes)
  | [] => isTrue trivial
  | node :: rest =>
      have := decideEveryTag condition outer node
      have := decideEveryTagOfAll condition outer rest
      inferInstanceAs (Decidable (_ ∧ _))

end

instance
    (condition : Bindings → StartTag → Prop)
    [∀ inner tag, Decidable (condition inner tag)] (outer : Bindings)
    (node : Node) : Decidable (node.EveryTag condition outer) :=
  decideEveryTag condition outer node

mutual

/-- The node with its names in the namespaces that their prefixes are bound to
by the declarations inside it, and outside it as given. -/
def rebound (outer : Bindings) : Node → Node
  | .text content => .text content
  | .element name attributes children =>
      let inner := outer.declareAll attributes
      .element (name.inNamespace (inner.ofElement name))
        (attributes.map (Attribute.rebound inner))
        (reboundAll inner children)

/-- The nodes with their names in the namespaces that their prefixes are bound
to. -/
def reboundAll (outer : Bindings) : List Node → List Node
  | [] => []
  | node :: rest => node.rebound outer :: reboundAll outer rest

end

section EveryTag

variable {condition stronger : Bindings → StartTag → Prop}

mutual

theorem EveryTag.mono
    (implied : ∀ inner tag, stronger inner tag → condition inner tag)
    {outer : Bindings} {node : Node}
    (every : node.EveryTag stronger outer) :
    node.EveryTag condition outer := by
  cases node with
  | text content => exact trivial
  | element name attributes children =>
      exact ⟨implied _ _ every.1, EveryTagOfAll.mono implied every.2⟩

theorem EveryTagOfAll.mono
    (implied : ∀ inner tag, stronger inner tag → condition inner tag)
    {outer : Bindings} {nodes : List Node}
    (every : EveryTagOfAll stronger outer nodes) :
    EveryTagOfAll condition outer nodes := by
  cases nodes with
  | nil => exact trivial
  | cons node rest =>
      exact ⟨every.1.mono implied, EveryTagOfAll.mono implied every.2⟩

end

mutual

theorem EveryTag.and
    {outer : Bindings} {node : Node}
    (first : node.EveryTag condition outer)
    (second : node.EveryTag stronger outer) :
    node.EveryTag (fun inner tag => condition inner tag ∧ stronger inner tag)
      outer := by
  cases node with
  | text content => exact trivial
  | element name attributes children =>
      exact ⟨⟨first.1, second.1⟩, EveryTagOfAll.and first.2 second.2⟩

theorem EveryTagOfAll.and
    {outer : Bindings} {nodes : List Node}
    (first : EveryTagOfAll condition outer nodes)
    (second : EveryTagOfAll stronger outer nodes) :
    EveryTagOfAll
      (fun inner tag => condition inner tag ∧ stronger inner tag)
      outer nodes := by
  cases nodes with
  | nil => exact trivial
  | cons node rest =>
      exact ⟨first.1.and second.1, EveryTagOfAll.and first.2 second.2⟩

end

end EveryTag

mutual

/-- Rebinding changes nothing exactly where all names are bound as they
are. -/
theorem rebound_eq_self_iff (outer : Bindings) (node : Node) :
    node.rebound outer = node ↔
      node.EveryTag (fun inner tag => tag.IsBound inner) outer := by
  cases node with
  | text content => exact iff_of_true rfl trivial
  | element name attributes children =>
      have tags :=
        StartTag.rebound_eq_self_iff (outer.declareAll attributes)
          ⟨name, attributes⟩
      have inside :=
        reboundAll_eq_self_iff (outer.declareAll attributes) children
      rw [EveryTag, ← tags, ← inside]
      simp only [rebound, StartTag.rebound, Node.element.injEq,
        StartTag.mk.injEq, and_assoc]

theorem reboundAll_eq_self_iff (outer : Bindings) (nodes : List Node) :
    reboundAll outer nodes = nodes ↔
      EveryTagOfAll (fun inner tag => tag.IsBound inner) outer nodes := by
  cases nodes with
  | nil => exact iff_of_true rfl trivial
  | cons node rest =>
      rw [reboundAll, EveryTagOfAll, List.cons.injEq,
        rebound_eq_self_iff, reboundAll_eq_self_iff]

end

end Node

namespace Element

def HasXmlNames (element : Element) : Prop :=
  element.toNode.EveryTag (fun _ tag => tag.HasXmlNames) .initial

/-- The element is a document of its own: its attributes can be written side by
side, its declarations are admissible, and each of its names is in the
namespace that its prefix is bound to by the innermost declaration inside the
element. -/
def IsSelfContained (element : Element) : Prop :=
  element.toNode.EveryTag
    (fun inner tag => tag.IsDeclarable ∧ tag.IsBound inner) .initial

instance (element : Element) : Decidable element.HasXmlNames :=
  inferInstanceAs (Decidable (Node.EveryTag ..))

instance (element : Element) : Decidable element.IsSelfContained :=
  inferInstanceAs (Decidable (Node.EveryTag ..))

end Element

end WsTrust
