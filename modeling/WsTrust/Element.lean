import WsTrust.QName

/-!
# Elements

Content that a message carries without its meaning being fixed is kept as a
tree of elements and texts.  Attributes keep their document order, and names
keep their prefixes, so that the fragment can be written back.
-/

namespace WsTrust

/-- A named value on a start tag or an element; the value is unescaped. -/
structure Attribute where
  name : QName
  value : String
  deriving DecidableEq, Repr, Inhabited

/-- A child of an element: a text, or an element with its content. -/
inductive Node where
  | text (content : String)
  | element (name : QName) (attributes : List Attribute)
      (children : List Node)
  deriving Repr, Inhabited

structure Element where
  name : QName
  attributes : List Attribute
  children : List Node
  deriving Repr, Inhabited

namespace Attribute

/-- The value of the first attribute whose name passes the test. -/
def valueWhere? (attributes : List Attribute) (accepts : QName → Bool) :
    Option String :=
  (attributes.find? fun each => accepts each.name).map value

/-- The attribute without its prefix. -/
def erasePrefix (whole : Attribute) : Attribute :=
  { whole with name := whole.name.erasePrefix }

end Attribute

/-! ## Equality of nodes -/

namespace Node

mutual

/-- Decides whether two nodes agree in every part, prefixes included. -/
def decideEq : (left right : Node) → Decidable (left = right)
  | .text left, .text right =>
      if equal : left = right then
        isTrue (by rw [equal])
      else
        isFalse (by simp [equal])
  | .text _, .element .. => isFalse (by simp)
  | .element .., .text _ => isFalse (by simp)
  | .element leftName leftAttributes leftChildren,
      .element rightName rightAttributes rightChildren =>
      if equalNames : leftName = rightName then
        if equalAttributes : leftAttributes = rightAttributes then
          match decideEqAll leftChildren rightChildren with
          | isTrue equalChildren =>
              isTrue (by rw [equalNames, equalAttributes, equalChildren])
          | isFalse different => isFalse (by simp [different])
        else
          isFalse (by simp [equalAttributes])
      else
        isFalse (by simp [equalNames])

def decideEqAll : (left right : List Node) → Decidable (left = right)
  | [], [] => isTrue rfl
  | [], _ :: _ => isFalse (by simp)
  | _ :: _, [] => isFalse (by simp)
  | leftHead :: leftTail, rightHead :: rightTail =>
      match decideEq leftHead rightHead with
      | isFalse different => isFalse (by simp [different])
      | isTrue equalHeads =>
          match decideEqAll leftTail rightTail with
          | isTrue equalTails => isTrue (by rw [equalHeads, equalTails])
          | isFalse different => isFalse (by simp [different])

end

instance : DecidableEq Node := decideEq

end Node

deriving instance DecidableEq for Element

/-! ## Navigation -/

namespace Node

def element? : Node → Option Element
  | .text _ => none
  | .element name attributes children => some ⟨name, attributes, children⟩

def text? : Node → Option String
  | .text content => some content
  | .element .. => none

end Node

namespace Element

def toNode (element : Element) : Node :=
  .element element.name element.attributes element.children

@[simp]
theorem element?_toNode (element : Element) :
    element.toNode.element? = some element := rfl

theorem toNode_inj {left right : Element}
    (same : left.toNode = right.toNode) : left = right :=
  Option.some.inj (congrArg Node.element? same)

def ofName (name : QName) : Element :=
  ⟨name, [], []⟩

def localName (element : Element) : String :=
  element.name.localPart

/-- The value of the first attribute with the local name, whatever its
namespace. -/
def attribute? (element : Element) (localPart : String) : Option String :=
  Attribute.valueWhere? element.attributes fun name =>
    name.localPart == localPart

def attributeIn? (element : Element) (namespaceUri localPart : String) :
    Option String :=
  Attribute.valueWhere? element.attributes fun name =>
    name.isNamed namespaceUri localPart

/-- The children that are elements, in document order. -/
def childElements (element : Element) : List Element :=
  element.children.filterMap Node.element?

/-- The first child element with the local name. -/
def child? (element : Element) (localPart : String) : Option Element :=
  element.childElements.find? fun child => child.localName == localPart

/-- The texts directly inside the element, joined. -/
def text (element : Element) : String :=
  String.join (element.children.filterMap Node.text?)

end Element

/-! ## Erasing prefixes -/

namespace Node

mutual

def erasePrefixes : Node → Node
  | .text content => .text content
  | .element name attributes children =>
      .element name.erasePrefix (attributes.map Attribute.erasePrefix)
        (erasePrefixesAll children)

def erasePrefixesAll : List Node → List Node
  | [] => []
  | node :: rest => node.erasePrefixes :: erasePrefixesAll rest

end

theorem erasePrefixesAll_eq_map (nodes : List Node) :
    erasePrefixesAll nodes = nodes.map erasePrefixes := by
  induction nodes with
  | nil => rfl
  | cons node rest inductionHypothesis =>
      rw [erasePrefixesAll, inductionHypothesis, List.map_cons]

end Node

namespace Element

/-- The element with every prefix in it erased.  Two elements mean the same
exactly when they agree once their prefixes are erased. -/
def erasePrefixes (element : Element) : Element :=
  ⟨element.name.erasePrefix, element.attributes.map Attribute.erasePrefix,
    Node.erasePrefixesAll element.children⟩

/-- Whether two elements differ at most in their prefixes. -/
def same (left right : Element) : Bool :=
  left.erasePrefixes == right.erasePrefixes

end Element

end WsTrust
