import WsTrust.Element

/-!
# Markup tokens

A document is read as a sequence of start tags, end tags and texts.  An
element determines the tokens that it is written as, and the number of levels that
they are nested.
-/

namespace WsTrust

/-- A start tag, with its attributes in document order. -/
structure StartTag where
  name : QName
  attributes : List Attribute
  deriving DecidableEq, Repr, Inhabited

namespace StartTag

def localName (tag : StartTag) : String :=
  tag.name.localPart

def attributeIn? (tag : StartTag) (namespaceUri localPart : String) :
    Option String :=
  Attribute.valueWhere? tag.attributes fun name =>
    name.isNamed namespaceUri localPart

/-- The value of the attribute with the local name in no namespace. -/
def attribute? (tag : StartTag) (localPart : String) : Option String :=
  tag.attributeIn? "" localPart

/-- The element that the tag opens, before it has any content. -/
def toElement (tag : StartTag) (children : List Node) : Element :=
  ⟨tag.name, tag.attributes, children⟩

def erasePrefixes (tag : StartTag) : StartTag :=
  ⟨tag.name.erasePrefix, tag.attributes.map Attribute.erasePrefix⟩

end StartTag

inductive Token where
  | startTag (tag : StartTag)
  | endTag (name : QName)
  | text (content : String)
  deriving DecidableEq, Repr, Inhabited

namespace Token

def isStartTag : Token → Bool
  | .startTag _ => true
  | _ => false

def isText : Token → Bool
  | .text _ => true
  | _ => false

def erasePrefixes : Token → Token
  | .startTag tag => .startTag tag.erasePrefixes
  | .endTag name => .endTag name.erasePrefix
  | .text content => .text content

end Token

/-! ## The tokens of an element -/

namespace Node

mutual

def tokens : Node → List Token
  | .text content => [.text content]
  | .element name attributes children =>
      .startTag ⟨name, attributes⟩ ::
        (tokensOfAll children ++ [.endTag name])

def tokensOfAll : List Node → List Token
  | [] => []
  | node :: rest => node.tokens ++ tokensOfAll rest

end

mutual

/-- The number of nested elements from a node downwards, none for a text. -/
def height : Node → Nat
  | .text _ => 0
  | .element _ _ children => heightOfAll children + 1

def heightOfAll : List Node → Nat
  | [] => 0
  | node :: rest => max node.height (heightOfAll rest)

end

end Node

namespace Element

/-- The tokens that an element is written as: its start tag, the tokens of
its children in order, its end tag. -/
def tokens (element : Element) : List Token :=
  element.toNode.tokens

/-- The number of elements on the longest way down, the element itself
included. -/
def height (element : Element) : Nat :=
  element.toNode.height

end Element

end WsTrust
