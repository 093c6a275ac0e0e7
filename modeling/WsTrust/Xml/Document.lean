import WsTrust.Item
import WsTrust.Text.ByteOrderMark

/-!
# Documents

The structural level of XML: the pieces of a document become items of a
stream.  Start tags open an element and a namespace scope, an end tag has to
repeat the name of the innermost open element, and an empty element counts as a
start tag with its end tag.  A piece that breaks a rule becomes a fault in its
place.  Elements that are still open at the end of the document are no fault.
-/

namespace WsTrust.Xml

/-- The elements that are open, by their names as written, and the scopes that
are in force, both with the innermost first.  There is a scope for each open
element; an element that was left through a wrong end tag leaves its scope
behind. -/
structure Nesting where
  opened : List (List Char)
  scopes : List Scope
  deriving DecidableEq, Repr

namespace Nesting

def outermost : Nesting :=
  { opened := [], scopes := [] }

def scope (nesting : Nesting) : Scope :=
  nesting.scopes.headD Scope.outermost

def enter (nesting : Nesting) (written : List Char) (scope : Scope) :
    Nesting :=
  { opened := written :: nesting.opened, scopes := scope :: nesting.scopes }

/-- The nesting without the innermost scope. -/
def leaveScope (nesting : Nesting) : Nesting :=
  { nesting with scopes := nesting.scopes.tail }

end Nesting

/-- Resolves the attributes of a tag in order, where `earlier` have been read
before.  A repeated key is refused before its value is looked at. -/
def readAttributes (scope : Scope) (earlier : List RawAttribute) :
    List RawAttribute → Option AttributeFlaw →
      Except DocumentFault (List Attribute)
  | [], none => .ok []
  | [], some flaw => .error (.attributes flaw)
  | raw :: rest, flaw =>
      match earlier.find? fun other => other.key == raw.key with
      | some other =>
          .error (.attributes (.duplicated raw.position other.position))
      | none =>
          match raw.value with
          | .error flaw => .error (.attributes flaw)
          | .ok written =>
              match unescape written with
              | .error flaw => .error (.reference flaw)
              | .ok value =>
                  match readAttributes scope (earlier ++ [raw]) rest flaw with
                  | .error fault => .error fault
                  | .ok attributes =>
                      .ok (⟨scope.attributeName raw.key,
                        String.ofList value⟩ :: attributes)

/-- A start tag as it was read: its name as written, the scope inside its
element, and the tag itself unless it has a fault. -/
structure OpeningTag where
  written : List Char
  scope : Scope
  tag : Except DocumentFault StartTag

/-- Reads the content of a start tag inside the given scope.  Its
declarations are checked before anything else in it. -/
def readStartTag (outer : Scope) (content : List Char) : OpeningTag :=
  let written := content.takeWhile (!isMarkupBlank ·)
  let raw :=
    rawAttributes (byteLength written) (content.dropWhile (!isMarkupBlank ·))
  let (scope, flaw) := outer.declareAll raw.items
  { written
    scope
    tag :=
      match flaw with
      | some flaw => .error (.binding flaw)
      | none =>
          match readAttributes scope [] raw.items raw.fault with
          | .error fault => .error fault
          | .ok attributes => .ok ⟨scope.elementName written, attributes⟩ }

/-- The item that a start tag is reported as. -/
def OpeningTag.toItem (opening : OpeningTag) : Item :=
  match opening.tag with
  | .ok tag => .token (.startTag tag)
  | .error fault => .fault fault

/-- The name that an end tag writes: its content without trailing blanks,
unless it consists of blanks alone. -/
def endTagName (content : List Char) : List Char :=
  if content.all isMarkupBlank then
    content
  else
    (content.reverse.dropWhile isMarkupBlank).reverse

/-- The items of an end tag and the nesting after it.  A wrong end tag still
closes the innermost element. -/
def readEndTag (nesting : Nesting) (content : List Char) : Item × Nesting :=
  let found := endTagName content
  match nesting.opened with
  | [] => (.fault (.unmatchedEnd (String.ofList found)), nesting)
  | written :: opened =>
      let left := { nesting with opened }
      if found = written then
        (.token (.endTag (nesting.scope.elementName written)), left.leaveScope)
      else
        (.fault
            (.mismatchedEnd (String.ofList written) (String.ofList found)),
          left)

/-- The items of a piece and the nesting after it. -/
def readPiece (nesting : Nesting) : Piece → List Item × Nesting
  | .skipped => ([], nesting)
  | .namelessDoctype => ([.fault .namelessDoctype], nesting)
  | .text raw =>
      match unescape raw with
      | .error flaw => ([.fault (.reference flaw)], nesting)
      | .ok content => ([.characters (String.ofList content)], nesting)
  | .characterData content =>
      ([.token (.text (String.ofList content))], nesting)
  | .startTag content isEmpty =>
      let opening := readStartTag nesting.scope content
      if isEmpty then
        let name := opening.scope.elementName opening.written
        ([opening.toItem, .token (.endTag name)], nesting)
      else
        ([opening.toItem], nesting.enter opening.written opening.scope)
  | .endTag content =>
      let (item, after) := readEndTag nesting content
      ([item], after)

def itemsOfPieces (nesting : Nesting) : List Piece → List Item
  | [] => []
  | piece :: rest =>
      let (items, after) := readPiece nesting piece
      items ++ itemsOfPieces after rest

/-- The items of a document, up to its end or to where it does not divide into
pieces any more. -/
def documentItems (text : String) : List Item :=
  let lexed := pieces (Text.dropByteOrderMark text.toList)
  itemsOfPieces .outermost lexed.items ++
    (lexed.fault.map fun flaw => Item.fault (.markup flaw)).toList

end WsTrust.Xml
