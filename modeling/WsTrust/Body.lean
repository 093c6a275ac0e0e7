import WsTrust.Extension

/-!
# Bodies of messages

Requests and responses are read alike: an element with a context, whose
children are looked up by local name in a table and folded into a record.  A
child outside the table is left to the extensions.
-/

namespace WsTrust

/-- The grammar of a message: how its children are read, and how what they say
is added to a record. -/
structure BodyGrammar (Record Child : Type) where
  /-- The local name of the element. -/
  elementName : String
  /-- The record of an element without children. -/
  ofContext : String → Record
  /-- The readers of children by local name, given the allowed nesting. -/
  children : List (String × (Nat → Cursor Child))
  /-- The child that names a relying party. -/
  appliesTo : AppliesTo → Child
  /-- The record with what a child says. -/
  add : Record → Child → Record

namespace BodyGrammar

variable {Record Child : Type}

/-- Reads an element outside the table by the first extension that claims
it.  Only a relying party is kept. -/
def readExtension
    (grammar : BodyGrammar Record Child)
    (registry : Registry)
    (name : QName) : Cursor (Option Child) :=
  match registry.lookup? name with
  | none => Cursor.refuse (.unclaimedExtension name)
  | some extension => do
      match ← extension.read with
      | .appliesTo party => return some (grammar.appliesTo party)
      | .fragment _ => return none
      | .empty => return none

def readChild
    (grammar : BodyGrammar Record Child)
    (registry : Registry)
    (maxDepth : Nat)
    (name : QName) : Cursor (Option Child) :=
  match grammar.children.lookup name.localPart with
  | some read => some <$> read maxDepth
  | none => grammar.readExtension registry name

/-- The record with what a child says, if it says anything. -/
def addOptional
    (grammar : BodyGrammar Record Child)
    (record : Record) : Option Child → Record
  | some child => grammar.add record child
  | none => record

/-- Reads what is left of a body after its start tag.  If the stream ends first,
the record as far as it was read is the result. -/
def readRest
    (grammar : BodyGrammar Record Child)
    (registry : Registry)
    (maxDepth : Nat) : Record → Cursor Record :=
  Cursor.repeating fun record => do
    match ← Cursor.peekBoundary with
    | some (.opening tag) =>
        let child ← grammar.readChild registry maxDepth tag.name
        return .again (grammar.addOptional record child)
    | some (.closing name) =>
        if name.localPart = grammar.elementName then
          let _ ← Cursor.next
          return .done record
        else
          Cursor.refuse (.unexpectedClose name.localPart)
    | none => return .done record

/-- The context that a start tag carries, empty if there is none. -/
def contextOf (tag : StartTag) : String :=
  (tag.attribute? "Context").getD ""

/-- Reads a message.  The name of its start tag is not looked at, that of its
end tag has to be exact. -/
def read
    (grammar : BodyGrammar Record Child)
    (registry : Registry)
    (maxDepth : Nat) : Cursor Record := do
  let tag ← Cursor.nextStartTag grammar.elementName
  grammar.readRest registry maxDepth (grammar.ofContext (contextOf tag))

/-- Reads an element all of whose children are messages. -/
def readCollection
    (grammar : BodyGrammar Record Child)
    (registry : Registry)
    (maxDepth : Nat)
    (elementName : String) : Cursor (List Record) := do
  let _ ← Cursor.enter elementName
  Cursor.repeating (fun earlier => do
    match ← Cursor.peekBoundary with
    | some (.opening tag) =>
        if tag.localName = grammar.elementName then
          let record ← grammar.read registry maxDepth
          return .again (record :: earlier)
        else
          Cursor.refuse (.unexpectedTag grammar.elementName tag.localName)
    | some (.closing name) =>
        if name.localPart = elementName then
          let _ ← Cursor.next
          return .done earlier.reverse
        else
          Cursor.refuse (.unexpectedClose name.localPart)
    | none => Cursor.refuse (.streamExhausted elementName)) []

end BodyGrammar

end WsTrust
