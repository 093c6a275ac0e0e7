import WsTrust.AttributeMap
import WsTrust.Fragment

/-!
# Token references

A reference says where a token is to be found.  Its identifier and its usage
are lifted out of its attributes, namespace declarations are dropped, and all
other attributes are kept in order of their names.
-/

namespace WsTrust

/-- A reference to a token, with its content in document order. -/
structure TokenReference where
  id : Option String
  usage : Option String
  otherAttributes : AttributeMap
  any : List Element
  deriving DecidableEq, Repr, Inhabited

namespace TokenReference

def empty : TokenReference :=
  { id := none, usage := none, otherAttributes := .empty, any := [] }

/-- Whether a name is the one of the usage, in no namespace or in that of
WS-Security. -/
def isUsage (name : QName) : Bool :=
  name.localPart == "Usage" &&
    (name.namespaceUri.isEmpty || name.namespaceUri == Vocabulary.security)

theorem isUsage_iff {name : QName} :
    isUsage name = true ↔
      name.localPart = "Usage" ∧
        (name.namespaceUri = "" ∨ name.namespaceUri = Vocabulary.security) := by
  simp [isUsage]

def addAttribute (reference : TokenReference) (added : Attribute) :
    TokenReference :=
  if added.name.namespaceUri = Vocabulary.declarations then
    reference
  else if added.name.isNamed Vocabulary.utility "Id" then
    { reference with id := some added.value }
  else if isUsage added.name then
    { reference with usage := some added.value }
  else
    { reference with
      otherAttributes :=
        reference.otherAttributes.insert added.name added.value }

/-- The reference that a start tag describes, before its content. -/
def ofAttributes (attributes : List Attribute) : TokenReference :=
  attributes.foldl addAttribute empty

def read (maxDepth : Nat) : Cursor TokenReference := do
  let tag ← Cursor.enter "SecurityTokenReference"
  let any ← Fragment.readRest "SecurityTokenReference" maxDepth
  return { ofAttributes tag.attributes with any }

def readWrapped (localPart : String) (maxDepth : Nat) :
    Cursor TokenReference := do
  let _ ← Cursor.enter localPart
  let reference ← read maxDepth
  Cursor.expectEndTag localPart
  return reference

end TokenReference

end WsTrust
