import WsTrust.Extension

/-!
# Ready-made claims and readers

The claims and readers that most extensions are put together from.
-/

namespace WsTrust

namespace Claim

/-- Claims every element with the local name, whatever its namespace. -/
def localName (localPart : String) (name : QName) : Bool :=
  name.localPart == localPart

def expandedName (namespaceUri localPart : String) (name : QName) : Bool :=
  name.isNamed namespaceUri localPart

def inNamespace (namespaceUri : String) (name : QName) : Bool :=
  name.namespaceUri == namespaceUri

def writtenWith (sourcePrefix : String) (name : QName) : Bool :=
  name.sourcePrefix == sourcePrefix

end Claim

namespace ExtensionValue

def readConstant (value : ExtensionValue) : Cursor ExtensionValue := do
  Cursor.skipElement
  return value

def readText : Cursor ExtensionValue := do
  let _ ← Cursor.nextStartTag "extension"
  return .appliesTo (.value (← Cursor.elementText "extension"))

/-- Reads the text of the element as the relying party if it begins with one;
otherwise the element has to be empty. -/
def readOptionalText : Cursor ExtensionValue := do
  let tag ← Cursor.nextStartTag "extension"
  if ← Cursor.hasTextAhead then
    return .appliesTo (.value (← Cursor.elementText "extension"))
  else
    Cursor.expectEndTag tag.localName
    return .empty

def readFragment (maxDepth : Nat) : Cursor ExtensionValue := do
  return .fragment (← Cursor.captureElement maxDepth)

def readParty (maxDepth : Nat) : Cursor ExtensionValue := do
  return .appliesTo (.fragment (← Cursor.captureElement maxDepth))

/-- Consumes the start tag alone and leaves the rest of the element. -/
def readStartTag : Cursor ExtensionValue := do
  let _ ← Cursor.nextStartTag "extension"
  return .empty

end ExtensionValue

end WsTrust
