import WsTrust.Cursor

/-!
# Elements that hold one value

Elements whose content is a text that must not be blank and has to have the
form of a value.  The name of the element is not looked at.
-/

namespace WsTrust.Scalar

/-- Reads an element that holds a URI reference; `what` names it in errors. -/
def readUri (localPart what : String) : Cursor Uri := do
  let _ ← Cursor.nextStartTag localPart
  let text ← Cursor.requiredText localPart what
  match Uri.read text with
  | .ok uri => return uri
  | .error flaw => Cursor.raise (.invalidUri what flaw)

/-- Reads an element that holds a number of at most 64 bits; `what` names it in
errors. -/
def readInteger (localPart what : String) : Cursor Nat := do
  let _ ← Cursor.nextStartTag localPart
  let text ← Cursor.requiredText localPart what
  match Text.readNatural Text.wordBound text.toList with
  | .ok number => return number
  | .error flaw => Cursor.raise (.invalidInteger what flaw)

end WsTrust.Scalar
