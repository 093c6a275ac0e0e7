import WsTrust.Cursor

/-!
# Fragments inside an element

Content that is kept uninterpreted stands inside an element of its own: either one
fragment, or any number of them.
-/

namespace WsTrust.Fragment

/-- Reads an element that holds exactly one child element, which is
captured. -/
def readOne (localPart : String) (maxDepth : Nat) : Cursor Element := do
  let _ ← Cursor.enter localPart
  match ← Cursor.peekChild localPart with
  | some _ =>
      let fragment ← Cursor.captureElement maxDepth
      Cursor.expectEndTag localPart
      return fragment
  | none => Cursor.refuse (.unexpectedClose localPart)

/-- Captures the child elements that are left of an element, up to its end
tag, which is consumed.  Text between them is dropped. -/
def readRest (localPart : String) (maxDepth : Nat) :
    Cursor (List Element) :=
  Cursor.repeating (fun earlier => do
    match ← Cursor.peekBoundary with
    | some (.opening _) =>
        let fragment ← Cursor.captureElement maxDepth
        return .again (fragment :: earlier)
    | some (.closing name) =>
        if name.localPart = localPart then
          let _ ← Cursor.next
          return .done earlier.reverse
        else
          Cursor.refuse (.unexpectedClose name.localPart)
    | none => Cursor.refuse (.streamExhausted localPart)) []

end WsTrust.Fragment
