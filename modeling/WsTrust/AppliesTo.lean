import WsTrust.Fragment

/-!
# Relying parties

Whom a token is meant for, as WS-Policy says it: usually by the address of an
endpoint.
-/

namespace WsTrust

inductive AppliesTo where
  /-- The address of an endpoint. -/
  | endpointReference (address : String)
  /-- A plain value. -/
  | value (text : String)
  /-- Content that is not interpreted. -/
  | fragment (content : Element)
  deriving DecidableEq, Repr, Inhabited

namespace AppliesTo

def identifier : AppliesTo → String
  | .endpointReference address => address
  | .value text => text
  | .fragment content => Text.trim content.text

/-- Reads the address of an endpoint: the first `Address` among the children.
All other children are skipped, later addresses included, and that the address
is missing is said only at the end. -/
def readEndpoint : Cursor String := do
  let _ ← Cursor.enter "EndpointReference"
  let address ← Cursor.repeating (fun address => do
    match ← Cursor.peekChild "EndpointReference" with
    | some child =>
        if child.localName = "Address" ∧ address = none then
          let _ ← Cursor.enter "Address"
          let found ← Cursor.requiredText "Address" "endpoint address"
          return .again (some found)
        else
          Cursor.skipElement
          return .again address
    | none => return .done address) none
  Cursor.expectEndTag "EndpointReference"
  match address with
  | some address => return address
  | none => Cursor.raise (.missingText "endpoint address")

def maxDepth : Nat := 256

/-- Reads a relying party.  Without a child its value is empty. -/
def read : Cursor AppliesTo := do
  let _ ← Cursor.enter "AppliesTo"
  let party ←
    match ← Cursor.peekChild "AppliesTo" with
    | none => pure (.value "")
    | some child =>
        if child.localName = "EndpointReference" then
          .endpointReference <$> readEndpoint
        else
          .fragment <$> Cursor.captureElement maxDepth
  Cursor.expectEndTag "AppliesTo"
  return party

end AppliesTo

end WsTrust
