import WsTrust.Cursor

/-!
# Status and renewal

The outcome of validating a token, and whether a token can be renewed.
-/

namespace WsTrust

/-- The code and the reason of a validation, each empty if it is absent. -/
structure Status where
  code : String
  reason : String
  deriving DecidableEq, Repr, Inhabited

/-- Whether a token may be renewed, and whether also after it has expired. -/
structure Renewing where
  allow : Bool
  ok : Bool
  deriving DecidableEq, Repr, Inhabited

namespace Status

def validCode : String :=
  "http://docs.oasis-open.org/ws-sx/ws-trust/200512/status/valid"

def isValid (status : Status) : Bool :=
  status.code == validCode

/-- Reads a status.  Only codes and reasons may stand in it, of each of which the
last one counts, and no text besides them. -/
def read : Cursor Status := do
  let _ ← Cursor.enter "Status"
  Cursor.repeating (fun status => do
    match ← Cursor.peek with
    | some (.endTag name) =>
        if name.localPart = "Status" then
          let _ ← Cursor.next
          return .done status
        else
          Cursor.refuse (.unexpectedClose name.localPart)
    | some (.startTag tag) =>
        if tag.localName = "Code" then
          let _ ← Cursor.enter "Code"
          let code ← Cursor.requiredText "Code" "validation code"
          return .again { status with code }
        else if tag.localName = "Reason" then
          let _ ← Cursor.enter "Reason"
          let reason ← Cursor.requiredText "Reason" "validation reason"
          return .again { status with reason }
        else
          Cursor.refuse (.unknownTag tag.localName)
    | some (.text _) => Cursor.refuse (.unexpectedText "Status")
    | none => Cursor.refuse (.streamExhausted "Status"))
    { code := "", reason := "" }

end Status

namespace Renewing

/-- Whether an attribute says `true` in any case, if it is present. -/
def flag? (tag : StartTag) (localPart : String) : Option Bool :=
  (tag.attribute? localPart).map fun value =>
    Text.equalsIgnoringCase value "true"

/-- Reads the renewal of a token, which is allowed unless denied, and not
after expiry unless allowed. -/
def read : Cursor Renewing := do
  let tag ← Cursor.enter "Renewing"
  Cursor.expectEndTag "Renewing"
  return {
    allow := (flag? tag "Allow").getD true
    ok := (flag? tag "OK").getD false }

end Renewing

end WsTrust
