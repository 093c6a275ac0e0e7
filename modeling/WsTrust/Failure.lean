import WsTrust.Text.Numeral
import WsTrust.Uri
import WsTrust.Xml.Document

/-!
# Failures of reading

Reading a message fails in one of two ways.  A parse error is a violation of
the schema where content is validated strictly, or markup that cannot be read;
a fault is an unexpected tag, close or shape where it is validated loosely, the
end of the stream included.
-/

namespace WsTrust

/-- Violations of the schema where content is validated strictly. -/
inductive ParseError where
  /-- A required text is absent or blank. -/
  | missingText (what : String)
  | invalidUri (what : String) (flaw : UriFlaw)
  | invalidInteger (what : String) (flaw : Text.NumeralFlaw)
  /-- An element stands where only text may. -/
  | textOnly (within found : String)
  /-- The markup of the document has a fault. -/
  | markup (cause : Xml.DocumentFault)
  deriving DecidableEq, Repr

/-- Unexpected content where it is validated loosely. -/
inductive Fault where
  /-- A start tag that is not allowed where it stands. -/
  | unknownTag (tag : String)
  /-- A tag other than the one that has to stand here. -/
  | unexpectedTag (expected found : String)
  /-- An end tag that does not close what is being read. -/
  | unexpectedClose (tag : String)
  /-- A text where only elements may stand. -/
  | unexpectedText (within : String)
  /-- An element that no registered extension claims. -/
  | unclaimedExtension (name : QName)
  | missingAttribute (element name : String)
  /-- The root is none of the known messages. -/
  | unsupportedPayload (name : String)
  /-- A fragment is nested more deeply than allowed. -/
  | depthExceeded (maxDepth : Nat)
  /-- The stream ended before what was being read was complete. -/
  | streamExhausted (expected : String)
  /-- A reader succeeded without consuming anything, where it would be asked
  again at the same place. -/
  | noProgress
  deriving DecidableEq, Repr

inductive Failure where
  | parse (cause : ParseError)
  | fault (cause : Fault)
  deriving DecidableEq, Repr

def ParseError.message : ParseError → String
  | .missingText what => "expected text value for " ++ what
  | .invalidUri what flaw =>
      "invalid URI for " ++ what ++ ": " ++ flaw.message
  | .invalidInteger what flaw =>
      "invalid integer for " ++ what ++ ": " ++ flaw.message
  | .textOnly within found =>
      "expected text-only content in " ++ within ++ ", found element " ++ found
  | .markup cause => "XML parsing error: " ++ cause.message

def Fault.message : Fault → String
  | .unknownTag tag => "unknown tag: " ++ tag
  | .unexpectedTag expected found =>
      "expected tag " ++ expected ++ ", found " ++ found
  | .unexpectedClose tag => "unknown end element: " ++ tag
  | .unexpectedText within => "unexpected text content inside " ++ within
  | .unclaimedExtension name =>
      "no parser registered for element " ++ name.clark
  | .missingAttribute element name =>
      "missing attribute " ++ name ++ " on " ++ element
  | .unsupportedPayload name => "unsupported WS-Trust payload: " ++ name
  | .depthExceeded maxDepth =>
      "element nesting exceeds maximum depth of " ++ toString maxDepth
  | .streamExhausted expected =>
      "unexpected end of stream, expected " ++ expected
  | .noProgress => "extension left its element unread"

namespace Failure

def message : Failure → String
  | .parse cause => cause.message
  | .fault cause => cause.message

def family : Failure → String
  | .parse _ => "declared parse error"
  | .fault _ => "undeclared fault"

end Failure

end WsTrust
