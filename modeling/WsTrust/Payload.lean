import WsTrust.Request
import WsTrust.Response
import WsTrust.Settings

/-!
# Payloads

A message is a request, a response or a collection of either.  Its root element
decides which, where the case of ASCII letters is ignored; everything below the
root has to be named exactly.
-/

namespace WsTrust

/-- A message of one of the four kinds, with its records in document order. -/
inductive Payload where
  | request (single : Request)
  | requestCollection (members : List Request)
  | response (single : Response)
  | responseCollection (members : List Response)
  deriving DecidableEq

namespace Payload

/-- The kinds of messages. -/
inductive Kind where
  | request
  | requestCollection
  | response
  | responseCollection
  deriving DecidableEq, Repr

def Kind.rootName : Kind → String
  | .request => "RequestSecurityToken"
  | .requestCollection => "RequestSecurityTokenCollection"
  | .response => "RequestSecurityTokenResponse"
  | .responseCollection => "RequestSecurityTokenResponseCollection"

/-- The kind whose root element has the local name, in any case. -/
def Kind.ofRootName? (localPart : String) : Option Kind :=
  [Kind.requestCollection, .request, .responseCollection, .response].find?
    fun kind => Text.equalsIgnoringCase localPart kind.rootName

def kind : Payload → Kind
  | .request _ => .request
  | .requestCollection _ => .requestCollection
  | .response _ => .response
  | .responseCollection _ => .responseCollection

def rootName (payload : Payload) : String :=
  payload.kind.rootName

def responses : Payload → List Response
  | .response single => [single]
  | .responseCollection members => members
  | .request _ => []
  | .requestCollection _ => []

def requests : Payload → List Request
  | .request single => [single]
  | .requestCollection members => members
  | .response _ => []
  | .responseCollection _ => []

def request? : Payload → Option Request
  | .request single => some single
  | _ => none

def requestCollection? : Payload → Option (List Request)
  | .requestCollection members => some members
  | _ => none

def response? : Payload → Option Response
  | .response single => some single
  | _ => none

def responseCollection? : Payload → Option (List Response)
  | .responseCollection members => some members
  | _ => none

def readKind (registry : Registry) (maxDepth : Nat) : Kind → Cursor Payload
  | .request => .request <$> Request.grammar.read registry maxDepth
  | .response => .response <$> Response.grammar.read registry maxDepth
  | .requestCollection =>
      .requestCollection <$>
        Request.grammar.readCollection registry maxDepth
          Kind.requestCollection.rootName
  | .responseCollection =>
      .responseCollection <$>
        Response.grammar.readCollection registry maxDepth
          Kind.responseCollection.rootName

/-- Reads a message from a stream, up to the end of its root element. -/
def read (registry : Registry) (maxDepth : Nat) : Cursor Payload := do
  match ← Cursor.peekStartTag with
  | none => Cursor.refuse (.unsupportedPayload Vocabulary.trust)
  | some root =>
      match Kind.ofRootName? root.localName with
      | some kind => readKind registry maxDepth kind
      | none => Cursor.refuse (.unsupportedPayload root.localName)

def readXml (registry : Registry) (settings : Settings) (text : String) :
    Except Failure Payload :=
  match read registry settings.maxDepth
      (TokenStream.ofXml settings.trimText text) with
  | .ok payload _ => .ok payload
  | .error failure _ => .error failure

/-- Whether elements of this name belong to WS-Trust, which only the namespace
decides. -/
def isSupported (name : QName) : Bool :=
  name.namespaceUri == Vocabulary.trust

end Payload

end WsTrust
