import WsTrust.Payload

/-!
# Summaries

A record in one line: its kind and its context, followed by the most telling of
the things that it says.
-/

namespace WsTrust

namespace Summary

/-- A label with a value after it, or nothing without a value. -/
def field (label : String) : Option String → String
  | some value => " " ++ label ++ "=" ++ value
  | none => ""

/-- The context as it is shown, a dash if it is empty. -/
def shownContext (context : String) : String :=
  if context.isEmpty then "-" else context

end Summary

open Summary

def Response.summary (response : Response) : String :=
  "RSTR context=" ++ shownContext response.context ++
    field "token_type" (response.tokenType.map Uri.text) ++
    field "request_type" (response.requestType.map Uri.text) ++
    field "applies_to" (response.appliesTo.map AppliesTo.identifier) ++
    field "expires"
      (response.lifetime.map fun lifetime => lifetime.expires.text) ++
    field "status" (response.status.map Status.code) ++
    (if response.cancelled then " cancelled" else "")

def Request.summary (request : Request) : String :=
  "RST context=" ++ shownContext request.context ++
    field "request_type" (request.requestType.map Uri.text) ++
    field "token_type" (request.tokenType.map Uri.text) ++
    field "applies_to" (request.appliesTo.map AppliesTo.identifier) ++
    field "key_size" (request.keySize.map toString)

/-- The summaries of the records of a message, in document order. -/
def Payload.summaries : Payload → List String
  | .request single => [single.summary]
  | .requestCollection members => members.map Request.summary
  | .response single => [single.summary]
  | .responseCollection members => members.map Response.summary

end WsTrust
