import WsTrust.CommandLine.Fault
import WsTrust.CommandLine.Invocation
import WsTrust.Payload.Json
import WsTrust.Payload.Summary

/-!
# Outcomes

What a command writes and how the program ends.  A command depends on files
only through their bytes, so each outcome is a function of these.
-/

namespace WsTrust.CommandLine

/-- What is written to the two outputs, line by line, and the exit code. -/
structure Outcome where
  output : List String := []
  messages : List String := []
  exitCode : Nat := 0
  deriving DecidableEq, Repr

/-- The bytes of a file, or why it cannot be read. -/
abbrev FileContent := Except FileFault ByteArray

def readText (content : FileContent) : Except FileFault String := do
  match String.fromUTF8? (← content) with
  | some text => return text
  | none => throw .notText

def readConfiguration (path : String) (content : FileContent) :
    Except ConfigurationFault Configuration :=
  match readText content with
  | .error fault => .error (.unreadable path fault)
  | .ok text =>
      match Configuration.read? text with
      | some configuration => .ok configuration
      | none => .error .unparsed

def readPayload (settings : Settings) (content : FileContent) :
    Except CommandFault Payload :=
  match readText content with
  | .error fault => .error (.file fault)
  | .ok text =>
      match Payload.readXml .standard settings text with
      | .error failure => .error (.reading failure)
      | .ok payload => .ok payload

namespace Outcome

/-! ## Messages -/

def success (text : String) : String := "✓ " ++ text

def information (text : String) : String := "ℹ " ++ text

def warning (text : String) : String := "⚠ " ++ text

def failure (text : String) : Outcome :=
  { messages := ["✗ " ++ text], exitCode := 1 }

/-! ## Commands -/

def shownAs (format : OutputFormat) (payload : Payload) : List String :=
  match format with
  | .json => [payload.toJson.toText]
  | .summary =>
      if payload.summaries.isEmpty then
        [information (payload.rootName ++ ": no members")]
      else
        payload.summaries

/-- Shows the message in a file, with a warning if a response in it has no
context. -/
def ofParse (configuration : Configuration) (format : Option OutputFormat)
    (content : FileContent) : Outcome :=
  match readPayload configuration.settings content with
  | .error fault => failure fault.message
  | .ok payload =>
      { output := shownAs (format.getD configuration.outputFormat) payload
        messages :=
          if payload.responses.any fun response => response.context.isEmpty then
            [warning "response without a Context attribute"]
          else
            [] }

def isSupported (namespaceUri : String) : Bool :=
  Payload.isSupported
    (.ofParts namespaceUri Payload.Kind.response.rootName)

/-- Says whether a namespace is known, which it need not be. -/
def ofSupports (namespaceUri : String) : Outcome :=
  if isSupported namespaceUri then
    { output :=
        [success (namespaceUri ++ " is handled by the WS-Trust parser")] }
  else
    { output := [information (namespaceUri ++ " is not a WS-Trust namespace")] }

def ofConfigurationFault (fault : ConfigurationFault) : Outcome :=
  failure ("Failed to load configuration: " ++
    (CommandFault.configuration fault).message)

def usage : String :=
  "Usage: kc-wstrust [-c FILE] [-v] parse FILE [-o summary|json]\n" ++
    "       kc-wstrust [-c FILE] [-v] supports NAMESPACE"

def ofStop : Stop → Outcome
  | .usage => { messages := [usage], exitCode := 2 }
  | .help => { output := [usage] }
  | .version command =>
      let program := "kc-wstrust"
      { output :=
          [(match command with
            | some name => program ++ "-" ++ name
            | none => program) ++ " 0.1.0"] }

end Outcome

end WsTrust.CommandLine
