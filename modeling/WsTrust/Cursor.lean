import WsTrust.Failure
import WsTrust.TokenStream

/-!
# Cursors

A cursor reads from a token stream and leaves the stream where it stopped, also
when it fails.  Three steps touch the stream itself: looking at the next token,
consuming it, and scanning tokens until a decision is reached.  The methods
built from them discard what they do not look for, tags of the other kind
included.
-/

namespace WsTrust

/-- A reader of values from a token stream. -/
abbrev Cursor := EStateM Failure TokenStream

/-- What one turn of a repeated reading decides. -/
inductive Turn (State Result : Type) where
  | again (state : State)
  | done (result : Result)

namespace Cursor

variable {Result State : Type}

def raise (error : ParseError) : Cursor Result :=
  throw (.parse error)

def refuse (fault : Fault) : Cursor Result :=
  throw (.fault fault)

/-! ## Single tokens -/

/-- What is reported first among the items, with the items after it. -/
def firstReport? (trimming : Bool) :
    List Item → Option (Except Xml.DocumentFault Token × List Item)
  | [] => none
  | item :: rest =>
      match item.read? trimming with
      | some report => some (report, rest)
      | none => firstReport? trimming rest

/-- Consumes the next token, if there is one, or the fault in its place. -/
def next : Cursor (Option Token) := fun stream =>
  match firstReport? stream.trimming stream.items with
  | some (.ok token, rest) => .ok (some token) { stream with items := rest }
  | some (.error fault, rest) =>
      .error (.parse (.markup fault)) { stream with items := rest }
  | none => .ok none { stream with items := [] }

/-- Looks at the next token, if there is one.  The token is delivered later as
it was seen, whatever the way characters are reported then; a fault is
consumed. -/
def peek : Cursor (Option Token) := fun stream =>
  match firstReport? stream.trimming stream.items with
  | some (.ok token, rest) =>
      .ok (some token) { stream with items := .token token :: rest }
  | some (.error fault, rest) =>
      .error (.parse (.markup fault)) { stream with items := rest }
  | none => .ok none { stream with items := [] }

def preserveText (verbatim : Bool) : Cursor Unit :=
  modify fun stream => { stream with verbatim }

/-! ## Scanning tokens -/

/-- Consumes tokens until `step` decides, which sees each token with the
state left by those before it.  `expected` is what is missing if the stream
ends first. -/
def scan
    (expected : String)
    (step : State → Token → Except Failure (Turn State Result))
    (state : State) : Cursor Result := fun stream =>
  scanItems stream stream.items state
where
  /-- Scans the items that are left of those of `stream`. -/
  scanItems (stream : TokenStream) :
      List Item → State → EStateM.Result Failure TokenStream Result
    | [], _ =>
        .error (.fault (.streamExhausted expected)) { stream with items := [] }
    | item :: rest, state =>
        match item.read? stream.trimming with
        | none => scanItems stream rest state
        | some (.error fault) =>
            .error (.parse (.markup fault)) { stream with items := rest }
        | some (.ok token) =>
            match step state token with
            | .ok (.again state) => scanItems stream rest state
            | .ok (.done result) => .ok result { stream with items := rest }
            | .error failure => .error failure { stream with items := rest }

/-- Discards tokens up to the first one that passes the test. -/
def dropUntil (stops : Token → Bool) : Cursor Unit := fun stream =>
  dropItems stream stream.items
where
  /-- Discards from the items that are left of those of `stream`. -/
  dropItems (stream : TokenStream) :
      List Item → EStateM.Result Failure TokenStream Unit
    | [] => .ok () { stream with items := [] }
    | item :: rest =>
        match item.read? stream.trimming with
        | none => dropItems stream rest
        | some (.error fault) =>
            .error (.parse (.markup fault)) { stream with items := rest }
        | some (.ok token) =>
            if stops token then
              .ok () { stream with items := .token token :: rest }
            else
              dropItems stream rest

/-! ## Tags -/

def nextStartTag (expected : String) : Cursor StartTag :=
  scan expected (fun _ token =>
    match token with
    | .startTag tag => .ok (.done tag)
    | _ => .ok (.again ())) ()

def nextEndTag (expected : String) : Cursor QName :=
  scan expected (fun _ token =>
    match token with
    | .endTag name => .ok (.done name)
    | _ => .ok (.again ())) ()

def peekStartTag : Cursor (Option StartTag) := do
  dropUntil Token.isStartTag
  match ← peek with
  | some (.startTag tag) => return some tag
  | _ => return none

/-- Refuses a name with another local part than the one that has to stand
here. -/
def expectName (name : QName) (localPart : String) : Cursor Unit :=
  if name.localPart = localPart then
    pure ()
  else
    refuse (.unexpectedTag localPart name.localPart)

/-- Consumes the next end tag, which has to have the local name. -/
def expectEndTag (localPart : String) : Cursor Unit := do
  let name ← nextEndTag localPart
  expectName name localPart

/-- Consumes the next start tag, which has to have the local name. -/
def enter (localPart : String) : Cursor StartTag := do
  let tag ← nextStartTag localPart
  expectName tag.name localPart
  return tag

inductive Boundary where
  | opening (tag : StartTag)
  | closing (name : QName)

/-- Discards text and looks at the tag after it, if there is one. -/
def peekBoundary : Cursor (Option Boundary) := do
  dropUntil (!·.isText)
  match ← peek with
  | some (.startTag tag) => return some (.opening tag)
  | some (.endTag name) => return some (.closing name)
  | _ => return none

/-- The start tag of the next child of the element that is being read, or
nothing if its end tag comes first. -/
def peekChild (within : String) : Cursor (Option StartTag) := do
  match ← peekBoundary with
  | some (.opening tag) => return some tag
  | some (.closing _) => return none
  | none => refuse (.streamExhausted within)

/-! ## Text -/

def hasTextAhead : Cursor Bool := do
  match ← peek with
  | some token => return token.isText
  | none => return false

/-- Reads the text up to the next end tag, which is consumed, and trims it.
An element in the text is an error. -/
def elementText (within : String) : Cursor String :=
  scan within (fun text token =>
    match token with
    | .text content => .ok (.again (text ++ content))
    | .endTag _ => .ok (.done (Text.trim text))
    | .startTag tag =>
        .error (.parse (.textOnly within tag.localName))) ""

/-- Reads text that must not be blank, up to the next end tag. -/
def requiredText (within what : String) : Cursor String := do
  if ← hasTextAhead then
    let text ← elementText within
    if text.isEmpty then
      raise (.missingText what)
    else
      return text
  else
    raise (.missingText what)

/-! ## Whole elements -/

/-- Consumes the next element, from its start tag to the end tag that
matches it, with everything before it. -/
def skipElement : Cursor Unit := do
  let _ ← nextStartTag "element"
  scan "end tag" (fun inner token =>
    match token, inner with
    | .startTag _, inner => .ok (.again (inner + 1))
    | .endTag _, 0 => .ok (.done ())
    | .endTag _, inner + 1 => .ok (.again inner)
    | .text _, inner => .ok (.again inner)) 0

/-- An element that is being captured, with the children it has so far, the
last one first. -/
structure Unclosed where
  tag : StartTag
  reversedChildren : List Node

namespace Unclosed

def ofTag (tag : StartTag) : Unclosed :=
  ⟨tag, []⟩

def push (unclosed : Unclosed) (child : Node) : Unclosed :=
  { unclosed with reversedChildren := child :: unclosed.reversedChildren }

def close (unclosed : Unclosed) : Element :=
  unclosed.tag.toElement unclosed.reversedChildren.reverse

end Unclosed

/-- Extends a fragment by one token: the innermost element that is open, with
those around it, the innermost first. -/
def captureStep (maxDepth : Nat) :
    Unclosed × List Unclosed → Token →
      Except Failure (Turn (Unclosed × List Unclosed) Element)
  | (inner, outer), .startTag tag =>
      if maxDepth ≤ outer.length + 1 then
        .error (.fault (.depthExceeded maxDepth))
      else
        .ok (.again (.ofTag tag, inner :: outer))
  | (inner, outer), .text content =>
      .ok (.again (inner.push (.text content), outer))
  | (inner, []), .endTag _ => .ok (.done inner.close)
  | (inner, parent :: outer), .endTag _ =>
      .ok (.again (parent.push inner.close.toNode, outer))

/-- Runs a reader with text reported verbatim, and trimmed again afterwards,
whether it succeeds or fails. -/
def verbatim (reader : Cursor Result) : Cursor Result := fun stream =>
  match reader { stream with verbatim := true } with
  | .ok result rest => .ok result { rest with verbatim := false }
  | .error failure rest => .error failure { rest with verbatim := false }

/-- Captures the next element as a fragment, its text verbatim.  The next
token has to be a start tag, and no element may be nested more deeply than
`maxDepth`, where the element itself is the first level. -/
def captureElement (maxDepth : Nat) : Cursor Element := do
  match ← next with
  | some (.startTag tag) =>
      verbatim (scan "end tag" (captureStep maxDepth) (.ofTag tag, []))
  | some (.endTag name) => refuse (.unexpectedClose name.localPart)
  | some (.text _) => refuse (.unexpectedText "captured fragment")
  | none => refuse (.streamExhausted "element")

/-! ## Repetition -/

/-- Repeats a reading until it is done.  A turn that asks for another one must
have consumed something, so there are no more turns than items. -/
def repeating (turn : State → Cursor (Turn State Result))
    (state : State) : Cursor Result := fun stream =>
  match turn state stream with
  | .error failure rest => .error failure rest
  | .ok (.done result) rest => .ok result rest
  | .ok (.again state) rest =>
      if rest.size < stream.size then
        repeating turn state rest
      else
        .error (.fault .noProgress) rest
termination_by stream => stream.size

end Cursor

end WsTrust
