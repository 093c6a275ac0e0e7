import WsTrust.Proofs.Compositions

/-!
# Programs over a cursor

A program knows its stream only through the steps of a cursor: it looks at the
next token, consumes it, scans tokens, switches how text is reported, and acts
on what it has seen, failures included.  All readers of messages are programs
if the extensions are.
-/

namespace WsTrust

namespace Cursor

/-! ## Programs -/

/-- Readers that are put together from the steps of a cursor. -/
inductive IsProgram : {Result : Type} → Cursor Result → Prop
  | pure {Result : Type} (result : Result) :
      IsProgram (Pure.pure result : Cursor Result)
  | fail {Result : Type} (failure : Failure) :
      IsProgram (throw failure : Cursor Result)
  | bind {Result Other : Type}
      {reader : Cursor Result} {next : Result → Cursor Other}
      (first : IsProgram reader)
      (second : ∀ result, IsProgram (next result)) :
      IsProgram (reader >>= next)
  /-- What a program does about a failure begins where the failure was met. -/
  | recover {Result : Type}
      {reader : Cursor Result} {handler : Failure → Cursor Result}
      (first : IsProgram reader)
      (second : ∀ failure, IsProgram (handler failure)) :
      IsProgram (tryCatch reader handler)
  | next : IsProgram Cursor.next
  | peek : IsProgram Cursor.peek
  | preserveText (verbatim : Bool) : IsProgram (Cursor.preserveText verbatim)
  | scan {State Result : Type} (expected : String)
      (step : State → Token → Except Failure (Turn State Result))
      (state : State) : IsProgram (Cursor.scan expected step state)
  | dropUntil (stops : Token → Bool) : IsProgram (Cursor.dropUntil stops)
  | repeating {State Result : Type}
      {turn : State → Cursor (Turn State Result)}
      (turns : ∀ state, IsProgram (turn state)) (state : State) :
      IsProgram (Cursor.repeating turn state)

namespace IsProgram

variable {Result Other : Type}

theorem map
    {reader : Cursor Result} (program : IsProgram reader)
    (change : Result → Other) :
    IsProgram (change <$> reader) := by
  rw [map_eq_bind]
  exact program.bind fun result => .pure (change result)

theorem raise (error : ParseError) :
    IsProgram (Cursor.raise error : Cursor Result) :=
  .fail (.parse error)

theorem refuse (fault : Fault) :
    IsProgram (Cursor.refuse fault : Cursor Result) :=
  .fail (.fault fault)

/-! ## Tags -/

theorem nextStartTag (expected : String) :
    IsProgram (Cursor.nextStartTag expected) :=
  .scan _ _ _

theorem nextEndTag (expected : String) :
    IsProgram (Cursor.nextEndTag expected) :=
  .scan _ _ _

theorem peekStartTag : IsProgram Cursor.peekStartTag := by
  refine (IsProgram.dropUntil _).bind fun _ => IsProgram.peek.bind fun _ => ?_
  split
  · exact .pure _
  · exact .pure _

theorem peekBoundary : IsProgram Cursor.peekBoundary := by
  refine (IsProgram.dropUntil _).bind fun _ => IsProgram.peek.bind fun _ => ?_
  split
  · exact .pure _
  · exact .pure _
  · exact .pure _

theorem peekChild (within : String) :
    IsProgram (Cursor.peekChild within) := by
  refine peekBoundary.bind fun boundary => ?_
  split
  · exact .pure _
  · exact .pure _
  · exact .refuse _

/-! ## Text -/

theorem hasTextAhead : IsProgram Cursor.hasTextAhead := by
  refine IsProgram.peek.bind fun token => ?_
  split
  · exact .pure _
  · exact .pure _

theorem elementText (within : String) :
    IsProgram (Cursor.elementText within) :=
  .scan _ _ _

theorem requiredText (within what : String) :
    IsProgram (Cursor.requiredText within what) := by
  refine hasTextAhead.bind fun ahead => ?_
  split
  · refine (elementText within).bind fun text => ?_
    split
    · exact .raise _
    · exact .pure text
  · exact .raise _

/-! ## Whole elements -/

theorem skipElement : IsProgram Cursor.skipElement :=
  (nextStartTag "element").bind fun _ => .scan _ _ _

theorem verbatim_eq (reader : Cursor Result) :
    verbatim reader = do
      Cursor.preserveText true
      let result ← tryCatch reader fun failure => do
        Cursor.preserveText false
        throw failure
      Cursor.preserveText false
      return result := by
  funext stream
  have switched :
      Cursor.preserveText true stream =
        .ok () (stream.withVerbatim true) := rfl
  rw [bind_of_ok switched]
  let handler (failure : Failure) : Cursor Result := do
    Cursor.preserveText false
    throw failure
  cases read : reader (stream.withVerbatim true) with
  | ok result rest =>
      have tried :
          tryCatch reader handler (stream.withVerbatim true) =
            .ok result rest := by
        simp only [tryCatch, tryCatchThe, MonadExceptOf.tryCatch,
          EStateM.tryCatch, read]
      rw [bind_of_ok tried, verbatim_of_ok read]
      rfl
  | error failure rest =>
      have tried :
          tryCatch reader handler (stream.withVerbatim true) =
            .error failure (rest.withVerbatim false) := by
        simp only [tryCatch, tryCatchThe, MonadExceptOf.tryCatch,
          EStateM.tryCatch, read]
        rfl
      rw [bind_of_error tried, verbatim_of_error read]

theorem verbatim
    {reader : Cursor Result} (program : IsProgram reader) :
    IsProgram (Cursor.verbatim reader) := by
  rw [verbatim_eq]
  refine (IsProgram.preserveText true).bind fun _ => ?_
  have restored : IsProgram
      (tryCatch reader fun failure => do
        Cursor.preserveText false
        throw failure) :=
    program.recover fun failure =>
      (IsProgram.preserveText false).bind fun _ => .fail failure
  refine restored.bind fun result => ?_
  exact (IsProgram.preserveText false).bind fun _ => .pure result

theorem captureElement (maxDepth : Nat) :
    IsProgram (Cursor.captureElement maxDepth) := by
  refine IsProgram.next.bind fun token => ?_
  split
  · exact verbatim (.scan _ _ _)
  · exact .refuse _
  · exact .refuse _
  · exact .refuse _

theorem closeWith
    (localPart : String) (result : Result) (name : QName) :
    IsProgram (Cursor.closeWith localPart result name) := by
  rw [Cursor.closeWith]
  split
  · exact IsProgram.next.bind fun _ => .pure result
  · exact .refuse _

theorem endsBind
    {reader : Cursor Result} {next : Result → Cursor Other}
    (first : IsProgram reader)
    (second : ∀ result,
      IsProgram (next result) ∨ ∃ other, next result = Pure.pure other) :
    IsProgram (reader >>= next) := by
  refine first.bind fun result => ?_
  rcases second result with program | ⟨other, equality⟩
  · exact program
  · rw [equality]
    exact .pure other

theorem untilEnd
    {next : Option Boundary → Cursor Result}
    (opening : ∀ tag, IsProgram (next (some (.opening tag))))
    (closing : ∃ localPart result, ∀ name,
      next (some (.closing name)) = Cursor.closeWith localPart result name)
    (ended : IsProgram (next none)) :
    IsProgram (Cursor.peekBoundary >>= next) := by
  obtain ⟨localPart, result, closed⟩ := closing
  refine peekBoundary.bind fun boundary => ?_
  rcases boundary with _ | tag | name
  · exact ended
  · exact opening tag
  · rw [closed name]
    exact closeWith localPart result name

/-- Being a program passes to messages. -/
theorem compositional : CompositionalToEnd IsProgram where
  has_of_ends := id
  pure := .pure
  refuse fault _ := refuse fault
  raise := raise
  bind := .bind
  bindEnds := .bind
  endsBind := endsBind
  nextStartTag := nextStartTag
  nextEndTag := nextEndTag
  peekStartTag := peekStartTag
  peekChild := peekChild
  elementText := elementText
  skipElement := skipElement
  captureElement := captureElement
  requiredTextOf expected text := by
    refine (nextStartTag expected).bind fun tag => ?_
    rcases text tag with ⟨fault, refused, _⟩ |
      ⟨within, what, later, equality, finished⟩
    · rw [refused]
      exact refuse fault
    · rw [equality]
      exact (requiredText within what).endsBind finished
  atBoundary opening closing ended := by
    obtain ⟨expected, exhausted⟩ := ended
    refine untilEnd opening closing ?_
    rw [exhausted]
    exact refuse _
  untilEnd := untilEnd
  atTag opening closing texts ended := by
    obtain ⟨localPart, result, closed⟩ := closing
    obtain ⟨fault, refused, _⟩ := texts
    obtain ⟨expected, exhausted⟩ := ended
    refine IsProgram.peek.bind fun token => ?_
    rcases token with _ | tag | name | content
    · rw [exhausted]
      exact refuse _
    · exact opening tag
    · rw [closed name]
      exact closeWith localPart result name
    · rw [refused content]
      exact refuse fault
  searching looks found ended := .repeating fun state =>
    turn_of_look .pure .bind looks (found state) (ended state)
  repeatingEnds := .repeating

end IsProgram

end Cursor

/-! ## Messages -/

def Registry.HasPrograms (registry : Registry) : Prop :=
  ∀ extension ∈ registry.extensions, Cursor.IsProgram extension.read

theorem Registry.standard_hasPrograms : standard.HasPrograms := by
  intro extension member
  rw [List.mem_singleton.mp member]
  have reading := Cursor.IsProgram.compositional.toCompositional.appliesTo
  exact reading.map _

/-- Messages are read by a program if their extensions are. -/
theorem Payload.read_isProgram
    {registry : Registry} (programs : registry.HasPrograms)
    (maxDepth : Nat) :
    Cursor.IsProgram (read registry maxDepth) :=
  Cursor.IsProgram.compositional.readPayload programs maxDepth

end WsTrust
