import WsTrust.Proofs.Programs

/-!
# Looking ahead

A look at the next token pulls what is reported next to the front of the
stream, trimmed or not as text is reported at the time.  It stays there when
the way of reporting changes, so a look could change what a later call sees.
It does not: every call begins by reading one token, before the capture of a
fragment switches to verbatim text, and that token is the one a look has
pulled.
-/

namespace WsTrust

/-! ## What a look leaves behind -/

theorem Item.eq_fault_of_read?
    {trimming : Bool} {item : Item} {cause : Xml.DocumentFault}
    (reported : item.read? trimming = some (.error cause)) :
    item = .fault cause := by
  cases item with
  | token delivered => cases reported
  | fault met =>
      cases reported
      rfl
  | characters content =>
      rw [read?] at reported
      by_cases empty :
          (if trimming then Text.trim content else content).isEmpty
      · simp [empty] at reported
      · simp [empty] at reported

namespace TokenStream

/-- The items with the first report among them pulled to their front. -/
def pullItems (trimming : Bool) : List Item → List Item
  | [] => []
  | item :: rest =>
      match item.read? trimming with
      | none => pullItems trimming rest
      | some (.ok token) => .token token :: rest
      | some (.error fault) => .fault fault :: rest

def lookedAt (stream : TokenStream) : TokenStream :=
  { stream with items := pullItems stream.trimming stream.items }

@[simp]
theorem trimming_lookedAt (stream : TokenStream) :
    stream.lookedAt.trimming = stream.trimming := rfl

@[simp]
theorem items_lookedAt (stream : TokenStream) :
    stream.lookedAt.items = pullItems stream.trimming stream.items := rfl

theorem pullItems_of_unreported
    {trimming : Bool} {item : Item}
    (unreported : item.read? trimming = none) (rest : List Item) :
    pullItems trimming (item :: rest) = pullItems trimming rest := by
  simp only [pullItems, unreported]

/-- The item that is pulled reports what stood in its place. -/
theorem pullItems_of_reported
    {trimming : Bool} {item : Item}
    (reported : item.read? trimming ≠ none) (rest : List Item) :
    ∃ pulled : Item,
      pullItems trimming (item :: rest) = pulled :: rest ∧
        pulled.read? trimming = item.read? trimming := by
  rcases read : item.read? trimming with _ | fault | token
  · exact absurd read reported
  · refine ⟨.fault fault, ?_, rfl⟩
    simp only [pullItems, read]
  · refine ⟨.token token, ?_, rfl⟩
    simp only [pullItems, read]

end TokenStream

/-! ## Readers that a look does not disturb -/

namespace Cursor

variable {Result Other State : Type}

/-- The reader does the same whether or not its stream has been looked at:
the results are equal, and so are the streams it stops at. -/
def Undisturbed (reader : Cursor Result) : Prop :=
  ∀ stream : TokenStream, reader stream.lookedAt = reader stream

/-- What is reported first is one of the items, and those after it are left. -/
theorem exists_of_firstReport?
    {trimming : Bool} {items rest : List Item}
    {report : Except Xml.DocumentFault Token}
    (found : firstReport? trimming items = some (report, rest)) :
    ∃ item : Item,
      item.read? trimming = some report ∧ item :: rest <:+ items := by
  induction items with
  | nil => cases found
  | cons item later inductionHypothesis =>
      rw [firstReport?] at found
      cases read : item.read? trimming with
      | none =>
          rw [read] at found
          obtain ⟨first, reported, suffix⟩ := inductionHypothesis found
          exact ⟨first, reported, suffix.trans (List.suffix_cons item later)⟩
      | some first =>
          rw [read] at found
          cases found
          exact ⟨item, read, List.suffix_refl _⟩

theorem firstReport?_suffix
    {trimming : Bool} {items rest : List Item}
    {report : Except Xml.DocumentFault Token}
    (found : firstReport? trimming items = some (report, rest)) :
    rest <:+ items := by
  obtain ⟨item, _, suffix⟩ := exists_of_firstReport? found
  exact (List.suffix_cons item rest).trans suffix

theorem firstReport?_pullItems (trimming : Bool) (items : List Item) :
    firstReport? trimming (TokenStream.pullItems trimming items) =
      firstReport? trimming items := by
  induction items with
  | nil => rfl
  | cons item rest inductionHypothesis =>
      by_cases unreported : item.read? trimming = none
      · rw [TokenStream.pullItems_of_unreported unreported,
          inductionHypothesis]
        simp only [firstReport?, unreported]
      · obtain ⟨pulled, equality, same⟩ :=
          TokenStream.pullItems_of_reported unreported rest
        rw [equality]
        simp only [firstReport?, same]

theorem pullItems_eq (trimming : Bool) (items : List Item) :
    TokenStream.pullItems trimming items =
      match firstReport? trimming items with
      | some (.ok token, rest) => .token token :: rest
      | some (.error fault, rest) => .fault fault :: rest
      | none => [] := by
  induction items with
  | nil => rfl
  | cons item rest inductionHypothesis =>
      rw [TokenStream.pullItems, firstReport?]
      rcases read : item.read? trimming with _ | fault | token
      · exact inductionHypothesis
      · rfl
      · rfl

/-- A look that succeeds only pulls the next token to the front. -/
theorem lookedAt_of_peek
    {stream stop : TokenStream} {found : Option Token}
    (looked : peek stream = .ok found stop) :
    stop = stream.lookedAt := by
  rw [peek] at looked
  rw [TokenStream.lookedAt, pullItems_eq]
  rcases reported : firstReport? stream.trimming stream.items with
    _ | ⟨fault | token, rest⟩
  · rw [reported] at looked
    cases looked
    rfl
  · rw [reported] at looked
    cases looked
  · rw [reported] at looked
    cases looked
    rfl

/-- A look fails only at a fault. -/
theorem exists_fault_of_peek
    {stream stop : TokenStream} {failure : Failure}
    (looked : peek stream = .error failure stop) :
    ∃ cause : Xml.DocumentFault, Item.fault cause ∈ stream.items := by
  rw [peek] at looked
  rcases reported : firstReport? stream.trimming stream.items with
    _ | ⟨fault | token, rest⟩
  · rw [reported] at looked
    cases looked
  · obtain ⟨item, read, suffix⟩ := exists_of_firstReport? reported
    rw [Item.eq_fault_of_read? read] at suffix
    exact ⟨fault, suffix.subset List.mem_cons_self⟩
  · rw [reported] at looked
    cases looked

/-- Of the stream that it reads from, discarding uses only the way characters
are reported. -/
theorem dropItems_withItems
    (stops : Token → Bool) (stream : TokenStream)
    (others items : List Item) :
    dropUntil.dropItems stops { stream with items := others } items =
      dropUntil.dropItems stops stream items := by
  have sameTrimming :
      ({ stream with items := others } : TokenStream).trimming =
        stream.trimming := rfl
  induction items with
  | nil => rfl
  | cons item rest inductionHypothesis =>
      simp only [dropUntil.dropItems, sameTrimming, inductionHypothesis]

namespace Undisturbed

/-- Only what a reader does first can tell whether its stream was looked
at. -/
theorem bind
    {reader : Cursor Result} (first : Undisturbed reader)
    (next : Result → Cursor Other) :
    Undisturbed (reader >>= next) := by
  intro stream
  have same := first stream
  cases read : reader stream with
  | ok result stop =>
      rw [read] at same
      rw [bind_of_ok read, bind_of_ok same]
  | error failure stop =>
      rw [read] at same
      rw [bind_of_error read, bind_of_error same]

theorem map
    {reader : Cursor Result} (first : Undisturbed reader)
    (change : Result → Other) :
    Undisturbed (change <$> reader) := by
  rw [map_eq_bind]
  exact first.bind fun result => pure (change result)

theorem next : Undisturbed Cursor.next := by
  intro stream
  have same := firstReport?_pullItems stream.trimming stream.items
  simp only [Cursor.next, TokenStream.trimming_lookedAt,
    TokenStream.items_lookedAt, same]
  rfl

theorem peek : Undisturbed Cursor.peek := by
  intro stream
  have same := firstReport?_pullItems stream.trimming stream.items
  simp only [Cursor.peek, TokenStream.trimming_lookedAt,
    TokenStream.items_lookedAt, same]
  rfl

theorem scan
    (expected : String)
    (step : State → Token → Except Failure (Turn State Result))
    (state : State) : Undisturbed (Cursor.scan expected step state) := by
  intro stream
  have scanned (items : List Item) :
      scan.scanItems expected step stream
          (TokenStream.pullItems stream.trimming items) state =
        scan.scanItems expected step stream items state := by
    induction items with
    | nil => rfl
    | cons item rest inductionHypothesis =>
        by_cases unreported : item.read? stream.trimming = none
        · rw [TokenStream.pullItems_of_unreported unreported,
            inductionHypothesis]
          simp only [scan.scanItems, unreported]
        · obtain ⟨pulled, equality, same⟩ :=
            TokenStream.pullItems_of_reported unreported rest
          rw [equality]
          simp only [scan.scanItems, same]
  have other :
      scan.scanItems expected step stream.lookedAt
          stream.lookedAt.items state =
        scan.scanItems expected step stream stream.lookedAt.items state :=
    scanItems_withItems stream expected step _ _ state
  exact other.trans (scanned stream.items)

theorem dropUntil (stops : Token → Bool) :
    Undisturbed (Cursor.dropUntil stops) := by
  intro stream
  have dropped (items : List Item) :
      dropUntil.dropItems stops stream
          (TokenStream.pullItems stream.trimming items) =
        dropUntil.dropItems stops stream items := by
    induction items with
    | nil => rfl
    | cons item rest inductionHypothesis =>
        by_cases unreported : item.read? stream.trimming = none
        · rw [TokenStream.pullItems_of_unreported unreported,
            inductionHypothesis]
          simp only [dropUntil.dropItems, unreported]
        · obtain ⟨pulled, equality, same⟩ :=
            TokenStream.pullItems_of_reported unreported rest
          rw [equality]
          simp only [dropUntil.dropItems, same]
  exact (dropItems_withItems stops stream _ _).trans (dropped stream.items)

theorem captureElement (maxDepth : Nat) :
    Undisturbed (Cursor.captureElement maxDepth) :=
  next.bind _

end Undisturbed

/-! ## Faults are not made by reading -/

/-- Every fault among the items that the reader leaves, whether it succeeds or
fails, was among those it was given. -/
def FindsFaults (reader : Cursor Result) : Prop :=
  ∀ (stream : TokenStream) (cause : Xml.DocumentFault),
    Item.fault cause ∈ (stopOf (reader stream)).items →
      Item.fault cause ∈ stream.items

namespace FindsFaults

theorem pure (result : Result) :
    FindsFaults (Pure.pure result : Cursor Result) :=
  fun _ _ member => member

theorem fail (failure : Failure) :
    FindsFaults (throw failure : Cursor Result) :=
  fun _ _ member => member

theorem bind
    {reader : Cursor Result} {next : Result → Cursor Other}
    (first : FindsFaults reader)
    (second : ∀ result, FindsFaults (next result)) :
    FindsFaults (reader >>= next) := by
  intro stream cause member
  have before := first stream cause
  cases read : reader stream with
  | ok result stop =>
      rw [read] at before
      rw [bind_of_ok read] at member
      exact before (second result stop cause member)
  | error failure stop =>
      rw [read] at before
      rw [bind_of_error read] at member
      exact before member

theorem recover
    {reader : Cursor Result} {handler : Failure → Cursor Result}
    (first : FindsFaults reader)
    (second : ∀ failure, FindsFaults (handler failure)) :
    FindsFaults (tryCatch reader handler) := by
  intro stream cause member
  have before := first stream cause
  simp only [tryCatch, tryCatchThe, MonadExceptOf.tryCatch,
    EStateM.tryCatch] at member
  generalize reader stream = ended at before member
  cases ended with
  | ok result stop => exact before member
  | error failure stop =>
      exact before (second failure stop cause member)

theorem next : FindsFaults Cursor.next := by
  intro stream cause member
  rw [Cursor.next] at member
  rcases found : firstReport? stream.trimming stream.items with
    _ | ⟨fault | token, rest⟩
  · rw [found] at member
    cases member
  · rw [found] at member
    exact (firstReport?_suffix found).subset member
  · rw [found] at member
    exact (firstReport?_suffix found).subset member

theorem peek : FindsFaults Cursor.peek := by
  intro stream cause member
  rw [Cursor.peek] at member
  rcases found : firstReport? stream.trimming stream.items with
    _ | ⟨fault | token, rest⟩
  · rw [found] at member
    cases member
  · rw [found] at member
    exact (firstReport?_suffix found).subset member
  · rw [found] at member
    rcases List.mem_cons.mp member with impossible | later
    · cases impossible
    · exact (firstReport?_suffix found).subset later

theorem preserveText (verbatim : Bool) :
    FindsFaults (Cursor.preserveText verbatim) :=
  fun _ _ member => member

theorem scan
    (expected : String)
    (step : State → Token → Except Failure (Turn State Result))
    (state : State) : FindsFaults (Cursor.scan expected step state) := by
  intro stream cause
  have scanned (items : List Item) (state : State) :
      Item.fault cause ∈
          (stopOf (scan.scanItems expected step stream items state)).items →
        Item.fault cause ∈ items := by
    induction items generalizing state with
    | nil => exact id
    | cons item rest inductionHypothesis =>
        intro member
        apply List.mem_cons_of_mem
        rw [scan.scanItems] at member
        rcases read : item.read? stream.trimming with _ | fault | token
        · rw [read] at member
          exact inductionHypothesis state member
        · rw [read] at member
          exact member
        · rw [read] at member
          simp only at member
          rcases decided : step state token with failure | later | result
          · rw [decided] at member
            exact member
          · rw [decided] at member
            exact inductionHypothesis later member
          · rw [decided] at member
            exact member
  exact scanned stream.items state

theorem dropUntil (stops : Token → Bool) :
    FindsFaults (Cursor.dropUntil stops) := by
  intro stream cause
  have dropped (items : List Item) :
      Item.fault cause ∈
          (stopOf (dropUntil.dropItems stops stream items)).items →
        Item.fault cause ∈ items := by
    induction items with
    | nil => exact id
    | cons item rest inductionHypothesis =>
        intro member
        apply List.mem_cons_of_mem
        rw [dropUntil.dropItems] at member
        rcases read : item.read? stream.trimming with _ | fault | token
        · rw [read] at member
          exact inductionHypothesis member
        · rw [read] at member
          exact member
        · rw [read] at member
          simp only at member
          by_cases stop : stops token
          · rw [if_pos stop] at member
            rcases List.mem_cons.mp member with impossible | later
            · cases impossible
            · exact later
          · rw [if_neg stop] at member
            exact inductionHypothesis member
  exact dropped stream.items

theorem repeating
    {turn : State → Cursor (Turn State Result)}
    (turns : ∀ state, FindsFaults (turn state)) (state : State) :
    FindsFaults (Cursor.repeating turn state) := by
  intro stream cause member
  induction bound : stream.size using Nat.strongRecOn
    generalizing state stream with
  | _ size inductionHypothesis =>
      subst bound
      have before := turns state stream cause
      rw [Cursor.repeating] at member
      rcases turned : turn state stream with
        ⟨later | result, stop⟩ | ⟨failure, stop⟩
      · rw [turned] at before member
        simp only at member
        by_cases smaller : stop.size < stream.size
        · rw [if_pos smaller] at member
          exact before
            (inductionHypothesis _ smaller later stop member rfl)
        · rw [if_neg smaller] at member
          exact before member
      · rw [turned] at before member
        exact before member
      · rw [turned] at before member
        exact before member

end FindsFaults

theorem IsProgram.findsFaults
    {reader : Cursor Result} (program : IsProgram reader) :
    FindsFaults reader := by
  induction program with
  | pure result => exact FindsFaults.pure result
  | fail failure => exact FindsFaults.fail failure
  | bind _ _ first second => exact first.bind second
  | recover _ _ first second => exact first.recover second
  | next => exact FindsFaults.next
  | peek => exact FindsFaults.peek
  | preserveText verbatim => exact FindsFaults.preserveText verbatim
  | scan expected step state => exact FindsFaults.scan expected step state
  | dropUntil stops => exact FindsFaults.dropUntil stops
  | repeating _ state turns => exact FindsFaults.repeating turns state

end Cursor

namespace TokenStream

/-- No fault is met in the stream. -/
def Faultless (stream : TokenStream) : Prop :=
  ∀ cause : Xml.DocumentFault, Item.fault cause ∉ stream.items

theorem fault_notMem_of_deliver
    {trimming : Bool} {items : List Item}
    (unfailing : (deliver trimming items).fault = none)
    (cause : Xml.DocumentFault) : Item.fault cause ∉ items := by
  induction items with
  | nil => exact List.not_mem_nil
  | cons item rest inductionHypothesis =>
      rw [List.mem_cons, not_or]
      rw [deliver] at unfailing
      rcases read : item.read? trimming with _ | fault | token
      · rw [read] at unfailing
        refine ⟨?_, inductionHypothesis unfailing⟩
        rintro rfl
        cases read
      · rw [read] at unfailing
        cases unfailing
      · rw [read] at unfailing
        refine ⟨?_, inductionHypothesis unfailing⟩
        rintro rfl
        cases read

/-- A stream that delivers its tokens without a fault holds none. -/
theorem faultless_of_tokens
    {stream : TokenStream} (unfailing : stream.tokens.fault = none) :
    stream.Faultless :=
  fault_notMem_of_deliver unfailing

end TokenStream

namespace Cursor

/-- A look at a stream without faults succeeds and only pulls the next token
to its front. -/
theorem peek_of_faultless
    {stream : TokenStream} (faultless : stream.Faultless) :
    ∃ found, peek stream = .ok found stream.lookedAt := by
  cases looked : peek stream with
  | ok found stop =>
      rw [lookedAt_of_peek looked]
      exact ⟨found, rfl⟩
  | error failure stop =>
      obtain ⟨cause, member⟩ := exists_fault_of_peek looked
      exact absurd member (faultless cause)

theorem hasTextAhead_of_faultless
    {stream : TokenStream} (faultless : stream.Faultless) :
    ∃ ahead, hasTextAhead stream = .ok ahead stream.lookedAt := by
  obtain ⟨found, looked⟩ := peek_of_faultless faultless
  rw [hasTextAhead, bind_of_ok looked]
  cases found with
  | none => exact ⟨false, rfl⟩
  | some token => exact ⟨token.isText, rfl⟩

/-! ## Calls, one after another -/

/-- A call of a cursor's method. -/
inductive Call where
  | peekToken
  | hasTextAhead
  | nextToken
  | nextStartTag (expected : String)
  | peekStartTag
  | nextEndTag (expected : String)
  | expectEndTag (localPart : String)
  | elementText (within : String)
  | skipElement
  | captureElement (maxDepth : Nat)
  deriving DecidableEq, Repr

inductive Answer where
  | nothing
  | ahead (isText : Bool)
  | token (found : Option Token)
  | startTag (tag : StartTag)
  | startTagAhead (found : Option StartTag)
  | endTag (name : QName)
  | text (content : String)
  | element (captured : Element)

namespace Call

def run : Call → Cursor Answer
  | .peekToken => .token <$> peek
  | .hasTextAhead => .ahead <$> Cursor.hasTextAhead
  | .nextToken => .token <$> next
  | .nextStartTag expected => .startTag <$> Cursor.nextStartTag expected
  | .peekStartTag => .startTagAhead <$> Cursor.peekStartTag
  | .nextEndTag expected => .endTag <$> Cursor.nextEndTag expected
  | .expectEndTag localPart =>
      (fun _ => .nothing) <$> Cursor.expectEndTag localPart
  | .elementText within => .text <$> Cursor.elementText within
  | .skipElement => (fun _ => .nothing) <$> Cursor.skipElement
  | .captureElement maxDepth =>
      .element <$> Cursor.captureElement maxDepth

/-- The calls that only look at the next token. -/
def isLook : Call → Bool
  | .peekToken | .hasTextAhead => true
  | _ => false

theorem isProgram (call : Call) : IsProgram call.run := by
  cases call with
  | peekToken => exact IsProgram.peek.map _
  | hasTextAhead => exact IsProgram.hasTextAhead.map _
  | nextToken => exact IsProgram.next.map _
  | nextStartTag expected => exact (IsProgram.nextStartTag expected).map _
  | peekStartTag => exact IsProgram.peekStartTag.map _
  | nextEndTag expected => exact (IsProgram.nextEndTag expected).map _
  | expectEndTag localPart =>
      have composes := IsProgram.compositional.toCompositional
      exact (composes.expectEndTag localPart).map _
  | elementText within => exact (IsProgram.elementText within).map _
  | skipElement => exact IsProgram.skipElement.map _
  | captureElement maxDepth =>
      exact (IsProgram.captureElement maxDepth).map _

/-- No call can tell whether the stream was looked at before. -/
theorem undisturbed (call : Call) : Undisturbed call.run := by
  cases call with
  | peekToken => exact Undisturbed.peek.map _
  | hasTextAhead => exact (Undisturbed.peek.bind _).map _
  | nextToken => exact Undisturbed.next.map _
  | nextStartTag expected => exact (Undisturbed.scan _ _ _).map _
  | peekStartTag => exact ((Undisturbed.dropUntil _).bind _).map _
  | nextEndTag expected => exact (Undisturbed.scan _ _ _).map _
  | expectEndTag localPart => exact ((Undisturbed.scan _ _ _).bind _).map _
  | elementText within => exact (Undisturbed.scan _ _ _).map _
  | skipElement => exact ((Undisturbed.scan _ _ _).bind _).map _
  | captureElement maxDepth =>
      exact (Undisturbed.captureElement maxDepth).map _

theorem run_of_isLook
    {call : Call} (look : call.isLook = true)
    {stream : TokenStream} (faultless : stream.Faultless) :
    ∃ answer, call.run stream = .ok answer stream.lookedAt := by
  cases call with
  | peekToken =>
      obtain ⟨found, looked⟩ := peek_of_faultless faultless
      refine ⟨.token found, ?_⟩
      rw [run, map_eq_bind, bind_of_ok looked]
      rfl
  | hasTextAhead =>
      obtain ⟨ahead, looked⟩ := hasTextAhead_of_faultless faultless
      refine ⟨.ahead ahead, ?_⟩
      rw [run, map_eq_bind, bind_of_ok looked]
      rfl
  | _ => cases look

end Call

/-- What is left of a stream without faults has none either. -/
theorem Call.faultless_stop
    (call : Call) {stream : TokenStream} (faultless : stream.Faultless) :
    (stopOf (call.run stream)).Faultless := by
  intro cause member
  have found := call.isProgram.findsFaults stream cause member
  exact faultless cause found

/-- A call in a sequence of calls, which may be left out if it is only a
look. -/
structure Step where
  call : Call
  omitted : Bool
  isLook_of_omitted : omitted = true → call.isLook = true

/-- The answer that a run gives, without the stream it stopped at. -/
def answerOf :
    EStateM.Result Failure TokenStream Answer → Except Failure Answer
  | .ok answer _ => .ok answer
  | .error failure _ => .error failure

/-- What the steps are answered, one after another.  Also after a failure the
next step goes on from where the last one stopped. -/
def answers :
    List Step → TokenStream → List (Step × Except Failure Answer)
  | [], _ => []
  | step :: later, stream =>
      let ended := step.call.run stream
      (step, answerOf ended) :: answers later (stopOf ended)

/-- Nor can a sequence of calls tell whether the stream was looked at
before. -/
theorem answers_lookedAt (steps : List Step) (stream : TokenStream) :
    answers steps stream.lookedAt = answers steps stream := by
  cases steps with
  | nil => rfl
  | cons step later => rw [answers, answers, step.call.undisturbed stream]

/-- On a stream without faults, looks can be left out without changing the
answer to any other step. -/
theorem answers_filter
    (steps : List Step) {stream : TokenStream}
    (faultless : stream.Faultless) :
    answers (steps.filter fun step => !step.omitted) stream =
      (answers steps stream).filter fun answered => !answered.1.omitted := by
  induction steps generalizing stream with
  | nil => rfl
  | cons step later inductionHypothesis =>
      have others :=
        inductionHypothesis (step.call.faultless_stop faultless)
      by_cases omitted : step.omitted
      · obtain ⟨answer, looked⟩ :=
          Call.run_of_isLook (step.isLook_of_omitted omitted) faultless
        have stopped : stopOf (step.call.run stream) = stream.lookedAt := by
          rw [looked, stopOf]
        rw [stopped, answers_lookedAt] at others
        rw [List.filter_cons_of_neg (by simp [omitted]), others, answers,
          List.filter_cons_of_neg (by simp [omitted]), stopped]
      · rw [List.filter_cons_of_pos (by simp [omitted]), answers, others,
          answers, List.filter_cons_of_pos (by simp [omitted])]

/-- On a document that is read to its end without a fault, with its text
trimmed or not, calls that only look can be left out of any sequence of calls,
some or all of them, and every other call is answered as before. -/
theorem looks_are_transparent
    {trimText : Bool} {text : String}
    (tokenized : (TokenStream.ofXml trimText text).tokens.fault = none)
    (steps : List Step) :
    answers (steps.filter fun step => !step.omitted)
        (.ofXml trimText text) =
      (answers steps (.ofXml trimText text)).filter
        fun answered => !answered.1.omitted :=
  answers_filter steps (TokenStream.faultless_of_tokens tokenized)

/-- A look at the blank in front of an element, and one at the blank behind
its start tag, before and after a capture that fails. -/
def lookingSteps : List Step :=
  [⟨.hasTextAhead, true, fun _ => rfl⟩,
    ⟨.nextStartTag "a", false, nofun⟩,
    ⟨.peekToken, true, fun _ => rfl⟩,
    ⟨.captureElement 1, false, nofun⟩,
    ⟨.peekToken, true, fun _ => rfl⟩,
    ⟨.elementText "c", false, nofun⟩]

theorem looks_are_transparent_around_a_capture :
    (TokenStream.ofXml true " <a> <b> <c> x </c></b></a>").tokens.fault =
        none ∧
      answers (lookingSteps.filter fun step => !step.omitted)
          (.ofXml true " <a> <b> <c> x </c></b></a>") =
        (answers lookingSteps
          (.ofXml true " <a> <b> <c> x </c></b></a>")).filter
            fun answered => !answered.1.omitted := by
  have tokenized :
      (TokenStream.ofXml true " <a> <b> <c> x </c></b></a>").tokens.fault =
        none := by
    decide +kernel
  exact ⟨tokenized, looks_are_transparent tokenized lookingSteps⟩

end Cursor

end WsTrust
