import WsTrust.Proofs.Correspondence
import WsTrust.Proofs.Tags
import WsTrust.Proofs.Texts

/-!
# Texts in chunks

A text may be delivered in one piece or in several chunks, of which some may be
empty or blank.  What a reader makes of tokens does not depend on it: on tokens
with their texts divided into chunks it consumes the chunks of what it would
have consumed before, with a related result, or it fails for the same reason.
-/

namespace WsTrust

/-! ## Tokens in chunks -/

/-- The second tokens are the first ones with each text divided into one or more
chunks, which give it when they are joined. -/
inductive Token.Chunked : List Token → List Token → Prop
  | nil : Chunked [] []
  | tag {token : Token} {tokens chunked : List Token}
      (isTag : token.isText = false) (rest : Chunked tokens chunked) :
      Chunked (token :: tokens) (token :: chunked)
  | text (first : String) (others : List String)
      {tokens chunked : List Token} (rest : Chunked tokens chunked) :
      Chunked (.text (String.join (first :: others)) :: tokens)
        ((first :: others).map .text ++ chunked)

namespace Token.Chunked

variable {tokens chunked others othersChunked : List Token}

theorem append
    (first : Chunked tokens chunked) (second : Chunked others othersChunked) :
    Chunked (tokens ++ others) (chunked ++ othersChunked) := by
  induction first with
  | nil => exact second
  | tag isTag _ inductionHypothesis => exact .tag isTag inductionHypothesis
  | text first others _ inductionHypothesis =>
      rw [List.append_assoc]
      exact .text first others inductionHypothesis

/-- Chunks neither come from nothing nor vanish. -/
theorem eq_nil_iff (divided : Chunked tokens chunked) :
    tokens = [] ↔ chunked = [] := by
  cases divided with
  | nil => exact Iff.rfl
  | tag _ _ => simp
  | text first others _ => simp

section Passing

variable {passes : Token → Bool}
  (texts : ∀ content, passes (.text content) = true)

include texts

theorem all_pass (chunks : List String) :
    ∀ token ∈ chunks.map Token.text, passes token = true := by
  intro token member
  obtain ⟨content, _, rfl⟩ := List.mem_map.mp member
  exact texts content

theorem takeWhile (divided : Chunked tokens chunked) :
    Chunked (tokens.takeWhile passes) (chunked.takeWhile passes) := by
  induction divided with
  | nil => exact .nil
  | @tag token _ _ isTag _ inductionHypothesis =>
      rw [List.takeWhile_cons, List.takeWhile_cons]
      cases passes token with
      | true => exact .tag isTag inductionHypothesis
      | false => exact .nil
  | text first others _ inductionHypothesis =>
      rw [List.takeWhile_cons_of_pos (texts _),
        List.takeWhile_append_of_pos (all_pass texts (first :: others))]
      exact .text first others inductionHypothesis

theorem dropWhile (divided : Chunked tokens chunked) :
    Chunked (tokens.dropWhile passes) (chunked.dropWhile passes) := by
  induction divided with
  | nil => exact .nil
  | @tag token _ _ isTag rest inductionHypothesis =>
      rw [List.dropWhile_cons, List.dropWhile_cons]
      cases passes token with
      | true => exact inductionHypothesis
      | false => exact .tag isTag rest
  | text first others _ inductionHypothesis =>
      rw [List.dropWhile_cons_of_pos (texts _),
        List.dropWhile_append_of_pos (all_pass texts (first :: others))]
      exact inductionHypothesis

end Passing

end Token.Chunked

namespace Cursor

open Token (Chunked)

/-! ## Readings that end alike -/

/-- Either reading has consumed some of its tokens, those of the second being
the chunks of those of the first, with related results; or both have failed for
the same reason. -/
inductive ChunkedEnds {Left Right : Type} (related : Left → Right → Prop)
    (tokens chunked : List Token) :
    EStateM.Result Failure TokenStream Left →
      EStateM.Result Failure TokenStream Right → Prop
  | ok {result : Left} {other : Right}
      {consumed unread consumedChunks unreadChunks : List Token}
      {stop otherStop : TokenStream}
      (results : related result other)
      (split : tokens = consumed ++ unread)
      (splitChunks : chunked = consumedChunks ++ unreadChunks)
      (consumes : Chunked consumed consumedChunks)
      (leaves : Chunked unread unreadChunks)
      (holds : stop.Holds unread) (holdsChunks : otherStop.Holds unreadChunks) :
      ChunkedEnds related tokens chunked (.ok result stop) (.ok other otherStop)
  | error (failure : Failure) {stop otherStop : TokenStream} :
      ChunkedEnds related tokens chunked (.error failure stop)
        (.error failure otherStop)

/-- On tokens and on their chunks the two readers end alike. -/
def OverlooksChunks {Left Right : Type} (related : Left → Right → Prop)
    (left : Cursor Left) (right : Cursor Right) : Prop :=
  ∀ ⦃tokens chunked : List Token⦄, Chunked tokens chunked →
    ∀ stream other : TokenStream,
      ChunkedEnds related tokens chunked (left (stream.withTokens tokens))
        (right (other.withTokens chunked))

/-- Where this token comes next, the two readers end alike on what follows it
and on the chunks of that. -/
def OverlooksChunksAt (token : Token) {Left Right : Type}
    (related : Left → Right → Prop)
    (left : Cursor Left) (right : Cursor Right) : Prop :=
  ∀ ⦃tokens chunked : List Token⦄, Chunked tokens chunked →
    ∀ stream other : TokenStream,
      ChunkedEnds related (token :: tokens) (token :: chunked)
        (left (stream.withTokens (token :: tokens)))
        (right (other.withTokens (token :: chunked)))

variable {Left Right : Type} {related : Left → Right → Prop}

/-- Readings that end alike where others have stopped end alike as a whole. -/
theorem ChunkedEnds.after
    {tokens chunked consumed unread consumedChunks unreadChunks : List Token}
    {left : EStateM.Result Failure TokenStream Left}
    {right : EStateM.Result Failure TokenStream Right}
    (ended : ChunkedEnds related unread unreadChunks left right)
    (consumes : Chunked consumed consumedChunks)
    (split : tokens = consumed ++ unread)
    (splitChunks : chunked = consumedChunks ++ unreadChunks) :
    ChunkedEnds related tokens chunked left right := by
  cases ended with
  | error failure => exact .error failure
  | ok results later laterChunks consumesLater leaves holds holdsChunks =>
      refine .ok results ?_ ?_ (consumes.append consumesLater) leaves holds
        holdsChunks
      · rw [split, later, List.append_assoc]
      · rw [splitChunks, laterChunks, List.append_assoc]

/-- A reading that stops where it began. -/
theorem ChunkedEnds.here
    {tokens chunked : List Token} (divided : Chunked tokens chunked)
    {result : Left} {other : Right} (results : related result other)
    (stream otherStream : TokenStream) :
    ChunkedEnds related tokens chunked (.ok result (stream.withTokens tokens))
      (.ok other (otherStream.withTokens chunked)) :=
  .ok results (List.nil_append tokens).symm (List.nil_append chunked).symm
    .nil divided rfl rfl

namespace OverlooksChunks

theorem pure
    {left : Left} {right : Right} (results : related left right) :
    OverlooksChunks related (Pure.pure left) (Pure.pure right) :=
  fun _ _ divided stream other => .here divided results stream other

theorem refuse (related : Left → Right → Prop) (fault : Fault) :
    OverlooksChunks related (Cursor.refuse fault) (Cursor.refuse fault) :=
  fun _ _ _ _ _ => .error (.fault fault)

theorem raise (related : Left → Right → Prop) (error : ParseError) :
    OverlooksChunks related (Cursor.raise error) (Cursor.raise error) :=
  fun _ _ _ _ _ => .error (.parse error)

theorem bind
    {LeftNext RightNext : Type} {relatedNext : LeftNext → RightNext → Prop}
    {left : Cursor Left} {right : Cursor Right}
    {leftNext : Left → Cursor LeftNext}
    {rightNext : Right → Cursor RightNext}
    (first : OverlooksChunks related left right)
    (second : ∀ leftResult rightResult, related leftResult rightResult →
      OverlooksChunks relatedNext (leftNext leftResult)
        (rightNext rightResult)) :
    OverlooksChunks relatedNext (left >>= leftNext)
      (right >>= rightNext) := by
  intro tokens chunked divided stream other
  have ended := first divided stream other
  generalize leftRead : left (stream.withTokens tokens) = leftEnd,
    rightRead : right (other.withTokens chunked) = rightEnd at ended
  cases ended with
  | error failure =>
      rw [bind_of_error leftRead, bind_of_error rightRead]
      exact .error failure
  | @ok _ _ _ _ _ _ stop otherStop results split splitChunks consumes leaves
      holds holdsChunks =>
      rw [bind_of_ok leftRead, bind_of_ok rightRead, holds.eq_withTokens,
        holdsChunks.eq_withTokens]
      exact (second _ _ results leaves stop otherStop).after consumes split
        splitChunks

/-- After equal results, what follows goes on from one result. -/
theorem bind_eq
    {LeftNext RightNext : Type} {relatedNext : LeftNext → RightNext → Prop}
    {left right : Cursor Left}
    {leftNext : Left → Cursor LeftNext} {rightNext : Left → Cursor RightNext}
    (first : OverlooksChunks Eq left right)
    (second : ∀ result,
      OverlooksChunks relatedNext (leftNext result) (rightNext result)) :
    OverlooksChunks relatedNext (left >>= leftNext)
      (right >>= rightNext) := by
  refine first.bind fun result other same => ?_
  subst same
  exact second result

end OverlooksChunks

/-! ## Looking ahead -/

/-- Tokens that are alike at first sight: one tag, or a text either. -/
inductive LooksAlike : Token → Token → Prop
  | tag {token : Token} (isTag : token.isText = false) : LooksAlike token token
  | text (content other : String) :
      LooksAlike (.text content) (.text other)

theorem peek_overlooksChunks :
    OverlooksChunks (Option.Rel LooksAlike) peek peek := by
  intro tokens chunked divided stream other
  have whole := divided
  cases divided with
  | nil => exact .here whole .none stream other
  | tag isTag _ => exact .here whole (.some (.tag isTag)) stream other
  | text first others _ =>
      exact .here whole (.some (.text _ first)) stream other

theorem hasTextAhead_overlooksChunks :
    OverlooksChunks Eq hasTextAhead hasTextAhead := by
  refine peek_overlooksChunks.bind fun seen other alike => ?_
  rcases alike with looks | _
  · cases looks with
    | tag isTag => exact .pure rfl
    | text content other => exact .pure rfl
  · exact .pure rfl

/-- Where texts are dropped, their chunks are. -/
theorem dropUntil_overlooksChunks
    {stops : Token → Bool} (texts : ∀ content, stops (.text content) = false) :
    OverlooksChunks Eq (dropUntil stops) (dropUntil stops) := by
  intro tokens chunked divided stream other
  have passing (content : String) : (!stops (.text content)) = true := by
    rw [texts content, Bool.not_false]
  rw [dropUntil_withTokens, dropUntil_withTokens]
  exact .ok rfl List.takeWhile_append_dropWhile.symm
    List.takeWhile_append_dropWhile.symm (divided.takeWhile passing)
    (divided.dropWhile passing) rfl rfl

theorem peekStartTag_overlooksChunks :
    OverlooksChunks (Option.Rel Eq) peekStartTag peekStartTag := by
  refine (dropUntil_overlooksChunks fun _ => rfl).bind_eq fun _ => ?_
  refine peek_overlooksChunks.bind fun _ _ alike => ?_
  cases alike with
  | none => exact .pure .none
  | @some seen other looks =>
      cases looks with
      | text content other => exact .pure .none
      | tag isTag =>
          cases seen with
          | startTag tag => exact .pure (.some rfl)
          | endTag name => exact .pure .none
          | text content => cases isTag

/-- What follows a look at the next tag goes on where texts and their chunks
have been dropped. -/
theorem atBoundary_overlooksChunks
    {leftNext : Option Boundary → Cursor Left}
    {rightNext : Option Boundary → Cursor Right}
    (opening : ∀ tag, OverlooksChunks related
      (leftNext (some (.opening tag))) (rightNext (some (.opening tag))))
    (closing : ∀ name, OverlooksChunksAt (.endTag name) related
      (leftNext (some (.closing name))) (rightNext (some (.closing name))))
    (ended : OverlooksChunks related (leftNext none) (rightNext none)) :
    OverlooksChunks related (peekBoundary >>= leftNext)
      (peekBoundary >>= rightNext) := by
  have onwards
      {tokens chunked : List Token} (divided : Chunked tokens chunked)
      (stream other : TokenStream) :
      ChunkedEnds related tokens chunked
        (leftNext (boundaryOf tokens) (stream.withTokens tokens))
        (rightNext (boundaryOf chunked) (other.withTokens chunked)) := by
    have whole := divided
    cases divided with
    | nil => exact ended whole stream other
    | @tag token _ _ isTag rest =>
        cases token with
        | startTag tag => exact opening tag whole stream other
        | endTag name => exact closing name rest stream other
        | text content => cases isTag
    | text first others _ => exact ended whole stream other
  intro tokens chunked divided stream other
  have passing (content : String) : (Token.text content).isText = true := rfl
  rw [bind_of_ok (peekBoundary_withTokens tokens stream),
    bind_of_ok (peekBoundary_withTokens chunked other)]
  exact (onwards (divided.dropWhile passing) stream other).after
    (divided.takeWhile passing) List.takeWhile_append_dropWhile.symm
    List.takeWhile_append_dropWhile.symm

theorem closeWith_overlooksChunks
    {left : Left} {right : Right} (results : related left right)
    (localPart : String) (name : QName) :
    OverlooksChunksAt (.endTag name) related (closeWith localPart left name)
      (closeWith localPart right name) := by
  intro tokens chunked divided stream other
  have consumed : Chunked [.endTag name] [.endTag name] := .tag rfl .nil
  rw [closeWith, closeWith]
  split
  · rw [bind_of_ok (next_cons stream (.endTag name) tokens),
      bind_of_ok (next_cons other (.endTag name) chunked)]
    exact (ChunkedEnds.here divided results stream other).after consumed rfl rfl
  · exact .error _

theorem peekChild_overlooksChunks (within : String) :
    OverlooksChunks (Option.Rel Eq) (peekChild within)
      (peekChild within) :=
  atBoundary_overlooksChunks (fun _ => .pure (.some rfl))
    (fun _ _ _ rest stream other => .here (.tag rfl rest) .none stream other)
    (.refuse _ _)

/-- What follows a look at the next token goes on at a tag, where texts are
refused. -/
theorem atTag_overlooksChunks
    {leftNext : Option Token → Cursor Left}
    {rightNext : Option Token → Cursor Right}
    (opening : ∀ tag, OverlooksChunks related
      (leftNext (some (.startTag tag))) (rightNext (some (.startTag tag))))
    (closing : ∀ name, OverlooksChunksAt (.endTag name) related
      (leftNext (some (.endTag name))) (rightNext (some (.endTag name))))
    {fault : Fault}
    (texts : ∀ content,
      leftNext (some (.text content)) = Cursor.refuse fault ∧
        rightNext (some (.text content)) = Cursor.refuse fault)
    (ended : OverlooksChunks related (leftNext none) (rightNext none)) :
    OverlooksChunks related (peek >>= leftNext) (peek >>= rightNext) := by
  intro tokens chunked divided stream other
  have whole := divided
  cases divided with
  | nil => exact ended whole stream other
  | @tag token _ _ isTag rest =>
      cases token with
      | startTag tag => exact opening tag whole stream other
      | endTag name => exact closing name rest stream other
      | text content => cases isTag
  | @text first others tokens chunked _ =>
      rw [List.map_cons, List.cons_append,
        bind_of_ok (peek_cons stream _ tokens),
        bind_of_ok (peek_cons other (.text first) _), (texts _).1,
        (texts first).2]
      exact .error _

/-! ## Repetition -/

/-- Both readings take the same turns; one of them consumes nothing only if the
other one does not either. -/
theorem repeating_overlooksChunks
    {LeftState RightState : Type} {states : LeftState → RightState → Prop}
    {leftTurn : LeftState → Cursor (Turn LeftState Left)}
    {rightTurn : RightState → Cursor (Turn RightState Right)}
    {left : LeftState} {right : RightState} (start : states left right)
    (turns : ∀ left right, states left right →
      OverlooksChunks (Turn.Corresponds states related) (leftTurn left)
        (rightTurn right)) :
    OverlooksChunks related (repeating leftTurn left)
      (repeating rightTurn right) := by
  intro tokens chunked divided stream other
  induction bound : tokens.length using Nat.strongRecOn
    generalizing left right tokens chunked stream other with
  | _ size inductionHypothesis =>
      subst bound
      have ended := turns left right start divided stream other
      generalize leftRead : leftTurn left (stream.withTokens tokens) = leftEnd,
        rightRead : rightTurn right (other.withTokens chunked) = rightEnd
        at ended
      cases ended with
      | error failure =>
          rw [repeating_of_error leftRead, repeating_of_error rightRead]
          exact .error failure
      | @ok _ _ consumed unread consumedChunks unreadChunks stop otherStop
          decided split splitChunks consumes leaves holds holdsChunks =>
          cases decided with
          | done results =>
              rw [repeating_of_done leftRead, repeating_of_done rightRead]
              exact .ok results split splitChunks consumes leaves holds
                holdsChunks
          | @again leftLater rightLater later =>
              have sizes :
                  stop.size < (stream.withTokens tokens).size ↔
                    consumed ≠ [] := by
                rw [holds.size_eq, TokenStream.size_withTokens, split,
                  List.length_append, ← List.length_pos_iff]
                omega
              have otherSizes :
                  otherStop.size < (other.withTokens chunked).size ↔
                    consumedChunks ≠ [] := by
                rw [holdsChunks.size_eq, TokenStream.size_withTokens,
                  splitChunks, List.length_append, ← List.length_pos_iff]
                omega
              by_cases nothing : consumed = []
              · have stuck := fun less => sizes.mp less nothing
                have otherStuck := fun less =>
                  otherSizes.mp less (consumes.eq_nil_iff.mp nothing)
                rw [repeating_of_stuck leftRead stuck,
                  repeating_of_stuck rightRead otherStuck]
                exact .error _
              · have progress := sizes.mpr nothing
                have otherProgress := otherSizes.mpr fun none =>
                  nothing (consumes.eq_nil_iff.mpr none)
                rw [repeating_of_again leftRead progress,
                  repeating_of_again rightRead otherProgress,
                  holds.eq_withTokens, holdsChunks.eq_withTokens]
                have shorter : unread.length < tokens.length := by
                  rw [← holds.size_eq, ← stream.size_withTokens]
                  exact progress
                exact (inductionHypothesis _ shorter later leaves stop
                  otherStop rfl).after consumes split splitChunks

/-! ## Scans -/

/-- Decisions that agree: related turns, or one failure. -/
inductive DecideAlike {State Result : Type}
    (states : State → State → Prop) (results : Result → Result → Prop) :
    Except Failure (Turn State Result) →
      Except Failure (Turn State Result) → Prop
  | ok {turn other : Turn State Result}
      (turns : Turn.Corresponds states results turn other) :
      DecideAlike states results (.ok turn) (.ok other)
  | error (failure : Failure) :
      DecideAlike states results (.error failure) (.error failure)

/-- A step takes in texts one by one by `push`, so that a text and its chunks
leave related states related, and decides alike on tags. -/
structure TakesInChunks {State Result : Type}
    (step : State → Token → Except Failure (Turn State Result))
    (push : State → String → State)
    (states : State → State → Prop) (results : Result → Result → Prop) :
    Prop where
  text (state : State) (content : String) :
    step state (.text content) = .ok (.again (push state content))
  chunks {left right : State} (now : states left right)
    (first : String) (others : List String) :
    states (push left (String.join (first :: others)))
      ((first :: others).foldl push right)
  tag {left right : State} (now : states left right)
    {token : Token} (isTag : token.isText = false) :
    DecideAlike states results (step left token) (step right token)

section Scans

variable {State Result : Type} {expected : String}
  {step : State → Token → Except Failure (Turn State Result)}
  {push : State → String → State}
  {states : State → State → Prop} {results : Result → Result → Prop}
  (takesIn : TakesInChunks step push states results)

include takesIn

theorem scan_texts
    (chunks : List String) (tokens : List Token) (stream : TokenStream)
    (state : State) :
    scan expected step state
        (stream.withTokens (chunks.map .text ++ tokens)) =
      scan expected step (chunks.foldl push state)
        (stream.withTokens tokens) := by
  induction chunks generalizing state with
  | nil => rfl
  | cons first rest inductionHypothesis =>
      rw [List.map_cons, List.cons_append, scan_cons, takesIn.text,
        List.foldl_cons]
      exact inductionHypothesis (push state first)

/-- A scan whose step takes in texts overlooks how they are divided. -/
theorem scan_overlooksChunks
    {left right : State} (start : states left right) :
    OverlooksChunks results (scan expected step left)
      (scan expected step right) := by
  intro tokens chunked divided stream other
  induction divided generalizing left right with
  | nil => exact .error _
  | @tag token tokens chunked isTag rest inductionHypothesis =>
      have consumed : Chunked [token] [token] := .tag isTag .nil
      have decided := takesIn.tag start isTag
      rw [scan_cons, scan_cons]
      generalize step left token = decision,
        step right token = otherDecision at decided
      cases decided with
      | error failure => exact .error failure
      | ok turns =>
          cases turns with
          | again later =>
              exact (inductionHypothesis later).after consumed rfl rfl
          | done results =>
              exact (ChunkedEnds.here rest results stream other).after consumed
                rfl rfl
  | @text first others tokens chunked _ inductionHypothesis =>
      have consumed := Chunked.text first others .nil
      rw [List.append_nil] at consumed
      have later := takesIn.chunks start first others
      rw [scan_cons, takesIn.text, scan_texts takesIn]
      exact (inductionHypothesis later).after consumed rfl rfl

end Scans

end Cursor

end WsTrust
