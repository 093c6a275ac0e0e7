import WsTrust.Proofs.Likeness

/-!
# Runs in lockstep

On two streams that are alike item by item, programs in lockstep end alike:
with results that are related or with failures that are alike, and where they
stop, what is left of the streams is alike again.
-/

namespace WsTrust

namespace Likeness

variable (like : Likeness)

/-! ## Streams that are alike -/

/-- Items that are alike: tokens that are, and the same characters and
faults. -/
inductive Items : Item → Item → Prop
  | token {token other : Token} (tokens : like.Tokens token other) :
      Items (.token token) (.token other)
  | characters (content : String) :
      Items (.characters content) (.characters content)
  | fault (cause : Xml.DocumentFault) : Items (.fault cause) (.fault cause)

/-- Streams whose items are alike one by one, and which report characters in
the same way. -/
structure Streams (left right : TokenStream) : Prop where
  trimText : left.trimText = right.trimText
  verbatim : left.verbatim = right.verbatim
  items : List.Forall₂ like.Items left.items right.items

inductive Reports :
    Except Xml.DocumentFault Token → Except Xml.DocumentFault Token → Prop
  | ok {token other : Token} (tokens : like.Tokens token other) :
      Reports (.ok token) (.ok other)
  | error (cause : Xml.DocumentFault) : Reports (.error cause) (.error cause)

/-- Both runs give related results, or both fail alike, and what is left of
their streams is alike. -/
inductive Ends {Left Right : Type} (related : Left → Right → Prop) :
    EStateM.Result Failure TokenStream Left →
      EStateM.Result Failure TokenStream Right → Prop
  | ok {result : Left} {other : Right} {left right : TokenStream}
      (results : related result other) (stops : like.Streams left right) :
      Ends related (.ok result left) (.ok other right)
  | error {failure other : Failure} {left right : TokenStream}
      (failures : like.failure failure other)
      (stops : like.Streams left right) :
      Ends related (.error failure left) (.error other right)

variable {like}

theorem Items.reports
    {left right : Item} (items : like.Items left right) (trimming : Bool) :
    Option.Rel like.Reports (left.read? trimming)
      (right.read? trimming) := by
  cases items with
  | token tokens => exact .some (.ok tokens)
  | fault cause => exact .some (.error cause)
  | characters content =>
      simp only [Item.read?]
      generalize (if trimming then Text.trim content else content) = reported
      split
      · exact .none
      · exact .some (.ok (.text _))

/-- What is reported first of items that are alike is alike, and so are the
items after it. -/
theorem firstReports
    {left right : List Item} (items : List.Forall₂ like.Items left right)
    (trimming : Bool) :
    Option.Rel
      (fun first second =>
        like.Reports first.1 second.1 ∧
          List.Forall₂ like.Items first.2 second.2)
      (Cursor.firstReport? trimming left)
      (Cursor.firstReport? trimming right) := by
  induction items with
  | nil => exact .none
  | @cons head other rest others heads rests inductionHypothesis =>
      rw [Cursor.firstReport?, Cursor.firstReport?]
      have reports := heads.reports trimming
      generalize head.read? trimming = report,
        other.read? trimming = otherReport at reports
      cases reports with
      | none => exact inductionHypothesis
      | some both => exact .some ⟨both, rests⟩

namespace Streams

variable {left right : TokenStream} (streams : like.Streams left right)

include streams

theorem trimming_eq : left.trimming = right.trimming := by
  rw [TokenStream.trimming, TokenStream.trimming, streams.trimText,
    streams.verbatim]

theorem size_eq : left.size = right.size :=
  streams.items.length_eq

theorem withItems
    {leftItems rightItems : List Item}
    (items : List.Forall₂ like.Items leftItems rightItems) :
    like.Streams { left with items := leftItems }
      { right with items := rightItems } :=
  ⟨streams.trimText, streams.verbatim, items⟩

theorem withVerbatim (verbatim : Bool) :
    like.Streams (left.withVerbatim verbatim)
      (right.withVerbatim verbatim) :=
  ⟨streams.trimText, rfl, streams.items⟩

/-- Streams that are alike deliver as many tokens, and meet the same fault. -/
theorem tokens_alike :
    List.Forall₂ like.Tokens left.tokens.items right.tokens.items ∧
      left.tokens.fault = right.tokens.fault := by
  have delivered
      {leftItems rightItems : List Item}
      (items : List.Forall₂ like.Items leftItems rightItems)
      (trimming : Bool) :
      List.Forall₂ like.Tokens
          (TokenStream.deliver trimming leftItems).items
          (TokenStream.deliver trimming rightItems).items ∧
        (TokenStream.deliver trimming leftItems).fault =
          (TokenStream.deliver trimming rightItems).fault := by
    induction items with
    | nil => exact ⟨.nil, rfl⟩
    | @cons head other rest others heads rests inductionHypothesis =>
        rw [TokenStream.deliver, TokenStream.deliver]
        have reports := heads.reports trimming
        generalize head.read? trimming = report,
          other.read? trimming = otherReport at reports
        cases reports with
        | none => exact inductionHypothesis
        | some both =>
            cases both with
            | ok tokens =>
                exact ⟨.cons tokens inductionHypothesis.1,
                  inductionHypothesis.2⟩
            | error cause => exact ⟨.nil, rfl⟩
  rw [TokenStream.tokens, TokenStream.tokens, streams.trimming_eq]
  exact delivered streams.items right.trimming

end Streams

/-! ## Steps -/

/-- On streams that are alike the two readers end alike. -/
def RunsAlike (like : Likeness) {Left Right : Type}
    (related : Left → Right → Prop)
    (left : Cursor Left) (right : Cursor Right) : Prop :=
  ∀ ⦃stream other : TokenStream⦄, like.Streams stream other →
    like.Ends related (left stream) (right other)

namespace RunsAlike

variable {Left Right : Type} {related : Left → Right → Prop}

theorem bind
    {LeftNext RightNext : Type} {relatedNext : LeftNext → RightNext → Prop}
    {left : Cursor Left} {right : Cursor Right}
    {leftNext : Left → Cursor LeftNext}
    {rightNext : Right → Cursor RightNext}
    (first : like.RunsAlike related left right)
    (second : ∀ leftResult rightResult, related leftResult rightResult →
      like.RunsAlike relatedNext (leftNext leftResult)
        (rightNext rightResult)) :
    like.RunsAlike relatedNext (left >>= leftNext)
      (right >>= rightNext) := by
  intro stream other streams
  have ended := first streams
  generalize leftRead : left stream = leftEnd,
    rightRead : right other = rightEnd at ended
  cases ended with
  | ok results stops =>
      rw [Cursor.bind_of_ok leftRead, Cursor.bind_of_ok rightRead]
      exact second _ _ results stops
  | error failures stops =>
      rw [Cursor.bind_of_error leftRead, Cursor.bind_of_error rightRead]
      exact .error failures stops

theorem recover
    {left : Cursor Left} {right : Cursor Right}
    {leftHandler : Failure → Cursor Left}
    {rightHandler : Failure → Cursor Right}
    (first : like.RunsAlike related left right)
    (second : ∀ leftCause rightCause, like.failure leftCause rightCause →
      like.RunsAlike related (leftHandler leftCause)
        (rightHandler rightCause)) :
    like.RunsAlike related (tryCatch left leftHandler)
      (tryCatch right rightHandler) := by
  intro stream other streams
  have ended := first streams
  simp only [tryCatch, tryCatchThe, MonadExceptOf.tryCatch,
    EStateM.tryCatch]
  generalize left stream = leftEnd, right other = rightEnd at ended
  cases ended with
  | ok results stops => exact .ok results stops
  | error failures stops => exact second _ _ failures stops

theorem next :
    like.RunsAlike (Option.Rel like.Tokens) Cursor.next Cursor.next := by
  intro stream other streams
  have reports := firstReports streams.items other.trimming
  simp only [Cursor.next, streams.trimming_eq]
  generalize Cursor.firstReport? other.trimming stream.items = first,
    Cursor.firstReport? other.trimming other.items = second at reports
  cases reports with
  | none => exact .ok .none (streams.withItems .nil)
  | @some left right both =>
      obtain ⟨report, rest⟩ := left
      obtain ⟨otherReport, others⟩ := right
      obtain ⟨reports, rests⟩ := both
      cases reports with
      | ok tokens => exact .ok (.some tokens) (streams.withItems rests)
      | error cause =>
          exact .error (like.failure_refl nofun) (streams.withItems rests)

theorem peek :
    like.RunsAlike (Option.Rel like.Tokens) Cursor.peek Cursor.peek := by
  intro stream other streams
  have reports := firstReports streams.items other.trimming
  simp only [Cursor.peek, streams.trimming_eq]
  generalize Cursor.firstReport? other.trimming stream.items = first,
    Cursor.firstReport? other.trimming other.items = second at reports
  cases reports with
  | none => exact .ok .none (streams.withItems .nil)
  | @some left right both =>
      obtain ⟨report, rest⟩ := left
      obtain ⟨otherReport, others⟩ := right
      obtain ⟨reports, rests⟩ := both
      cases reports with
      | ok tokens =>
          exact .ok (.some tokens)
            (streams.withItems (.cons (.token tokens) rests))
      | error cause =>
          exact .error (like.failure_refl nofun) (streams.withItems rests)

/-- A scan takes the same steps on items that are alike. -/
theorem scan
    {LeftState RightState : Type} (expected : String)
    {states : LeftState → RightState → Prop}
    {leftStep : LeftState → Token → Except Failure (Turn LeftState Left)}
    {rightStep :
      RightState → Token → Except Failure (Turn RightState Right)}
    {left : LeftState} {right : RightState} (start : states left right)
    (steps : ∀ left right, states left right →
      ∀ token other, like.Tokens token other →
        like.Decisions states related (leftStep left token)
          (rightStep right other)) :
    like.RunsAlike related (Cursor.scan expected leftStep left)
      (Cursor.scan expected rightStep right) := by
  intro stream other streams
  have scanned
      {leftItems rightItems : List Item}
      (items : List.Forall₂ like.Items leftItems rightItems)
      {left : LeftState} {right : RightState} (now : states left right) :
      like.Ends related
        (Cursor.scan.scanItems expected leftStep stream leftItems left)
        (Cursor.scan.scanItems expected rightStep other rightItems
          right) := by
    induction items generalizing left right with
    | nil => exact .error (like.failure_refl (by simp)) (streams.withItems .nil)
    | @cons head otherHead rest others heads rests inductionHypothesis =>
        rw [Cursor.scan.scanItems, Cursor.scan.scanItems]
        have reports := heads.reports other.trimming
        rw [streams.trimming_eq]
        generalize head.read? other.trimming = report,
          otherHead.read? other.trimming = otherReport at reports
        cases reports with
        | none => exact inductionHypothesis now
        | some both =>
            cases both with
            | error cause =>
                exact .error (like.failure_refl (by simp))
                  (streams.withItems rests)
            | @ok token otherToken tokens =>
                dsimp only
                have decisions := steps left right now _ _ tokens
                generalize leftStep left token = decision,
                  rightStep right otherToken = otherDecision at decisions
                cases decisions with
                | error failures =>
                    exact .error failures (streams.withItems rests)
                | ok turns =>
                    cases turns with
                    | again later => exact inductionHypothesis later
                    | done results =>
                        exact .ok results (streams.withItems rests)
  exact scanned streams.items start

theorem dropUntil
    {leftStops rightStops : Token → Bool}
    (stops : ∀ token other, like.Tokens token other →
      leftStops token = rightStops other) :
    like.RunsAlike Eq (Cursor.dropUntil leftStops)
      (Cursor.dropUntil rightStops) := by
  intro stream other streams
  have dropped
      {leftItems rightItems : List Item}
      (items : List.Forall₂ like.Items leftItems rightItems) :
      like.Ends Eq
        (Cursor.dropUntil.dropItems leftStops stream leftItems)
        (Cursor.dropUntil.dropItems rightStops other rightItems) := by
    induction items with
    | nil => exact .ok rfl (streams.withItems .nil)
    | @cons head otherHead rest others heads rests inductionHypothesis =>
        rw [Cursor.dropUntil.dropItems, Cursor.dropUntil.dropItems]
        have reports := heads.reports other.trimming
        rw [streams.trimming_eq]
        generalize head.read? other.trimming = report,
          otherHead.read? other.trimming = otherReport at reports
        cases reports with
        | none => exact inductionHypothesis
        | some both =>
            cases both with
            | error cause =>
                exact .error (like.failure_refl (by simp))
                  (streams.withItems rests)
            | ok tokens =>
                dsimp only
                rw [stops _ _ tokens]
                split
                · exact .ok rfl
                    (streams.withItems (.cons (.token tokens) rests))
                · exact inductionHypothesis
  exact dropped streams.items

/-- Both runs take the same turns, and as what is left of their streams stays
of one size they also find the same want of progress. -/
theorem repeating
    {LeftState RightState : Type} {states : LeftState → RightState → Prop}
    {leftTurn : LeftState → Cursor (Turn LeftState Left)}
    {rightTurn : RightState → Cursor (Turn RightState Right)}
    {left : LeftState} {right : RightState} (start : states left right)
    (turns : ∀ left right, states left right →
      like.RunsAlike (Cursor.Turn.Corresponds states related)
        (leftTurn left) (rightTurn right)) :
    like.RunsAlike related (Cursor.repeating leftTurn left)
      (Cursor.repeating rightTurn right) := by
  intro stream other streams
  induction bound : stream.size using Nat.strongRecOn
    generalizing left right stream other with
  | _ size inductionHypothesis =>
      subst bound
      have ended := turns left right start streams
      rw [Cursor.repeating, Cursor.repeating]
      generalize leftTurn left stream = leftEnd,
        rightTurn right other = rightEnd at ended
      cases ended with
      | error failures stops => exact .error failures stops
      | @ok _ _ leftStop rightStop decided stops =>
          cases decided with
          | done results => exact .ok results stops
          | again later =>
              dsimp only
              rw [← stops.size_eq, ← streams.size_eq]
              split
              case isTrue smaller =>
                exact inductionHypothesis _ smaller later stops rfl
              case isFalse => exact .error (like.failure_refl (by simp)) stops

end RunsAlike

/-- Programs in lockstep end alike on streams that are alike. -/
theorem Lockstep.runsAlike
    {Left Right : Type} {related : Left → Right → Prop}
    {left : Cursor Left} {right : Cursor Right}
    (lockstep : like.Lockstep related left right) :
    like.RunsAlike related left right := by
  induction lockstep with
  | pure results => exact fun _ _ streams => .ok results streams
  | fail failures => exact fun _ _ streams => .error failures streams
  | bind _ _ first second => exact first.bind second
  | recover _ _ first second => exact first.recover second
  | next => exact RunsAlike.next
  | peek => exact RunsAlike.peek
  | preserveText verbatim =>
      exact fun _ _ streams => .ok rfl (streams.withVerbatim verbatim)
  | scan expected start steps => exact RunsAlike.scan expected start steps
  | dropUntil stops => exact RunsAlike.dropUntil stops
  | repeating start _ turns => exact RunsAlike.repeating start turns

end Likeness

end WsTrust
