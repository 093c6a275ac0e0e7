import WsTrust.Proofs.Tags

/-!
# Readers only move forward

Whether it succeeds or fails, a reader of prepared tokens leaves a suffix of
them.
-/

namespace WsTrust.Cursor

variable {Result Other State : Type}

def stopOf : EStateM.Result Failure TokenStream Result → TokenStream
  | .ok _ stop => stop
  | .error _ stop => stop

/-- A reader that leaves a suffix of the tokens it is given, also when it
fails. -/
def Advances (reader : Cursor Result) : Prop :=
  ∀ (stream : TokenStream) (tokens : List Token),
    ∃ (after : TokenStream) (left : List Token),
      stopOf (reader (stream.withTokens tokens)) = after.withTokens left ∧
        left <:+ tokens

namespace Advances

theorem pure (result : Result) :
    Advances (Pure.pure result : Cursor Result) :=
  fun stream tokens => ⟨stream, tokens, rfl, List.suffix_refl tokens⟩

theorem refuse (fault : Fault) :
    Advances (Cursor.refuse fault : Cursor Result) :=
  fun stream tokens => ⟨stream, tokens, rfl, List.suffix_refl tokens⟩

theorem raise (error : ParseError) :
    Advances (Cursor.raise error : Cursor Result) :=
  fun stream tokens => ⟨stream, tokens, rfl, List.suffix_refl tokens⟩

/-- What is left after a success is a suffix. -/
theorem of_ok
    {reader : Cursor Result} (advances : Advances reader)
    {stream stop : TokenStream} {tokens : List Token} {result : Result}
    (succeeded : reader (stream.withTokens tokens) = .ok result stop) :
    ∃ (after : TokenStream) (left : List Token),
      stop = after.withTokens left ∧ left <:+ tokens := by
  have moved := advances stream tokens
  rwa [succeeded] at moved

theorem bind
    {reader : Cursor Result} {next : Result → Cursor Other}
    (first : Advances reader) (second : ∀ result, Advances (next result)) :
    Advances (reader >>= next) := by
  intro stream tokens
  obtain ⟨middle, left, stopped, suffix⟩ := first stream tokens
  cases outcome : reader (stream.withTokens tokens) with
  | error failure stop =>
      rw [outcome] at stopped
      rw [bind_of_error outcome]
      exact ⟨middle, left, stopped, suffix⟩
  | ok result stop =>
      rw [outcome] at stopped
      obtain ⟨after, remaining, stoppedAgain, suffixAgain⟩ :=
        second result middle left
      rw [bind_of_ok outcome, show stop = middle.withTokens left from stopped]
      exact ⟨after, remaining, stoppedAgain, suffixAgain.trans suffix⟩

theorem map
    {reader : Cursor Result} (first : Advances reader)
    (change : Result → Other) :
    Advances (change <$> reader) := by
  rw [map_eq_bind]
  exact first.bind fun result => pure (change result)

end Advances

/-! ## The steps of a cursor -/

theorem next_advances : Advances next := by
  intro stream tokens
  cases tokens with
  | nil => exact ⟨stream, [], rfl, List.suffix_refl []⟩
  | cons head tail =>
      exact ⟨stream, tail, rfl, List.suffix_cons head tail⟩

theorem peek_advances : Advances peek := by
  intro stream tokens
  cases tokens with
  | nil => exact ⟨stream, [], rfl, List.suffix_refl []⟩
  | cons head tail =>
      exact ⟨stream, head :: tail, rfl, List.suffix_refl _⟩

theorem dropUntil_advances (stops : Token → Bool) :
    Advances (dropUntil stops) := by
  intro stream tokens
  refine ⟨stream, _, ?_, List.dropWhile_suffix fun token => !stops token⟩
  rw [dropUntil_withTokens]
  rfl

theorem scan_advances
    (expected : String)
    (step : State → Token → Except Failure (Turn State Result))
    (state : State) :
    Advances (scan expected step state) := by
  intro stream tokens
  induction tokens generalizing state with
  | nil => exact ⟨stream, [], rfl, List.suffix_refl []⟩
  | cons head tail inductionHypothesis =>
      rw [scan_cons]
      cases step state head with
      | error failure =>
          exact ⟨stream, tail, rfl, List.suffix_cons head tail⟩
      | ok turn =>
          cases turn with
          | done result =>
              exact ⟨stream, tail, rfl, List.suffix_cons head tail⟩
          | again later =>
              obtain ⟨after, left, stopped, suffix⟩ :=
                inductionHypothesis later
              exact ⟨after, left, stopped,
                suffix.trans (List.suffix_cons head tail)⟩

/-- A scan that succeeds has consumed a token. -/
theorem scan_consumes
    {expected : String}
    {step : State → Token → Except Failure (Turn State Result)}
    {state : State} {stream stop : TokenStream} {tokens : List Token}
    {result : Result}
    (succeeded :
      scan expected step state (stream.withTokens tokens) =
        .ok result stop) :
    stop.size < tokens.length := by
  cases tokens with
  | nil => cases succeeded
  | cons head tail =>
      have atMost {reader : Cursor Result} (advances : Advances reader)
          (read : reader (stream.withTokens tail) = .ok result stop) :
          stop.size ≤ tail.length := by
        obtain ⟨after, left, rfl, suffix⟩ := advances.of_ok read
        simpa using suffix.length_le
      rw [scan_cons] at succeeded
      apply Nat.lt_succ_of_le
      cases decided : step state head with
      | error failure =>
          rw [decided] at succeeded
          cases succeeded
      | ok turn =>
          rw [decided] at succeeded
          cases turn with
          | done value =>
              cases succeeded
              exact Nat.le_of_eq (stream.size_withTokens tail)
          | again later =>
              exact atMost (scan_advances expected step later) succeeded

theorem verbatim_advances
    {reader : Cursor Result} (advances : Advances reader) :
    Advances (verbatim reader) := by
  intro stream tokens
  obtain ⟨after, left, stopped, suffix⟩ :=
    advances (stream.withVerbatim true) tokens
  refine ⟨after.withVerbatim false, left, ?_, suffix⟩
  have same :
      ({ stream.withTokens tokens with verbatim := true } : TokenStream) =
        (stream.withVerbatim true).withTokens tokens := rfl
  rw [verbatim, same]
  cases outcome : reader ((stream.withVerbatim true).withTokens tokens) with
  | ok result stop =>
      rw [outcome] at stopped
      simp only [stopOf] at stopped ⊢
      rw [stopped]
      rfl
  | error failure stop =>
      rw [outcome] at stopped
      simp only [stopOf] at stopped ⊢
      rw [stopped]
      rfl

/-- Repeating a reader that moves forward moves forward, by induction on the
tokens that are left. -/
theorem repeating_advances
    {turn : State → Cursor (Turn State Result)}
    (advances : ∀ state, Advances (turn state)) (state : State) :
    Advances (repeating turn state) := by
  intro stream tokens
  induction bound : tokens.length using Nat.strongRecOn
    generalizing state stream tokens with
  | _ length inductionHypothesis =>
      subst bound
      obtain ⟨middle, left, stopped, suffix⟩ := advances state stream tokens
      rw [repeating]
      cases outcome : turn state (stream.withTokens tokens) with
      | error failure stop =>
          rw [outcome] at stopped
          exact ⟨middle, left, stopped, suffix⟩
      | ok turned stop =>
          rw [outcome] at stopped
          cases turned with
          | done result => exact ⟨middle, left, stopped, suffix⟩
          | again later =>
              have stop_eq : stop = middle.withTokens left := stopped
              subst stop_eq
              by_cases progress :
                  (middle.withTokens left).size <
                    (stream.withTokens tokens).size
              · simp only [if_pos progress]
                simp only [TokenStream.size_withTokens] at progress
                obtain ⟨after, remaining, stoppedAgain, suffixAgain⟩ :=
                  inductionHypothesis left.length progress later middle left
                    rfl
                exact ⟨after, remaining, stoppedAgain,
                  suffixAgain.trans suffix⟩
              · simp only [if_neg progress]
                exact ⟨middle, left, rfl, suffix⟩

/-! ## The readers put together from them -/

theorem nextStartTag_advances (expected : String) :
    Advances (nextStartTag expected) :=
  scan_advances _ _ _

theorem expectName_advances (name : QName) (localPart : String) :
    Advances (expectName name localPart) := by
  rw [expectName]
  split
  · exact Advances.pure ()
  · exact Advances.refuse _

theorem expectEndTag_advances (localPart : String) :
    Advances (expectEndTag localPart) :=
  (scan_advances _ _ _).bind fun name => expectName_advances name localPart

theorem elementText_advances (within : String) :
    Advances (elementText within) :=
  scan_advances _ _ _

theorem hasTextAhead_advances : Advances hasTextAhead :=
  peek_advances.bind fun token => by
    cases token with
    | none => exact Advances.pure false
    | some token => exact Advances.pure token.isText

theorem requiredText_advances (within what : String) :
    Advances (requiredText within what) := by
  refine hasTextAhead_advances.bind fun ahead => ?_
  split
  · refine (elementText_advances within).bind fun text => ?_
    split
    · exact Advances.raise _
    · exact Advances.pure text
  · exact Advances.raise _

theorem peekBoundary_advances : Advances peekBoundary := by
  refine (dropUntil_advances _).bind fun _ => ?_
  refine peek_advances.bind fun token => ?_
  split
  · exact Advances.pure _
  · exact Advances.pure _
  · exact Advances.pure _

theorem captureElement_advances (maxDepth : Nat) :
    Advances (captureElement maxDepth) := by
  refine next_advances.bind fun token => ?_
  split
  · exact verbatim_advances (scan_advances _ _ _)
  · exact Advances.refuse _
  · exact Advances.refuse _
  · exact Advances.refuse _

end WsTrust.Cursor
