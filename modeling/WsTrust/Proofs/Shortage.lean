import WsTrust.Proofs.Compositions

/-!
# Where a reading is cut off

A reading that succeeds is repeated on a stream that ends earlier.  Either the
reader was done before the cut, or it reports that the stream has ended, or a
required text should have come next, whose absence it reports instead.
-/

namespace WsTrust

namespace Cursor

variable {Result Other State : Type}

/-! ## Shortage -/

/-- On a stream that ends after these tokens the reader reports the end of the
stream. -/
def Exhausts (reader : Cursor Result) (tokens : List Token) : Prop :=
  ∀ stream : TokenStream, ∃ expected after,
    reader (stream.withTokens tokens) =
      .error (.fault (.streamExhausted expected)) after

/-- If no text follows these tokens, whatever else does, the reader reports that
a text is missing. -/
def Demands
    (reader : Cursor Result) (tokens : List Token) (what : String) : Prop :=
  ∀ (stream : TokenStream) (rest : List Token),
    (∀ token ∈ rest.head?, token.isText = false) →
      ∃ after, reader (stream.withTokens (tokens ++ rest)) =
        .error (.parse (.missingText what)) after

/-- What the reader reports of a stream that is cut off between `tokens` and
`more` if it still needs what is behind the cut. -/
inductive FallsShort
    (reader : Cursor Result) (tokens more : List Token) : Prop
  | exhausted (exhausts : Exhausts reader tokens)
  /-- A required text follows the start tag before the cut. -/
  | demanding (what : String) (demands : Demands reader tokens what)
      (behind : ∃ earlier tag, tokens = earlier ++ [.startTag tag])
      (text : ∃ content rest, more = .text content :: rest)

section Shortage

variable {reader later : Cursor Result} {tokens left : List Token}

theorem Exhausts.of_becomes
    (becomes : Becomes reader tokens later left)
    (exhausts : Exhausts later left) :
    Exhausts reader tokens := by
  intro stream
  obtain ⟨middle, equality⟩ := becomes stream []
  obtain ⟨expected, after, failed⟩ := exhausts middle
  rw [List.append_nil, List.append_nil] at equality
  exact ⟨expected, after, equality.trans failed⟩

theorem Demands.of_becomes
    {what : String} (becomes : Becomes reader tokens later left)
    (demands : Demands later left what) :
    Demands reader tokens what := by
  intro stream rest noText
  obtain ⟨middle, equality⟩ := becomes stream rest
  obtain ⟨after, failed⟩ := demands middle rest noText
  exact ⟨after, equality.trans failed⟩

theorem Demands.bind
    {what : String} (demands : Demands reader tokens what)
    (next : Result → Cursor Other) :
    Demands (reader >>= next) tokens what := by
  intro stream rest noText
  obtain ⟨after, failed⟩ := demands stream rest noText
  exact ⟨after, bind_of_error failed⟩

namespace FallsShort

variable {consumed more : List Token}

theorem of_becomes
    (becomes : Becomes reader (consumed ++ left) later left)
    (short : FallsShort later left more) :
    FallsShort reader (consumed ++ left) more := by
  cases short with
  | exhausted exhausts => exact .exhausted (exhausts.of_becomes becomes)
  | demanding what demands behind text =>
      obtain ⟨earlier, tag, last⟩ := behind
      refine .demanding what (demands.of_becomes becomes) ?_ text
      exact ⟨consumed ++ earlier, tag, by rw [last, List.append_assoc]⟩

/-- A reader that reports what another one does falls short with it. -/
theorem of_errors
    {whole : Cursor Other}
    (errors : ∀ stream : TokenStream, ∃ begun : TokenStream,
      ∀ tokens failure stop,
        reader (begun.withTokens tokens) = .error failure stop →
          ∃ after, whole (stream.withTokens tokens) = .error failure after)
    (short : FallsShort reader tokens more) :
    FallsShort whole tokens more := by
  cases short with
  | exhausted exhausts =>
      refine .exhausted fun stream => ?_
      obtain ⟨begun, reports⟩ := errors stream
      obtain ⟨expected, stop, failed⟩ := exhausts begun
      obtain ⟨after, reported⟩ := reports _ _ _ failed
      exact ⟨expected, after, reported⟩
  | demanding what demands behind text =>
      refine .demanding what (fun stream rest noText => ?_) behind text
      obtain ⟨begun, reports⟩ := errors stream
      obtain ⟨stop, failed⟩ := demands begun rest noText
      exact reports _ _ _ failed

theorem bind
    (short : FallsShort reader tokens more) (next : Result → Cursor Other) :
    FallsShort (reader >>= next) tokens more :=
  short.of_errors fun stream =>
    ⟨stream, fun _ _ stop failed => ⟨stop, bind_of_error failed⟩⟩

theorem repeating
    {turn : State → Cursor (Turn State Result)} {state : State}
    (short : FallsShort (turn state) tokens more) :
    FallsShort (Cursor.repeating turn state) tokens more :=
  short.of_errors fun stream =>
    ⟨stream, fun _ _ stop failed => ⟨stop, repeating_of_error failed⟩⟩

theorem verbatim (short : FallsShort reader tokens more) :
    FallsShort (Cursor.verbatim reader) tokens more :=
  short.of_errors fun stream =>
    ⟨stream.withVerbatim true, fun _ _ stop failed =>
      ⟨stop.withVerbatim false, verbatim_of_error failed⟩⟩

end FallsShort

end Shortage

/-! ## Cuts -/

/-- What becomes of a reading with this result if its stream is cut off between
`tokens` and `more`.  The reader may have looked at up to `looks` tokens that it
has not consumed; if it may not, it has consumed a token. -/
inductive Cut
    (looks : Nat) (reader : Cursor Result) (tokens more : List Token)
    (result : Result) (after : TokenStream) : Prop
  /-- The reader was done before the cut. -/
  | done (consumed ahead others : List Token)
      (split : tokens = consumed ++ (ahead ++ others))
      (few : ahead.length ≤ looks)
      (moves : 1 ≤ consumed.length + looks)
      (becomes :
        Becomes reader (consumed ++ ahead) (pure result) ahead)
      (left : after.Holds (ahead ++ (others ++ more)))
  | short (falls : FallsShort reader tokens more)

/-- Wherever a successful reading is cut off, the reader was done or reports a
shortage. -/
def Survives (looks : Nat) (reader : Cursor Result) : Prop :=
  ∀ ⦃stream : TokenStream⦄ ⦃tokens more : List Token⦄ ⦃result : Result⦄
    ⦃after : TokenStream⦄,
    reader (stream.withTokens (tokens ++ more)) = .ok result after →
      Cut looks reader tokens more result after

theorem Cut.exhausted
    {looks : Nat} {reader : Cursor Result} {tokens more : List Token}
    {result : Result} {after : TokenStream}
    (exhausts : Exhausts reader tokens) :
    Cut looks reader tokens more result after :=
  .short (.exhausted exhausts)

/-- A reader that consumes all that it has looked at has read a value from some
of the tokens before the cut, or falls short. -/
theorem Cut.reads_or_fallsShort
    {reader : Cursor Result} {tokens more : List Token}
    {result : Result} {after : TokenStream}
    (cut : Cut 0 reader tokens more result after) :
    (∃ consumed others,
      tokens = consumed ++ others ∧ consumed ≠ [] ∧
        Reads reader consumed result ∧ after.Holds (others ++ more)) ∨
      FallsShort reader tokens more := by
  cases cut with
  | short falls => exact Or.inr falls
  | done consumed ahead others split few moves becomes left =>
      obtain rfl := List.eq_nil_of_length_eq_zero (Nat.le_zero.mp few)
      rw [List.append_nil] at becomes
      exact Or.inl ⟨consumed, others, split, List.length_pos_iff.mp moves,
        becomes.reads (Reads.pure result), left⟩

theorem Cut.of_reads
    {reader : Cursor Result} {consumed others more : List Token}
    {result : Result} {after : TokenStream}
    (read : Reads reader consumed result) (present : consumed ≠ [])
    (left : after.Holds (others ++ more)) :
    Cut 0 reader (consumed ++ others) more result after := by
  refine .done consumed [] others rfl (Nat.le_refl _)
    (List.length_pos_iff.mpr present) ?_ left
  rw [List.append_nil]
  exact read

/-- A reader that first becomes another one is cut off where that one is. -/
theorem Cut.of_becomes
    {looks : Nat} {reader later : Cursor Result}
    {consumed ahead others more : List Token}
    {result : Result} {after : TokenStream}
    (becomes : Becomes reader (consumed ++ ahead) later ahead)
    (few : ahead.length ≤ 1)
    (cut : Cut looks later (ahead ++ others) more result after) :
    Cut looks reader (consumed ++ (ahead ++ others)) more result after := by
  cases cut with
  | short falls =>
      have whole := becomes.append others
      rw [List.append_assoc] at whole
      exact .short (falls.of_becomes whole)
  | done laterConsumed laterAhead laterOthers split laterFew moves laterBecomes
      left =>
      rw [← List.append_assoc] at split
      rcases List.append_eq_append_iff.mp split with
        ⟨beyond, seen, others_eq⟩ | ⟨unseen, ahead_eq, laterOthers_eq⟩
      · refine .done (consumed ++ laterConsumed) laterAhead laterOthers ?_
          laterFew (by simp only [List.length_append]; omega) ?_ left
        · rw [split, List.append_assoc, List.append_assoc]
        · have continued := becomes.append beyond
          rw [List.append_assoc, ← seen] at continued
          rw [List.append_assoc]
          exact continued.trans laterBecomes
      · have lengths := congrArg List.length ahead_eq
        simp only [List.length_append] at lengths
        refine .done (consumed ++ laterConsumed) (laterAhead ++ unseen) others
          ?_ (by simp only [List.length_append]; omega)
          (by simp only [List.length_append]; omega) ?_ ?_
        · rw [ahead_eq]
          simp only [List.append_assoc]
        · have continued := laterBecomes.append unseen
          rw [← ahead_eq] at continued
          have regrouped :
              consumed ++ laterConsumed ++ (laterAhead ++ unseen) =
                consumed ++ ahead := by
            rw [ahead_eq]
            simp only [List.append_assoc]
          rw [regrouped]
          exact becomes.trans continued
        · rw [laterOthers_eq] at left
          simpa only [List.append_assoc] using left

/-- A reader that first consumes some tokens is cut off behind them. -/
theorem Cut.of_consumed
    {looks : Nat} {reader later : Cursor Result}
    {consumed others more : List Token}
    {result : Result} {after : TokenStream}
    (becomes : Becomes reader consumed later [])
    (cut : Cut looks later others more result after) :
    Cut looks reader (consumed ++ others) more result after := by
  have appended : Becomes reader (consumed ++ []) later [] := by
    rwa [List.append_nil]
  exact Cut.of_becomes appended (Nat.zero_le 1) cut

/-- The run behind a reader that first becomes another one is that one's. -/
theorem Survives.cut_of_becomes
    {looks : Nat} {reader later : Cursor Result}
    (survives : Survives looks later)
    {consumed ahead others more : List Token}
    (becomes : Becomes reader (consumed ++ ahead) later ahead)
    (few : ahead.length ≤ 1)
    {stream after : TokenStream} {result : Result}
    (succeeded :
      reader (stream.withTokens (consumed ++ (ahead ++ others) ++ more)) =
        .ok result after) :
    Cut looks reader (consumed ++ (ahead ++ others)) more result after := by
  obtain ⟨middle, equality⟩ := becomes stream (others ++ more)
  have regrouped :
      consumed ++ (ahead ++ others) ++ more =
        consumed ++ ahead ++ (others ++ more) := by
    simp only [List.append_assoc]
  rw [regrouped, equality, ← List.append_assoc] at succeeded
  exact Cut.of_becomes becomes few (survives succeeded)

/-! ## Sequences of readings -/

/-- A reader that has consumed all it looked at may be the last one. -/
theorem Cut.endsBind
    {reader : Cursor Result} {next : Result → Cursor Other}
    {stream middle last : TokenStream} {tokens more : List Token}
    {result : Result} {other : Other}
    (cut : Cut 0 reader tokens more result middle)
    (second :
      Survives 0 (next result) ∨ ∃ other, next result = Pure.pure other)
    (succeeded :
      (reader >>= next) (stream.withTokens (tokens ++ more)) =
        .ok other last)
    (concluded : next result middle = .ok other last) :
    Cut 0 (reader >>= next) tokens more other last := by
  cases cut with
  | short falls => exact .short (falls.bind next)
  | done consumed ahead others split few moves becomes left =>
      have followed := becomes.bind next
      rcases second with survives | ⟨value, equality⟩
      · rw [split] at succeeded ⊢
        exact survives.cut_of_becomes followed (Nat.le_succ_of_le few)
          succeeded
      · rw [equality] at concluded
        cases concluded
        have finished :
            (Pure.pure result >>= next : Cursor Other) =
              Pure.pure other := equality
        rw [finished] at followed
        exact .done consumed ahead others split few moves followed left

section Turns

variable {turn : State → Cursor (Turn State Result)} {state later : State}
  {tokens left : List Token}

/-- A turn that has made progress leaves the next one what it has looked at. -/
theorem repeating_goes_on
    (becomes : Becomes (turn state) tokens (pure (.again later)) left)
    (progress : left.length < tokens.length) :
    Becomes (Cursor.repeating turn state) tokens
      (Cursor.repeating turn later) left := by
  intro stream rest
  obtain ⟨after, equality⟩ := becomes stream rest
  refine ⟨after, repeating_of_again equality ?_⟩
  simp only [TokenStream.size_withTokens, List.length_append]
  omega

theorem Cut.repeating_done
    {looks : Nat} {more : List Token} {result : Result} {after : TokenStream}
    (cut : Cut looks (turn state) tokens more (.done result) after) :
    Cut looks (Cursor.repeating turn state) tokens more result after := by
  cases cut with
  | short falls => exact .short falls.repeating
  | done consumed ahead others split few moves becomes left =>
      exact .done consumed ahead others split few moves
        (repeating_ends becomes) left

/-- After a turn that asks for another one, the others are cut off where they
are on the tokens that it leaves. -/
theorem Cut.repeating_again
    {looks : Nat} (few : looks ≤ 1) {more : List Token} {result : Result}
    {middle after : TokenStream}
    (cut : Cut looks (turn state) tokens more (.again later) middle)
    (progress : middle.size < (tokens ++ more).length)
    (others : ∀ left, middle = middle.withTokens (left ++ more) →
      Cut looks (Cursor.repeating turn later) left more result after) :
    Cut looks (Cursor.repeating turn state) tokens more result after := by
  cases cut with
  | short falls => exact .short falls.repeating
  | done consumed ahead others' split fewAhead moves becomes left =>
      rw [left.size_eq, split] at progress
      simp only [List.length_append] at progress
      have continued :=
        repeating_goes_on becomes (by
          simp only [List.length_append]
          omega)
      rw [split]
      refine Cut.of_becomes continued (Nat.le_trans fewAhead few)
        (others (ahead ++ others') ?_)
      rw [List.append_assoc]
      exact left.eq_withTokens

end Turns

namespace Survives

variable {looks : Nat}

theorem pure (result : Result) :
    Survives 1 (Pure.pure result : Cursor Result) := by
  intro stream tokens more value after succeeded
  cases succeeded
  exact .done [] [] tokens rfl (Nat.zero_le _) (Nat.le_refl _)
    (Becomes.refl _ _) (TokenStream.holds_withTokens _ _)

theorem refuse (fault : Fault) :
    Survives looks (Cursor.refuse fault : Cursor Result) := by
  intro stream tokens more value after succeeded
  cases succeeded

theorem raise (error : ParseError) :
    Survives looks (Cursor.raise error : Cursor Result) := by
  intro stream tokens more value after succeeded
  cases succeeded

/-- A reader that consumes all that it has looked at also survives as one that
may look ahead. -/
theorem weaken {reader : Cursor Result} (survives : Survives 0 reader) :
    Survives 1 reader := by
  intro stream tokens more value after succeeded
  cases survives succeeded with
  | done consumed ahead others split few moves becomes left =>
      exact .done consumed ahead others split (Nat.le_succ_of_le few)
        (Nat.le_succ_of_le moves) becomes left
  | short falls => exact .short falls

theorem bind
    {reader : Cursor Result} {next : Result → Cursor Other}
    (first : Survives 1 reader)
    (second : ∀ result, Survives looks (next result)) :
    Survives looks (reader >>= next) := by
  intro stream tokens more other last succeeded
  obtain ⟨result, middle, read, concluded⟩ := bind_eq_ok_iff.mp succeeded
  cases first read with
  | done consumed ahead others split few _ becomes left =>
      rw [split] at succeeded ⊢
      exact (second result).cut_of_becomes (becomes.bind next) few succeeded
  | short falls => exact .short (falls.bind next)

theorem endsBind
    {reader : Cursor Result} {next : Result → Cursor Other}
    (first : Survives 0 reader)
    (second : ∀ result,
      Survives 0 (next result) ∨ ∃ other, next result = Pure.pure other) :
    Survives 0 (reader >>= next) := by
  intro stream tokens more other last succeeded
  obtain ⟨result, middle, read, concluded⟩ := bind_eq_ok_iff.mp succeeded
  exact (first read).endsBind (second result) succeeded concluded

/-! ## Repetition -/

/-- Instead of being cut off itself, a turn may leave the repetition
exhausted. -/
theorem repeating_of_turns
    {turn : State → Cursor (Turn State Result)} (few : looks ≤ 1)
    (turns : ∀ state ⦃stream : TokenStream⦄ ⦃tokens more : List Token⦄
      ⦃turned : Turn State Result⦄ ⦃after : TokenStream⦄,
      turn state (stream.withTokens (tokens ++ more)) = .ok turned after →
      Exhausts (Cursor.repeating turn state) tokens ∨
        Cut looks (turn state) tokens more turned after)
    (state : State) :
    Survives looks (Cursor.repeating turn state) := by
  intro stream tokens more result after succeeded
  have repeats := repeating_eq_ok_iff.mp succeeded
  clear succeeded
  generalize begun : stream.withTokens (tokens ++ more) = start at repeats
  induction repeats generalizing stream tokens with
  | done read =>
      subst begun
      rcases turns _ read with exhausts | cut
      · exact .exhausted exhausts
      · exact cut.repeating_done
  | again read progress _ inductionHypothesis =>
      subst begun
      rcases turns _ read with exhausts | cut
      · exact .exhausted exhausts
      · refine cut.repeating_again few ?_ fun left held =>
          inductionHypothesis held.symm
        rwa [TokenStream.size_withTokens] at progress

theorem repeating
    {turn : State → Cursor (Turn State Result)}
    (turns : ∀ state, Survives looks (turn state)) (few : looks ≤ 1)
    (state : State) :
    Survives looks (Cursor.repeating turn state) :=
  repeating_of_turns few (fun state _ _ _ _ _ read => Or.inr (turns state read))
    state

/-! ## Scans -/

theorem scan
    (expected : String)
    (step : State → Token → Except Failure (Turn State Result))
    (state : State) : Survives 0 (Cursor.scan expected step state) := by
  intro stream tokens more result after succeeded
  induction tokens generalizing state stream with
  | nil => exact .exhausted fun stream => ⟨expected, _, scan_nil ..⟩
  | cons token rest inductionHypothesis =>
      rw [List.cons_append, scan_cons] at succeeded
      cases stepped : step state token with
      | error failure =>
          rw [stepped] at succeeded
          cases succeeded
      | ok turn =>
          rw [stepped] at succeeded
          cases turn with
          | again later =>
              exact Cut.of_consumed (scan_becomes stepped)
                (inductionHypothesis later succeeded)
          | done value =>
              cases succeeded
              exact Cut.of_reads (scan_reads stepped) (List.cons_ne_nil _ _)
                (TokenStream.holds_withTokens _ _)

theorem verbatim
    {reader : Cursor Result} (survives : Survives looks reader) :
    Survives looks (Cursor.verbatim reader) := by
  intro stream tokens more result after succeeded
  cases read :
      reader ((stream.withVerbatim true).withTokens (tokens ++ more)) with
  | error failure stop =>
      have failed :
          reader ((stream.withTokens (tokens ++ more)).withVerbatim true) =
            .error failure stop := read
      rw [verbatim_of_error failed] at succeeded
      cases succeeded
  | ok value stop =>
      have finished :
          reader ((stream.withTokens (tokens ++ more)).withVerbatim true) =
            .ok value stop := read
      rw [verbatim_of_ok finished] at succeeded
      cases succeeded
      cases survives read with
      | done consumed ahead others split few moves becomes left =>
          exact .done consumed ahead others split few moves
            (verbatim_becomes becomes) left
      | short falls =>
          exact .short falls.verbatim

theorem captureElement (maxDepth : Nat) :
    Survives 0 (Cursor.captureElement maxDepth) := by
  intro stream tokens more result after succeeded
  cases tokens with
  | nil => exact .exhausted fun stream => ⟨"element", _, rfl⟩
  | cons token rest =>
      cases token with
      | endTag name => cases succeeded
      | text content => cases succeeded
      | startTag tag =>
          have captured := (scan "end tag" (captureStep maxDepth)
            (.ofTag tag, [])).verbatim
          exact Cut.of_consumed ((next_reads (.startTag tag)).becomes _ [])
            (captured succeeded)

theorem skipElement : Survives 0 Cursor.skipElement := by
  have entered : Survives 0 (nextStartTag "element") := scan _ _ _
  exact entered.weaken.bind fun _ => scan _ _ _

end Survives

/-! ## Looking ahead -/

/-- Where a successful reading that begins at the next tag stands if its stream
is cut off behind `tokens`. -/
inductive AtBoundary
    (next : Option Boundary → Cursor Result) (tokens more : List Token)
    (result : Result) (after : TokenStream) : Prop
  /-- The next tag is behind the cut. -/
  | ended (texts : List String) (split : tokens = texts.map Token.text)
  | opening (texts : List String) (tag : StartTag) (others : List Token)
      (stream : TokenStream)
      (split : tokens = texts.map Token.text ++ (.startTag tag :: others))
      (read :
        next (some (.opening tag))
            (stream.withTokens (.startTag tag :: others ++ more)) =
          .ok result after)
  | closing (texts : List String) (name : QName) (others : List Token)
      (stream : TokenStream)
      (split : tokens = texts.map Token.text ++ (.endTag name :: others))
      (read :
        next (some (.closing name))
            (stream.withTokens (.endTag name :: others ++ more)) =
          .ok result after)

section Boundaries

variable {next : Option Boundary → Cursor Result}
  {tokens more : List Token} {result : Result}
  {stream after : TokenStream}

theorem atBoundary_of_ok
    (succeeded :
      (peekBoundary >>= next) (stream.withTokens (tokens ++ more)) =
        .ok result after) :
    AtBoundary next tokens more result after := by
  induction tokens generalizing stream with
  | nil => exact .ended [] rfl
  | cons token rest inductionHypothesis =>
      cases token with
      | text content =>
          obtain ⟨middle, equality⟩ :=
            (peekBoundary_of_text [] content).bind next stream (rest ++ more)
          cases inductionHypothesis (equality.symm.trans succeeded) with
          | ended texts split =>
              exact .ended (content :: texts) (by rw [split]; rfl)
          | opening texts tag others start split read =>
              exact .opening (content :: texts) tag others start
                (by rw [split]; rfl) read
          | closing texts name others start split read =>
              exact .closing (content :: texts) name others start
                (by rw [split]; rfl) read
      | startTag tag =>
          obtain ⟨middle, equality⟩ :=
            peekBoundary_of_startTag [] next tag stream (rest ++ more)
          exact .opening [] tag rest middle rfl
            (equality.symm.trans succeeded)
      | endTag name =>
          obtain ⟨middle, equality⟩ :=
            peekBoundary_of_endTag [] next name stream (rest ++ more)
          exact .closing [] name rest middle rfl
            (equality.symm.trans succeeded)

theorem peekBoundary_of_texts
    (next : Option Boundary → Cursor Result)
    (texts : List String) (left : List Token) :
    Becomes (peekBoundary >>= next) (texts.map Token.text ++ left)
      (peekBoundary >>= next) left :=
  Becomes.of_texts
    (fun content left => (peekBoundary_of_text left content).bind next)
    texts left

/-- Where the end of the stream is reported instead of a tag, texts exhaust
it. -/
theorem exhausts_of_texts
    {expected : String}
    (ended : next none = Cursor.refuse (.streamExhausted expected))
    (texts : List String) :
    Exhausts (peekBoundary >>= next) (texts.map Token.text) := by
  rw [← List.append_nil (texts.map Token.text)]
  refine Exhausts.of_becomes (peekBoundary_of_texts next texts []) ?_
  intro stream
  refine ⟨expected, stream.withTokens [], ?_⟩
  have looked :
      peekBoundary (stream.withTokens []) =
        .ok none (stream.withTokens []) := rfl
  rw [bind_of_ok looked, ended]
  rfl

namespace Cut

variable {looks : Nat} (texts : List String) {others : List Token}

theorem of_opening
    {tag : StartTag}
    (cut :
      Cut looks (next (some (.opening tag))) (.startTag tag :: others) more
        result after) :
    Cut looks (peekBoundary >>= next)
      (texts.map Token.text ++ (.startTag tag :: others)) more result
      after := by
  have becomes := (peekBoundary_of_texts next texts [.startTag tag]).trans
    (peekBoundary_of_startTag [] next tag)
  exact of_becomes becomes (Nat.le_refl 1) cut

theorem of_closing
    {name : QName}
    (cut :
      Cut looks (next (some (.closing name))) (.endTag name :: others) more
        result after) :
    Cut looks (peekBoundary >>= next)
      (texts.map Token.text ++ (.endTag name :: others)) more result
      after := by
  have becomes := (peekBoundary_of_texts next texts [.endTag name]).trans
    (peekBoundary_of_endTag [] next name)
  exact of_becomes becomes (Nat.le_refl 1) cut

end Cut

end Boundaries

namespace Survives

variable {looks : Nat}

theorem atBoundary
    {next : Option Boundary → Cursor Result}
    (opening : ∀ tag, Survives looks (next (some (.opening tag))))
    (closing : ∀ name ⦃stream : TokenStream⦄ ⦃rest more : List Token⦄
      ⦃result : Result⦄ ⦃after : TokenStream⦄,
      next (some (.closing name))
          (stream.withTokens (.endTag name :: rest ++ more)) =
        .ok result after →
      Cut looks (next (some (.closing name))) (.endTag name :: rest) more
        result after)
    (ended : ∃ expected,
      next none = Cursor.refuse (.streamExhausted expected)) :
    Survives looks (peekBoundary >>= next) := by
  intro stream tokens more result after succeeded
  cases atBoundary_of_ok succeeded with
  | ended texts split =>
      obtain ⟨expected, exhausted⟩ := ended
      rw [split]
      exact .exhausted (exhausts_of_texts exhausted texts)
  | opening texts tag others start split read =>
      rw [split]
      exact Cut.of_opening texts (opening tag read)
  | closing texts name others start split read =>
      rw [split]
      exact Cut.of_closing texts (closing name read)

theorem peekChild (within : String) :
    Survives 1 (Cursor.peekChild within) := by
  refine atBoundary (fun tag => pure _) ?_ ⟨within, rfl⟩
  intro name stream rest more result after succeeded
  exact pure none succeeded

end Survives

/-- The end tag at the front is consumed if it has the right name. -/
theorem closeWith_cut
    {localPart : String} {result value : Result} {name : QName}
    {stream after : TokenStream} {rest more : List Token}
    (succeeded :
      closeWith localPart result name
          (stream.withTokens (.endTag name :: rest ++ more)) =
        .ok value after) :
    Cut 0 (closeWith localPart result name) (.endTag name :: rest) more value
      after := by
  rw [closeWith] at succeeded ⊢
  by_cases named : name.localPart = localPart
  · rw [if_pos named] at succeeded ⊢
    cases succeeded
    have read :
        Reads (next >>= fun _ => (pure result : Cursor Result))
          [.endTag name] result :=
      (next_reads (.endTag name)).bind_last (Reads.pure result)
    exact Cut.of_reads read (List.cons_ne_nil _ _)
      (TokenStream.holds_withTokens _ _)
  · rw [if_neg named] at succeeded
    cases succeeded

namespace Survives

theorem atTag
    {next : Option Token → Cursor Result}
    (opening : ∀ tag, Survives 0 (next (some (.startTag tag))))
    (closing : ∃ localPart result, ∀ name,
      next (some (.endTag name)) = closeWith localPart result name)
    (texts : ∃ fault, ∀ content,
      next (some (.text content)) = Cursor.refuse fault)
    (ended : ∃ expected,
      next none = Cursor.refuse (.streamExhausted expected)) :
    Survives 0 (peek >>= next) := by
  intro stream tokens more result after succeeded
  cases tokens with
  | nil =>
      obtain ⟨expected, exhausted⟩ := ended
      refine .exhausted fun stream => ⟨expected, stream.withTokens [], ?_⟩
      rw [bind_of_ok (peek_nil stream), exhausted]
      rfl
  | cons token rest =>
      have becomes :
          Becomes (peek >>= next) ([] ++ [token]) (next (some token))
            [token] :=
        peek_becomes next [] token
      have looked :
          (peek >>= next) (stream.withTokens (token :: (rest ++ more))) =
            next (some token) (stream.withTokens (token :: (rest ++ more))) :=
        bind_of_ok (peek_cons stream token (rest ++ more))
      have run := looked.symm.trans succeeded
      cases token with
      | startTag tag =>
          exact Cut.of_becomes becomes (Nat.le_refl 1) (opening tag run)
      | endTag name =>
          obtain ⟨localPart, value, closed⟩ := closing
          rw [closed name] at becomes run
          exact Cut.of_becomes becomes (Nat.le_refl 1) (closeWith_cut run)
      | text content =>
          obtain ⟨fault, refused⟩ := texts
          rw [refused content] at run
          cases run

end Survives

/-! ## Required text -/

theorem requiredText_demands (within what : String) :
    Demands (requiredText within what) [] what := by
  intro stream rest noText
  have ahead :
      ∃ after, hasTextAhead (stream.withTokens rest) = .ok false after := by
    cases rest with
    | nil => exact ⟨_, rfl⟩
    | cons token others =>
        refine ⟨stream.withTokens (token :: others), ?_⟩
        rw [hasTextAhead, bind_of_ok (peek_cons stream token others)]
        simp only [noText token rfl]
        rfl
  obtain ⟨after, looked⟩ := ahead
  refine ⟨after, ?_⟩
  rw [List.nil_append, requiredText, bind_of_ok looked]
  rfl

/-- Once a text is there, a required text is read like any other. -/
theorem requiredText_becomes (within what content : String) :
    Becomes (requiredText within what) ([] ++ [.text content])
      (elementText within >>= requirePresent what) [.text content] :=
  hasTextAhead_becomes [] _ (.text content)

theorem requiredText_cut
    {within what : String} {stream after : TokenStream}
    {tokens more : List Token} {text : String} (present : tokens ≠ [])
    (succeeded :
      requiredText within what (stream.withTokens (tokens ++ more)) =
        .ok text after) :
    Cut 0 (requiredText within what) tokens more text after := by
  have required :
      Survives 0 (elementText within >>= requirePresent what) := by
    have read : Survives 0 (elementText within) := Survives.scan _ _ _
    refine read.endsBind fun text => ?_
    rw [requirePresent]
    split
    · exact Or.inl (Survives.raise _)
    · exact Or.inr ⟨text, rfl⟩
  obtain ⟨token, rest, rfl⟩ := List.exists_cons_of_ne_nil present
  cases token with
  | text content =>
      exact required.cut_of_becomes (requiredText_becomes within what content)
        (Nat.le_refl 1) succeeded
  | startTag tag => cases succeeded
  | endTag name => cases succeeded

/-- A required text begins with a text, or nothing is read. -/
theorem exists_text_of_requiredText
    {within what : String} {stream after : TokenStream}
    {tokens : List Token} {text : String}
    (succeeded :
      requiredText within what (stream.withTokens tokens) =
        .ok text after) :
    ∃ content rest, tokens = .text content :: rest := by
  rcases tokens with _ | ⟨tag | name | content, rest⟩
  · cases succeeded
  · cases succeeded
  · cases succeeded
  · exact ⟨content, rest, rfl⟩

namespace Survives

theorem requiredTextOf
    {next : StartTag → Cursor Result} (expected : String)
    (text : ∀ tag,
      (∃ fault, next tag = Cursor.refuse fault) ∨
        ∃ within what later,
          next tag = Cursor.requiredText within what >>= later ∧
            ∀ text, Survives 0 (later text) ∨
              ∃ result, later text = Pure.pure result) :
    Survives 0 (nextStartTag expected >>= next) := by
  intro stream tokens more result after succeeded
  induction tokens generalizing stream with
  | nil =>
      refine .exhausted fun stream => ⟨expected, stream.withTokens [], ?_⟩
      exact bind_of_error (scan_nil ..)
  | cons token rest inductionHypothesis =>
      have passed
          (skipped : Becomes (nextStartTag expected) [token]
            (nextStartTag expected) []) :
          Cut 0 (nextStartTag expected >>= next) (token :: rest) more result
            after := by
        have becomes := skipped.bind next
        obtain ⟨middle, equality⟩ := becomes stream (rest ++ more)
        exact Cut.of_consumed becomes
          (inductionHypothesis (equality.symm.trans succeeded))
      cases token with
      | endTag name => exact passed (scan_becomes rfl)
      | text content => exact passed (scan_becomes rfl)
      | startTag tag =>
          have becomes :=
            (nextStartTag_reads expected tag).becomes next []
          obtain ⟨middle, equality⟩ := becomes stream (rest ++ more)
          have run := equality.symm.trans succeeded
          rcases text tag with ⟨fault, refused⟩ |
            ⟨within, what, later, required, finished⟩
          · rw [refused] at run
            cases run
          · rw [required] at run becomes
            obtain ⟨found, stop, read, concluded⟩ := bind_eq_ok_iff.mp run
            by_cases due : rest = []
            · subst due
              have demands :=
                (requiredText_demands within what).bind later
              exact .short (.demanding what (demands.of_becomes becomes)
                ⟨[], tag, rfl⟩ (exists_text_of_requiredText read))
            · have cut := requiredText_cut due read
              exact Cut.of_consumed becomes
                (cut.endsBind (finished found) run concluded)

theorem compositional : Compositional (Survives 1) (Survives 0) where
  has_of_ends := weaken
  pure := pure
  refuse fault _ := refuse fault
  raise := raise
  bind := bind
  bindEnds := bind
  endsBind := endsBind
  nextStartTag _ := scan _ _ _
  nextEndTag _ := scan _ _ _
  peekChild := peekChild
  elementText _ := scan _ _ _
  skipElement := skipElement
  captureElement := captureElement
  requiredTextOf expected text := by
    refine requiredTextOf expected fun tag => ?_
    exact (text tag).imp_left fun ⟨fault, refused, _⟩ => ⟨fault, refused⟩
  atBoundary opening closing ended := by
    obtain ⟨localPart, result, closed⟩ := closing
    refine atBoundary opening ?_ ended
    intro name stream rest more value after succeeded
    rw [closed name] at succeeded ⊢
    exact closeWith_cut succeeded
  atTag opening closing texts ended := by
    obtain ⟨fault, refused, _⟩ := texts
    exact atTag opening closing ⟨fault, refused⟩ ended
  searching looks found ended := by
    refine repeating (fun state => ?_) (Nat.le_refl 1)
    exact turn_of_look pure bind looks (fun seen => weaken (found state seen))
      (ended state)
  repeatingEnds turns := repeating turns (Nat.zero_le 1)

end Survives

end Cursor

end WsTrust
