import WsTrust.Proofs.Content
import WsTrust.Proofs.Reading

/-!
# Tags and texts under a reader

For each of the small readers that all others are put together from: which
tokens it passes over, which it consumes, and where it fails.
-/

namespace WsTrust.Cursor

variable {Result Other State : Type}

/-! ## Scans -/

section Scans

variable {expected : String}
  {step : State → Token → Except Failure (Turn State Result)}
  {state later : State} {token : Token} {tokens : List Token}

theorem scan_becomes
    (continued : step state token = .ok (.again later)) :
    Becomes (scan expected step state) (token :: tokens)
      (scan expected step later) tokens := by
  intro stream rest
  refine ⟨stream, ?_⟩
  rw [List.cons_append, scan_cons, continued]

theorem scan_reads
    {result : Result}
    (decided : step state token = .ok (.done result)) :
    Reads (scan expected step state) [token] result := by
  intro stream rest
  refine ⟨stream, ?_⟩
  rw [List.cons_append, List.nil_append, scan_cons, decided]

theorem scan_fails
    {failure : Failure}
    (refused : step state token = .error failure) :
    Fails (scan expected step state) [token] := by
  intro stream rest
  refine ⟨failure, stream.withTokens rest, ?_⟩
  rw [List.cons_append, List.nil_append, scan_cons, refused]

/-- A scan passes over tokens that leave its state as it is. -/
theorem scan_passes
    {passed : List Token}
    (unmoved : ∀ each ∈ passed, step state each = .ok (.again state)) :
    Becomes (scan expected step state) (passed ++ tokens)
      (scan expected step state) tokens := by
  induction passed with
  | nil => exact Becomes.refl _ _
  | cons head tail inductionHypothesis =>
      have headStep := unmoved head List.mem_cons_self
      have tailSteps : ∀ each ∈ tail, step state each = .ok (.again state) :=
        fun each member => unmoved each (List.mem_cons_of_mem head member)
      exact (scan_becomes headStep).trans (inductionHypothesis tailSteps)

end Scans

/-! ## Looking ahead -/

section Lookahead

variable (next : Option Token → Cursor Result) (tokens : List Token)

theorem peek_becomes (token : Token) :
    Becomes (peek >>= next) (token :: tokens)
      (next (some token)) (token :: tokens) :=
  fun stream _ => ⟨stream, bind_of_ok (peek_cons stream token _)⟩

theorem next_reads (token : Token) :
    Reads Cursor.next [token] (some token) :=
  fun stream _ => ⟨stream, rfl⟩

theorem hasTextAhead_becomes
    (next : Bool → Cursor Result) (token : Token) :
    Becomes (hasTextAhead >>= next) (token :: tokens)
      (next token.isText) (token :: tokens) :=
  fun stream _ => ⟨stream, rfl⟩

/-! ### The next tag -/

theorem peekBoundary_of_startTag
    (next : Option Boundary → Cursor Result) (tag : StartTag) :
    Becomes (peekBoundary >>= next) (.startTag tag :: tokens)
      (next (some (.opening tag))) (.startTag tag :: tokens) := by
  intro stream rest
  refine ⟨stream, ?_⟩
  have looked :
      peekBoundary (stream.withTokens (.startTag tag :: (tokens ++ rest))) =
        .ok (some (.opening tag))
          (stream.withTokens (.startTag tag :: (tokens ++ rest))) := by
    rw [peekBoundary, bind_of_ok (dropUntil_withTokens ..)]
    rfl
  exact bind_of_ok looked

theorem peekBoundary_of_endTag
    (next : Option Boundary → Cursor Result) (name : QName) :
    Becomes (peekBoundary >>= next) (.endTag name :: tokens)
      (next (some (.closing name))) (.endTag name :: tokens) := by
  intro stream rest
  refine ⟨stream, ?_⟩
  have looked :
      peekBoundary (stream.withTokens (.endTag name :: (tokens ++ rest))) =
        .ok (some (.closing name))
          (stream.withTokens (.endTag name :: (tokens ++ rest))) := by
    rw [peekBoundary, bind_of_ok (dropUntil_withTokens ..)]
    rfl
  exact bind_of_ok looked

theorem peekBoundary_of_text (content : String) :
    Becomes peekBoundary (.text content :: tokens) peekBoundary tokens := by
  intro stream rest
  refine ⟨stream, ?_⟩
  rw [peekBoundary, List.cons_append]
  have dropped :
      dropUntil (!·.isText)
          (stream.withTokens (.text content :: (tokens ++ rest))) =
        dropUntil (!·.isText) (stream.withTokens (tokens ++ rest)) := by
    simp [Token.isText]
  simp only [bind, EStateM.bind, dropped]

def boundaryOf : List Token → Option Boundary
  | .startTag tag :: _ => some (.opening tag)
  | .endTag name :: _ => some (.closing name)
  | _ => none

/-- The tag that is looked at is the first token that is not a text. -/
theorem peekBoundary_withTokens (stream : TokenStream) :
    peekBoundary (stream.withTokens tokens) =
      .ok (boundaryOf (tokens.dropWhile Token.isText))
        (stream.withTokens (tokens.dropWhile Token.isText)) := by
  rw [peekBoundary, bind_of_ok (dropUntil_withTokens ..)]
  simp only [Bool.not_not]
  rcases tokens.dropWhile Token.isText with _ | ⟨_ | _ | _, _⟩ <;> rfl

/-- There is no tag to look at only if the tokens are at their end. -/
theorem dropWhile_isText_eq_nil
    {tokens : List Token}
    (ended : boundaryOf (tokens.dropWhile Token.isText) = none) :
    tokens.dropWhile Token.isText = [] := by
  induction tokens with
  | nil => rfl
  | cons head tail inductionHypothesis =>
      cases head with
      | startTag tag => cases ended
      | endTag name => cases ended
      | text content => exact inductionHypothesis ended

theorem peekChild_of_startTag
    (within : String) (next : Option StartTag → Cursor Result)
    (tag : StartTag) :
    Becomes (peekChild within >>= next) (.startTag tag :: tokens)
      (next (some tag)) (.startTag tag :: tokens) :=
  (peekBoundary_of_startTag tokens _ tag).bind next

theorem peekChild_of_endTag
    (within : String) (next : Option StartTag → Cursor Result)
    (name : QName) :
    Becomes (peekChild within >>= next) (.endTag name :: tokens)
      (next none) (.endTag name :: tokens) :=
  (peekBoundary_of_endTag tokens _ name).bind next

theorem peekChild_of_text (within content : String) :
    Becomes (peekChild within) (.text content :: tokens)
      (peekChild within) tokens :=
  (peekBoundary_of_text tokens content).bind _

/-- What ignores one text at its beginning ignores any number of them. -/
theorem Becomes.of_texts
    {reader : Cursor Result}
    (ignored : ∀ content left,
      Becomes reader (.text content :: left) reader left)
    (texts : List String) (tokens : List Token) :
    Becomes reader (texts.map Token.text ++ tokens) reader tokens := by
  induction texts with
  | nil => exact Becomes.refl _ _
  | cons head tail inductionHypothesis =>
      exact (ignored head _).trans inductionHypothesis

theorem peekChild_of_texts (within : String) (texts : List String) :
    Becomes (peekChild within) (texts.map Token.text ++ tokens)
      (peekChild within) tokens :=
  Becomes.of_texts
    (fun content left => peekChild_of_text left within content) texts tokens

end Lookahead

/-! ## Consuming a tag -/

section Tags

theorem nextStartTag_reads (expected : String) (tag : StartTag) :
    Reads (nextStartTag expected) [.startTag tag] tag :=
  scan_reads rfl

theorem nextStartTag_of_texts
    (expected : String) (texts : List String) (tokens : List Token) :
    Becomes (nextStartTag expected) (texts.map Token.text ++ tokens)
      (nextStartTag expected) tokens :=
  Becomes.of_texts (fun _ _ => scan_becomes rfl) texts tokens

theorem nextEndTag_reads (expected : String) (name : QName) :
    Reads (nextEndTag expected) [.endTag name] name :=
  scan_reads rfl

theorem expectName_reads
    {name : QName} {localPart : String}
    (named : name.localPart = localPart) :
    Reads (expectName name localPart) [] () := by
  rw [expectName, if_pos named]
  exact Reads.pure ()

theorem expectName_fails
    {name : QName} {localPart : String}
    (misnamed : name.localPart ≠ localPart) (tokens : List Token) :
    Fails (expectName name localPart) tokens := by
  rw [expectName, if_neg misnamed]
  exact Fails.refuse _ tokens

theorem expectEndTag_reads
    {name : QName} {localPart : String}
    (named : name.localPart = localPart) :
    Reads (expectEndTag localPart) [.endTag name] () :=
  (nextEndTag_reads localPart name).bind (expectName_reads named)

theorem expectEndTag_of_texts
    (localPart : String) (texts : List String) (tokens : List Token) :
    Becomes (expectEndTag localPart) (texts.map Token.text ++ tokens)
      (expectEndTag localPart) tokens :=
  Becomes.of_texts
    (fun _ _ => Becomes.bind (scan_becomes rfl) _) texts tokens

/-- Texts up to an end tag with the right name are dropped with it. -/
theorem expectEndTag_reads_texts
    {name : QName} {localPart : String}
    (named : name.localPart = localPart) (texts : List String) :
    Reads (expectEndTag localPart)
      (texts.map Token.text ++ [.endTag name]) () :=
  (expectEndTag_of_texts localPart texts _).reads (expectEndTag_reads named)

theorem enter_reads
    {tag : StartTag} {localPart : String}
    (named : tag.localName = localPart) :
    Reads (enter localPart) [.startTag tag] tag :=
  (nextStartTag_reads localPart tag).bind <|
    (expectName_reads named).bind (Reads.pure tag)

theorem enter_fails
    {tag : StartTag} {localPart : String}
    (misnamed : tag.localName ≠ localPart) :
    Fails (enter localPart) [.startTag tag] :=
  ((nextStartTag_reads localPart tag).becomes _ []).fails <|
    (expectName_fails misnamed []).bind _

theorem enter_of_texts
    (localPart : String) (texts : List String) (tokens : List Token) :
    Becomes (enter localPart) (texts.map Token.text ++ tokens)
      (enter localPart) tokens :=
  (nextStartTag_of_texts localPart texts tokens).bind _

/-- Entering an element with the right name leaves its content. -/
theorem enter_becomes
    {tag : StartTag} {localPart : String}
    (named : tag.localName = localPart)
    (next : StartTag → Cursor Result) (tokens : List Token) :
    Becomes (enter localPart >>= next) (.startTag tag :: tokens)
      (next tag) tokens :=
  (enter_reads named).becomes next tokens

end Tags

end WsTrust.Cursor
