import WsTrust.Proofs.Fragments

/-!
# Capturing undoes writing

An element is captured from the tokens that it is written as, if it is not
higher than the limit, and otherwise refused at the first start tag below the
limit.  Whatever tokens an element is captured from, they are those that it is
written as, up to the names in end tags.
-/

namespace WsTrust

/-- The token without its name if it is an end tag. -/
def Token.withoutEndName : Token → Token
  | .startTag tag => .startTag tag
  | .endTag _ => .endTag (QName.ofLocal "")
  | .text content => .text content

/-- End tags differ by their names only. -/
theorem Token.map_withoutEndName_endTag
    (earlier : List Token) (first second : QName) :
    (earlier ++ [Token.endTag first]).map withoutEndName =
      (earlier ++ [Token.endTag second]).map withoutEndName := by
  simp [withoutEndName]

namespace Cursor

/-! ## The tokens of open elements -/

/-- The tokens that an open element has consumed. -/
def Unclosed.tokens (unclosed : Unclosed) : List Token :=
  .startTag unclosed.tag ::
    Node.tokensOfAll unclosed.reversedChildren.reverse

/-- The tokens that open elements have consumed, of which the first is the
innermost one. -/
def openTokens : Unclosed → List Unclosed → List Token
  | inner, [] => inner.tokens
  | inner, parent :: outer => openTokens parent outer ++ inner.tokens

/-- The tokens that a turn of a capture has consumed, as they are written. -/
def turnTokens : Turn (Unclosed × List Unclosed) Element → List Token
  | .again (inner, outer) => openTokens inner outer
  | .done element => element.tokens

theorem Unclosed.tokens_push (inner : Unclosed) (child : Node) :
    (inner.push child).tokens = inner.tokens ++ child.tokens := by
  simp [tokens, push, Node.tokensOfAll_append, Node.tokensOfAll]

theorem openTokens_push
    (inner : Unclosed) (outer : List Unclosed) (child : Node) :
    openTokens (inner.push child) outer =
      openTokens inner outer ++ child.tokens := by
  cases outer with
  | nil => exact inner.tokens_push child
  | cons parent others =>
      rw [openTokens, openTokens, inner.tokens_push, List.append_assoc]

theorem Unclosed.tokens_close (inner : Unclosed) :
    inner.close.tokens = inner.tokens ++ [.endTag inner.tag.name] := rfl

/-- One token more is consumed at each step. -/
theorem captureStep_consumes
    {maxDepth : Nat} {inner : Unclosed} {outer : List Unclosed}
    {token : Token} {turn : Turn (Unclosed × List Unclosed) Element}
    (stepped : captureStep maxDepth (inner, outer) token = .ok turn) :
    (turnTokens turn).map Token.withoutEndName =
      (openTokens inner outer ++ [token]).map Token.withoutEndName := by
  cases token with
  | startTag tag =>
      rw [captureStep] at stepped
      split at stepped
      · cases stepped
      · cases stepped
        rfl
  | text content =>
      cases stepped
      rw [turnTokens, openTokens_push]
      rfl
  | endTag name =>
      cases outer with
      | nil =>
          cases stepped
          exact Token.map_withoutEndName_endTag inner.tokens _ name
      | cons parent others =>
          cases stepped
          have closed : inner.close.toNode.tokens =
              inner.tokens ++ [.endTag inner.tag.name] := inner.tokens_close
          rw [turnTokens, openTokens_push, closed, ← List.append_assoc,
            openTokens]
          exact Token.map_withoutEndName_endTag _ _ name

/-- What a capture has consumed when it succeeds is what the element is written
as. -/
theorem capture_consumes
    {maxDepth : Nat} (tokens : List Token) {inner : Unclosed}
    {outer : List Unclosed} {stream stop : TokenStream} {element : Element}
    (succeeded :
      scan "end tag" (captureStep maxDepth) (inner, outer)
          (stream.withTokens tokens) = .ok element stop) :
    ∃ consumed rest,
      tokens = consumed ++ rest ∧ stop.Holds rest ∧
        (openTokens inner outer ++ consumed).map Token.withoutEndName =
          element.tokens.map Token.withoutEndName := by
  induction tokens generalizing inner outer with
  | nil =>
      rw [scan_nil] at succeeded
      cases succeeded
  | cons token rest inductionHypothesis =>
      rw [scan_cons] at succeeded
      cases stepped : captureStep maxDepth (inner, outer) token with
      | error failure =>
          rw [stepped] at succeeded
          cases succeeded
      | ok turn =>
          have consumes := captureStep_consumes stepped
          rw [stepped] at succeeded
          cases turn with
          | done value =>
              cases succeeded
              exact ⟨[token], rest, rfl, stream.holds_withTokens rest,
                consumes.symm⟩
          | again later =>
              obtain ⟨laterInner, laterOuter⟩ := later
              obtain ⟨consumed, left, rfl, stopped, equality⟩ :=
                inductionHypothesis succeeded
              refine ⟨token :: consumed, left, rfl, stopped, ?_⟩
              rw [← equality, List.append_cons, List.map_append, ← consumes,
                turnTokens, List.map_append]

/-- Whatever tokens an element is captured from, they are what it is written as,
up to the names in end tags. -/
theorem captureElement_consumes
    {maxDepth : Nat} {stream stop : TokenStream} {tokens : List Token}
    {element : Element}
    (succeeded : captureElement maxDepth (stream.withTokens tokens) =
      .ok element stop) :
    ∃ consumed rest,
      tokens = consumed ++ rest ∧ stop.Holds rest ∧
        consumed.map Token.withoutEndName =
          element.tokens.map Token.withoutEndName := by
  cases tokens with
  | nil => cases succeeded
  | cons token left =>
      cases token with
      | endTag name => cases succeeded
      | text content => cases succeeded
      | startTag tag =>
          have captured : verbatim
              (scan "end tag" (captureStep maxDepth) (.ofTag tag, []))
              (stream.withTokens left) = .ok element stop := succeeded
          obtain ⟨after, scanned, rfl⟩ := verbatim_eq_ok_iff.mp captured
          have verbatimStream :
              (stream.withTokens left).withVerbatim true =
                (stream.withVerbatim true).withTokens left := rfl
          rw [verbatimStream] at scanned
          obtain ⟨consumed, rest, rfl, stopped, equality⟩ :=
            capture_consumes left scanned
          exact ⟨.startTag tag :: consumed, rest, rfl, stopped, equality⟩

/-! ## Exactly the elements within the limit -/

/-- An element is captured from its tokens, whatever follows them, if it is not
higher than the limit, and otherwise refused right behind the first start tag
below the limit.  Whatever tokens an element is captured from, they are its
own, up to the names in end tags. -/
theorem capturing_inverts_writing (maxDepth : Nat) :
    (∀ (element : Element) (stream : TokenStream) (rest : List Token),
      (element.height ≤ max 1 maxDepth →
        ∃ stop : TokenStream,
          captureElement maxDepth
              (stream.withTokens (element.tokens ++ rest)) =
              .ok element stop ∧
            stop.Holds rest) ∧
      (max 1 maxDepth < element.height →
        ∃ (passed : List Token) (tag : StartTag) (left : List Token)
            (stop : TokenStream),
          Token.FirstBelow (max 1 maxDepth : Nat) element.tokens
              passed tag left ∧
            captureElement maxDepth
                (stream.withTokens (element.tokens ++ rest)) =
                .error (.fault (.depthExceeded maxDepth)) stop ∧
              stop.Holds (left ++ rest))) ∧
    ∀ (stream stop : TokenStream) (tokens : List Token) (element : Element),
      captureElement maxDepth (stream.withTokens tokens) =
          .ok element stop →
        ∃ consumed rest,
          tokens = consumed ++ rest ∧ stop.Holds rest ∧
            consumed.map Token.withoutEndName =
              element.tokens.map Token.withoutEndName := by
  constructor
  · intro element stream rest
    constructor
    · intro fits
      have captured := captureElement_reads (fits : element.FitsDepth maxDepth)
      exact captured.holds (stream.holds_withTokens _)
    · intro deep
      have tooHigh : ¬ element.FitsDepth maxDepth := Nat.not_le_of_lt deep
      obtain ⟨passed, tag, left, found, refused⟩ :=
        captureElement_refuses tooHigh
      obtain ⟨stop, failed, stopped⟩ := refused.holds stream rest
      exact ⟨passed, tag, left, stop, found, failed, stopped⟩
  · intro stream stop tokens element succeeded
    exact captureElement_consumes succeeded

def threeLevels : Element :=
  ⟨⟨⟨"urn:a", "a"⟩, "p"⟩, [⟨QName.ofLocal "x", "1"⟩],
    [.text "", .text " ",
      .element (QName.ofLocal "b") []
        [.element (QName.ofLocal "c") [] [.text "deep"]]]⟩

theorem capturing_inverts_writing_of_threeLevels :
    (∃ stop : TokenStream,
      captureElement 3 (.ofTokens (threeLevels.tokens ++ [.text "behind"])) =
          .ok threeLevels stop ∧
        stop.Holds [.text "behind"]) ∧
    (∃ (passed : List Token) (tag : StartTag) (left : List Token)
        (stop : TokenStream),
      Token.FirstBelow 2 threeLevels.tokens passed tag left ∧
        captureElement 2
            (.ofTokens (threeLevels.tokens ++ [.text "behind"])) =
            .error (.fault (.depthExceeded 2)) stop ∧
          stop.Holds (left ++ [.text "behind"])) ∧
    ∃ consumed rest,
      [.startTag ⟨QName.ofLocal "a", []⟩, .endTag (QName.ofLocal "b"),
          .text "behind"] = consumed ++ rest ∧
        (TokenStream.ofTokens [.text "behind"]).Holds rest ∧
          consumed.map Token.withoutEndName =
            (Element.ofName (QName.ofLocal "a")).tokens.map
              Token.withoutEndName := by
  have within := (capturing_inverts_writing 3).1 threeLevels (.ofTokens [])
    [.text "behind"]
  have below := (capturing_inverts_writing 2).1 threeLevels (.ofTokens [])
    [.text "behind"]
  have misnamed : captureElement 1
      ((TokenStream.ofTokens []).withTokens
        [.startTag ⟨QName.ofLocal "a", []⟩, .endTag (QName.ofLocal "b"),
          .text "behind"]) =
      .ok (Element.ofName (QName.ofLocal "a"))
        (.ofTokens [.text "behind"]) := rfl
  refine ⟨within.1 (by decide), below.2 (by decide), ?_⟩
  exact (capturing_inverts_writing 1).2 _ _ _ _ misnamed

end Cursor

end WsTrust
