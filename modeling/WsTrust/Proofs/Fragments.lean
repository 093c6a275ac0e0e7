import WsTrust.Fragment
import WsTrust.Proofs.Levels
import WsTrust.Proofs.Refusals

/-!
# Whole elements under a reader

Skipping consumes an element whatever is in it.  Capturing does so too and
gives the element back as it was, if it is not nested more deeply than allowed;
otherwise it fails before the element ends.
-/

namespace WsTrust

namespace Element

/-- The element is a fragment that may be captured under a nesting limit, which
always allows the element itself. -/
def FitsDepth (element : Element) (maxDepth : Nat) : Prop :=
  element.height ≤ max 1 maxDepth

instance (element : Element) (maxDepth : Nat) :
    Decidable (element.FitsDepth maxDepth) :=
  inferInstanceAs (Decidable (_ ≤ _))

theorem height_eq (element : Element) :
    element.height = Node.heightOfAll element.children + 1 := rfl

end Element

namespace Cursor

variable {Result : Type}

/-! ## Skipping -/

/-- One turn of skipping, which counts the elements that are open. -/
def skipStep (inner : Nat) :
    Token → Except Failure (Turn Nat Unit)
  | .startTag _ => .ok (.again (inner + 1))
  | .endTag _ =>
      match inner with
      | 0 => .ok (.done ())
      | outer + 1 => .ok (.again outer)
  | .text _ => .ok (.again inner)

theorem skipElement_eq :
    skipElement =
      nextStartTag "element" >>= fun _ => scan "end tag" skipStep 0 := by
  rw [skipElement]
  congr 1
  funext _
  congr 1
  funext inner token
  cases token with
  | endTag name => cases inner <;> rfl
  | startTag tag => rfl
  | text content => rfl

mutual

/-- Skipping passes over a node without change to the count. -/
private theorem skip_passes_node
    (inner : Nat) (node : Node) (tokens : List Token) :
    Becomes (scan "end tag" skipStep inner) (node.tokens ++ tokens)
      (scan "end tag" skipStep inner) tokens := by
  cases node with
  | text content => exact scan_becomes rfl
  | element name attributes children =>
      have entered :
          Becomes (scan "end tag" skipStep inner)
            (.startTag ⟨name, attributes⟩ ::
              (Node.tokensOfAll children ++ (.endTag name :: tokens)))
            (scan "end tag" skipStep (inner + 1))
            (Node.tokensOfAll children ++ (.endTag name :: tokens)) :=
        scan_becomes rfl
      have passed :=
        skip_passes_nodes (inner + 1) children (.endTag name :: tokens)
      have left :
          Becomes (scan "end tag" skipStep (inner + 1))
            (.endTag name :: tokens)
            (scan "end tag" skipStep inner) tokens :=
        scan_becomes rfl
      simpa [Node.tokens] using (entered.trans passed).trans left

private theorem skip_passes_nodes
    (inner : Nat) (nodes : List Node) (tokens : List Token) :
    Becomes (scan "end tag" skipStep inner)
      (Node.tokensOfAll nodes ++ tokens)
      (scan "end tag" skipStep inner) tokens := by
  cases nodes with
  | nil => exact Becomes.refl _ _
  | cons node rest =>
      rw [Node.tokensOfAll_cons, List.append_assoc]
      exact (skip_passes_node inner node _).trans
        (skip_passes_nodes inner rest tokens)

end

/-- Skipping consumes exactly one element. -/
theorem skipElement_reads (element : Element) :
    Reads skipElement element.tokens () := by
  rw [skipElement_eq]
  exact (nextStartTag_reads "element" element.startTag).bind <|
    (skip_passes_nodes 0 element.children [.endTag element.name]).reads
      (scan_reads rfl)

/-! ## Capturing -/

section Capturing

variable (maxDepth : Nat)

mutual

/-- A node that is not nested too deeply becomes the last child of the element
that is open. -/
theorem capture_takes_node
    (inner : Unclosed) (outer : List Unclosed)
    (node : Node) (tokens : List Token)
    (fits : node.height = 0 ∨
      node.height + (outer.length + 1) ≤ maxDepth) :
    Becomes (scan "end tag" (captureStep maxDepth) (inner, outer))
      (node.tokens ++ tokens)
      (scan "end tag" (captureStep maxDepth) (inner.push node, outer))
      tokens := by
  cases node with
  | text content => exact scan_becomes rfl
  | element name attributes children =>
      have bounded :
          Node.heightOfAll children + 1 + (outer.length + 1) ≤ maxDepth := by
        rcases fits with absent | bounded
        · cases absent
        · exact bounded
      have entered :
          Becomes (scan "end tag" (captureStep maxDepth) (inner, outer))
            (.startTag ⟨name, attributes⟩ ::
              (Node.tokensOfAll children ++ (.endTag name :: tokens)))
            (scan "end tag" (captureStep maxDepth)
              (.ofTag ⟨name, attributes⟩, inner :: outer))
            (Node.tokensOfAll children ++ (.endTag name :: tokens)) := by
        refine scan_becomes ?_
        rw [captureStep, if_neg (by omega)]
      have taken := capture_takes_nodes (.ofTag ⟨name, attributes⟩)
        (inner :: outer) children (.endTag name :: tokens)
        (Or.inr (by rw [List.length_cons]; omega))
      have closed :
          Becomes (scan "end tag" (captureStep maxDepth)
              (⟨⟨name, attributes⟩, children.reverse ++ []⟩,
                inner :: outer))
            (.endTag name :: tokens)
            (scan "end tag" (captureStep maxDepth)
              (inner.push (.element name attributes children), outer))
            tokens := by
        refine scan_becomes ?_
        simp [captureStep, Unclosed.close, StartTag.toElement,
          Element.toNode]
      simpa [Node.tokens] using (entered.trans taken).trans closed

theorem capture_takes_nodes
    (inner : Unclosed) (outer : List Unclosed)
    (nodes : List Node) (tokens : List Token)
    (fits : Node.heightOfAll nodes = 0 ∨
      Node.heightOfAll nodes + (outer.length + 1) ≤ maxDepth) :
    Becomes (scan "end tag" (captureStep maxDepth) (inner, outer))
      (Node.tokensOfAll nodes ++ tokens)
      (scan "end tag" (captureStep maxDepth)
        (⟨inner.tag, nodes.reverse ++ inner.reversedChildren⟩, outer))
      tokens := by
  cases nodes with
  | nil => exact Becomes.refl _ _
  | cons node rest =>
      rw [Node.heightOfAll] at fits
      rw [Node.tokensOfAll_cons, List.append_assoc]
      have taken := capture_takes_node inner outer node
        (Node.tokensOfAll rest ++ tokens) (by omega)
      have others := capture_takes_nodes (inner.push node) outer rest tokens
        (by omega)
      simpa [Unclosed.push] using taken.trans others

end

/-- How many levels there may be inside the innermost element that is open,
with the elements around it. -/
def levelsLeft (outer : List Unclosed) : Int :=
  (max 1 maxDepth : Nat) - (outer.length + 1 : Nat)

theorem levelsLeft_cons (inner : Unclosed) (outer : List Unclosed) :
    levelsLeft maxDepth (inner :: outer) = levelsLeft maxDepth outer - 1 := by
  simp only [levelsLeft, List.length_cons]
  omega

mutual

/-- A node that is nested too deeply ends the capture at the first start tag
below the limit. -/
theorem capture_refuses_node
    (inner : Unclosed) (outer : List Unclosed) (node : Node)
    (present : node.height ≠ 0)
    (deep : maxDepth < node.height + (outer.length + 1)) :
    ∃ passed tag left,
      Token.FirstBelow (levelsLeft maxDepth outer) node.tokens
        passed tag left ∧
      Refuses (scan "end tag" (captureStep maxDepth) (inner, outer))
        node.tokens (.fault (.depthExceeded maxDepth)) left := by
  cases node with
  | text content => exact absurd rfl present
  | element name attributes children =>
      let tag : StartTag := ⟨name, attributes⟩
      by_cases full : maxDepth ≤ outer.length + 1
      · have refused :
            captureStep maxDepth (inner, outer) (.startTag tag) =
              .error (.fault (.depthExceeded maxDepth)) := by
          rw [captureStep, if_pos full]
        have nothingLeft : levelsLeft maxDepth outer < 1 := by
          rw [levelsLeft]
          omega
        exact ⟨[], tag, _, Token.FirstBelow.here nothingLeft _,
          (scan_refuses refused).append _⟩
      · have entered :
            Becomes (scan "end tag" (captureStep maxDepth) (inner, outer))
              (.startTag tag ::
                (Node.tokensOfAll children ++ [.endTag name]))
              (scan "end tag" (captureStep maxDepth)
                (.ofTag tag, inner :: outer))
              (Node.tokensOfAll children ++ [.endTag name]) := by
          refine scan_becomes ?_
          rw [captureStep, if_neg full]
        rw [Node.height] at deep
        obtain ⟨passed, other, left, found, refused⟩ :=
          capture_refuses_nodes (.ofTag tag) (inner :: outer) children
            (by omega) (by rw [List.length_cons]; omega)
        rw [levelsLeft_cons] at found
        have room : 1 ≤ levelsLeft maxDepth outer := by
          rw [levelsLeft]
          omega
        have inside := (found.append [.endTag name]).behind_startTag tag room
        exact ⟨_, other, _, inside, entered.refuses (refused.append _)⟩

theorem capture_refuses_nodes
    (inner : Unclosed) (outer : List Unclosed) (nodes : List Node)
    (present : Node.heightOfAll nodes ≠ 0)
    (deep : maxDepth < Node.heightOfAll nodes + (outer.length + 1)) :
    ∃ passed tag left,
      Token.FirstBelow (levelsLeft maxDepth outer) (Node.tokensOfAll nodes)
        passed tag left ∧
      Refuses (scan "end tag" (captureStep maxDepth) (inner, outer))
        (Node.tokensOfAll nodes) (.fault (.depthExceeded maxDepth))
        left := by
  cases nodes with
  | nil => exact absurd rfl present
  | cons node rest =>
      rw [Node.heightOfAll] at present deep
      rw [Node.tokensOfAll_cons]
      by_cases fits : node.height = 0 ∨
          node.height + (outer.length + 1) ≤ maxDepth
      · obtain ⟨passed, tag, left, found, refused⟩ :=
          capture_refuses_nodes (inner.push node) outer rest
            (by omega) (by omega)
        have within : Token.StaysWithin (levelsLeft maxDepth outer)
            node.tokens := by
          apply Node.staysWithin_tokens
          rw [levelsLeft]
          omega
        have behind : Token.FirstBelow (levelsLeft maxDepth outer)
            (node.tokens ++ Node.tokensOfAll rest)
            (node.tokens ++ passed) tag left := by
          apply Token.FirstBelow.behind within
          rw [Node.level_tokens, Int.sub_zero]
          exact found
        have taken := capture_takes_node maxDepth inner outer node
          (Node.tokensOfAll rest) fits
        exact ⟨_, tag, left, behind, taken.refuses refused⟩
      · obtain ⟨passed, tag, left, found, refused⟩ :=
          capture_refuses_node inner outer node (by omega) (by omega)
        exact ⟨passed, tag, _, found.append _, refused.append _⟩

end

theorem verbatim_becomes
    {reader : Cursor Result} {tokens left : List Token} {result : Result}
    (becomes : Becomes reader tokens (pure result) left) :
    Becomes (verbatim reader) tokens (pure result) left := by
  intro stream rest
  obtain ⟨after, equality⟩ := becomes (stream.withVerbatim true) rest
  have read :
      reader ((stream.withTokens (tokens ++ rest)).withVerbatim true) =
        .ok result (after.withTokens (left ++ rest)) := equality
  exact ⟨after.withVerbatim false, verbatim_of_ok read⟩

theorem verbatim_reads
    {reader : Cursor Result} {tokens : List Token} {result : Result}
    (read : Reads reader tokens result) :
    Reads (verbatim reader) tokens result := by
  have becomes : Becomes reader tokens (pure result) [] := read
  exact (verbatim_becomes becomes).reads (Reads.pure result)

theorem captureElement_becomes (tag : StartTag) (tokens : List Token) :
    Becomes (captureElement maxDepth) (.startTag tag :: tokens)
      (verbatim (scan "end tag" (captureStep maxDepth) (.ofTag tag, [])))
      tokens :=
  (next_reads (.startTag tag)).becomes _ tokens

/-- Capturing gives back exactly the element, if it is not nested too
deeply. -/
theorem captureElement_reads
    {maxDepth : Nat} {element : Element}
    (fits : element.FitsDepth maxDepth) :
    Reads (captureElement maxDepth) element.tokens element := by
  rw [Element.FitsDepth, element.height_eq] at fits
  refine (captureElement_becomes maxDepth element.startTag _).reads
    (verbatim_reads ?_)
  refine (capture_takes_nodes maxDepth (.ofTag element.startTag) []
    element.children [.endTag element.name]
    (by rw [List.length_nil]; omega)).reads (scan_reads ?_)
  simp [captureStep, Unclosed.close, StartTag.toElement, Unclosed.ofTag,
    Element.startTag]

/-- An element that is nested too deeply is refused at the first start tag below
the limit. -/
theorem captureElement_refuses
    {maxDepth : Nat} {element : Element}
    (deep : ¬ element.FitsDepth maxDepth) :
    ∃ passed tag left,
      Token.FirstBelow (max 1 maxDepth : Nat) element.tokens
        passed tag left ∧
      Refuses (captureElement maxDepth) element.tokens
        (.fault (.depthExceeded maxDepth)) left := by
  rw [Element.FitsDepth, element.height_eq] at deep
  obtain ⟨passed, tag, left, found, refused⟩ :=
    capture_refuses_nodes maxDepth (.ofTag element.startTag) []
      element.children (by omega) (by rw [List.length_nil]; omega)
  have inside := (found.append [.endTag element.name]).behind_startTag
    element.startTag (by omega : 1 ≤ ((max 1 maxDepth : Nat) : Int))
  have captured := captureElement_becomes maxDepth element.startTag
    (Node.tokensOfAll element.children ++ [.endTag element.name])
  exact ⟨_, tag, _, inside,
    captured.refuses (verbatim_refuses (refused.append _))⟩

theorem captureElement_fails
    {maxDepth : Nat} {element : Element}
    (deep : ¬ element.FitsDepth maxDepth) :
    Fails (captureElement maxDepth) element.tokens := by
  obtain ⟨_, _, _, _, refused⟩ := captureElement_refuses deep
  exact refused.fails

theorem captureElement_settles (maxDepth : Nat) (element : Element) :
    Settles (captureElement maxDepth) element.tokens := by
  by_cases fits : element.FitsDepth maxDepth
  · exact Settles.of_reads (captureElement_reads fits)
  · exact Settles.of_fails (captureElement_fails fits)

end Capturing

end Cursor

end WsTrust
