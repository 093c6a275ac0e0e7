import WsTrust.Proofs.Fragments
import WsTrust.Proofs.Postconditions

/-!
# What a capture yields

A captured element has the start tag that the capture began with, and it is not
nested more deeply than allowed, on any stream at all.
-/

namespace WsTrust

theorem Node.heightOfAll_le_iff {nodes : List Node} {bound : Nat} :
    heightOfAll nodes ≤ bound ↔ ∀ node ∈ nodes, node.height ≤ bound := by
  induction nodes with
  | nil => simp [heightOfAll]
  | cons node rest inductionHypothesis =>
      rw [heightOfAll, Nat.max_le, inductionHypothesis,
        List.forall_mem_cons]

theorem Node.heightOfAll_reverse (nodes : List Node) :
    heightOfAll nodes.reverse = heightOfAll nodes := by
  apply Nat.le_antisymm
  · have each := heightOfAll_le_iff.mp (Nat.le_refl (heightOfAll nodes))
    exact heightOfAll_le_iff.mpr fun node member =>
      each node (List.mem_reverse.mp member)
  · have each :=
      heightOfAll_le_iff.mp (Nat.le_refl (heightOfAll nodes.reverse))
    exact heightOfAll_le_iff.mpr fun node member =>
      each node (List.mem_reverse.mpr member)

namespace Cursor

variable {Result : Type} {maxDepth : Nat}

theorem verbatim_ensures
    {reader : Cursor Result} {property : Result → Prop}
    (ensured : Ensures reader property) :
    Ensures (verbatim reader) property := by
  intro stream rest result succeeded
  unfold verbatim at succeeded
  split at succeeded
  · rename_i read
    cases succeeded
    exact ensured read
  · cases succeeded

/-! ## Open elements -/

namespace Unclosed

def FitAll (maxDepth : Nat) : List Unclosed → Prop
  | [] => True
  | inner :: outer =>
      Node.heightOfAll inner.reversedChildren + (outer.length + 1) ≤
          max 1 maxDepth ∧
        FitAll maxDepth outer

def root (inner : Unclosed) (outer : List Unclosed) : Unclosed :=
  outer.getLastD inner

theorem root_cons (inner parent : Unclosed) (outer : List Unclosed) :
    root inner (parent :: outer) = root parent outer :=
  List.getLastD_cons

theorem root_push (inner : Unclosed) (outer : List Unclosed) (child : Node) :
    (root (inner.push child) outer).tag = (root inner outer).tag := by
  cases outer with
  | nil => rfl
  | cons parent others => rfl

end Unclosed

/-- The capture that began with a start tag may be in this state. -/
def MayCapture (maxDepth : Nat) (tag : StartTag) :
    Unclosed × List Unclosed → Prop
  | (inner, outer) =>
      (Unclosed.root inner outer).tag = tag ∧
        Unclosed.FitAll maxDepth (inner :: outer)

/-- What a step of a capture keeps, and what the last step yields. -/
theorem captureStep_keeps
    {tag : StartTag} {state : Unclosed × List Unclosed}
    (before : MayCapture maxDepth tag state)
    {token : Token} {turn : Turn (Unclosed × List Unclosed) Element}
    (stepped : captureStep maxDepth state token = .ok turn) :
    turn.Keeps (MayCapture maxDepth tag) fun element =>
      element.startTag = tag ∧ element.FitsDepth maxDepth := by
  obtain ⟨inner, outer⟩ := state
  obtain ⟨rooted, fits, outerFits⟩ := before
  cases token with
  | startTag opened =>
      rw [captureStep] at stepped
      split at stepped
      · cases stepped
      · rename_i room
        cases stepped
        have sameRoot := Unclosed.root_cons (.ofTag opened) inner outer
        refine ⟨sameRoot ▸ rooted, ?_, fits, outerFits⟩
        have childless :
            Node.heightOfAll (Unclosed.ofTag opened).reversedChildren = 0 :=
          rfl
        rw [childless, List.length_cons]
        omega
  | text content =>
      cases stepped
      refine ⟨(Unclosed.root_push inner outer _).trans rooted, ?_,
        outerFits⟩
      have unchanged :
          Node.heightOfAll
              (inner.push (.text content)).reversedChildren =
            Node.heightOfAll inner.reversedChildren := Nat.zero_max _
      rwa [unchanged]
  | endTag name =>
      have closed :
          inner.close.toNode.height =
            Node.heightOfAll inner.reversedChildren + 1 :=
        congrArg (· + 1) (Node.heightOfAll_reverse inner.reversedChildren)
      cases outer with
      | nil =>
          cases stepped
          refine ⟨rooted, ?_⟩
          rw [Element.FitsDepth, Element.height, closed]
          exact fits
      | cons parent others =>
          cases stepped
          obtain ⟨parentFits, othersFit⟩ := outerFits
          rw [Unclosed.root_cons] at rooted
          refine ⟨(Unclosed.root_push parent others _).trans rooted, ?_,
            othersFit⟩
          have extended :
              Node.heightOfAll
                  (parent.push inner.close.toNode).reversedChildren =
                max inner.close.toNode.height
                  (Node.heightOfAll parent.reversedChildren) := rfl
          rw [List.length_cons] at fits
          rw [extended, closed]
          omega

/-- A capture behind a start tag. -/
theorem capture_ensures (tag : StartTag) :
    Ensures
      (verbatim (scan "end tag" (captureStep maxDepth) (.ofTag tag, [])))
      fun element => element.startTag = tag ∧ element.FitsDepth maxDepth := by
  have initial : MayCapture maxDepth tag (.ofTag tag, []) := by
    refine ⟨rfl, ?_, trivial⟩
    exact Nat.le_max_left 1 maxDepth
  exact verbatim_ensures
    (scan_ensures (MayCapture maxDepth tag)
      (fun _ before _ _ => captureStep_keeps before) initial)

theorem captureElement_ensures (maxDepth : Nat) :
    Ensures (captureElement maxDepth) (·.FitsDepth maxDepth) := by
  refine Ensures.bind_anything fun token => ?_
  split
  · exact (capture_ensures _).mono fun _ both => both.2
  · exact Ensures.refuse _
  · exact Ensures.refuse _
  · exact Ensures.refuse _

/-- Where a start tag is next, the element that is captured has this tag. -/
theorem startTag_of_captureElement
    {stream rest : TokenStream} {tag : StartTag} {element : Element}
    (starts : stream.StartsWith (.startTag tag))
    (captured : captureElement maxDepth stream = .ok element rest) :
    element.startTag = tag := by
  obtain ⟨items, equality⟩ := starts
  have consumed :
      next stream = .ok (some (.startTag tag)) { stream with items } := by
    simp only [next, equality, firstReport?, Item.read?]
  rw [captureElement, bind_of_ok consumed] at captured
  exact (capture_ensures tag captured).1

end Cursor

end WsTrust
