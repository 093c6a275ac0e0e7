import WsTrust.Proofs.Captured
import WsTrust.Proofs.Leaves

/-!
# Lists of fragments

The tokens that a response issues and the content of a reference are lists of
fragments.  A list is read to the end tag of its element, with the text between
the fragments dropped, unless a fragment is nested too deeply: then reading
fails at the first start tag of the content below the limit.
-/

namespace WsTrust

open Cursor

/-! ## Content with a first element of a kind -/

namespace Node

/-- The first element that a test accepts, with the nodes before it, among which
there is no such element, and the nodes after it. -/
theorem exists_split_at_first
    {nodes : List Node} {accepts : Element → Bool} {first : Element}
    (found : (nodes.filterMap element?).find? accepts = some first) :
    ∃ before after : List Node,
      nodes = before ++ first.toNode :: after ∧
        ∀ earlier ∈ before.filterMap element?, accepts earlier = false := by
  obtain ⟨_, earlier, later, elements, rejected⟩ :=
    List.find?_eq_some_iff_append.mp found
  obtain ⟨before, behind, rfl, beforeElements, behindElements⟩ :=
    List.filterMap_eq_append_iff.mp elements
  obtain ⟨texts, node, after, rfl, textual, isFirst, _⟩ :=
    List.filterMap_eq_cons_iff.mp behindElements
  have noElement : texts.filterMap element? = [] :=
    List.filterMap_eq_nil_iff.mpr textual
  refine ⟨before ++ texts, after, ?_, ?_⟩
  · rw [toNode_of_element? isFirst, List.append_assoc]
  · rw [List.filterMap_append, noElement, List.append_nil, beforeElements]
    intro element member
    simpa using rejected element member

theorem tokensOfAll_around (before after : List Node) (element : Element) :
    tokensOfAll (before ++ element.toNode :: after) =
      tokensOfAll before ++ (element.tokens ++ tokensOfAll after) := by
  rw [tokensOfAll_append, tokensOfAll_cons]
  rfl

/-- Nodes are within a limit if the elements among them are. -/
theorem heightOfAll_le_of_elements {nodes : List Node} {limit : Nat}
    (each : ∀ element ∈ nodes.filterMap element?, element.height ≤ limit) :
    heightOfAll nodes ≤ limit := by
  apply heightOfAll_le_iff.mpr
  intro node member
  cases node with
  | text content => exact Nat.zero_le limit
  | element name attributes children =>
      exact each ⟨name, attributes, children⟩
        (List.mem_filterMap.mpr ⟨_, member, rfl⟩)

end Node

/-! ## Reading what is left of an element -/

namespace Fragment

variable {localPart : String} {maxDepth : Nat} {content : List Node}

/-- Where all fragments are within the limit the next turn has them all, and at
most the last texts are still to be ignored. -/
theorem readRest_passes
    (localPart : String)
    (fit : ∀ fragment ∈ content.filterMap Node.element?,
      fragment.FitsDepth maxDepth) :
    ∃ trailing : List Token,
      Ignores (turn localPart maxDepth) trailing ∧
        ∀ more, Becomes (readRest localPart maxDepth)
          (Node.tokensOfAll content ++ more)
          (repeating (turn localPart maxDepth)
            (content.filterMap Node.element?).reverse)
          (trailing ++ more) := by
  have captured :
      ReadsEach (fun _ => captureElement maxDepth)
        (content.filterMap Node.element?)
        (content.filterMap Node.element?) := by
    apply List.forall₂_same.mpr
    intro fragment member
    exact captureElement_reads (fit fragment member)
  have settled :
      ∀ fragment ∈ content.filterMap Node.element?,
        Settles (captureElement maxDepth) fragment.tokens :=
    fun fragment _ => captureElement_settles maxDepth fragment
  rcases (turn_elementWise localPart maxDepth).passes_or_fails settled []
      Ignores.nil with
    ⟨fragments, trailing, readAll, ignored, passed⟩ |
      ⟨⟨fragment, member, failed⟩, _⟩
  · have collected :
        fragments.foldl (fun earlier fragment => fragment :: earlier) [] =
          (content.filterMap Node.element?).reverse := by
      rw [captured.unique readAll, ← List.reverse_eq_iff,
        reverse_foldl_cons]
    rw [collected] at passed
    exact ⟨trailing, ignored, passed⟩
  · have read := captureElement_reads (fit fragment member)
    exact absurd failed read.not_fails

/-- A list of fragments is read up to an end tag with the right name. -/
theorem readRest_reads_content
    (fit : ∀ fragment ∈ content.filterMap Node.element?,
      fragment.FitsDepth maxDepth)
    {closing : QName} (named : closing.localPart = localPart) :
    Reads (readRest localPart maxDepth)
      (Node.tokensOfAll content ++ [.endTag closing])
      (content.filterMap Node.element?) := by
  obtain ⟨trailing, ignored, passed⟩ := readRest_passes localPart fit
  have closed := turn_closes named maxDepth
    (content.filterMap Node.element?).reverse
  rw [List.reverse_reverse] at closed
  exact (passed [.endTag closing]).reads
    (repeating_reads (ignored.reads closed))

/-- An end tag with another name is refused, and not consumed. -/
theorem readRest_refuses_closing
    (fit : ∀ fragment ∈ content.filterMap Node.element?,
      fragment.FitsDepth maxDepth)
    {closing : QName} (misnamed : closing.localPart ≠ localPart) :
    Refuses (readRest localPart maxDepth)
      (Node.tokensOfAll content ++ [.endTag closing])
      (.fault (.unexpectedClose closing.localPart)) [.endTag closing] := by
  obtain ⟨trailing, ignored, passed⟩ := readRest_passes localPart fit
  have refused :
      Refuses
        (turn localPart maxDepth (content.filterMap Node.element?).reverse)
        [.endTag closing] (.fault (.unexpectedClose closing.localPart))
        [.endTag closing] := by
    apply (peekBoundary_of_endTag [] _ closing).refuses
    simp only [if_neg misnamed]
    exact Refuses.refuse _ _
  exact (passed [.endTag closing]).refuses
    (repeating_refuses (ignored.refuses refused))

/-- If the stream ends behind the content, this is what is reported. -/
theorem readRest_exhausts
    (localPart : String)
    (fit : ∀ fragment ∈ content.filterMap Node.element?,
      fragment.FitsDepth maxDepth)
    (stream : TokenStream) :
    ∃ stop : TokenStream,
      readRest localPart maxDepth
          (stream.withTokens (Node.tokensOfAll content)) =
          .error (.fault (.streamExhausted localPart)) stop ∧
        stop.Holds [] := by
  obtain ⟨trailing, ignored, passed⟩ := readRest_passes localPart fit
  obtain ⟨middle, reached⟩ := passed [] stream []
  obtain ⟨after, looked⟩ := ignored _ [] middle []
  simp only [List.append_nil] at reached looked
  have ended :
      turn localPart maxDepth (content.filterMap Node.element?).reverse
          (after.withTokens []) =
        .error (.fault (.streamExhausted localPart))
          (after.withTokens []) := rfl
  refine ⟨after.withTokens [], ?_, after.holds_withTokens []⟩
  rw [reached]
  exact repeating_of_error (looked.trans ended)

/-- If not all fragments are within the limit, one of them is the first that is
above it. -/
theorem exists_first_above
    (deep : ¬ ∀ fragment ∈ content.filterMap Node.element?,
      fragment.FitsDepth maxDepth) :
    ∃ (before after : List Node) (fragment : Element),
      content = before ++ fragment.toNode :: after ∧
        ¬ fragment.FitsDepth maxDepth ∧
          ∀ earlier ∈ before.filterMap Node.element?,
            earlier.FitsDepth maxDepth := by
  have present : ((content.filterMap Node.element?).find?
      fun fragment => !decide (fragment.FitsDepth maxDepth)) ≠ none := by
    intro absent
    apply deep
    intro fragment member
    simpa using List.find?_eq_none.mp absent fragment member
  obtain ⟨fragment, found⟩ := Option.ne_none_iff_exists'.mp present
  obtain ⟨before, after, split, earlierFit⟩ := Node.exists_split_at_first found
  refine ⟨before, after, fragment, split, ?_, ?_⟩
  · simpa using List.find?_some found
  · intro earlier member
    simpa using earlierFit earlier member

/-- A fragment that is nested too deeply is refused at the first start tag of
the content below the limit, whatever follows. -/
theorem readRest_refuses_depth
    (localPart : String)
    (deep : ¬ ∀ fragment ∈ content.filterMap Node.element?,
      fragment.FitsDepth maxDepth) :
    ∃ (passed : List Token) (tag : StartTag) (left : List Token),
      Token.FirstBelow (max 1 maxDepth : Nat) (Node.tokensOfAll content)
          passed tag left ∧
        Refuses (readRest localPart maxDepth) (Node.tokensOfAll content)
          (.fault (.depthExceeded maxDepth)) left := by
  obtain ⟨before, after, fragment, rfl, tooDeep, fit⟩ :=
    exists_first_above deep
  obtain ⟨within, tag, left, firstBelow, captureRefuses⟩ :=
    captureElement_refuses tooDeep
  rw [Node.tokensOfAll_around]
  refine ⟨Node.tokensOfAll before ++ within, tag,
    left ++ Node.tokensOfAll after, ?_, ?_⟩
  · have level : Token.level (Node.tokensOfAll before) = 0 :=
      Node.level_tokensOfAll before
    have height : Node.heightOfAll before ≤ max 1 maxDepth :=
      Node.heightOfAll_le_of_elements fit
    have within :
        Token.StaysWithin (max 1 maxDepth : Nat)
          (Node.tokensOfAll before) :=
      Node.staysWithin_tokensOfAll before (by omega)
    apply Token.FirstBelow.behind within
    rw [level, Int.sub_zero]
    exact firstBelow.append (Node.tokensOfAll after)
  · obtain ⟨trailing, ignored, passed⟩ := readRest_passes localPart fit
    have turned :=
      ((turn_elementWise localPart maxDepth).becomes
        (before.filterMap Node.element?).reverse fragment).refuses
        (captureRefuses.bind _)
    have refused :=
      (passed fragment.tokens).refuses
        (repeating_refuses (ignored.refuses turned))
    rw [← List.append_assoc]
    exact refused.append (Node.tokensOfAll after)

/-! ## Elements that hold a list -/

variable {Result : Type}

def readList (localPart : String) (maxDepth : Nat)
    (conclude : StartTag → List Element → Result) : Cursor Result := do
  let tag ← Cursor.enter localPart
  let fragments ← readRest localPart maxDepth
  return conclude tag fragments

/-- How a reader of lists of fragments fares on this content behind this start
tag, whatever follows: which lists are read, to which value, and how the others
fail. -/
structure ReadsList
    (reader : Cursor Result) (localPart : String) (maxDepth : Nat)
    (conclude : StartTag → List Element → Result)
    (tag : StartTag) (content : List Node) (stream : TokenStream) :
    Prop where
  succeeds_iff {closing : QName} (named : closing.localPart = localPart)
      (rest : List Token) :
    (∃ result stop,
      reader (stream.withTokens (.startTag tag ::
          (Node.tokensOfAll content ++ .endTag closing :: rest))) =
        .ok result stop) ↔
      ∀ fragment ∈ content.filterMap Node.element?,
        fragment.height ≤ max 1 maxDepth
  collects {closing : QName} (named : closing.localPart = localPart)
      (rest : List Token)
      (fit : ∀ fragment ∈ content.filterMap Node.element?,
        fragment.height ≤ max 1 maxDepth) :
    ∃ stop : TokenStream,
      reader (stream.withTokens (.startTag tag ::
          (Node.tokensOfAll content ++ .endTag closing :: rest))) =
          .ok (conclude tag (content.filterMap Node.element?)) stop ∧
        stop.Holds rest
  refuses_depth (rest : List Token)
      (deep : ¬ ∀ fragment ∈ content.filterMap Node.element?,
        fragment.height ≤ max 1 maxDepth) :
    ∃ (passed : List Token) (below : StartTag) (left : List Token)
        (stop : TokenStream),
      Token.FirstBelow (max 1 maxDepth : Nat) (Node.tokensOfAll content)
          passed below left ∧
        reader (stream.withTokens (.startTag tag ::
            (Node.tokensOfAll content ++ rest))) =
            .error (.fault (.depthExceeded maxDepth)) stop ∧
          stop.Holds (left ++ rest)
  refuses_closing {closing : QName}
      (misnamed : closing.localPart ≠ localPart) (rest : List Token)
      (fit : ∀ fragment ∈ content.filterMap Node.element?,
        fragment.height ≤ max 1 maxDepth) :
    ∃ stop : TokenStream,
      reader (stream.withTokens (.startTag tag ::
          (Node.tokensOfAll content ++ .endTag closing :: rest))) =
          .error (.fault (.unexpectedClose closing.localPart)) stop ∧
        stop.Holds (.endTag closing :: rest)
  exhausts
      (fit : ∀ fragment ∈ content.filterMap Node.element?,
        fragment.height ≤ max 1 maxDepth) :
    ∃ stop : TokenStream,
      reader (stream.withTokens (.startTag tag ::
          Node.tokensOfAll content)) =
          .error (.fault (.streamExhausted localPart)) stop ∧
        stop.Holds []

theorem readList_readsList
    (conclude : StartTag → List Element → Result)
    {tag : StartTag} (named : tag.localName = localPart)
    (maxDepth : Nat) (content : List Node) (stream : TokenStream) :
    ReadsList (readList localPart maxDepth conclude) localPart maxDepth
      conclude tag content stream := by
  let behindTag (tag : StartTag) : Cursor Result :=
    readRest localPart maxDepth >>= fun fragments =>
      pure (conclude tag fragments)
  have entered (tokens : List Token) :
      Becomes (readList localPart maxDepth conclude)
        (.startTag tag :: tokens) (behindTag tag) tokens :=
    enter_becomes named behindTag tokens
  have collects {closing : QName} (closed : closing.localPart = localPart)
      (rest : List Token)
      (fit : ∀ fragment ∈ content.filterMap Node.element?,
        fragment.FitsDepth maxDepth) :
      ∃ stop : TokenStream,
        readList localPart maxDepth conclude
            (stream.withTokens (.startTag tag ::
              (Node.tokensOfAll content ++ .endTag closing :: rest))) =
            .ok (conclude tag (content.filterMap Node.element?)) stop ∧
          stop.Holds rest := by
    have read := (entered _).reads
      ((readRest_reads_content fit closed).bind_last (Reads.pure _))
    apply read.holds
    simp
  have refuses {failure : Failure} {tokens left : List Token}
      (refused :
        Refuses (readRest localPart maxDepth) tokens failure left)
      (rest : List Token) :
      ∃ stop : TokenStream,
        readList localPart maxDepth conclude
            (stream.withTokens (.startTag tag :: (tokens ++ rest))) =
            .error failure stop ∧
          stop.Holds (left ++ rest) :=
    ((entered tokens).refuses (refused.bind _)).holds stream rest
  constructor
  case collects => exact collects
  case succeeds_iff =>
    intro closing closed rest
    constructor
    · rintro ⟨result, stop, succeeded⟩
      by_contra deep
      obtain ⟨passed, below, left, _, refused⟩ :=
        readRest_refuses_depth localPart deep
      obtain ⟨after, failed, _⟩ := refuses refused (.endTag closing :: rest)
      rw [succeeded] at failed
      cases failed
    · intro fit
      obtain ⟨stop, succeeded, _⟩ := collects closed rest fit
      exact ⟨_, stop, succeeded⟩
  case refuses_depth =>
    intro rest deep
    obtain ⟨passed, below, left, firstBelow, refused⟩ :=
      readRest_refuses_depth localPart deep
    obtain ⟨stop, failed, stopped⟩ := refuses refused rest
    exact ⟨passed, below, left, stop, firstBelow, failed, stopped⟩
  case refuses_closing =>
    intro closing misnamed rest fit
    have refused := refuses (readRest_refuses_closing fit misnamed) rest
    simpa using refused
  case exhausts =>
    intro fit
    obtain ⟨middle, equality⟩ := entered (Node.tokensOfAll content) stream []
    obtain ⟨stop, failed, stopped⟩ := readRest_exhausts localPart fit middle
    rw [List.append_nil, List.append_nil] at equality
    refine ⟨stop, ?_, stopped⟩
    rw [equality]
    exact bind_of_error failed

end Fragment

/-- The tokens of a response and the content of a reference are read exactly if
no fragment is higher than the limit, to all fragments in document order, each
as it was, and up to their own end tag.  A fragment above the limit is refused
whatever follows, an end tag with another name and the end of the stream behind
fragments within the limit. -/
theorem fragment_lists_are_captured_in_order
    (maxDepth : Nat) (tag : StartTag) (content : List Node)
    (stream : TokenStream) :
    (tag.localName = "RequestedSecurityToken" →
      Fragment.ReadsList (RequestedToken.read maxDepth)
        "RequestedSecurityToken" maxDepth (fun _ any => ⟨any⟩)
        tag content stream) ∧
    (tag.localName = "SecurityTokenReference" →
      Fragment.ReadsList (TokenReference.read maxDepth)
        "SecurityTokenReference" maxDepth
        (fun tag any =>
          { TokenReference.ofAttributes tag.attributes with any })
        tag content stream) := by
  constructor
  · intro named
    exact Fragment.readList_readsList _ named maxDepth content stream
  · intro named
    exact Fragment.readList_readsList _ named maxDepth content stream

/-- Two fragments between texts.  In the second one stands an element with the
name of the element around the list. -/
def issuedContent : List Node :=
  [.text "\n ", (Element.ofName (QName.ofLocal "Assertion")).toNode,
    .text " ",
    .element (QName.ofLocal "Sealed") []
      [.text " kept ",
        (Element.ofName (QName.ofLocal "RequestedSecurityToken")).toNode]]

def issuedFragments : List Element :=
  [Element.ofName (QName.ofLocal "Assertion"),
    ⟨QName.ofLocal "Sealed", [],
      [.text " kept ",
        (Element.ofName (QName.ofLocal "RequestedSecurityToken")).toNode]⟩]

theorem issuedContent_is_captured_in_order :
    (∃ stop : TokenStream,
      RequestedToken.read 2
          (.ofTokens (.startTag ⟨QName.ofLocal "RequestedSecurityToken", []⟩ ::
            (Node.tokensOfAll issuedContent ++
              .endTag (QName.ofLocal "RequestedSecurityToken") ::
                [.text "behind"]))) =
          .ok ⟨issuedFragments⟩ stop ∧
        stop.Holds [.text "behind"]) ∧
    (∃ (passed : List Token) (below : StartTag) (left : List Token)
        (stop : TokenStream),
      Token.FirstBelow (max 1 1 : Nat) (Node.tokensOfAll issuedContent)
          passed below left ∧
        TokenReference.read 1
            (.ofTokens (.startTag
                ⟨QName.ofLocal "SecurityTokenReference", []⟩ ::
              (Node.tokensOfAll issuedContent ++
                [.endTag (QName.ofLocal "Other")]))) =
            .error (.fault (.depthExceeded 1)) stop ∧
          stop.Holds (left ++ [.endTag (QName.ofLocal "Other")])) ∧
    ∃ stop : TokenStream,
      TokenReference.read 2
          (.ofTokens (.startTag ⟨QName.ofLocal "SecurityTokenReference", []⟩ ::
            (Node.tokensOfAll issuedContent ++
              [.endTag (QName.ofLocal "Other")]))) =
          .error (.fault (.unexpectedClose "Other")) stop ∧
        stop.Holds [.endTag (QName.ofLocal "Other")] := by
  have fit : ∀ fragment ∈ issuedContent.filterMap Node.element?,
      fragment.height ≤ max 1 2 := by decide
  have deep : ¬ ∀ fragment ∈ issuedContent.filterMap Node.element?,
      fragment.height ≤ max 1 1 := by decide
  have issued := (fragment_lists_are_captured_in_order 2
    ⟨QName.ofLocal "RequestedSecurityToken", []⟩ issuedContent
    (.ofTokens [])).1 rfl
  have limited := (fragment_lists_are_captured_in_order 1
    ⟨QName.ofLocal "SecurityTokenReference", []⟩ issuedContent
    (.ofTokens [])).2 rfl
  have referring := (fragment_lists_are_captured_in_order 2
    ⟨QName.ofLocal "SecurityTokenReference", []⟩ issuedContent
    (.ofTokens [])).2 rfl
  exact ⟨issued.collects rfl [.text "behind"] fit,
    limited.refuses_depth [.endTag (QName.ofLocal "Other")] deep,
    referring.refuses_closing (by decide) [] fit⟩

end WsTrust
