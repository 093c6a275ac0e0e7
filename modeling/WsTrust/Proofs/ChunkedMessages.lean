import WsTrust.Proofs.Chunks
import WsTrust.Proofs.JoinedTexts
import WsTrust.Proofs.MappedFragments

/-!
# Messages with their texts in chunks

Where texts are divided into chunks the same messages are read: the values that
are read from texts are equal, and a fragment has the chunks as texts side by
side, so that it is equal once these are joined, and is written as before.
-/

namespace WsTrust

open Token (Chunked)

namespace Cursor

/-! ## Readers that pass over texts -/

theorem DecideAlike.refl
    {State Result : Type} (decision : Except Failure (Turn State Result)) :
    DecideAlike Eq Eq decision decision := by
  rcases decision with failure | turn
  · exact .error failure
  · cases turn with
    | again state => exact .ok (.again rfl)
    | done result => exact .ok (.done rfl)

/-- A step to which texts make no difference. -/
theorem TakesInChunks.of_passing
    {State Result : Type}
    {step : State → Token → Except Failure (Turn State Result)}
    (passes : ∀ state content,
      step state (.text content) = .ok (.again state)) :
    TakesInChunks step (fun state _ => state) Eq Eq where
  text := passes
  chunks := by
    rintro state _ rfl first others
    exact (List.foldl_fixed (first :: others)).symm
  tag := by
    rintro state _ rfl token _
    exact .refl _

theorem nextStartTag_overlooksChunks (expected : String) :
    OverlooksChunks Eq (nextStartTag expected) (nextStartTag expected) :=
  scan_overlooksChunks (.of_passing fun _ _ => rfl) rfl

theorem nextEndTag_overlooksChunks (expected : String) :
    OverlooksChunks Eq (nextEndTag expected) (nextEndTag expected) :=
  scan_overlooksChunks (.of_passing fun _ _ => rfl) rfl

theorem expectEndTag_overlooksChunks (localPart : String) :
    OverlooksChunks Eq (expectEndTag localPart) (expectEndTag localPart) := by
  refine (nextEndTag_overlooksChunks localPart).bind_eq fun name => ?_
  rw [expectName]
  split
  · exact .pure rfl
  · exact .refuse _ _

theorem skipElement_overlooksChunks :
    OverlooksChunks Eq skipElement skipElement := by
  refine (nextStartTag_overlooksChunks "element").bind_eq fun _ => ?_
  refine scan_overlooksChunks (.of_passing fun inner content => ?_) rfl
  cases inner <;> rfl

/-! ## Values -/

theorem foldl_append_eq_join (text : String) (chunks : List String) :
    chunks.foldl (fun earlier content => earlier ++ content) text =
      text ++ String.join chunks := by
  induction chunks generalizing text with
  | nil => rw [List.foldl_nil, String.join_nil, String.append_empty]
  | cons first rest inductionHypothesis =>
      rw [List.foldl_cons, inductionHypothesis, String.join_cons,
        String.append_assoc]

theorem joinText_takesInChunks (within : String) :
    TakesInChunks (joinText within) (fun text content => text ++ content) Eq
      Eq where
  text _ _ := rfl
  chunks := by
    rintro text _ rfl first others
    exact (foldl_append_eq_join text (first :: others)).symm
  tag := by
    rintro text _ rfl token _
    exact .refl _

theorem elementText_overlooksChunks (within : String) :
    OverlooksChunks Eq (elementText within) (elementText within) := by
  rw [elementText_eq_scan]
  exact scan_overlooksChunks (joinText_takesInChunks within) rfl

theorem requiredText_overlooksChunks (within what : String) :
    OverlooksChunks Eq (requiredText within what)
      (requiredText within what) := by
  refine hasTextAhead_overlooksChunks.bind_eq fun ahead => ?_
  split
  · refine (elementText_overlooksChunks within).bind_eq fun text => ?_
    split
    · exact .raise _ _
    · exact .pure rfl
  · exact .raise _ _

/-- A reader of an element that holds one value. -/
theorem scalar_overlooksChunks
    (localPart what : String) {Result : Type}
    {next : String → Cursor Result}
    (onwards : ∀ text, OverlooksChunks Eq (next text) (next text)) :
    OverlooksChunks Eq
      (nextStartTag localPart >>= fun _ =>
        requiredText localPart what >>= next)
      (nextStartTag localPart >>= fun _ =>
        requiredText localPart what >>= next) := by
  refine (nextStartTag_overlooksChunks localPart).bind_eq fun _ => ?_
  exact (requiredText_overlooksChunks localPart what).bind_eq onwards

theorem readUri_overlooksChunks (localPart what : String) :
    OverlooksChunks Eq (Scalar.readUri localPart what)
      (Scalar.readUri localPart what) := by
  refine scalar_overlooksChunks localPart what fun text => ?_
  split
  · exact .pure rfl
  · exact .raise _ _

theorem readInteger_overlooksChunks (localPart what : String) :
    OverlooksChunks Eq (Scalar.readInteger localPart what)
      (Scalar.readInteger localPart what) := by
  refine scalar_overlooksChunks localPart what fun text => ?_
  split
  · exact .pure rfl
  · exact .raise _ _

/-! ## Fragments -/

/-- Elements that are being captured and will be equal once the texts in them
are joined. -/
structure Unclosed.JoinAlike (left right : Unclosed) : Prop where
  tag : left.tag = right.tag
  children :
    Node.joinTextsAll left.reversedChildren.reverse =
      Node.joinTextsAll right.reversedChildren.reverse

namespace Unclosed.JoinAlike

theorem refl (unclosed : Unclosed) : unclosed.JoinAlike unclosed :=
  ⟨rfl, rfl⟩

variable {left right : Unclosed} (alike : left.JoinAlike right)

include alike

theorem push
    {child other : Node} (children : child.joinTexts = other.joinTexts) :
    (left.push child).JoinAlike (right.push other) := by
  refine ⟨alike.tag, ?_⟩
  simp only [Unclosed.push, List.reverse_cons, Node.joinTextsAll_append,
    Node.joinTextsAll, alike.children, children]

theorem close : left.close.joinTexts = right.close.joinTexts := by
  rw [Element.joinTexts, Element.joinTexts, Unclosed.close, Unclosed.close,
    alike.tag]
  exact congrArg (Element.mk _ _) alike.children

end Unclosed.JoinAlike

/-- The captured element with a text as the last child of the innermost
one. -/
def pushText (unclosed : Unclosed × List Unclosed) (content : String) :
    Unclosed × List Unclosed :=
  (unclosed.1.push (.text content), unclosed.2)

/-- Captures whose elements will be equal once the texts in them are joined,
the innermost and those around it. -/
structure CapturesJoinAlike
    (left right : Unclosed × List Unclosed) : Prop where
  inner : left.1.JoinAlike right.1
  outer : List.Forall₂ Unclosed.JoinAlike left.2 right.2

/-- Texts are the last children in the order in which they were pushed. -/
theorem foldl_pushText
    (unclosed : Unclosed × List Unclosed) (chunks : List String) :
    chunks.foldl pushText unclosed =
      (⟨unclosed.1.tag,
        (chunks.map Node.text).reverse ++ unclosed.1.reversedChildren⟩,
        unclosed.2) := by
  induction chunks generalizing unclosed with
  | nil => rfl
  | cons first rest inductionHypothesis =>
      rw [List.foldl_cons, inductionHypothesis]
      simp [pushText, Unclosed.push]

theorem CapturesJoinAlike.pushTexts
    {left right : Unclosed × List Unclosed}
    (alike : CapturesJoinAlike left right)
    (first : String) (others : List String) :
    CapturesJoinAlike (pushText left (String.join (first :: others)))
      ((first :: others).foldl pushText right) := by
  rw [foldl_pushText]
  refine ⟨⟨alike.inner.tag, ?_⟩, alike.outer⟩
  rw [pushText, Unclosed.push, List.reverse_cons, List.reverse_append,
    List.reverse_reverse, Node.joinTextsAll_append, Node.joinTextsAll_append,
    alike.inner.children, Node.joinTextsAll_texts]
  rfl

theorem captureStep_takesInChunks (maxDepth : Nat) :
    TakesInChunks (captureStep maxDepth) pushText CapturesJoinAlike
      fun left right => left.joinTexts = right.joinTexts where
  text _ _ := rfl
  chunks alike := alike.pushTexts
  tag := by
    rintro ⟨left, leftOuter⟩ ⟨right, rightOuter⟩ ⟨inner, outer⟩ token isTag
    cases token with
    | text content => cases isTag
    | startTag tag =>
        have sameDepth : leftOuter.length = rightOuter.length :=
          outer.length_eq
        simp only [captureStep, sameDepth]
        split
        · exact .error _
        · exact .ok (.again ⟨.refl _, .cons inner outer⟩)
    | endTag name =>
        cases outer with
        | nil => exact .ok (.done inner.close)
        | cons parent outer =>
            have closed := congrArg Element.toNode inner.close
            exact .ok (.again ⟨parent.push closed, outer⟩)

theorem captureContent_overlooksChunks (maxDepth : Nat) (tag : StartTag) :
    OverlooksChunks (fun left right => left.joinTexts = right.joinTexts)
      (scan "end tag" (captureStep maxDepth) (.ofTag tag, []))
      (scan "end tag" (captureStep maxDepth) (.ofTag tag, [])) :=
  scan_overlooksChunks (captureStep_takesInChunks maxDepth)
    ⟨.refl (.ofTag tag), .nil⟩

/-- Prepared tokens are the same however texts are reported. -/
theorem verbatim_overlooksChunks
    {Left Right : Type} {related : Left → Right → Prop}
    {left : Cursor Left} {right : Cursor Right}
    (reading : OverlooksChunks related left right) :
    OverlooksChunks related (verbatim left) (verbatim right) := by
  intro tokens chunked divided stream other
  have ended := reading divided (stream.withVerbatim true)
    (other.withVerbatim true)
  generalize
    leftRead : left ((stream.withVerbatim true).withTokens tokens) = leftEnd,
    rightRead : right ((other.withVerbatim true).withTokens chunked) = rightEnd
    at ended
  have leftVerbatim :
      left ((stream.withTokens tokens).withVerbatim true) = leftEnd := leftRead
  have rightVerbatim :
      right ((other.withTokens chunked).withVerbatim true) = rightEnd :=
    rightRead
  cases ended with
  | error failure =>
      rw [verbatim_of_error leftVerbatim, verbatim_of_error rightVerbatim]
      exact .error failure
  | ok results split splitChunks consumes leaves holds holdsChunks =>
      rw [verbatim_of_ok leftVerbatim, verbatim_of_ok rightVerbatim]
      exact .ok results split splitChunks consumes leaves holds holdsChunks

theorem captureElement_overlooksChunks (maxDepth : Nat) :
    OverlooksChunks (fun left right => left.joinTexts = right.joinTexts)
      (captureElement maxDepth) (captureElement maxDepth) := by
  intro tokens chunked divided stream other
  rw [captureElement]
  cases divided with
  | nil =>
      rw [bind_of_ok (next_nil stream), bind_of_ok (next_nil other)]
      exact .error _
  | @tag token tokens chunked isTag rest =>
      rw [bind_of_ok (next_cons stream token tokens),
        bind_of_ok (next_cons other token chunked)]
      cases token with
      | text content => cases isTag
      | endTag name => exact .error _
      | startTag tag =>
          have consumed : Chunked [.startTag tag] [.startTag tag] :=
            .tag isTag .nil
          have captures := captureContent_overlooksChunks maxDepth tag
          exact (verbatim_overlooksChunks captures rest stream other).after
            consumed rfl rfl
  | @text first others tokens chunked _ =>
      rw [List.map_cons, List.cons_append,
        bind_of_ok (next_cons stream _ tokens),
        bind_of_ok (next_cons other (.text first) _)]
      exact .error _

end Cursor

/-! ## Messages -/

/-- Values are compared as they are, and fragments once the texts in them are
joined. -/
def Comparison.joined : Comparison where
  value := Eq
  element left right := left.joinTexts = right.joinTexts
  attributes := Eq

/-- Readers of messages overlook how texts are divided into chunks. -/
theorem Cursor.OverlooksChunks.correspondence :
    Correspondence Eq (fun _ => True) .joined OverlooksChunks where
  localName_eq := by
    rintro left _ rfl
    rfl
  attribute?_eq := by
    rintro left _ rfl localPart
    rfl
  ofAttributes := by
    rintro left _ rfl
    exact ⟨rfl, rfl, rfl, List.forall₂_same.mpr fun _ _ => rfl⟩
  emptyValue := rfl
  closes _ := trivial
  pure := .pure
  refuse related fault _ := .refuse related fault
  raise := .raise
  bind := .bind
  nextStartTag := nextStartTag_overlooksChunks
  expectEndTag _ := expectEndTag_overlooksChunks _
  peekStartTag := peekStartTag_overlooksChunks
  peekChild := peekChild_overlooksChunks
  elementText := elementText_overlooksChunks
  requiredText := requiredText_overlooksChunks
  readUri := readUri_overlooksChunks
  readInteger := readInteger_overlooksChunks
  skipElement := skipElement_overlooksChunks
  captureElement := captureElement_overlooksChunks
  atBoundary opening closing ended := by
    obtain ⟨localPart, left, right, _, results, closed⟩ := closing
    refine atBoundary_overlooksChunks (fun tag => opening tag tag rfl)
      (fun name => ?_) ended
    rw [(closed name).1, (closed name).2]
    exact closeWith_overlooksChunks results localPart name
  atTag opening closing texts ended := by
    obtain ⟨localPart, left, right, _, results, closed⟩ := closing
    obtain ⟨fault, _, refused⟩ := texts
    refine atTag_overlooksChunks (fun tag => opening tag tag rfl)
      (fun name => ?_) refused ended
    rw [(closed name).1, (closed name).2]
    exact closeWith_overlooksChunks results localPart name
  repeating := repeating_overlooksChunks

namespace Payload

/-- Both readings give messages that are equal once the texts in their fragments
are joined, with the same summaries and with fragments that are written alike,
or both fail for the same reason. -/
def SameUpToChunks (left right : EStateM.Result Failure TokenStream Payload) :
    Prop :=
  match left, right with
  | .ok payload _, .ok other _ =>
      payload.mapFragments Element.joinTexts =
          other.mapFragments Element.joinTexts ∧
        payload.summaries = other.summaries ∧
        payload.fragments.map Element.toXml =
          other.fragments.map Element.toXml
  | .error failure _, .error other _ => failure = other
  | _, _ => False

/-- Messages that are equal once the texts in their fragments are joined are
summed up alike, and their fragments are written alike. -/
theorem shown_eq_of_joined
    {left right : Payload}
    (joined :
      left.mapFragments Element.joinTexts =
        right.mapFragments Element.joinTexts) :
    left.summaries = right.summaries ∧
      left.fragments.map Element.toXml =
        right.fragments.map Element.toXml := by
  have written (payload : Payload) :
      payload.fragments.map Element.toXml =
        (payload.mapFragments Element.joinTexts).fragments.map
          Element.toXml := by
    rw [fragments_mapFragments, List.map_map]
    exact List.map_congr_left fun fragment _ =>
      fragment.toXml_joinTexts.symm
  constructor
  · rw [← summaries_mapFragments Element.text_joinTexts left, joined,
      summaries_mapFragments Element.text_joinTexts]
  · rw [written left, joined, ← written right]

/-- How texts are divided into chunks does not influence what is read from
prepared tokens. -/
theorem chunks_never_influence_reading
    {registry : Registry} (plain : registry.IsPlain) (maxDepth : Nat)
    {tokens chunked : List Token} (divided : Chunked tokens chunked) :
    SameUpToChunks (read registry maxDepth (.ofTokens tokens))
      (read registry maxDepth (.ofTokens chunked)) := by
  have corresponds := Cursor.OverlooksChunks.correspondence
  have overlooks :=
    corresponds.readPayload
      (corresponds.plainExtensions plain fun left right same => by rw [same])
      (fun related left right same => same ▸ .refuse related _)
      (fun _ => trivial) maxDepth
  have ended := overlooks divided (.ofTokens tokens) (.ofTokens chunked)
  have left := (TokenStream.holds_ofTokens tokens).eq_withTokens
  have right := (TokenStream.holds_ofTokens chunked).eq_withTokens
  rw [← left, ← right] at ended
  generalize read registry maxDepth (.ofTokens tokens) = leftEnd,
    read registry maxDepth (.ofTokens chunked) = rightEnd at ended
  cases ended with
  | error failure => rfl
  | ok payloads _ _ _ _ _ _ =>
      have joined :=
        payloads.mapFragments_eq (fun _ _ same => same)
          (fun _ _ same => same) (fun _ _ same => same)
      exact ⟨joined, shown_eq_of_joined joined⟩

/-- A request with the size of a key and an identity, the texts of which are in
these chunks. -/
def requestInChunks (number identity : List String) : List Token :=
  .startTag ⟨.ofLocal "RequestSecurityToken", []⟩ ::
    .startTag ⟨.ofLocal "KeySize", []⟩ ::
      (number.map .text ++
        .endTag (.ofLocal "KeySize") ::
          .startTag ⟨.ofLocal "OnBehalfOf", []⟩ ::
            .startTag ⟨.ofLocal "Id", []⟩ ::
              (identity.map .text ++
                [.endTag (.ofLocal "Id"), .endTag (.ofLocal "OnBehalfOf"),
                  .endTag (.ofLocal "RequestSecurityToken")]))

theorem requestInChunks_chunked
    (number : String) (numbers : List String)
    (identity : String) (identities : List String) :
    Chunked
      (requestInChunks [String.join (number :: numbers)]
        [String.join (identity :: identities)])
      (requestInChunks (number :: numbers) (identity :: identities)) := by
  refine .tag rfl (.tag rfl (.text number numbers ?_))
  refine .tag rfl (.tag rfl (.tag rfl (.text identity identities ?_)))
  exact .tag rfl (.tag rfl (.tag rfl .nil))

theorem requestInChunks_is_read_alike :
    Registry.standard.IsPlain ∧
      Chunked (requestInChunks [" 256"] ["bc"])
        (requestInChunks ["", " 2", "56"] ["b", "", "c"]) ∧
      SameUpToChunks
        (read .standard 8 (.ofTokens (requestInChunks [" 256"] ["bc"])))
        (read .standard 8
          (.ofTokens (requestInChunks ["", " 2", "56"] ["b", "", "c"]))) := by
  have plain : Registry.standard.IsPlain := Or.inr rfl
  have number : String.join ["", " 2", "56"] = " 256" := by decide
  have identity : String.join ["b", "", "c"] = "bc" := by decide
  have divided := requestInChunks_chunked "" [" 2", "56"] "b" ["", "c"]
  rw [number, identity] at divided
  exact ⟨plain, divided, chunks_never_influence_reading plain 8 divided⟩

end Payload

end WsTrust
