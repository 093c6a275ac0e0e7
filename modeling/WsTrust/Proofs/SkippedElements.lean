import WsTrust.Proofs.DividedTexts
import WsTrust.Proofs.LookingAhead

/-!
# Where skipping and capturing end

Skipping an element counts the elements that are open, and capturing it keeps
them; the count is the number of those kept.  Text is passed over by the one,
trimmed, and kept by the other, verbatim, and neither ends at it.  So both end
at the same item of the stream, unless the capture ends earlier at a start tag
below the limit.
-/

namespace WsTrust.Cursor

variable {State Result : Type} {maxDepth : Nat}

/-! ## Single tokens and scans -/

/-- A scan that is done with the next token consumes no more than this. -/
theorem scan_of_next
    {expected : String}
    {step : State → Token → Except Failure (Turn State Result)}
    {stream entered : TokenStream} {token : Token}
    (ahead : next stream = .ok (some token) entered)
    {state : State} {result : Result}
    (decided : step state token = .ok (.done result)) :
    scan expected step state stream = .ok result entered := by
  have scanned {items rest : List Item}
      (reported :
        firstReport? stream.trimming items = some (.ok token, rest)) :
      scan.scanItems expected step stream items state =
        .ok result { stream with items := rest } := by
    induction items with
    | nil => cases reported
    | cons item items inductionHypothesis =>
        rw [firstReport?] at reported
        rw [scan.scanItems]
        cases read : item.read? stream.trimming with
        | none =>
            rw [read] at reported
            exact inductionHypothesis reported
        | some report =>
            rw [read] at reported
            cases reported
            simp only [decided]
  rw [next] at ahead
  split at ahead
  · rename_i reported
    cases ahead
    exact scanned reported
  · cases ahead
  · cases ahead

/-- A scan stops within the items that it has been given. -/
theorem scanItems_stops
    {expected : String}
    {step : State → Token → Except Failure (Turn State Result)}
    (stream : TokenStream) (items : List Item) (state : State) :
    ∃ left, left <:+ items ∧
      stopOf (scan.scanItems expected step stream items state) =
        { stream with items := left } := by
  induction items generalizing state with
  | nil => exact ⟨[], List.suffix_refl [], rfl⟩
  | cons item rest inductionHypothesis =>
      have behind : rest <:+ item :: rest := List.suffix_cons item rest
      have continued (later : State) :
          ∃ left, left <:+ item :: rest ∧
            stopOf (scan.scanItems expected step stream rest later) =
              { stream with items := left } := by
        obtain ⟨left, suffix, stopped⟩ := inductionHypothesis later
        exact ⟨left, suffix.trans behind, stopped⟩
      rw [scan.scanItems]
      cases item.read? stream.trimming with
      | none => exact continued state
      | some report =>
          cases report with
          | error fault => exact ⟨rest, behind, rfl⟩
          | ok token =>
              simp only
              cases step state token with
              | error failure => exact ⟨rest, behind, rfl⟩
              | ok turn =>
                  cases turn with
                  | done result => exact ⟨rest, behind, rfl⟩
                  | again later => exact continued later

/-- Consuming the next token leaves nothing that has been looked at. -/
theorem next_stops
    (stream : TokenStream) {peeked : Option Token} {unread : List Item}
    (held : stream.items = (peeked.map Item.token).toList ++ unread) :
    ∃ left, left <:+ unread ∧
      stopOf (next stream) = { stream with items := left } := by
  cases peeked with
  | some token =>
      have reported : firstReport? stream.trimming stream.items =
          some (.ok token, unread) := by
        rw [held]
        rfl
      rw [next, reported]
      exact ⟨unread, List.suffix_refl unread, rfl⟩
  | none =>
      have items : stream.items = unread := held
      rw [next]
      cases found : firstReport? stream.trimming stream.items with
      | none => exact ⟨[], List.nil_suffix, rfl⟩
      | some first =>
          obtain ⟨report, rest⟩ := first
          have suffix := firstReport?_suffix found
          rw [items] at suffix
          cases report with
          | error fault => exact ⟨rest, suffix, rfl⟩
          | ok token => exact ⟨rest, suffix, rfl⟩

theorem stopOf_verbatim (reader : Cursor Result) (stream : TokenStream) :
    stopOf (verbatim reader stream) =
      (stopOf (reader (stream.withVerbatim true))).withVerbatim false := by
  cases read : reader (stream.withVerbatim true) with
  | ok result rest =>
      rw [verbatim_of_ok read]
      rfl
  | error failure rest =>
      rw [verbatim_of_error read]
      rfl

theorem verbatim_scan_stops
    (expected : String)
    (step : State → Token → Except Failure (Turn State Result))
    (stream : TokenStream) (state : State) :
    ∃ left, left <:+ stream.items ∧
      stopOf (verbatim (scan expected step state) stream) =
        { stream with items := left, verbatim := false } := by
  obtain ⟨left, suffix, stopped⟩ :=
    scanItems_stops (stream.withVerbatim true) stream.items state
  have scanStops :
      stopOf (scan expected step state (stream.withVerbatim true)) =
        { stream.withVerbatim true with items := left } := stopped
  refine ⟨left, suffix, ?_⟩
  rw [stopOf_verbatim, scanStops]
  rfl

/-! ## Two scans of one element -/

/-- How the scans that capture and that skip an element end on the items of one
stream: at the same place, or the capture below the limit. -/
inductive EndTogether (maxDepth : Nat) (stream : TokenStream) :
    EStateM.Result Failure TokenStream Element →
      EStateM.Result Failure TokenStream Unit → Prop
  | ok (element : Element) (left : List Item) :
      EndTogether maxDepth stream
        (.ok element { stream with items := left, verbatim := true })
        (.ok () { stream with items := left })
  | error (failure : Failure) (left : List Item) :
      EndTogether maxDepth stream
        (.error failure { stream with items := left, verbatim := true })
        (.error failure { stream with items := left })
  | below (stop : TokenStream)
      (skipped : EStateM.Result Failure TokenStream Unit) :
      EndTogether maxDepth stream
        (.error (.fault (.depthExceeded maxDepth)) stop) skipped

/-- The two scans end together if as many elements are open for the one as
the other has counted. -/
theorem scans_end_together
    (stream : TokenStream) (items : List Item) (inner : Unclosed)
    (outer : List Unclosed) :
    EndTogether maxDepth stream
      (scan.scanItems "end tag" (captureStep maxDepth)
        (stream.withVerbatim true) items (inner, outer))
      (scan.scanItems "end tag" skipStep stream items outer.length) := by
  induction items generalizing inner outer with
  | nil => exact EndTogether.error _ []
  | cons item rest inductionHypothesis =>
      cases item with
      | fault cause => exact EndTogether.error _ rest
      | token delivered =>
          cases delivered with
          | text content =>
              exact inductionHypothesis (inner.push (.text content)) outer
          | startTag tag =>
              by_cases full : maxDepth ≤ outer.length + 1
              · have refused : captureStep maxDepth (inner, outer)
                    (.startTag tag) =
                    .error (.fault (.depthExceeded maxDepth)) := by
                  rw [captureStep, if_pos full]
                simp only [scan.scanItems, Item.read?, refused]
                exact EndTogether.below _ _
              · have entered : captureStep maxDepth (inner, outer)
                    (.startTag tag) =
                    .ok (.again (.ofTag tag, inner :: outer)) := by
                  rw [captureStep, if_neg full]
                simp only [scan.scanItems, Item.read?, entered]
                exact inductionHypothesis (.ofTag tag) (inner :: outer)
          | endTag name =>
              cases outer with
              | nil => exact EndTogether.ok inner.close rest
              | cons parent others =>
                  exact inductionHypothesis
                    (parent.push inner.close.toNode) others
      | characters content =>
          have skips :
              scan.scanItems "end tag" skipStep stream
                  (.characters content :: rest) outer.length =
                scan.scanItems "end tag" skipStep stream rest
                  outer.length := by
            rw [scanItems_characters (fun _ counted => counted)
              (fun _ _ => rfl), absorb, ite_self]
          rw [skips, scanItems_characters
            (fun text opened => (opened.1.push (.text text), opened.2))
            (fun _ _ => rfl), absorb]
          by_cases nothing :
              shown (stream.withVerbatim true).trimming content = ""
          · rw [if_pos nothing]
            exact inductionHypothesis inner outer
          · rw [if_neg nothing]
            exact inductionHypothesis (inner.push (.text _)) outer

/-- Capturing and skipping the element that is next end together. -/
theorem captureElement_skipElement_end_together
    {stream entered : TokenStream} {tag : StartTag}
    (ahead : next stream = .ok (some (.startTag tag)) entered) :
    ∃ captured,
      captureElement maxDepth stream = verbatim captured entered ∧
        EndTogether maxDepth entered
          (captured (entered.withVerbatim true)) (skipElement stream) := by
  have opened : nextStartTag "element" stream = .ok tag entered :=
    scan_of_next ahead rfl
  refine ⟨scan "end tag" (captureStep maxDepth) (.ofTag tag, []), ?_, ?_⟩
  · rw [captureElement, bind_of_ok ahead]
  · rw [skipElement_eq, bind_of_ok opened]
    exact scans_end_together entered entered.items (.ofTag tag) []

/-! ## Where both end -/

/-- A capture that succeeds ends where skipping ends, in verbatim mode or not as
the stream was before. -/
theorem skipElement_of_captureElement
    {stream entered stop : TokenStream} {tag : StartTag} {element : Element}
    (ahead : next stream = .ok (some (.startTag tag)) entered)
    (captured : captureElement maxDepth stream = .ok element stop) :
    skipElement stream = .ok () (stop.withVerbatim entered.verbatim) := by
  obtain ⟨reader, capture, together⟩ :=
    captureElement_skipElement_end_together ahead
  rw [capture] at captured
  obtain ⟨after, scanned, rfl⟩ := verbatim_eq_ok_iff.mp captured
  rw [scanned] at together
  generalize skipElement stream = skipped at together
  cases together
  rfl

/-- Where skipping succeeds, a capture ends at the same place or below the
limit. -/
theorem captureElement_of_skipElement
    {stream entered left : TokenStream} {tag : StartTag}
    (ahead : next stream = .ok (some (.startTag tag)) entered)
    (skipped : skipElement stream = .ok () left) :
    (∃ element,
      captureElement maxDepth stream =
        .ok element (left.withVerbatim false)) ∨
    ∃ stop, captureElement maxDepth stream =
      .error (.fault (.depthExceeded maxDepth)) stop := by
  obtain ⟨reader, capture, together⟩ :=
    captureElement_skipElement_end_together ahead
  rw [skipped] at together
  generalize scanned : reader (entered.withVerbatim true) = outcome
    at together
  cases together with
  | ok element items =>
      left
      refine ⟨element, ?_⟩
      rw [capture, verbatim_of_ok scanned]
      rfl
  | below stop skipped =>
      right
      exact ⟨_, by rw [capture, verbatim_of_error scanned]⟩

theorem verbatim_of_next
    {stream entered : TokenStream} {token : Token}
    (ahead : next stream = .ok (some token) entered) :
    entered.verbatim = stream.verbatim := by
  rw [next] at ahead
  split at ahead
  · cases ahead
    rfl
  · cases ahead
  · cases ahead

/-- However a capture ends, text is trimmed again as it was, and nothing is left
that has been looked at. -/
theorem captureElement_stops
    (maxDepth : Nat) (stream : TokenStream) {peeked : Option Token}
    {unread : List Item}
    (held : stream.items = (peeked.map Item.token).toList ++ unread) :
    (stopOf (captureElement maxDepth stream)).items <:+ unread ∧
      (stream.verbatim = false →
        (stopOf (captureElement maxDepth stream)).verbatim = false) := by
  obtain ⟨left, suffix, stopped⟩ := next_stops stream held
  cases ahead : next stream with
  | error failure after =>
      rw [ahead] at stopped
      obtain rfl : after = { stream with items := left } := stopped
      rw [captureElement, bind_of_error ahead]
      exact ⟨suffix, id⟩
  | ok first after =>
      rw [ahead] at stopped
      obtain rfl : after = { stream with items := left } := stopped
      rw [captureElement, bind_of_ok ahead]
      cases first with
      | none => exact ⟨suffix, id⟩
      | some token =>
          cases token with
          | text content => exact ⟨suffix, id⟩
          | endTag name => exact ⟨suffix, id⟩
          | startTag tag =>
              obtain ⟨remaining, within, captureStops⟩ :=
                verbatim_scan_stops "end tag" (captureStep maxDepth)
                  { stream with items := left } (.ofTag tag, [])
              simp only [captureStops]
              exact ⟨within.trans suffix, fun _ => trivial⟩

/-! ## Exactly the same place -/

/-- Where a start tag is next, skipping ends where capturing does if that
succeeds, and capturing succeeds or ends below the limit if skipping succeeds.
However a capture ends, the stream is out of verbatim mode again with nothing
looked at. -/
theorem skipping_ends_where_capturing_does
    (maxDepth : Nat) (stream : TokenStream) :
    (∀ (tag : StartTag) (entered : TokenStream),
      next stream = .ok (some (.startTag tag)) entered →
        (∀ (element : Element) (stop : TokenStream),
          captureElement maxDepth stream = .ok element stop →
            ∃ left : TokenStream,
              skipElement stream = .ok () left ∧
                (stream.verbatim = false → left = stop) ∧
                  ∀ tokens, stream.Holds tokens →
                    ∃ rest, left.Holds rest ∧ stop.Holds rest) ∧
        ∀ left : TokenStream,
          skipElement stream = .ok () left →
            (∃ (element : Element) (stop : TokenStream),
              captureElement maxDepth stream = .ok element stop) ∨
            ∃ stop : TokenStream,
              captureElement maxDepth stream =
                .error (.fault (.depthExceeded maxDepth)) stop) ∧
    ∀ (peeked : Option Token) (unread : List Item),
      stream.items = (peeked.map Item.token).toList ++ unread →
        (stopOf (captureElement maxDepth stream)).items <:+ unread ∧
          (stream.verbatim = false →
            (stopOf (captureElement maxDepth stream)).verbatim = false) := by
  constructor
  · intro tag entered ahead
    constructor
    · intro element stop captured
      have skipped := skipElement_of_captureElement ahead captured
      rw [verbatim_of_next ahead] at skipped
      refine ⟨stop.withVerbatim stream.verbatim, skipped, ?_, ?_⟩
      · intro trimmed
        have unpeeked : stream.items =
            ((none : Option Token).map Item.token).toList ++
              stream.items := rfl
        have stops := (captureElement_stops maxDepth stream unpeeked).2 trimmed
        rw [captured] at stops
        have out : stop.verbatim = false := stops
        rw [trimmed, ← out]
        rfl
      · intro tokens held
        rw [held.eq_withTokens] at captured
        obtain ⟨after, rest, rfl, _⟩ :=
          (captureElement_advances maxDepth).of_ok captured
        exact ⟨rest, rfl, rfl⟩
    · intro left skipped
      rcases captureElement_of_skipElement ahead skipped with
        ⟨element, captured⟩ | below
      · exact Or.inl ⟨element, _, captured⟩
      · exact Or.inr below
  · intro peeked unread held
    exact captureElement_stops maxDepth stream held

def spacedContent : List Item :=
  [.characters " ", .token (.startTag ⟨QName.ofLocal "b", []⟩),
    .token (.endTag (QName.ofLocal "b")),
    .token (.endTag (QName.ofLocal "a")), .characters " y "]

/-- The text behind the element is trimmed after it has been skipped, as it is
after a capture that keeps the blank inside. -/
theorem skipping_ends_where_capturing_does_amid_blanks :
    (∃ left : TokenStream,
      skipElement (.ofXml true " <a> <b/></a> y ") = .ok () left ∧
        left.tokens = ⟨[.text "y"], none⟩) ∧
    ((∃ (element : Element) (stop : TokenStream),
        captureElement 1 (.ofXml true " <a> <b/></a> y ") =
          .ok element stop) ∨
      ∃ stop : TokenStream,
        captureElement 1 (.ofXml true " <a> <b/></a> y ") =
          .error (.fault (.depthExceeded 1)) stop) ∧
    (stopOf (captureElement 1
      ⟨.token (.startTag ⟨QName.ofLocal "a", []⟩) :: spacedContent,
        true, false⟩)).items <:+ spacedContent := by
  have ahead :
      next (.ofXml true " <a> <b/></a> y ") =
        .ok (some (.startTag ⟨QName.ofLocal "a", []⟩))
          ⟨spacedContent, true, false⟩ := by
    with_unfolding_all rfl
  have captured :
      captureElement 2 (.ofXml true " <a> <b/></a> y ") =
        .ok ⟨QName.ofLocal "a", [],
            [.text " ", (Element.ofName (QName.ofLocal "b")).toNode]⟩
          ⟨[.characters " y "], true, false⟩ := by
    with_unfolding_all rfl
  obtain ⟨together, _⟩ := skipping_ends_where_capturing_does 2
    (.ofXml true " <a> <b/></a> y ")
  obtain ⟨belowLimit, _⟩ := skipping_ends_where_capturing_does 1
    (.ofXml true " <a> <b/></a> y ")
  obtain ⟨_, unpeeked⟩ := skipping_ends_where_capturing_does 1
    ⟨.token (.startTag ⟨QName.ofLocal "a", []⟩) :: spacedContent,
      true, false⟩
  obtain ⟨left, skipped, same, _⟩ := (together _ _ ahead).1 _ _ captured
  refine ⟨⟨left, skipped, ?_⟩, (belowLimit _ _ ahead).2 left skipped, ?_⟩
  · rw [same rfl]
    decide
  · exact (unpeeked (some (.startTag ⟨QName.ofLocal "a", []⟩)) spacedContent
      rfl).1

end WsTrust.Cursor
