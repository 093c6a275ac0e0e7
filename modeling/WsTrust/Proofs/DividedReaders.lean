import WsTrust.Element.Written
import WsTrust.Proofs.DividedTexts
import WsTrust.Proofs.Escaping
import WsTrust.Proofs.Numerals
import WsTrust.Proofs.Validation

/-!
# Readers of divided texts

Where a run of characters is divided in two, every reader of messages reads the
same: texts up to the blanks that are lost where they are trimmed apart, and
fragments up to the texts that their children are divided into.
-/

namespace WsTrust

/-! ## Values -/

/-- How values may differ that are read from a text and from its two parts. -/
structure Text.IsLoss
    (allowed : String → String → Prop) (value : String → String → Prop) :
    Prop where
  refl (text : String) : value text text
  divided {first second : String} (allows : allowed first second)
    (earlier later : String) :
    value (trim (earlier ++ trim (first ++ second) ++ later))
      (trim (earlier ++ (trim first ++ trim second) ++ later))
  losesBlanks {whole remaining : String} (loses : value whole remaining) :
    LosesBlanks whole remaining

/-- Whatever the parts are, nothing but blanks is lost. -/
theorem Text.isLoss_losesBlanks :
    IsLoss (fun _ _ => True) LosesBlanks where
  refl := .refl
  divided _ earlier later := losesBlanks_of_parts earlier _ _ later
  losesBlanks := id

/-- If no blanks meet where the parts do, nothing is lost. -/
theorem Text.isLoss_eq :
    IsLoss (fun first second => ¬ BlanksMeet first second) Eq where
  refl _ := rfl
  divided {first second} apart earlier later := by
    rw [(trim_append_eq_iff first second).mpr apart]
  losesBlanks := by
    rintro whole _ rfl
    exact .refl whole

namespace Cursor

variable {allowed : String → String → Prop}
  {value : String → String → Prop}

inductive Joined (allowed : String → String → Prop) : String → String → Prop
  | same (text : String) : Joined allowed text text
  | divided {first second : String} (allows : allowed first second)
      (earlier later : String) :
      Joined allowed (earlier ++ Text.trim (first ++ second) ++ later)
        (earlier ++ (Text.trim first ++ Text.trim second) ++ later)

theorem Joined.append
    {whole parts : String} (joined : Joined allowed whole parts)
    (content : String) :
    Joined allowed (whole ++ content) (parts ++ content) := by
  cases joined with
  | same => exact .same _
  | divided allows earlier later =>
      have extended := Joined.divided allows earlier (later ++ content)
      rwa [← String.append_assoc, ← String.append_assoc] at extended

theorem absorb_append (content state : String) :
    absorb (fun content text => text ++ content) true content state =
      state ++ Text.trim content := by
  by_cases blank : Text.trim content = ""
  · simp [absorb, shown, blank]
  · simp [absorb, shown, blank]

theorem elementText_withstands
    (loss : Text.IsLoss allowed value) (within : String) :
    Withstands allowed value (elementText within) (elementText within) := by
  rw [elementText_eq_scan]
  refine scan_withstands (fun content text => text ++ content)
    (Joined allowed) (fun content state => rfl)
    (fun token left right turn joined stepped => ?_) loss.refl
    (fun state allows => ?_) ""
  · cases token with
    | text content =>
        cases stepped
        exact ⟨_, rfl, .again (joined.append content)⟩
    | startTag tag => cases stepped
    | endTag name =>
        cases stepped
        refine ⟨_, rfl, .done ?_⟩
        cases joined with
        | same => exact loss.refl _
        | divided allows earlier later =>
            exact loss.divided allows earlier later
  · rw [absorb_append, absorb_append, absorb_append]
    have divided := Joined.divided allows state ""
    rwa [String.append_empty, String.append_empty,
      ← String.append_assoc] at divided

/-- A scan from where a token has been looked at goes as it would have gone
before. -/
theorem scan_of_peek
    {State Result : Type} {expected : String}
    {step : State → Token → Except Failure (Turn State Result)}
    {stream middle : TokenStream} {token : Token}
    (looked : peek stream = .ok (some token) middle) (state : State) :
    scan expected step state middle = scan expected step state stream := by
  have scanned
      {items rest : List Item}
      (reported :
        firstReport? stream.trimming items = some (.ok token, rest)) :
      scan.scanItems expected step stream (.token token :: rest) state =
        scan.scanItems expected step stream items state := by
    induction items with
    | nil => cases reported
    | cons item items inductionHypothesis =>
        rw [firstReport?] at reported
        conv_rhs => rw [scan.scanItems]
        rcases report : item.read? stream.trimming with _ | report
        · rw [report] at reported
          exact inductionHypothesis reported
        · rw [report] at reported
          cases reported
          rfl
  rw [peek] at looked
  split at looked
  case h_1 delivered items reported =>
    cases looked
    rw [scan, scanItems_withItems]
    exact scanned reported
  case h_2 => cases looked
  case h_3 => cases looked

theorem hasTextAhead_eq_ok_true_iff
    {stream middle : TokenStream} :
    hasTextAhead stream = .ok true middle ↔
      ∃ content, peek stream = .ok (some (.text content)) middle := by
  rw [hasTextAhead, bind_eq_ok_iff]
  constructor
  · rintro ⟨token, rest, looked, concluded⟩
    cases token with
    | none => cases concluded
    | some token =>
        cases token with
        | text content =>
            cases concluded
            exact ⟨content, looked⟩
        | startTag tag => cases concluded
        | endTag name => cases concluded
  · rintro ⟨content, looked⟩
    exact ⟨_, _, looked, rfl⟩

/-- What a reader of required text accepts: a text that stands ahead and is not
blank. -/
theorem requiredText_eq_ok_iff
    {within what : String} {stream rest : TokenStream} {text : String} :
    requiredText within what stream = .ok text rest ↔
      (∃ content middle, peek stream = .ok (some (.text content)) middle) ∧
        elementText within stream = .ok text rest ∧ text ≠ "" := by
  rw [requiredText, bind_eq_ok_iff]
  constructor
  · rintro ⟨ahead, middle, looked, concluded⟩
    cases ahead with
    | false => cases concluded
    | true =>
        obtain ⟨content, found⟩ := hasTextAhead_eq_ok_true_iff.mp looked
        rw [if_pos rfl] at concluded
        obtain ⟨read, last, others, accepted⟩ :=
          bind_eq_ok_iff.mp concluded
        rw [elementText_eq_scan, scan_of_peek found,
          ← elementText_eq_scan] at others
        split at accepted
        · cases accepted
        · rename_i something
          cases accepted
          exact ⟨⟨content, middle, found⟩, others, by simpa using something⟩
  · rintro ⟨⟨content, middle, found⟩, read, something⟩
    refine ⟨true, middle,
      hasTextAhead_eq_ok_true_iff.mpr ⟨content, found⟩, ?_⟩
    have others : elementText within middle = .ok text rest := by
      rw [elementText_eq_scan, scan_of_peek found, ← elementText_eq_scan,
        read]
    rw [if_pos rfl, bind_of_ok others, if_neg (by simpa using something)]
    rfl

theorem requiredText_withstands
    (loss : Text.IsLoss allowed value) (within what : String) :
    Withstands allowed value (requiredText within what)
      (requiredText within what) := by
  intro whole parts divided text rest succeeded
  obtain ⟨⟨content, middle, looked⟩, read, something⟩ :=
    requiredText_eq_ok_iff.mp succeeded
  obtain ⟨other, remaining, otherRead, values, stops, far⟩ :=
    elementText_withstands loss within divided read
  refine ⟨other, remaining, requiredText_eq_ok_iff.mpr
    ⟨peek_text_of_divided divided looked, otherRead, ?_⟩, values, stops, far⟩
  have isTrimmed : Text.trim text = text := elementText_ensures within read
  have loses := loss.losesBlanks values
  rw [← isTrimmed] at loses something
  exact loses.ne_empty something

/-- A text of visible characters is read alike from the whole and from its
parts. -/
theorem requiredText_bind_withstands
    (loss : Text.IsLoss allowed value) (within what : String)
    {Result : Type} {next : String → Cursor Result}
    (visible : ∀ {text stream result rest},
      next text stream = .ok result rest → Uri.AllVisible text.toList)
    (onwards : ∀ text, Withstands allowed Eq (next text) (next text)) :
    Withstands allowed Eq (requiredText within what >>= next)
      (requiredText within what >>= next) := by
  intro whole parts divided result rest succeeded
  obtain ⟨text, middle, read, concluded⟩ := bind_eq_ok_iff.mp succeeded
  obtain ⟨other, remaining, otherRead, values, stops, far⟩ :=
    requiredText_withstands loss within what divided read
  have same : text = other :=
    (loss.losesBlanks values).eq fun c member =>
      Uri.isBlank_of_isVisible (visible concluded c member)
  subst same
  obtain ⟨last, lastRemaining, others, results, lastStops, farther⟩ :=
    onwards text stops concluded
  refine ⟨last, lastRemaining, ?_, results, lastStops, by omega⟩
  rw [bind_of_ok otherRead, others]

theorem nextStartTag_withstands (expected : String) :
    Withstands allowed Eq (nextStartTag expected) (nextStartTag expected) :=
  scan_passing_withstands (fun _ _ => rfl) ()

theorem readUri_withstands
    (loss : Text.IsLoss allowed value) (localPart what : String) :
    Withstands allowed Eq (Scalar.readUri localPart what)
      (Scalar.readUri localPart what) := by
  refine (nextStartTag_withstands localPart).bind fun _ _ _ => ?_
  refine requiredText_bind_withstands loss localPart what ?_ fun text => ?_
  · intro text stream result rest accepted
    cases read : Uri.read text with
    | ok uri =>
        exact Uri.allVisible_of_isReference
          ((Uri.read_eq_ok_iff text uri).mp read).1
    | error flaw =>
        rw [read] at accepted
        cases accepted
  · split
    · exact Withstands.pure rfl
    · exact Withstands.of_fails nofun

theorem readInteger_withstands
    (loss : Text.IsLoss allowed value) (localPart what : String) :
    Withstands allowed Eq (Scalar.readInteger localPart what)
      (Scalar.readInteger localPart what) := by
  refine (nextStartTag_withstands localPart).bind fun _ _ _ => ?_
  refine requiredText_bind_withstands loss localPart what ?_ fun text => ?_
  · intro text stream result rest accepted
    cases read : Text.readNatural Text.wordBound text.toList with
    | ok number => exact Text.allVisible_of_readNatural read
    | error flaw =>
        rw [read] at accepted
        cases accepted
  · split
    · exact Withstands.pure rfl
    · exact Withstands.of_fails nofun

end Cursor

/-! ## Fragments -/

/-- Children that are written alike, where only no children at all are written as
nothing. -/
def Node.WrittenAlike (left right : List Node) : Prop :=
  writtenAll left = writtenAll right ∧ (left = [] ↔ right = [])

namespace Node

theorem writtenAll_append (first second : List Node) :
    writtenAll (first ++ second) = writtenAll first ++ writtenAll second := by
  induction first with
  | nil => rfl
  | cons node rest inductionHypothesis =>
      rw [List.cons_append, writtenAll, writtenAll, inductionHypothesis,
        List.append_assoc]

theorem WrittenAlike.concat
    {left right : List Node} (alike : WrittenAlike left right)
    {child other : Node} (children : child.written = other.written) :
    WrittenAlike (left ++ [child]) (right ++ [other]) := by
  refine ⟨?_, by simp⟩
  rw [writtenAll_append, writtenAll_append, alike.1]
  simp only [writtenAll, children]

theorem WrittenAlike.concat_text (nodes : List Node) (first second : String) :
    WrittenAlike (nodes ++ [.text (first ++ second)])
      (nodes ++ [.text first] ++ [.text second]) := by
  refine ⟨?_, by simp⟩
  simp only [writtenAll_append, writtenAll, written, String.toList_append,
    Xml.escape_append, List.append_nil, List.append_assoc]

theorem WrittenAlike.element
    {left right : List Node} (alike : WrittenAlike left right)
    (name : QName) (attributes : List Attribute) :
    (element name attributes left).written =
      (element name attributes right).written := by
  obtain ⟨same, none⟩ := alike
  cases left with
  | nil => rw [none.mp rfl]
  | cons first others =>
      cases right with
      | nil => cases none.mpr rfl
      | cons second rest =>
          rw [writtenAll, writtenAll] at same
          rw [written, written, same]

end Node

namespace Cursor

variable {allowed : String → String → Prop}
  {value : String → String → Prop}

structure Unclosed.WrittenAlike (left right : Unclosed) : Prop where
  tag : left.tag = right.tag
  children :
    Node.WrittenAlike left.reversedChildren.reverse
      right.reversedChildren.reverse

namespace Unclosed.WrittenAlike

theorem refl (unclosed : Unclosed) : unclosed.WrittenAlike unclosed :=
  ⟨rfl, rfl, Iff.rfl⟩

variable {left right : Unclosed} (alike : left.WrittenAlike right)

include alike

theorem push
    {child other : Node} (children : child.written = other.written) :
    (left.push child).WrittenAlike (right.push other) := by
  refine ⟨alike.tag, ?_⟩
  simp only [Unclosed.push, List.reverse_cons]
  exact alike.children.concat children

theorem close :
    left.close.toNode.written = right.close.toNode.written := by
  have same := alike.children.element left.tag.name left.tag.attributes
  rw [Unclosed.close, Unclosed.close, ← alike.tag]
  exact same

end Unclosed.WrittenAlike

theorem Unclosed.writtenAlike_push_text
    (unclosed : Unclosed) (first second : String) :
    (unclosed.push (.text (first ++ second))).WrittenAlike
      ((unclosed.push (.text first)).push (.text second)) := by
  refine ⟨rfl, ?_⟩
  simp only [Unclosed.push, List.reverse_cons]
  exact .concat_text _ first second

/-- Captures whose elements will be written alike, the innermost and those
around it. -/
structure CapturesAlike
    (left right : Unclosed × List Unclosed) : Prop where
  inner : left.1.WrittenAlike right.1
  outer : List.Forall₂ Unclosed.WrittenAlike left.2 right.2

theorem captureStep_relates (maxDepth : Nat) :
    StepsRelate (captureStep maxDepth) CapturesAlike fun left right =>
      left.toXml = right.toXml := by
  rintro token ⟨left, leftOuter⟩ ⟨right, rightOuter⟩ turn ⟨inner, outer⟩
    stepped
  cases token with
  | startTag tag =>
      have sameDepth : leftOuter.length = rightOuter.length :=
        outer.length_eq
      simp only [captureStep] at stepped ⊢
      rw [← sameDepth]
      split at stepped
      · cases stepped
      · rename_i shallow
        cases stepped
        rw [if_neg shallow]
        exact ⟨_, rfl, .again ⟨.refl _, .cons inner outer⟩⟩
  | text content =>
      cases stepped
      exact ⟨_, rfl, .again ⟨inner.push rfl, outer⟩⟩
  | endTag name =>
      cases outer with
      | nil =>
          cases stepped
          exact ⟨_, rfl, .done (congrArg String.ofList inner.close)⟩
      | cons parent outer =>
          cases stepped
          exact ⟨_, rfl, .again ⟨parent.push inner.close, outer⟩⟩

theorem absorb_untrimmed
    {State : Type} {push : String → State → State} {content : String}
    (something : content ≠ "") (state : State) :
    absorb push false content state = push content state := by
  have kept : shown false content = content := rfl
  rw [absorb, kept, if_neg something]

theorem verbatim_capture_withstands (maxDepth : Nat) (tag : StartTag) :
    Withstands allowed (fun left right => left.toXml = right.toXml)
      (verbatim (scan "end tag" (captureStep maxDepth) (.ofTag tag, [])))
      (verbatim
        (scan "end tag" (captureStep maxDepth) (.ofTag tag, []))) := by
  intro whole parts divided result rest succeeded
  cases read : scan "end tag" (captureStep maxDepth) (.ofTag tag, [])
      (whole.withVerbatim true) with
  | error failure stop =>
      rw [verbatim_of_error read] at succeeded
      cases succeeded
  | ok captured stop =>
      rw [verbatim_of_ok read] at succeeded
      cases succeeded
      have untrimmed : (whole.withVerbatim true).trimming = false :=
        Bool.and_false _
      have otherUntrimmed : (parts.withVerbatim true).trimming = false :=
        Bool.and_false _
      obtain ⟨other, later, remaining, otherRead, results, rfl, stops,
        far⟩ := scanItems_arrives
          (fun content (state : Unclosed × List Unclosed) =>
            (state.1.push (.text content), state.2))
          (fun content state => rfl) (captureStep_relates maxDepth)
          (untrimmed.trans otherUntrimmed.symm) (fun _ => rfl)
          (fun {first second} state _ something somethingElse => by
            have present : first ++ second ≠ "" := by simp [something]
            rw [untrimmed, absorb_untrimmed present,
              absorb_untrimmed something, absorb_untrimmed somethingElse]
            exact ⟨state.1.writtenAlike_push_text first second,
              List.forall₂_same.mpr fun outer _ => .refl outer⟩)
          divided.items read
      refine ⟨other, _, verbatim_of_ok otherRead, results, ?_, far⟩
      exact ⟨divided.trims, divided.partsTrim, rfl, rfl, stops⟩

theorem captureElement_withstands (maxDepth : Nat) :
    Withstands allowed (fun left right => left.toXml = right.toXml)
      (captureElement maxDepth) (captureElement maxDepth) := by
  intro whole parts divided result rest succeeded
  obtain ⟨token, middle, read, concluded⟩ := bind_eq_ok_iff.mp succeeded
  rcases token with _ | tag | name | content
  · cases concluded
  · obtain ⟨remaining, otherRead, stops, far⟩ :=
      next_of_divided divided (Or.inl (by simp)) read
    obtain ⟨other, last, captured, results, lastStops, farther⟩ :=
      verbatim_capture_withstands maxDepth tag stops concluded
    refine ⟨other, last, ?_, results, lastStops, by omega⟩
    rw [captureElement, bind_of_ok otherRead]
    exact captured
  · cases concluded
  · cases concluded

/-! ## Looking ahead -/

section Looks

variable {Left Right : Type} {related : Left → Right → Prop}

theorem nextEndTag_withstands (expected : String) :
    Withstands allowed Eq (nextEndTag expected) (nextEndTag expected) :=
  scan_passing_withstands (fun _ _ => rfl) ()

theorem expectEndTag_withstands (localPart : String) :
    Withstands allowed Eq (expectEndTag localPart)
      (expectEndTag localPart) := by
  refine (nextEndTag_withstands localPart).bind fun name other same => ?_
  subst same
  rw [expectName]
  split
  · exact Withstands.pure rfl
  · exact Withstands.of_fails (by rintro _ _ _ ⟨⟩)

theorem skipElement_withstands :
    Withstands allowed Eq skipElement skipElement := by
  refine (nextStartTag_withstands "element").bind fun _ _ _ => ?_
  exact scan_passing_withstands (fun inner _ => by cases inner <;> rfl) 0

/-- A look at a tag that stands next. -/
theorem peek_withstandsAt
    {whole parts : TokenStream} (divided : whole.Divided allowed parts)
    (atMarkup : whole.AtMarkup) :
    WithstandsAt allowed Eq peek peek whole parts := by
  intro token rest looked
  obtain ⟨remaining, others, later, far⟩ :=
    peek_of_divided divided (Or.inr atMarkup) looked
  exact ⟨token, remaining, others, rfl, later, far⟩

theorem peekBoundary_withstands :
    Withstands allowed Eq peekBoundary peekBoundary := by
  intro whole parts divided
  have dropping :=
    @dropUntil_withstands allowed (!·.isText) (fun _ => rfl) whole parts
      divided
  refine dropping.bind fun _ _ rest remaining dropped _ _ stops => ?_
  have atMarkup := atMarkup_of_dropUntil dropped
  refine (peek_withstandsAt stops atMarkup).bind
    fun token other _ _ _ _ same later => ?_
  subst same
  split
  · exact Withstands.pure rfl later
  · exact Withstands.pure rfl later
  · exact Withstands.pure rfl later

theorem peekChild_withstands (within : String) :
    Withstands allowed Eq (peekChild within) (peekChild within) := by
  refine peekBoundary_withstands.bind fun boundary other same => ?_
  subst same
  split
  · exact Withstands.pure rfl
  · exact Withstands.pure rfl
  · exact Withstands.of_fails nofun

theorem closeWith_withstandsAt
    {left : Left} {right : Right} (results : related left right)
    (localPart : String) (name : QName) {whole parts : TokenStream}
    (divided : whole.Divided allowed parts) (atMarkup : whole.AtMarkup) :
    WithstandsAt allowed related (closeWith localPart left name)
      (closeWith localPart right name) whole parts := by
  rw [closeWith, closeWith]
  split
  · have consuming : WithstandsAt allowed Eq next next whole parts := by
      intro token rest read
      obtain ⟨remaining, others, later, far⟩ :=
        next_of_divided divided (Or.inr atMarkup) read
      exact ⟨token, remaining, others, rfl, later, far⟩
    exact consuming.bind fun _ _ _ _ _ _ _ later =>
      Withstands.pure results later
  · exact Withstands.of_fails (by rintro _ _ _ ⟨⟩) divided

theorem atBoundary_withstands
    {leftNext : Option Boundary → Cursor Left}
    {rightNext : Option Boundary → Cursor Right}
    (opening : ∀ tag, Withstands allowed related
      (leftNext (some (.opening tag))) (rightNext (some (.opening tag))))
    (closing : ∃ localPart left right, related left right ∧ ∀ name,
      leftNext (some (.closing name)) = closeWith localPart left name ∧
        rightNext (some (.closing name)) = closeWith localPart right name)
    (ended : Withstands allowed related (leftNext none) (rightNext none)) :
    Withstands allowed related (peekBoundary >>= leftNext)
      (peekBoundary >>= rightNext) := by
  obtain ⟨localPart, left, right, results, closed⟩ := closing
  intro whole parts divided
  refine (peekBoundary_withstands divided).bind
    fun boundary other rest remaining looked _ same later => ?_
  subst same
  rcases boundary with _ | tag | name
  · exact ended later
  · exact opening tag later
  · rw [(closed name).1, (closed name).2]
    exact closeWith_withstandsAt results localPart name later
      (atMarkup_of_peekBoundary looked)

theorem atTag_withstands
    {leftNext : Option Token → Cursor Left}
    {rightNext : Option Token → Cursor Right}
    (opening : ∀ tag, Withstands allowed related
      (leftNext (some (.startTag tag))) (rightNext (some (.startTag tag))))
    (closing : ∃ localPart left right, related left right ∧ ∀ name,
      leftNext (some (.endTag name)) = closeWith localPart left name ∧
        rightNext (some (.endTag name)) = closeWith localPart right name)
    (texts : ∃ fault, ∀ content,
      leftNext (some (.text content)) = Cursor.refuse fault)
    (ended : Withstands allowed related (leftNext none) (rightNext none)) :
    Withstands allowed related (peek >>= leftNext) (peek >>= rightNext) := by
  obtain ⟨localPart, left, right, results, closed⟩ := closing
  obtain ⟨fault, refused⟩ := texts
  intro whole parts divided result rest succeeded
  obtain ⟨token, middle, looked, concluded⟩ := bind_eq_ok_iff.mp succeeded
  have noText : ∀ content, token ≠ some (.text content) := by
    rintro content rfl
    rw [refused] at concluded
    cases concluded
  obtain ⟨remaining, others, later, far⟩ :=
    peek_of_divided divided (Or.inl noText) looked
  have onwards : WithstandsAt allowed related (leftNext token)
      (rightNext token) middle remaining := by
    rcases token with _ | tag | name | content
    · exact ended later
    · exact opening tag later
    · rw [(closed name).1, (closed name).2]
      exact closeWith_withstandsAt results localPart name later
        (atMarkup_of_peek looked)
    · exact absurd rfl (noText content)
  obtain ⟨other, last, otherConcluded, lastResults, stops, farther⟩ :=
    onwards concluded
  refine ⟨other, last, ?_, lastResults, stops, by omega⟩
  rw [bind_of_ok others, otherConcluded]

end Looks

/-! ## Messages -/

end Cursor

/-- Values are compared by a relation between texts, fragments as they are
written. -/
def Comparison.asWritten (value : String → String → Prop) : Comparison where
  value := value
  element left right := left.toXml = right.toXml
  attributes := Eq

variable {allowed : String → String → Prop}
  {value : String → String → Prop}

theorem Cursor.Withstands.option
    {Result : Type} {reader : Cursor (Option Result)}
    (withstands : Withstands allowed Eq reader reader) :
    Withstands allowed (Option.Rel Eq) reader reader := by
  refine withstands.mono fun result other same => ?_
  subst same
  cases result with
  | none => exact .none
  | some found => exact .some rfl

/-- Readers of messages withstand division. -/
theorem Text.IsLoss.correspondence (loss : Text.IsLoss allowed value) :
    Cursor.Correspondence Eq (fun _ => True) (.asWritten value)
      (Cursor.Withstands allowed) where
  localName_eq := by
    rintro left _ rfl
    rfl
  attribute?_eq := by
    rintro left _ rfl localPart
    rfl
  ofAttributes := by
    rintro left _ rfl
    exact ⟨rfl, rfl, rfl, List.forall₂_same.mpr fun _ _ => rfl⟩
  emptyValue := loss.refl ""
  closes _ := trivial
  pure := .pure
  refuse related fault _ := .of_fails nofun
  raise related error := .of_fails nofun
  bind := .bind
  nextStartTag := Cursor.nextStartTag_withstands
  expectEndTag _ := Cursor.expectEndTag_withstands _
  peekStartTag := Cursor.peekStartTag_withstands.option
  peekChild within := (Cursor.peekChild_withstands within).option
  elementText := Cursor.elementText_withstands loss
  requiredText := Cursor.requiredText_withstands loss
  readUri := Cursor.readUri_withstands loss
  readInteger := Cursor.readInteger_withstands loss
  skipElement := Cursor.skipElement_withstands
  captureElement := Cursor.captureElement_withstands
  atBoundary opening closing ended := by
    obtain ⟨localPart, left, right, _, results, closed⟩ := closing
    exact Cursor.atBoundary_withstands (fun tag => opening tag tag rfl)
      ⟨localPart, left, right, results, closed⟩ ended
  atTag opening closing texts ended := by
    obtain ⟨localPart, left, right, _, results, closed⟩ := closing
    obtain ⟨fault, _, refused⟩ := texts
    exact Cursor.atTag_withstands (fun tag => opening tag tag rfl)
      ⟨localPart, left, right, results, closed⟩
      ⟨fault, fun content => (refused content).1⟩ ended
  repeating := .repeating

/-- A message that is read from a document is read as well where a text in it is
divided. -/
theorem Payload.read_withstands
    {registry : Registry} (plain : registry.IsPlain)
    (loss : Text.IsLoss allowed value) (maxDepth : Nat) :
    Cursor.Withstands allowed (Payload.Matches (.asWritten value))
      (read registry maxDepth) (read registry maxDepth) := by
  have corresponds := loss.correspondence
  exact corresponds.readPayload
    (corresponds.plainExtensions plain fun left right same => by rw [same])
    (fun _ _ _ _ => .of_fails nofun) (fun _ => trivial) maxDepth

end WsTrust
