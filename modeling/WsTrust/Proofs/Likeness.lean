import WsTrust.Proofs.Correspondence
import WsTrust.Proofs.Programs

/-!
# Programs in lockstep

A likeness says in what two streams may differ: in the names of their tags, and
then also in the fragments that are captured and in the failures that quote
names.  Two programs are in lockstep if they take the same steps and do alike
with what is alike.  The readers of messages are in lockstep with themselves
under every likeness that does not touch what they recognise tags by.
-/

namespace WsTrust

/-! ## Likenesses -/

/-- A relation between the names and tags of two streams, with what it makes
of fragments, sets of attributes and failures. -/
structure Likeness where
  /-- End tags that are alike. -/
  name : QName → QName → Prop
  /-- Start tags that are alike. -/
  tag : StartTag → StartTag → Prop
  node : Node → Node → Prop
  attributes : AttributeMap → AttributeMap → Prop
  failure : Failure → Failure → Prop
  localName_eq {left right : StartTag} (tags : tag left right) :
    left.localName = right.localName
  attribute?_eq {left right : StartTag} (tags : tag left right)
    (localPart : String) :
    left.attribute? localPart = right.attribute? localPart
  references {left right : StartTag} (tags : tag left right) :
    (TokenReference.ofAttributes left.attributes).Matches
      ⟨Eq, fun first second => node first.toNode second.toNode, attributes⟩
      (TokenReference.ofAttributes right.attributes)
  /-- End tags that are alike close the same elements inside a message. -/
  closes {left right : QName} (names : name left right)
    {localPart : String} (inner : localPart ∉ Payload.rootNames) :
    left.localPart = localPart ↔ right.localPart = localPart
  text (content : String) : node (.text content) (.text content)
  element {left right : StartTag} (tags : tag left right)
    {children others : List Node} (nodes : List.Forall₂ node children others) :
    node (.element left.name left.attributes children)
      (.element right.name right.attributes others)
  failure_refl {cause : Failure}
    (claimed : ∀ name, cause ≠ .fault (.unclaimedExtension name)) :
    failure cause cause
  unexpectedTag (expected : String) {left right : QName}
    (names : name left right) :
    failure (.fault (.unexpectedTag expected left.localPart))
      (.fault (.unexpectedTag expected right.localPart))
  unexpectedClose {left right : QName} (names : name left right) :
    failure (.fault (.unexpectedClose left.localPart))
      (.fault (.unexpectedClose right.localPart))

namespace Likeness

variable (like : Likeness)

inductive Tokens : Token → Token → Prop
  | startTag {left right : StartTag} (tags : like.tag left right) :
      Tokens (.startTag left) (.startTag right)
  | endTag {left right : QName} (names : like.name left right) :
      Tokens (.endTag left) (.endTag right)
  | text (content : String) : Tokens (.text content) (.text content)

def comparison : Comparison where
  value := Eq
  element left right := like.node left.toNode right.toNode
  attributes := like.attributes

theorem value_eq
    (left right : String) (values : like.comparison.value left right) :
    left = right := values

/-- Both steps ask for another one, both are done, or both fail. -/
inductive Decisions {LeftState RightState Left Right : Type}
    (states : LeftState → RightState → Prop)
    (related : Left → Right → Prop) :
    Except Failure (Turn LeftState Left) →
      Except Failure (Turn RightState Right) → Prop
  | ok {left : Turn LeftState Left} {right : Turn RightState Right}
      (turns : Cursor.Turn.Corresponds states related left right) :
      Decisions states related (.ok left) (.ok right)
  | error {left right : Failure} (failures : like.failure left right) :
      Decisions states related (.error left) (.error right)

/-! ## Lockstep -/

/-- Programs that take the same steps and do alike with what is alike. -/
inductive Lockstep : {Left Right : Type} →
    (Left → Right → Prop) → Cursor Left → Cursor Right → Prop
  | pure {Left Right : Type} {related : Left → Right → Prop}
      {left : Left} {right : Right} (results : related left right) :
      Lockstep related (Pure.pure left) (Pure.pure right)
  | fail {Left Right : Type} {related : Left → Right → Prop}
      {left right : Failure} (failures : like.failure left right) :
      Lockstep related (throw left) (throw right)
  | bind {Left Right LeftNext RightNext : Type}
      {related : Left → Right → Prop}
      {relatedNext : LeftNext → RightNext → Prop}
      {left : Cursor Left} {right : Cursor Right}
      {leftNext : Left → Cursor LeftNext}
      {rightNext : Right → Cursor RightNext}
      (first : Lockstep related left right)
      (second : ∀ leftResult rightResult, related leftResult rightResult →
        Lockstep relatedNext (leftNext leftResult)
          (rightNext rightResult)) :
      Lockstep relatedNext (left >>= leftNext) (right >>= rightNext)
  | recover {Left Right : Type} {related : Left → Right → Prop}
      {left : Cursor Left} {right : Cursor Right}
      {leftHandler : Failure → Cursor Left}
      {rightHandler : Failure → Cursor Right}
      (first : Lockstep related left right)
      (second : ∀ leftCause rightCause,
        like.failure leftCause rightCause →
          Lockstep related (leftHandler leftCause)
            (rightHandler rightCause)) :
      Lockstep related (tryCatch left leftHandler)
        (tryCatch right rightHandler)
  | next : Lockstep (Option.Rel like.Tokens) Cursor.next Cursor.next
  | peek : Lockstep (Option.Rel like.Tokens) Cursor.peek Cursor.peek
  | preserveText (verbatim : Bool) :
      Lockstep Eq (Cursor.preserveText verbatim)
        (Cursor.preserveText verbatim)
  | scan {LeftState RightState Left Right : Type} (expected : String)
      {states : LeftState → RightState → Prop}
      {related : Left → Right → Prop}
      {leftStep : LeftState → Token → Except Failure (Turn LeftState Left)}
      {rightStep :
        RightState → Token → Except Failure (Turn RightState Right)}
      {left : LeftState} {right : RightState} (start : states left right)
      (steps : ∀ left right, states left right →
        ∀ token other, like.Tokens token other →
          like.Decisions states related (leftStep left token)
            (rightStep right other)) :
      Lockstep related (Cursor.scan expected leftStep left)
        (Cursor.scan expected rightStep right)
  | dropUntil {leftStops rightStops : Token → Bool}
      (stops : ∀ token other, like.Tokens token other →
        leftStops token = rightStops other) :
      Lockstep Eq (Cursor.dropUntil leftStops) (Cursor.dropUntil rightStops)
  | repeating {LeftState RightState Left Right : Type}
      {states : LeftState → RightState → Prop}
      {related : Left → Right → Prop}
      {leftTurn : LeftState → Cursor (Turn LeftState Left)}
      {rightTurn : RightState → Cursor (Turn RightState Right)}
      {left : LeftState} {right : RightState} (start : states left right)
      (turns : ∀ left right, states left right →
        Lockstep (Cursor.Turn.Corresponds states related) (leftTurn left)
          (rightTurn right)) :
      Lockstep related (Cursor.repeating leftTurn left)
        (Cursor.repeating rightTurn right)

namespace Lockstep

variable {like} {Left Right : Type} {related : Left → Right → Prop}

theorem same
    {failure : Failure}
    (claimed : ∀ name, failure ≠ .fault (.unclaimedExtension name)) :
    like.Lockstep related (throw failure) (throw failure) :=
  .fail (like.failure_refl claimed)

theorem map
    {LeftOther RightOther : Type}
    {relatedOther : LeftOther → RightOther → Prop}
    {left : Cursor Left} {right : Cursor Right}
    (reading : like.Lockstep related left right)
    {leftChange : Left → LeftOther} {rightChange : Right → RightOther}
    (changed : ∀ leftResult rightResult, related leftResult rightResult →
      relatedOther (leftChange leftResult) (rightChange rightResult)) :
    like.Lockstep relatedOther (leftChange <$> left)
      (rightChange <$> right) := by
  rw [Cursor.map_eq_bind, Cursor.map_eq_bind]
  exact reading.bind fun leftResult rightResult results =>
    .pure (changed leftResult rightResult results)

/-! ## Tags -/

theorem nextStartTag (expected : String) :
    like.Lockstep like.tag (Cursor.nextStartTag expected)
      (Cursor.nextStartTag expected) := by
  refine .scan expected (rfl : () = ()) fun _ _ _ token other tokens => ?_
  cases tokens with
  | startTag tags => exact .ok (.done tags)
  | endTag names => exact .ok (.again rfl)
  | text content => exact .ok (.again rfl)

theorem nextEndTag (expected : String) :
    like.Lockstep like.name (Cursor.nextEndTag expected)
      (Cursor.nextEndTag expected) := by
  refine .scan expected (rfl : () = ()) fun _ _ _ token other tokens => ?_
  cases tokens with
  | startTag tags => exact .ok (.again rfl)
  | endTag names => exact .ok (.done names)
  | text content => exact .ok (.again rfl)

/-- End tags that are alike are both the one that is expected, or neither
is. -/
theorem expectEndTag
    {localPart : String}
    (closes : ∀ left right, like.name left right →
      (left.localPart = localPart ↔ right.localPart = localPart)) :
    like.Lockstep Eq (Cursor.expectEndTag localPart)
      (Cursor.expectEndTag localPart) := by
  refine (nextEndTag localPart).bind fun left right names => ?_
  rw [Cursor.expectName, Cursor.expectName]
  simp only [closes left right names]
  split
  · exact .pure rfl
  · exact .fail (like.unexpectedTag localPart names)

theorem peekStartTag :
    like.Lockstep (Option.Rel like.tag) Cursor.peekStartTag
      Cursor.peekStartTag := by
  refine Lockstep.bind (.dropUntil fun token other tokens => ?_)
    fun _ _ _ => Lockstep.peek.bind fun token other tokens => ?_
  · cases tokens <;> rfl
  · rcases tokens with @⟨_, _, tags | names | content⟩ | _
    · exact .pure (.some tags)
    · exact .pure .none
    · exact .pure .none
    · exact .pure .none

inductive Boundaries (like : Likeness) :
    Cursor.Boundary → Cursor.Boundary → Prop
  | opening {left right : StartTag} (tags : like.tag left right) :
      Boundaries like (.opening left) (.opening right)
  | closing {left right : QName} (names : like.name left right) :
      Boundaries like (.closing left) (.closing right)

theorem peekBoundary :
    like.Lockstep (Option.Rel (Boundaries like)) Cursor.peekBoundary
      Cursor.peekBoundary := by
  refine Lockstep.bind (.dropUntil fun token other tokens => ?_)
    fun _ _ _ => Lockstep.peek.bind fun token other tokens => ?_
  · cases tokens <;> rfl
  · rcases tokens with @⟨_, _, tags | names | content⟩ | _
    · exact .pure (.some (.opening tags))
    · exact .pure (.some (.closing names))
    · exact .pure .none
    · exact .pure .none

theorem peekChild (within : String) :
    like.Lockstep (Option.Rel like.tag) (Cursor.peekChild within)
      (Cursor.peekChild within) := by
  refine peekBoundary.bind fun boundary other boundaries => ?_
  rcases boundaries with @⟨_, _, tags | names⟩ | _
  · exact .pure (.some tags)
  · exact .pure .none
  · exact .same nofun

/-! ## Text -/

theorem elementText (within : String) :
    like.Lockstep Eq (Cursor.elementText within)
      (Cursor.elementText within) := by
  refine .scan within (rfl : "" = "") ?_
  rintro text _ rfl token other tokens
  cases tokens with
  | startTag tags =>
      dsimp only
      rw [like.localName_eq tags]
      exact .error (like.failure_refl nofun)
  | endTag names => exact .ok (.done rfl)
  | text content => exact .ok (.again rfl)

theorem hasTextAhead :
    like.Lockstep Eq Cursor.hasTextAhead Cursor.hasTextAhead := by
  refine Lockstep.peek.bind fun token other tokens => ?_
  rcases tokens with @⟨_, _, tags | names | content⟩ | _
  all_goals exact .pure rfl

theorem requiredText (within what : String) :
    like.Lockstep Eq (Cursor.requiredText within what)
      (Cursor.requiredText within what) := by
  refine hasTextAhead.bind ?_
  rintro ahead _ rfl
  split
  · refine (elementText within).bind ?_
    rintro text _ rfl
    split
    · exact .same nofun
    · exact .pure rfl
  · exact .same nofun

theorem readUri (localPart what : String) :
    like.Lockstep Eq (Scalar.readUri localPart what)
      (Scalar.readUri localPart what) := by
  refine (nextStartTag localPart).bind fun _ _ _ => ?_
  refine (requiredText localPart what).bind ?_
  rintro text _ rfl
  split
  · exact .pure rfl
  · exact .same nofun

theorem readInteger (localPart what : String) :
    like.Lockstep Eq (Scalar.readInteger localPart what)
      (Scalar.readInteger localPart what) := by
  refine (nextStartTag localPart).bind fun _ _ _ => ?_
  refine (requiredText localPart what).bind ?_
  rintro text _ rfl
  split
  · exact .pure rfl
  · exact .same nofun

/-! ## Whole elements -/

theorem skipElement :
    like.Lockstep Eq Cursor.skipElement Cursor.skipElement := by
  refine (nextStartTag "element").bind fun _ _ _ => ?_
  refine .scan "end tag" (rfl : 0 = 0) ?_
  rintro inner _ rfl token other tokens
  cases tokens with
  | startTag tags => exact .ok (.again rfl)
  | endTag names =>
      cases inner with
      | zero => exact .ok (.done rfl)
      | succ inner => exact .ok (.again rfl)
  | text content => exact .ok (.again rfl)

structure Unclosed (like : Likeness) (left right : Cursor.Unclosed) :
    Prop where
  tag : like.tag left.tag right.tag
  reversedChildren :
    List.Forall₂ like.node left.reversedChildren right.reversedChildren

theorem Unclosed.push
    {left right : Cursor.Unclosed} (unclosed : Unclosed like left right)
    {child other : Node} (nodes : like.node child other) :
    Unclosed like (left.push child) (right.push other) :=
  ⟨unclosed.tag, .cons nodes unclosed.reversedChildren⟩

theorem Unclosed.close
    {left right : Cursor.Unclosed} (unclosed : Unclosed like left right) :
    like.node left.close.toNode right.close.toNode :=
  like.element unclosed.tag (List.rel_reverse unclosed.reversedChildren)

/-- Both have the same elements open, each of which is alike. -/
def Opened (like : Likeness)
    (left right : Cursor.Unclosed × List Cursor.Unclosed) : Prop :=
  Unclosed like left.1 right.1 ∧
    List.Forall₂ (Unclosed like) left.2 right.2

theorem captureStep
    (maxDepth : Nat)
    {left right : Cursor.Unclosed × List Cursor.Unclosed}
    (opened : Opened like left right)
    {token other : Token} (tokens : like.Tokens token other) :
    like.Decisions (Opened like) like.comparison.element
      (Cursor.captureStep maxDepth left token)
      (Cursor.captureStep maxDepth right other) := by
  obtain ⟨inner, outer⟩ := left
  obtain ⟨otherInner, otherOuter⟩ := right
  obtain ⟨inners, outers⟩ := opened
  cases tokens with
  | startTag tags =>
      simp only [Cursor.captureStep, outers.length_eq]
      split
      · exact .error (like.failure_refl nofun)
      · exact .ok (.again ⟨⟨tags, .nil⟩, .cons inners outers⟩)
  | text content =>
      exact .ok (.again ⟨inners.push (like.text content), outers⟩)
  | endTag names =>
      cases outers with
      | nil => exact .ok (.done inners.close)
      | cons parents grandparents =>
          exact .ok (.again ⟨parents.push inners.close, grandparents⟩)

theorem verbatim
    {left : Cursor Left} {right : Cursor Right}
    (reading : like.Lockstep related left right) :
    like.Lockstep related (Cursor.verbatim left)
      (Cursor.verbatim right) := by
  rw [Cursor.IsProgram.verbatim_eq, Cursor.IsProgram.verbatim_eq]
  refine (Lockstep.preserveText true).bind fun _ _ _ => ?_
  refine (Lockstep.recover reading fun _ _ failures => ?_).bind
    fun leftResult rightResult results => ?_
  · exact (Lockstep.preserveText false).bind fun _ _ _ => .fail failures
  · exact (Lockstep.preserveText false).bind fun _ _ _ => .pure results

theorem captureElement (maxDepth : Nat) :
    like.Lockstep like.comparison.element (Cursor.captureElement maxDepth)
      (Cursor.captureElement maxDepth) := by
  refine Lockstep.next.bind fun token other tokens => ?_
  rcases tokens with @⟨_, _, tags | names | content⟩ | _
  · have opened : Opened like (.ofTag _, []) (.ofTag _, []) :=
      ⟨⟨tags, .nil⟩, .nil⟩
    exact verbatim (.scan "end tag" opened
      fun _ _ opened _ _ tokens => captureStep maxDepth opened tokens)
  · exact .fail (like.unexpectedClose names)
  · exact .same nofun
  · exact .same nofun

theorem closeWith
    {localPart : String}
    (closes : ∀ left right, like.name left right →
      (left.localPart = localPart ↔ right.localPart = localPart))
    {left : Left} {right : Right} (results : related left right)
    {name other : QName} (names : like.name name other) :
    like.Lockstep related (Cursor.closeWith localPart left name)
      (Cursor.closeWith localPart right other) := by
  rw [Cursor.closeWith, Cursor.closeWith]
  simp only [closes name other names]
  split
  · exact Lockstep.next.bind fun _ _ _ => .pure results
  · exact .fail (like.unexpectedClose names)

end Lockstep

/-! ## Readers of messages -/

/-- The steps of the readers of messages are in lockstep with themselves. -/
theorem correspondence :
    Cursor.Correspondence like.tag
      (fun localPart => ∀ left right, like.name left right →
        (left.localPart = localPart ↔ right.localPart = localPart))
      like.comparison like.Lockstep where
  localName_eq := like.localName_eq
  attribute?_eq := like.attribute?_eq
  ofAttributes := like.references
  emptyValue := rfl
  closes inner left right names := like.closes names inner
  pure := .pure
  refuse _ fault claimed :=
    .same fun name same => claimed name (Failure.fault.inj same)
  raise _ error := .same nofun
  bind := .bind
  nextStartTag := .nextStartTag
  expectEndTag := .expectEndTag
  peekStartTag := .peekStartTag
  peekChild := .peekChild
  elementText := .elementText
  requiredText := .requiredText
  readUri := .readUri
  readInteger := .readInteger
  skipElement := .skipElement
  captureElement := .captureElement
  atBoundary opening closing ended := by
    obtain ⟨localPart, left, right, closes, results, closed⟩ := closing
    refine Lockstep.peekBoundary.bind fun boundary other boundaries => ?_
    rcases boundaries with @⟨_, _, tags | names⟩ | _
    · exact opening _ _ tags
    · rw [(closed _).1, (closed _).2]
      exact .closeWith closes results names
    · exact ended
  atTag opening closing texts ended := by
    obtain ⟨localPart, left, right, closes, results, closed⟩ := closing
    obtain ⟨fault, claimed, refused⟩ := texts
    refine Lockstep.peek.bind fun token other tokens => ?_
    rcases tokens with @⟨_, _, tags | names | content⟩ | _
    · exact opening _ _ tags
    · rw [(closed _).1, (closed _).2]
      exact .closeWith closes results names
    · rw [(refused content).1, (refused content).2]
      exact .same fun name same => claimed name (Failure.fault.inj same)
    · exact ended
  repeating := .repeating

end Likeness

end WsTrust
