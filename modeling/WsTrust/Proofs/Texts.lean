import WsTrust.Proofs.Tags
import WsTrust.Scalar

/-!
# Reading text

Text up to the next end tag is joined and trimmed.  An element in it is an error,
and so is blank text where a value is required; whether one of the two is the
case is decided inside the element that the text stands in.
-/

namespace WsTrust

namespace Element

def trimmedText (element : Element) : String :=
  Text.trim element.text

/-- The element holds text that is not blank, and nothing else. -/
def HoldsText (element : Element) : Prop :=
  element.childElements = [] ∧ element.trimmedText ≠ ""

instance (element : Element) : Decidable element.HoldsText :=
  inferInstanceAs (Decidable (_ ∧ _))

def contentTokens (element : Element) : List Token :=
  Node.tokensOfAll element.children ++ [.endTag element.name]

end Element

namespace Cursor

variable {Result : Type}

/-! ## Text up to an end tag -/

/-- One turn of reading text: texts are joined until an end tag. -/
def joinText (within : String) (text : String) :
    Token → Except Failure (Turn String String)
  | .text content => .ok (.again (text ++ content))
  | .endTag _ => .ok (.done (Text.trim text))
  | .startTag tag => .error (.parse (.textOnly within tag.localName))

theorem elementText_eq_scan (within : String) :
    elementText within = scan within (joinText within) "" := by
  rw [elementText]
  congr 1

/-- Texts are joined to the text before them. -/
theorem joinText_becomes
    (within initial : String) (texts : List String) (tokens : List Token) :
    Becomes (scan within (joinText within) initial)
      (texts.map Token.text ++ tokens)
      (scan within (joinText within) (initial ++ String.join texts))
      tokens := by
  induction texts generalizing initial with
  | nil =>
      rw [String.join_nil, String.append_empty]
      exact Becomes.refl _ _
  | cons head tail inductionHypothesis =>
      rw [String.join_cons, ← String.append_assoc]
      exact (scan_becomes rfl).trans (inductionHypothesis (initial ++ head))

theorem elementText_reads
    (within : String) (texts : List String) (name : QName) :
    Reads (elementText within) (texts.map Token.text ++ [.endTag name])
      (Text.trim (String.join texts)) := by
  rw [elementText_eq_scan]
  have joined := joinText_becomes within "" texts [.endTag name]
  rw [String.empty_append] at joined
  exact joined.reads (scan_reads rfl)

theorem elementText_fails
    (within : String) (texts : List String) (tag : StartTag) :
    Fails (elementText within) (texts.map Token.text ++ [.startTag tag]) := by
  rw [elementText_eq_scan]
  exact (joinText_becomes within "" texts [.startTag tag]).fails
    (scan_fails rfl)

/-- Reading the text of an element succeeds exactly if no element is in it. -/
theorem elementText_settles
    (within : String) (element : Element) :
    (element.childElements = [] →
      Reads (elementText within)
        element.contentTokens element.trimmedText) ∧
    (element.childElements ≠ [] →
      Fails (elementText within) element.contentTokens) := by
  rw [Element.contentTokens]
  constructor
  · intro childless
    rw [Node.tokensOfAll_of_no_element childless]
    exact elementText_reads within _ element.name
  · intro hasChildren
    obtain ⟨first, others, elements⟩ := List.exists_cons_of_ne_nil hasChildren
    obtain ⟨texts, after, split, _⟩ := Node.exists_split_at_element elements
    rw [split, List.append_assoc, first.tokens_eq]
    have failed := (elementText_fails within texts first.startTag).append
      (Node.tokensOfAll first.children ++ [.endTag first.name] ++
        (Node.tokensOfAll after ++ [.endTag element.name]))
    simpa using failed

/-! ## Text that is required -/

def requirePresent (what text : String) : Cursor String :=
  if text.isEmpty then raise (.missingText what) else pure text

/-- Where a text is next, the whole text is read and has to be present. -/
theorem requiredText_of_text
    (within what content : String) (tokens : List Token) :
    Becomes (requiredText within what) (.text content :: tokens)
      (elementText within >>= requirePresent what)
      (.text content :: tokens) :=
  hasTextAhead_becomes tokens _ (.text content)

private theorem requiredText_of_startTag
    (within what : String) (tag : StartTag) (tokens : List Token) :
    Fails (requiredText within what) (.startTag tag :: tokens) :=
  (hasTextAhead_becomes tokens _ (.startTag tag)).fails (Fails.raise _ _)

private theorem requiredText_of_endTag
    (within what : String) (name : QName) (tokens : List Token) :
    Fails (requiredText within what) (.endTag name :: tokens) :=
  (hasTextAhead_becomes tokens _ (.endTag name)).fails (Fails.raise _ _)

theorem requiredText_reads
    (within what : String) {element : Element}
    (held : element.HoldsText) :
    Reads (requiredText within what)
      element.contentTokens element.trimmedText := by
  obtain ⟨childless, present⟩ := held
  have read := (elementText_settles within element).1 childless
  have finished :
      Reads (elementText within >>= requirePresent what)
        element.contentTokens element.trimmedText := by
    refine read.bind_last ?_
    rw [requirePresent, if_neg (by simpa using present)]
    exact Reads.pure _
  have content :
      element.contentTokens =
        (element.children.filterMap Node.text?).map Token.text ++
          [.endTag element.name] := by
    rw [Element.contentTokens, Node.tokensOfAll_of_no_element childless]
  cases texts : element.children.filterMap Node.text? with
  | nil =>
      have blank : element.trimmedText = "" := by
        rw [Element.trimmedText, Element.text, texts]
        decide
      exact absurd blank present
  | cons head tail =>
      rw [texts] at content
      rw [content] at finished ⊢
      exact (requiredText_of_text within what head _).reads finished

theorem requiredText_fails
    (within what : String) {element : Element}
    (missing : ¬ element.HoldsText) :
    Fails (requiredText within what) element.contentTokens := by
  have finished :
      Fails (elementText within >>= requirePresent what)
        element.contentTokens := by
    by_cases childless : element.childElements = []
    · have blank : element.trimmedText = "" :=
        Decidable.byContradiction fun present =>
          missing ⟨childless, present⟩
      refine ((elementText_settles within element).1
        childless).bind_last_fails ?_
      rw [requirePresent, if_pos (by simpa using blank)]
      exact Fails.raise _ []
    · exact ((elementText_settles within element).2 childless).bind _
  rw [Element.contentTokens] at finished ⊢
  cases children : element.children with
  | nil => exact requiredText_of_endTag within what element.name []
  | cons head tail =>
      rw [children] at finished
      cases head with
      | text content =>
          exact (requiredText_of_text within what content _).fails finished
      | element name attributes inner =>
          exact requiredText_of_startTag within what ⟨name, attributes⟩ _

theorem requiredText_settles
    (within what : String) (element : Element) :
    Settles (requiredText within what) element.contentTokens := by
  by_cases held : element.HoldsText
  · exact Settles.of_reads (requiredText_reads within what held)
  · exact Settles.of_fails (requiredText_fails within what held)

end Cursor

/-! ## Elements that hold one value -/

namespace Scalar

open Cursor

variable (localPart what : String) (element : Element)

theorem readUri_reads
    {element : Element} {uri : Uri}
    (held : element.HoldsText)
    (valid : Uri.read element.trimmedText = .ok uri) :
    Reads (readUri localPart what) element.tokens uri := by
  refine (nextStartTag_reads localPart element.startTag).bind ?_
  refine (requiredText_reads localPart what held).bind_last ?_
  rw [valid]
  exact Reads.pure uri

theorem readUri_settles :
    Settles (readUri localPart what) element.tokens := by
  refine ((nextStartTag_reads localPart element.startTag).becomes _
    element.contentTokens).settles ?_
  refine (requiredText_settles localPart what element).bind_last ?_
  intro text _
  cases Uri.read text with
  | ok uri => exact Settles.pure uri
  | error flaw => exact Settles.of_fails (Fails.raise _ [])

theorem readInteger_reads
    {element : Element} {number : Nat}
    (held : element.HoldsText)
    (valid : Text.readNatural Text.wordBound element.trimmedText.toList =
      .ok number) :
    Reads (readInteger localPart what) element.tokens number := by
  refine (nextStartTag_reads localPart element.startTag).bind ?_
  refine (requiredText_reads localPart what held).bind_last ?_
  rw [valid]
  exact Reads.pure number

theorem readInteger_settles :
    Settles (readInteger localPart what) element.tokens := by
  refine ((nextStartTag_reads localPart element.startTag).becomes _
    element.contentTokens).settles ?_
  refine (requiredText_settles localPart what element).bind_last ?_
  intro text _
  cases Text.readNatural Text.wordBound text.toList with
  | ok number => exact Settles.pure number
  | error flaw => exact Settles.of_fails (Fails.raise _ [])

end Scalar

end WsTrust
