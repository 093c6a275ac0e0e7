import WsTrust.Proofs.LostBlanks
import WsTrust.Proofs.Refusals
import WsTrust.Proofs.Values

/-!
# The grammar of a status

A status holds codes and reasons, each of which holds text that is not blank, and
nothing else.  It is read exactly if it is of this form.  Otherwise the first
token that no status goes on with decides how reading fails, whatever follows
it.
-/

namespace WsTrust

open Cursor

/-! ## Elements that hold texts only -/

namespace Element

theorem tokens_toNode (element : Element) :
    element.toNode.tokens =
      .startTag element.startTag :: element.contentTokens := rfl

variable {element : Element} {texts : List String}

theorem childElements_of_texts
    (children : element.children = texts.map Node.text) :
    element.childElements = [] := by
  have noElement : ∀ node ∈ texts.map Node.text, node.element? = none := by
    intro node member
    obtain ⟨content, _, rfl⟩ := List.mem_map.mp member
    rfl
  rw [childElements, children]
  exact List.filterMap_eq_nil_iff.mpr noElement

theorem trimmedText_of_texts
    (children : element.children = texts.map Node.text) :
    element.trimmedText = Text.trim (String.join texts) := by
  have contents : (texts.map Node.text).filterMap Node.text? = texts := by
    rw [List.filterMap_map]
    exact List.filterMap_some
  rw [trimmedText, text, children, contents]

theorem contentTokens_of_texts
    (children : element.children = texts.map Node.text) :
    element.contentTokens =
      texts.map Token.text ++ [.endTag element.name] := by
  rw [contentTokens, children, Node.tokensOfAll_map_text]

end Element

namespace Status

/-! ## The grammar -/

/-- What a child of a status states, as failures call it. -/
def stated? (localPart : String) : Option String :=
  if localPart = "Code" then
    some "validation code"
  else if localPart = "Reason" then
    some "validation reason"
  else
    none

/-- An element that may stand in a status. -/
def IsPart (part : Element) : Prop :=
  (part.localName = "Code" ∨ part.localName = "Reason") ∧ part.HoldsText

instance (part : Element) : Decidable (IsPart part) :=
  inferInstanceAs (Decidable (_ ∧ _))

/-- The content of the element is that of a status. -/
structure IsGrammatical (element : Element) : Prop where
  textless : element.children.filterMap Node.text? = []
  named : ∀ child ∈ element.childElements,
    child.localName = "Code" ∨ child.localName = "Reason"
  held : ∀ child ∈ element.childElements, child.HoldsText

instance (element : Element) : Decidable (IsGrammatical element) :=
  decidable_of_iff
    (element.children.filterMap Node.text? = [] ∧
      (∀ child ∈ element.childElements,
        child.localName = "Code" ∨ child.localName = "Reason") ∧
      ∀ child ∈ element.childElements, child.HoldsText)
    ⟨fun ⟨textless, named, held⟩ => ⟨textless, named, held⟩,
      fun ⟨textless, named, held⟩ => ⟨textless, named, held⟩⟩

/-- The text of the last child with the local name, empty if there is none. -/
def lastText (element : Element) (localPart : String) : String :=
  match (element.childElements.filter
      (·.localName == localPart)).getLast? with
  | some child => child.trimmedText
  | none => ""

/-- A node that may not stand in a status: the tokens of it before the first
one that offends, this one, and the failure that it calls for. -/
inductive Offends : Node → List Token → Token → Failure → Prop
  | text (content : String) :
      Offends (.text content) [] (.text content)
        (.fault (.unexpectedText "Status"))
  | unknown {child : Element} (unknown : stated? child.localName = none) :
      Offends child.toNode [] (.startTag child.startTag)
        (.fault (.unknownTag child.localName))
  | blank {child : Element} {what : String} {texts : List String}
      (known : stated? child.localName = some what)
      (children : child.children = texts.map Node.text)
      (blank : child.trimmedText = "") :
      Offends child.toNode
        (.startTag child.startTag :: texts.map Token.text)
        (.endTag child.name) (.parse (.missingText what))
  | elementFirst {child inner : Element} {what : String} {after : List Node}
      (known : stated? child.localName = some what)
      (children : child.children = inner.toNode :: after) :
      Offends child.toNode [.startTag child.startTag]
        (.startTag inner.startTag) (.parse (.missingText what))
  | elementLater {child inner : Element} {what head : String}
      {tail : List String} {after : List Node}
      (known : stated? child.localName = some what)
      (children : child.children =
        (head :: tail).map Node.text ++ inner.toNode :: after) :
      Offends child.toNode
        (.startTag child.startTag :: (head :: tail).map Token.text)
        (.startTag inner.startTag)
        (.parse (.textOnly child.localName inner.localName))

/-- The content of the element is that of a status up to a token that offends,
and calls for this failure. -/
def BreaksAt (element : Element) (passed : List Token) (offending : Token)
    (failure : Failure) : Prop :=
  ∃ (parts : List Element) (node : Node) (later : List Node)
      (within : List Token),
    element.children = parts.map Element.toNode ++ node :: later ∧
      (∀ part ∈ parts, IsPart part) ∧
        Offends node within offending failure ∧
          passed = .startTag element.startTag ::
            (parts.flatMap Element.tokens ++ within)

theorem stated?_cases {localPart what : String}
    (known : stated? localPart = some what) :
    (localPart = "Code" ∧ what = "validation code") ∨
      (localPart = "Reason" ∧ what = "validation reason") := by
  rw [stated?] at known
  by_cases code : localPart = "Code"
  · rw [if_pos code] at known
    exact Or.inl ⟨code, (Option.some.inj known).symm⟩
  · rw [if_neg code] at known
    by_cases reason : localPart = "Reason"
    · rw [if_pos reason] at known
      exact Or.inr ⟨reason, (Option.some.inj known).symm⟩
    · rw [if_neg reason] at known
      cases known

theorem stated?_eq_none_iff {localPart : String} :
    stated? localPart = none ↔
      ¬ (localPart = "Code" ∨ localPart = "Reason") := by
  by_cases code : localPart = "Code" <;>
    by_cases reason : localPart = "Reason" <;>
      simp [stated?, code, reason]

theorem named_of_stated? {localPart what : String}
    (known : stated? localPart = some what) :
    localPart = "Code" ∨ localPart = "Reason" := by
  rcases stated?_cases known with ⟨code, _⟩ | ⟨reason, _⟩
  · exact Or.inl code
  · exact Or.inr reason

/-! ## Nodes that may stand in a status -/

theorem isGrammatical_iff {element : Element} :
    IsGrammatical element ↔
      ∃ parts : List Element,
        element.children = parts.map Element.toNode ∧
          ∀ part ∈ parts, IsPart part := by
  constructor
  · intro grammatical
    have nodes : ∀ node ∈ element.children,
        ∃ part, node.element? = some part := by
      intro node member
      cases node with
      | text content =>
          have none := List.filterMap_eq_nil_iff.mp grammatical.textless
            (.text content) member
          cases none
      | element name attributes children => exact ⟨_, rfl⟩
    have same (nodes : List Node)
        (elements : ∀ node ∈ nodes, ∃ part, node.element? = some part) :
        nodes = (nodes.filterMap Node.element?).map Element.toNode := by
      induction nodes with
      | nil => rfl
      | cons head tail inductionHypothesis =>
          obtain ⟨part, found⟩ := elements head List.mem_cons_self
          have others := inductionHypothesis fun node member =>
            elements node (List.mem_cons_of_mem head member)
          rw [List.filterMap_cons_some found, List.map_cons, ← others,
            Node.toNode_of_element? found]
    refine ⟨element.childElements, same _ nodes, fun part member => ?_⟩
    exact ⟨grammatical.named part member, grammatical.held part member⟩
  · rintro ⟨parts, children, each⟩
    have elements : element.childElements = parts := by
      rw [Element.childElements, children, List.filterMap_map]
      exact List.filterMap_some
    have noText : ∀ node ∈ parts.map Element.toNode,
        node.text? = none := by
      intro node member
      obtain ⟨part, _, rfl⟩ := List.mem_map.mp member
      rfl
    constructor
    · rw [children]
      exact List.filterMap_eq_nil_iff.mpr noText
    · rw [elements]
      exact fun part member => (each part member).1
    · rw [elements]
      exact fun part member => (each part member).2

/-- An element that may not stand in a status offends. -/
theorem exists_offends_of_not_isPart
    {child : Element} (missing : ¬ IsPart child) :
    ∃ within offending failure,
      Offends child.toNode within offending failure := by
  cases known : stated? child.localName with
  | none => exact ⟨_, _, _, Offends.unknown known⟩
  | some what =>
      have notHeld : ¬ child.HoldsText := fun held =>
        missing ⟨named_of_stated? known, held⟩
      cases elements : child.childElements with
      | nil =>
          have blank : child.trimmedText = "" :=
            Decidable.byContradiction fun present =>
              notHeld ⟨elements, present⟩
          have children := Node.eq_map_text elements
          exact ⟨_, _, _, Offends.blank known children blank⟩
      | cons inner others =>
          obtain ⟨texts, after, children⟩ :=
            Node.exists_texts_before_element elements
          cases texts with
          | nil => exact ⟨_, _, _, Offends.elementFirst known children⟩
          | cons head tail =>
              exact ⟨_, _, _, Offends.elementLater known children⟩

/-- Nodes may all stand in a status, or there is a first one that offends. -/
theorem parts_or_offends (nodes : List Node) :
    (∃ parts : List Element, nodes = parts.map Element.toNode ∧
      ∀ part ∈ parts, IsPart part) ∨
    ∃ (parts : List Element) (node : Node) (later : List Node)
        (within : List Token) (offending : Token) (failure : Failure),
      nodes = parts.map Element.toNode ++ node :: later ∧
        (∀ part ∈ parts, IsPart part) ∧
          Offends node within offending failure := by
  have nothing : ∀ part ∈ ([] : List Element), IsPart part := by simp
  induction nodes with
  | nil => exact Or.inl ⟨[], rfl, nothing⟩
  | cons head tail inductionHypothesis =>
      cases head with
      | text content =>
          exact Or.inr ⟨[], _, tail, _, _, _, rfl, nothing,
            Offends.text content⟩
      | element name attributes children =>
          let first : Element := ⟨name, attributes, children⟩
          by_cases isPart : IsPart first
          · have extended (parts : List Element)
                (each : ∀ part ∈ parts, IsPart part) :
                ∀ part ∈ first :: parts, IsPart part :=
              List.forall_mem_cons.mpr ⟨isPart, each⟩
            rcases inductionHypothesis with
              ⟨parts, rfl, each⟩ |
                ⟨parts, node, later, within, offending, failure, rfl, each,
                  offends⟩
            · exact Or.inl ⟨first :: parts, rfl, extended parts each⟩
            · exact Or.inr ⟨first :: parts, node, later, within, offending,
                failure, rfl, extended parts each, offends⟩
          · obtain ⟨within, offending, failure, offends⟩ :=
              exists_offends_of_not_isPart isPart
            exact Or.inr ⟨[], first.toNode, tail, within, offending, failure,
              rfl, nothing, offends⟩

theorem exists_breaksAt
    {element : Element} (ungrammatical : ¬ IsGrammatical element) :
    ∃ passed offending failure,
      BreaksAt element passed offending failure := by
  rcases parts_or_offends element.children with
    ⟨parts, children, each⟩ |
      ⟨parts, node, later, within, offending, failure, children, each,
        offends⟩
  · have grammatical := isGrammatical_iff.mpr ⟨parts, children, each⟩
    exact absurd grammatical ungrammatical
  · exact ⟨_, offending, failure, parts, node, later, within, children, each,
      offends, rfl⟩

/-! ## The first token that offends -/

/-- The token that offends is one of the tokens of its node. -/
theorem Offends.exists_following
    {node : Node} {within : List Token} {offending : Token}
    {failure : Failure} (offends : Offends node within offending failure) :
    ∃ following, node.tokens = within ++ offending :: following := by
  cases offends with
  | text content => exact ⟨[], rfl⟩
  | unknown unknown => exact ⟨_, rfl⟩
  | @blank child what texts known children blank =>
      have content := Element.contentTokens_of_texts children
      refine ⟨[], ?_⟩
      rw [child.tokens_toNode, content, List.cons_append]
  | @elementFirst child inner what after known children =>
      refine ⟨inner.contentTokens ++
        (Node.tokensOfAll after ++ [.endTag child.name]), ?_⟩
      have content : child.contentTokens = inner.tokens ++
          (Node.tokensOfAll after ++ [.endTag child.name]) := by
        rw [Element.contentTokens, children, Node.tokensOfAll_cons,
          List.append_assoc]
        rfl
      rw [child.tokens_toNode, content]
      rfl
  | @elementLater child inner what head tail after known children =>
      refine ⟨inner.contentTokens ++
        (Node.tokensOfAll after ++ [.endTag child.name]), ?_⟩
      have content : child.contentTokens =
          (head :: tail).map Token.text ++ (inner.tokens ++
            (Node.tokensOfAll after ++ [.endTag child.name])) := by
        rw [Element.contentTokens, children, Node.tokensOfAll_append,
          Node.tokensOfAll_map_text, Node.tokensOfAll_cons,
          List.append_assoc, List.append_assoc]
        rfl
      rw [child.tokens_toNode, content]
      rfl

/-- Before it offends, a child with a known name may still become one that
stands in a status. -/
theorem isPart_of_text_added
    {child : Element} {what : String}
    (known : stated? child.localName = some what) (texts : List String) :
    IsPart ⟨child.name, child.attributes,
      (texts ++ ["x"]).map Node.text⟩ := by
  have present : Text.trim (String.join (texts ++ ["x"])) ≠ "" := by
    rw [String.join_append]
    intro nothing
    have letter := (Text.trim_append_eq_empty_iff.mp nothing).2
    exact absurd letter (by decide)
  constructor
  · exact named_of_stated? known
  · constructor
    · exact Element.childElements_of_texts rfl
    · rw [Element.trimmedText_of_texts rfl]
      exact present

/-- A child with a known name and texts in it begins one that stands in a
status. -/
theorem exists_parts_of_known
    {child : Element} {what : String}
    (known : stated? child.localName = some what) (texts : List String) :
    ∃ parts : List Element,
      (∀ part ∈ parts, IsPart part) ∧
        .startTag child.startTag :: texts.map Token.text <+:
          parts.flatMap Element.tokens := by
  let whole : Element :=
    ⟨child.name, child.attributes, (texts ++ ["x"]).map Node.text⟩
  have isPart : IsPart whole := isPart_of_text_added known texts
  have content : whole.contentTokens =
      texts.map Token.text ++ [.text "x", .endTag child.name] := by
    rw [Element.contentTokens_of_texts rfl, List.map_append,
      List.append_assoc]
    rfl
  refine ⟨[whole], by simpa using isPart, ?_⟩
  rw [List.flatMap_singleton, Element.tokens, whole.tokens_toNode, content]
  apply (List.prefix_cons_inj _).mpr
  exact List.prefix_append _ _

/-- The tokens before the one that offends are those that content of a status
begins with. -/
theorem Offends.exists_parts
    {node : Node} {within : List Token} {offending : Token}
    {failure : Failure} (offends : Offends node within offending failure) :
    ∃ parts : List Element,
      (∀ part ∈ parts, IsPart part) ∧
        within <+: parts.flatMap Element.tokens := by
  cases offends with
  | text content => exact ⟨[], by simp, List.nil_prefix⟩
  | unknown unknown => exact ⟨[], by simp, List.nil_prefix⟩
  | blank known children blank => exact exists_parts_of_known known _
  | elementFirst known children => exact exists_parts_of_known known []
  | elementLater known children => exact exists_parts_of_known known _

/-! ## Turns -/

/-- A child with a known name is entered, and its text is required. -/
theorem turn_becomes_of_known
    {child : Element} {what : String}
    (known : stated? child.localName = some what) (status : Status)
    (tokens : List Token) :
    ∃ next : String → Cursor (Turn Status Status),
      Becomes (turn status) (.startTag child.startTag :: tokens)
        (requiredText child.localName what >>= next) tokens := by
  rcases stated?_cases known with ⟨code, rfl⟩ | ⟨reason, rfl⟩
  · have tagNamed : child.startTag.localName = "Code" := code
    refine ⟨fun code => pure (.again { status with code }), ?_⟩
    apply (peek_becomes _ tokens (.startTag child.startTag)).trans
    simp only [if_pos tagNamed, code]
    exact enter_becomes tagNamed _ tokens
  · have tagNamed : child.startTag.localName = "Reason" := reason
    have notCode : ¬ child.startTag.localName = "Code" := by
      rw [tagNamed]
      decide
    refine ⟨fun reason => pure (.again { status with reason }), ?_⟩
    apply (peek_becomes _ tokens (.startTag child.startTag)).trans
    simp only [if_neg notCode, if_pos tagNamed, reason]
    exact enter_becomes tagNamed _ tokens

/-- If the text of a child with a known name is refused, so is the child. -/
theorem turn_refuses_of_known
    {child : Element} {what : String}
    (known : stated? child.localName = some what) (status : Status)
    {tokens left : List Token} {failure : Failure}
    (refused : Refuses (requiredText child.localName what) tokens
      failure left) :
    Refuses (turn status) (.startTag child.startTag :: tokens)
      failure left := by
  obtain ⟨next, entered⟩ := turn_becomes_of_known known status tokens
  exact entered.refuses (refused.bind next)

/-- On a node that offends a turn fails as it calls for, whatever follows the
token that offends. -/
theorem Offends.turn_refuses
    {node : Node} {within : List Token} {offending : Token}
    {failure : Failure} (offends : Offends node within offending failure)
    (status : Status) :
    ∃ left, Refuses (turn status) (within ++ [offending]) failure left := by
  cases offends with
  | text content =>
      have looked : Becomes (turn status) [.text content]
          (refuse (.unexpectedText "Status")) [.text content] :=
        peek_becomes _ [] (.text content)
      exact ⟨_, looked.refuses (Refuses.refuse _ _)⟩
  | @unknown child unknown =>
      have neither := stated?_eq_none_iff.mp unknown
      have notCode : ¬ child.startTag.localName = "Code" := fun code =>
        neither (Or.inl code)
      have notReason : ¬ child.startTag.localName = "Reason" :=
        fun reason => neither (Or.inr reason)
      have looked : Becomes (turn status) [.startTag child.startTag]
          (refuse (.unknownTag child.localName))
          [.startTag child.startTag] := by
        apply (peek_becomes _ [] (.startTag child.startTag)).trans
        simp only [if_neg notCode, if_neg notReason]
        exact Becomes.refl _ _
      exact ⟨_, looked.refuses (Refuses.refuse _ _)⟩
  | @blank child what texts known children blank =>
      rw [Element.trimmedText_of_texts children] at blank
      obtain ⟨left, refused⟩ :=
        requiredText_refuses_blank child.localName what blank child.name
      exact ⟨left, turn_refuses_of_known known status refused⟩
  | @elementFirst child inner what after known children =>
      have refused : Refuses (requiredText child.localName what)
          [.startTag inner.startTag] (.parse (.missingText what))
          [.startTag inner.startTag] :=
        requiredText_refuses_tag _ _ rfl
      exact ⟨_, turn_refuses_of_known known status refused⟩
  | @elementLater child inner what head tail after known children =>
      have refused := requiredText_refuses_element child.localName what
        head tail inner.startTag
      exact ⟨_, turn_refuses_of_known known status refused⟩

theorem IsPart.takes {part : Element} (isPart : IsPart part) :
    Takes Element.tokens turn withPart part :=
  turn_takes isPart.1 isPart.2

/-- A status that breaks off at a token is refused for it, whatever follows. -/
theorem BreaksAt.read_refuses
    {element : Element} (named : element.localName = "Status")
    {passed : List Token} {offending : Token} {failure : Failure}
    (breaks : BreaksAt element passed offending failure) :
    ∃ left, Refuses read (passed ++ [offending]) failure left := by
  obtain ⟨parts, node, later, within, _, each, offends, rfl⟩ := breaks
  have taken : ∀ part ∈ parts, Takes Element.tokens turn withPart part :=
    fun part member => (each part member).takes
  obtain ⟨left, refused⟩ :=
    offends.turn_refuses (parts.foldl withPart ⟨"", ""⟩)
  have body := repeating_refuses_after_parts taken refused
  have tagNamed : element.startTag.localName = "Status" := named
  have entered := enter_becomes tagNamed
    (fun _ => repeating turn ⟨"", ""⟩)
    (parts.flatMap Element.tokens ++ (within ++ [offending]))
  refine ⟨left, ?_⟩
  rw [List.cons_append, List.append_assoc]
  exact entered.refuses body

/-! ## The values of a status -/

/-- What parts make of a status are the texts of the last ones of each name. -/
theorem foldl_withPart
    {parts : List Element} (each : ∀ part ∈ parts, IsPart part)
    (status : Status) :
    parts.foldl withPart status =
      { code :=
          match (parts.filter (·.localName == "Code")).getLast? with
          | some child => child.trimmedText
          | none => status.code
        reason :=
          match (parts.filter (·.localName == "Reason")).getLast? with
          | some child => child.trimmedText
          | none => status.reason } := by
  induction parts using List.reverseRecOn with
  | nil => rfl
  | append_singleton parts last inductionHypothesis =>
      have eachBefore : ∀ part ∈ parts, IsPart part := fun part member =>
        each part (List.mem_append_left _ member)
      have lastNamed := (each last (by simp)).1
      rw [List.foldl_append, inductionHypothesis eachBefore]
      by_cases code : last.localName = "Code"
      · simp [withPart, code]
      · have reason := lastNamed.resolve_left code
        simp [withPart, reason]

theorem IsGrammatical.read_reads
    {element : Element} (grammatical : IsGrammatical element)
    (named : element.localName = "Status") :
    Reads read element.tokens
      ⟨lastText element "Code", lastText element "Reason"⟩ := by
  obtain ⟨parts, children, each⟩ := isGrammatical_iff.mp grammatical
  have elements : element.childElements = parts := by
    rw [Element.childElements, children, List.filterMap_map]
    exact List.filterMap_some
  have values := foldl_withPart each ⟨"", ""⟩
  rw [← elements] at values
  have reads := Status.read_reads named children
    (fun part member => (each part member).1)
    (fun part member => (each part member).2)
  rw [← elements, values] at reads
  exact reads

/-! ## Exactly the statuses -/

theorem BreaksAt.exists_following
    {element : Element} {passed : List Token} {offending : Token}
    {failure : Failure}
    (breaks : BreaksAt element passed offending failure) :
    ∃ following, element.tokens = passed ++ offending :: following := by
  obtain ⟨parts, node, later, within, children, each, offends, rfl⟩ := breaks
  obtain ⟨following, tokens⟩ := offends.exists_following
  refine ⟨following ++ (Node.tokensOfAll later ++ [.endTag element.name]), ?_⟩
  have content : element.contentTokens =
      parts.flatMap Element.tokens ++ (within ++ (offending :: following ++
        (Node.tokensOfAll later ++ [.endTag element.name]))) := by
    rw [Element.contentTokens, children, Node.tokensOfAll_append,
      Node.tokensOfAll_map_toNode, Node.tokensOfAll_cons, tokens]
    simp only [List.append_assoc]
  rw [Element.tokens, element.tokens_toNode, content]
  simp only [List.cons_append, List.append_assoc]

/-- Up to the token that offends, the tokens are those that another status
begins with. -/
theorem BreaksAt.exists_grammatical
    {element : Element} {passed : List Token} {offending : Token}
    {failure : Failure}
    (breaks : BreaksAt element passed offending failure) :
    ∃ whole : Element,
      whole.startTag = element.startTag ∧ IsGrammatical whole ∧
        passed <+: whole.tokens := by
  obtain ⟨parts, node, later, within, _, each, offends, rfl⟩ := breaks
  obtain ⟨others, othersEach, beginning⟩ := offends.exists_parts
  let whole : Element :=
    ⟨element.name, element.attributes,
      (parts ++ others).map Element.toNode⟩
  have all : ∀ part ∈ parts ++ others, IsPart part :=
    List.forall_mem_append.mpr ⟨each, othersEach⟩
  have grammatical : IsGrammatical whole :=
    isGrammatical_iff.mpr ⟨parts ++ others, rfl, all⟩
  have content : whole.contentTokens =
      parts.flatMap Element.tokens ++
        (others.flatMap Element.tokens ++ [.endTag element.name]) := by
    rw [Element.contentTokens, Node.tokensOfAll_map_toNode,
      List.flatMap_append, List.append_assoc]
  have reached : within <+:
      others.flatMap Element.tokens ++ [.endTag element.name] :=
    beginning.trans (List.prefix_append _ _)
  refine ⟨whole, rfl, grammatical, ?_⟩
  rw [Element.tokens, whole.tokens_toNode, content]
  apply (List.prefix_cons_inj _).mpr
  exact (List.prefix_append_right_inj _).mpr reached

/-- A status is read exactly if its content is that of a status, and then to the
last code and the last reason in it.  Otherwise there is a first token that
offends, behind tokens that a status may begin with, and the failure is the
one that it calls for, whatever follows it. -/
theorem read_follows_the_grammar
    {element : Element} (named : element.localName = "Status")
    (stream : TokenStream) (rest : List Token) :
    ((∃ status stop,
        read (stream.withTokens (element.tokens ++ rest)) =
          .ok status stop) ↔
      IsGrammatical element) ∧
    (IsGrammatical element →
      ∃ stop : TokenStream,
        read (stream.withTokens (element.tokens ++ rest)) =
            .ok ⟨lastText element "Code", lastText element "Reason"⟩ stop ∧
          stop.Holds rest) ∧
    (¬ IsGrammatical element →
      ∃ passed offending failure,
        BreaksAt element passed offending failure) ∧
    ∀ passed offending failure,
      BreaksAt element passed offending failure →
        (∃ following, element.tokens = passed ++ offending :: following) ∧
        (∃ whole : Element,
          whole.startTag = element.startTag ∧ IsGrammatical whole ∧
            passed <+: whole.tokens) ∧
        ∀ following, ∃ stop,
          read (stream.withTokens (passed ++ offending :: following)) =
            .error failure stop := by
  have accepted (grammatical : IsGrammatical element) :
      ∃ stop : TokenStream,
        read (stream.withTokens (element.tokens ++ rest)) =
            .ok ⟨lastText element "Code", lastText element "Reason"⟩ stop ∧
          stop.Holds rest :=
    (grammatical.read_reads named).holds (stream.holds_withTokens _)
  have refused {passed : List Token} {offending : Token} {failure : Failure}
      (breaks : BreaksAt element passed offending failure)
      (following : List Token) :
      ∃ stop, read (stream.withTokens (passed ++ offending :: following)) =
        .error failure stop := by
    obtain ⟨left, refused⟩ := breaks.read_refuses named
    obtain ⟨stop, failed, _⟩ := refused.holds stream following
    rw [← List.append_cons] at failed
    exact ⟨stop, failed⟩
  refine ⟨⟨?_, ?_⟩, accepted, exists_breaksAt, ?_⟩
  · rintro ⟨status, stop, succeeded⟩
    by_contra ungrammatical
    obtain ⟨passed, offending, failure, breaks⟩ :=
      exists_breaksAt ungrammatical
    obtain ⟨following, tokens⟩ := breaks.exists_following
    obtain ⟨last, failed⟩ := refused breaks (following ++ rest)
    rw [tokens, List.append_assoc, List.cons_append, failed] at succeeded
    cases succeeded
  · intro grammatical
    obtain ⟨stop, succeeded, _⟩ := accepted grammatical
    exact ⟨_, stop, succeeded⟩
  · intro passed offending failure breaks
    exact ⟨breaks.exists_following, breaks.exists_grammatical,
      refused breaks⟩

def openingParts : List Element :=
  [⟨QName.ofLocal "Code", [], [.text "first"]⟩,
    ⟨QName.ofLocal "Reason", [], [.text " be", .text "cause "]⟩]

def withThirdPart (last : Element) : Element :=
  ⟨QName.ofLocal "Status", [],
    openingParts.map Element.toNode ++ [last.toNode]⟩

def lastCode : Element :=
  ⟨QName.ofLocal "Code", [], [.text "last"]⟩

def markedReason : Element :=
  ⟨QName.ofLocal "Reason", [],
    [.text " ", (Element.ofName (QName.ofLocal "b")).toNode]⟩

/-- Of two codes the last one counts; an element behind a text is refused for
standing there, not for the text that is missing. -/
theorem thirdPart_follows_the_grammar :
    (∃ stop : TokenStream,
      read (.ofTokens ((withThirdPart lastCode).tokens ++
          [.text "behind"])) =
          .ok ⟨"last", "because"⟩ stop ∧
        stop.Holds [.text "behind"]) ∧
    ∃ stop : TokenStream,
      read (.ofTokens ((withThirdPart markedReason).tokens)) =
        .error (.parse (.textOnly "Reason" "b")) stop := by
  constructor
  · have named : (withThirdPart lastCode).localName = "Status" := rfl
    have grammatical : IsGrammatical (withThirdPart lastCode) := by decide
    have follows := read_follows_the_grammar named (.ofTokens [])
      [.text "behind"]
    exact follows.2.1 grammatical
  · have named : (withThirdPart markedReason).localName = "Status" := rfl
    have follows := read_follows_the_grammar named (.ofTokens []) []
    have children : markedReason.children =
        [" "].map Node.text ++
          [(Element.ofName (QName.ofLocal "b")).toNode] := rfl
    have offends := Offends.elementLater
      (rfl : stated? markedReason.localName = some "validation reason")
      children
    have accepted : ∀ part ∈ openingParts, IsPart part := by decide
    obtain ⟨_, _, refused⟩ := follows.2.2.2 _ _ _
      ⟨openingParts, _, [], _, rfl, accepted, offends, rfl⟩
    exact refused _

end Status

end WsTrust
