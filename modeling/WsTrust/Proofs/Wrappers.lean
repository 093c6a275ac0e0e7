import WsTrust.Proofs.Leaves
import WsTrust.Lifetime

/-!
# Where the readers of wrappers stop

An element that wraps a part of a message is closed at the first end tag that
comes after the part, whosever that is.  Its reader therefore stops behind its
element on content with no further part only; on any other content it fails,
stops short or runs on.
-/

namespace WsTrust

open Cursor

variable {element : Element} {localPart : String}

/-! ## A part and the closing after it -/

/-- A part that its reader settles on, followed by the closing of the element
around it. -/
theorem Cursor.child_closing_settlesIf
    {Part Result : Type} {reader : Cursor Part} {tokens : List Token}
    {name : QName} {localPart : String}
    (settled : Settles reader tokens)
    (named : name.localPart = localPart)
    (after : List Node) (whole : Part → Result) :
    SettlesIf (after.filterMap Node.element? = [])
      (reader >>= fun part =>
        expectEndTag localPart >>= fun _ => pure (whole part))
      (tokens ++ (Node.tokensOfAll after ++ [.endTag name])) :=
  SettlesIf.bind settled fun part =>
    closing_settlesIf named after (whole part)

theorem Cursor.child_closing_reads
    {Part Result : Type} {reader : Cursor Part} {tokens : List Token}
    {part : Part} {name : QName} {localPart : String} {after : List Node}
    (read : Reads reader tokens part)
    (named : name.localPart = localPart)
    (noElement : after.filterMap Node.element? = [])
    (whole : Part → Result) :
    Reads
      (reader >>= fun part =>
        expectEndTag localPart >>= fun _ => pure (whole part))
      (tokens ++ (Node.tokensOfAll after ++ [.endTag name]))
      (whole part) :=
  read.bind (closing_reads named noElement (whole part))

theorem length_cons_le_one_iff (first : Element) (others : List Element) :
    (first :: others).length ≤ 1 ↔ others = [] := by
  cases others <;> simp

theorem length_cons_eq_one_iff (first : Element) (others : List Element) :
    (first :: others).length = 1 ↔ others = [] := by
  cases others <;> simp

/-! ## One fragment -/

theorem Fragment.readOne_settlesIf
    (named : element.localName = localPart) (maxDepth : Nat) :
    SettlesIf (element.childElements.length ≤ 1)
      (Fragment.readOne localPart maxDepth) element.tokens := by
  refine SettlesIf.becomes ?_ (enter_becomes_content named _)
  cases children : element.childElements with
  | nil =>
      refine SettlesIf.becomes ?_
        (peekChild_of_childless localPart _ children)
      exact SettlesIf.of_fails (Fails.refuse _ _)
  | cons first others =>
      obtain ⟨after, rfl, reached⟩ :=
        exists_peekChild_of_children localPart _ children
      refine SettlesIf.congr ?_ (length_cons_le_one_iff first _)
      refine SettlesIf.becomes ?_ reached
      exact child_closing_settlesIf (captureElement_settles maxDepth first)
        named after id

theorem UseKey.read_settlesIf
    (named : element.localName = "UseKey") (maxDepth : Nat) :
    SettlesIf (element.childElements.length ≤ 1)
      (UseKey.read maxDepth) element.tokens := by
  refine SettlesIf.becomes ?_ (enter_becomes_content named _)
  cases children : element.childElements with
  | nil =>
      refine SettlesIf.becomes ?_
        (peekChild_of_childless "UseKey" _ children)
      exact SettlesIf.of_fails (Fails.refuse _ _)
  | cons first others =>
      obtain ⟨after, rfl, reached⟩ :=
        exists_peekChild_of_children "UseKey" _ children
      refine SettlesIf.congr ?_ (length_cons_le_one_iff first _)
      refine SettlesIf.becomes ?_ reached
      by_cases known :
          first.startTag.localName = "X509Certificate" ∨
            first.startTag.localName = "KeyValue"
      · simp only [if_pos known]
        exact child_closing_settlesIf (captureElement_settles maxDepth first)
          named after UseKey.mk
      · simp only [if_neg known]
        exact SettlesIf.of_fails (Fails.refuse _ _)

/-! ## A secret or nothing -/

theorem Entropy.read_settlesIf
    (named : element.localName = "Entropy") :
    SettlesIf (element.childElements.length ≤ 1)
      Entropy.read element.tokens := by
  refine SettlesIf.becomes ?_ (enter_becomes_content named _)
  cases children : element.childElements with
  | nil =>
      refine SettlesIf.becomes ?_
        (peekChild_of_childless "Entropy" _ children)
      exact (closing_settlesIf named [] _).congr (by simp)
  | cons first others =>
      obtain ⟨after, rfl, reached⟩ :=
        exists_peekChild_of_children "Entropy" _ children
      refine SettlesIf.congr ?_ (length_cons_le_one_iff first _)
      refine SettlesIf.becomes ?_ reached
      by_cases secret : first.startTag.localName = "BinarySecret"
      · simp only [if_pos secret]
        exact child_closing_settlesIf
          ((BinarySecret.read_settles secret false).map some) named after
          Entropy.mk
      · simp only [if_neg secret]
        exact child_closing_settlesIf
          (Settles.of_reads (skipElement_reads first)) named after
          fun _ => Entropy.mk none

theorem ProofToken.read_settlesIf
    (named : element.localName = "RequestedProofToken") :
    SettlesIf (element.childElements.length ≤ 1)
      ProofToken.read element.tokens := by
  refine SettlesIf.becomes ?_ (enter_becomes_content named _)
  cases children : element.childElements with
  | nil =>
      refine SettlesIf.becomes ?_
        (peekChild_of_childless "RequestedProofToken" _ children)
      exact (closing_settlesIf named [] _).congr (by simp)
  | cons first others =>
      obtain ⟨after, rfl, reached⟩ :=
        exists_peekChild_of_children "RequestedProofToken" _ children
      refine SettlesIf.congr ?_ (length_cons_le_one_iff first _)
      refine SettlesIf.becomes ?_ reached
      by_cases secret : first.startTag.localName = "BinarySecret"
      · simp only [if_pos secret]
        exact child_closing_settlesIf
          ((BinarySecret.read_settles secret true).map
            ProofToken.binarySecret)
          named after id
      · by_cases computed : first.startTag.localName = "ComputedKey"
        · simp only [if_neg secret, if_pos computed]
          have settled :
              Settles
                (nextStartTag "ComputedKey" >>= fun _ =>
                  ProofToken.computedKey <$>
                    requiredText "ComputedKey" "computed key algorithm")
                first.tokens := by
            refine (Reads.becomes (nextStartTag_reads _ first.startTag) _
              first.contentTokens).settles ?_
            exact (requiredText_settles _ _ first).map _
          exact child_closing_settlesIf settled named after id
        · simp only [if_neg secret, if_neg computed]
          exact SettlesIf.of_fails ((Fails.refuse _ _).bind _)

/-! ## Nothing -/

theorem Renewing.read_settlesIf
    (named : element.localName = "Renewing") :
    SettlesIf (element.childElements = []) Renewing.read element.tokens := by
  refine SettlesIf.becomes ?_ (enter_becomes_content named _)
  exact closing_settlesIf named element.children _

/-! ## A relying party -/

theorem AppliesTo.read_settlesIf
    (named : element.localName = "AppliesTo") :
    SettlesIf (element.childElements.length ≤ 1)
      AppliesTo.read element.tokens := by
  refine SettlesIf.becomes ?_ (enter_becomes_content named _)
  cases children : element.childElements with
  | nil =>
      refine SettlesIf.becomes ?_
        (peekChild_of_childless "AppliesTo" _ children)
      exact (closing_settlesIf named [] _).congr (by simp)
  | cons first others =>
      obtain ⟨after, rfl, reached⟩ :=
        exists_peekChild_of_children "AppliesTo" _ children
      refine SettlesIf.congr ?_ (length_cons_le_one_iff first _)
      refine SettlesIf.becomes ?_ reached
      by_cases endpoint : first.startTag.localName = "EndpointReference"
      · simp only [if_pos endpoint]
        exact child_closing_settlesIf
          ((AppliesTo.readEndpoint_settles endpoint).map _) named after id
      · simp only [if_neg endpoint]
        exact child_closing_settlesIf
          ((captureElement_settles AppliesTo.maxDepth first).map _)
          named after id

/-! ## Exactly one reference -/

theorem Fragment.readRest_advances (localPart : String) (maxDepth : Nat) :
    Advances (Fragment.readRest localPart maxDepth) := by
  refine repeating_advances (fun earlier => ?_) _
  refine peekBoundary_advances.bind fun boundary => ?_
  split
  · exact (captureElement_advances maxDepth).bind
      fun _ => Advances.pure _
  · split
    · exact next_advances.bind fun _ => Advances.pure _
    · exact Advances.refuse _
  · exact Advances.refuse _

theorem startTag_notMem_of_childless
    (childless : element.childElements = []) (tag : StartTag) :
    Token.startTag tag ∉ element.contentTokens := by
  rw [Element.contentTokens, Node.tokensOfAll_of_no_element childless]
  simp

theorem TokenReference.read_runsOn
    (childless : element.childElements = []) (maxDepth : Nat) :
    RunsOn (TokenReference.read maxDepth) element.contentTokens := by
  have entered :
      RunsOn (enter "SecurityTokenReference") element.contentTokens :=
    (nextStartTag_runsOn _ (startTag_notMem_of_childless childless)).bind
      fun tag => (expectName_advances _ _).bind fun _ => Advances.pure tag
  exact entered.bind fun _ =>
    (Fragment.readRest_advances _ maxDepth).bind fun _ => Advances.pure _

theorem TokenReference.readWrapped_settlesIf
    (named : element.localName = localPart) (maxDepth : Nat) :
    SettlesIf (element.childElements.length = 1)
      (TokenReference.readWrapped localPart maxDepth) element.tokens := by
  refine SettlesIf.becomes ?_ (enter_becomes_content named _)
  cases children : element.childElements with
  | nil =>
      refine SettlesIf.of_misses ?_ (by simp)
      have ran := (TokenReference.read_runsOn children maxDepth).bind
        fun reference => (expectEndTag_advances localPart).bind
          fun _ => Advances.pure reference
      exact ran.misses
  | cons first others =>
      obtain ⟨texts, after, split, rfl⟩ :=
        Node.exists_split_at_element children
      rw [Element.contentTokens, split, List.append_assoc,
        List.append_assoc]
      have reached := enter_of_texts "SecurityTokenReference" texts
        (first.tokens ++ (Node.tokensOfAll after ++ [.endTag element.name]))
      refine SettlesIf.becomes ?_ ((reached.bind _).bind _)
      refine SettlesIf.congr ?_ (length_cons_eq_one_iff first _)
      exact child_closing_settlesIf
        (TokenReference.read_settles maxDepth first) named after
        fun reference => reference

/-! ## A span of time -/

/-- What is left of reading a lifetime once its start has been read, or has
been found missing. -/
def Lifetime.readEnd (created : Option Timestamp) : Cursor Lifetime := do
  let tag ← Cursor.nextStartTag "Expires"
  if tag.localName = "Expires" then
    let expires ← Cursor.requiredText "Expires" "lifetime expiry"
    Cursor.expectEndTag "Lifetime"
    return { created, expires := ⟨expires⟩ }
  else
    Cursor.refuse (.unknownTag tag.localName)

theorem Lifetime.readEnd_runsOn
    {tokens : List Token} (created : Option Timestamp)
    (none : ∀ tag, Token.startTag tag ∉ tokens) :
    RunsOn (Lifetime.readEnd created) tokens := by
  refine (nextStartTag_runsOn "Expires" none).bind fun tag => ?_
  split
  · exact (requiredText_advances _ _).bind fun _ =>
      (expectEndTag_advances _).bind fun _ => Advances.pure _
  · exact Advances.refuse _

/-- Reading the end of a lifetime from an element on, with what comes after
it. -/
theorem Lifetime.readEnd_settlesIf
    {condition : Prop} {texts : List String} {last : Element}
    {more : List Token} (created : Option Timestamp)
    (closing : ∀ expires : Timestamp,
      SettlesIf condition
        (expectEndTag "Lifetime" >>= fun _ =>
          pure { created, expires : Lifetime })
        more) :
    SettlesIf condition (Lifetime.readEnd created)
      (texts.map Token.text ++ (last.tokens ++ more)) := by
  have reached := nextStartTag_of_texts "Expires" texts (last.tokens ++ more)
  refine SettlesIf.becomes ?_ (reached.bind _)
  refine SettlesIf.becomes ?_
    ((nextStartTag_reads "Expires" last.startTag).becomes _
      (last.contentTokens ++ more))
  by_cases expiry : last.startTag.localName = "Expires"
  · simp only [if_pos expiry]
    exact SettlesIf.bind (requiredText_settles _ _ last)
      fun expires => closing ⟨expires⟩
  · simp only [if_neg expiry]
    exact SettlesIf.of_fails (Fails.refuse _ _)

theorem Lifetime.readEnd_closing_settlesIf
    {name : QName} (named : name.localPart = "Lifetime")
    (nodes : List Node) (created : Option Timestamp) :
    SettlesIf ((nodes.filterMap Node.element?).length = 1)
      (Lifetime.readEnd created)
      (Node.tokensOfAll nodes ++ [.endTag name]) := by
  cases elements : nodes.filterMap Node.element? with
  | nil =>
      refine SettlesIf.of_misses (RunsOn.misses ?_) (by simp)
      apply Lifetime.readEnd_runsOn
      intro tag
      rw [Node.tokensOfAll_of_no_element elements]
      simp
  | cons last others =>
      obtain ⟨texts, after, split, rfl⟩ :=
        Node.exists_split_at_element elements
      rw [split, List.append_assoc, List.append_assoc]
      refine SettlesIf.congr ?_ (length_cons_eq_one_iff last _)
      exact Lifetime.readEnd_settlesIf created
        fun _ => closing_settlesIf named after _

/-- What is left of reading a lifetime after the start tag of its first
child. -/
def Lifetime.readFrom (first : StartTag) : Cursor Lifetime := do
  let created ←
    if first.localName = "Created" then
      some <$> Timestamp.mk <$> Cursor.elementText "Created"
    else
      pure none
  Lifetime.readEnd created

theorem Lifetime.readFrom_advances (first : StartTag) :
    Advances (Lifetime.readFrom first) := by
  have readEnd_advances (created : Option Timestamp) :
      Advances (Lifetime.readEnd created) := by
    refine (nextStartTag_advances _).bind fun tag => ?_
    split
    · exact (requiredText_advances _ _).bind fun _ =>
        (expectEndTag_advances _).bind fun _ => Advances.pure _
    · exact Advances.refuse _
  rw [Lifetime.readFrom]
  split
  · exact (((elementText_advances _).map _).map _).bind readEnd_advances
  · exact (Advances.pure none).bind readEnd_advances

/-- The first child of a lifetime is either read as its start or passed over.
An element inside it is refused or taken for the end of the lifetime, which is then
closed too early. -/
theorem Lifetime.readFrom_settlesIf
    {first : Element} {name : QName}
    (named : name.localPart = "Lifetime") (nodes : List Node) :
    SettlesIf
      (first.childElements = [] ∧
        (nodes.filterMap Node.element?).length = 1)
      (Lifetime.readFrom first.startTag)
      (first.contentTokens ++
        (Node.tokensOfAll nodes ++ [.endTag name])) := by
  have ended := Lifetime.readEnd_closing_settlesIf named nodes
  rw [Lifetime.readFrom]
  by_cases start : first.startTag.localName = "Created"
  · simp only [if_pos start]
    by_cases childless : first.childElements = []
    · have read := (elementText_settles "Created" first).1 childless
      refine SettlesIf.congr ?_ (and_iff_right childless)
      exact SettlesIf.bind
        (((Settles.of_reads read).map Timestamp.mk).map some) ended
    · have failed := (elementText_settles "Created" first).2 childless
      exact SettlesIf.of_fails
        ((((failed.map _).map _).bind _).append _)
  · simp only [if_neg start]
    refine SettlesIf.becomes ?_ ((Reads.pure none).becomes _
      (first.contentTokens ++ (Node.tokensOfAll nodes ++ [.endTag name])))
    cases inner : first.childElements with
    | nil =>
        have passed := nextStartTag_passes "Expires"
          (startTag_notMem_of_childless inner)
          (Node.tokensOfAll nodes ++ [.endTag name])
        refine SettlesIf.congr ?_ (and_iff_right rfl)
        exact (ended none).becomes (passed.bind _)
    | cons last others =>
        obtain ⟨texts, after, split, _⟩ :=
          Node.exists_split_at_element inner
        have tokens :
            first.contentTokens ++
                (Node.tokensOfAll nodes ++ [.endTag name]) =
              texts.map Token.text ++
                (last.tokens ++
                  ((Node.tokensOfAll after ++ [.endTag first.name]) ++
                    (Node.tokensOfAll nodes ++ [.endTag name]))) := by
          rw [Element.contentTokens, split]
          simp only [List.append_assoc]
        rw [tokens]
        refine Lifetime.readEnd_settlesIf none fun expires => ?_
        refine SettlesIf.of_misses ?_ (by simp)
        have closed : Token.endTag first.name ∈
            Node.tokensOfAll after ++ [.endTag first.name] := by simp
        exact expectEndTag_misses "Lifetime" closed (by simp)

theorem Lifetime.read_settlesIf
    (named : element.localName = "Lifetime") :
    SettlesIf
      (∃ first last,
        element.childElements = [first, last] ∧ first.childElements = [])
      Lifetime.read element.tokens := by
  refine SettlesIf.becomes ?_ (enter_becomes_content named _)
  cases children : element.childElements with
  | nil =>
      refine SettlesIf.of_misses ?_ (by simp)
      have ran := (nextStartTag_runsOn "Created"
        (startTag_notMem_of_childless children)).bind
          Lifetime.readFrom_advances
      exact ran.misses
  | cons first others =>
      obtain ⟨texts, after, split, rfl⟩ :=
        Node.exists_split_at_element children
      have timespan :
          (∃ start last,
            first :: after.filterMap Node.element? = [start, last] ∧
              start.childElements = []) ↔
          first.childElements = [] ∧
            (after.filterMap Node.element?).length = 1 := by
        rw [List.length_eq_one_iff]
        constructor
        · rintro ⟨start, last, equality, childless⟩
          obtain ⟨rfl, remaining⟩ := List.cons.inj equality
          exact ⟨childless, last, remaining⟩
        · rintro ⟨childless, last, equality⟩
          exact ⟨first, last, by rw [equality], childless⟩
      rw [Element.contentTokens, split, List.append_assoc,
        List.append_assoc]
      have reached := nextStartTag_of_texts "Created" texts
        (first.tokens ++ (Node.tokensOfAll after ++ [.endTag element.name]))
      refine SettlesIf.congr ?_ timespan
      refine SettlesIf.becomes ?_ (reached.bind _)
      refine SettlesIf.becomes ?_
        ((nextStartTag_reads "Created" first.startTag).becomes _ _)
      exact Lifetime.readFrom_settlesIf named after

end WsTrust
