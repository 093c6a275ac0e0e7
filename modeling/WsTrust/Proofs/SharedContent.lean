import WsTrust.Proofs.Collection
import WsTrust.Proofs.SharedChildren

/-!
# Content that requests and responses read alike

Content of terms that all fit their content model is read child by child, and no
child of it is refused for being unknown.  It says the same in a request as in a
response.  Otherwise the two part exactly where one of them comes upon an element
that only the other knows.
-/

namespace WsTrust

open Cursor
open Payload (Kind)

def Element.HoldsTerms (element : Element) : Prop :=
  ∀ child ∈ element.childElements,
    child.localName ∈ Term.readers.map Prod.fst ∧ child.FitsContentModel

/-- The reader of a term never refuses an element that a table knows. -/
theorem Term.readers_not_refuse
    {localPart : String} {read : Nat → Cursor Term}
    (found : readers.lookup localPart = some read) {maxDepth : Nat}
    {stream rest : TokenStream} {failure : Failure}
    (failed : read maxDepth stream = .error failure rest) (kind : Kind) :
    ¬ failure.RefusesChildOf kind := by
  have alike :=
    (Likeness.equality kind).correspondence.terms maxDepth _
      (mem_of_lookup_eq_some found)
  have ended := alike.runsAlike (Likeness.streams_equality kind stream)
  dsimp only at ended
  rw [failed] at ended
  cases ended with
  | error failures stops => exact failures.2

/-- A body of terms that fit their content model never refuses an element that a
table knows. -/
theorem BodyGrammar.readRest_not_refuses
    {Record Child : Type} {grammar : BodyGrammar Record Child}
    {ofTerm : Term → Child}
    (terms : ∀ {localPart : String} {read : Nat → Cursor Term},
      Term.readers.lookup localPart = some read →
        grammar.children.lookup localPart =
          some fun maxDepth => ofTerm <$> read maxDepth)
    (kept : ∀ row ∈ grammar.children, KeepsTo row.1 row.2)
    {element : Element} (holds : element.HoldsTerms) {name : QName}
    (named : name.localPart = grammar.elementName) {registry : Registry}
    {maxDepth : Nat} {record : Record} {rest : TokenStream}
    {failure : Failure}
    (failed :
      grammar.readRest registry maxDepth record
          (.ofTokens
            (Node.tokensOfAll element.children ++ [.endTag name])) =
        .error failure rest)
    (kind : Kind) :
    ¬ failure.RefusesChildOf kind := by
  have found (child : Element) (member : child ∈ element.childElements) :
      ∃ read, Term.readers.lookup child.name.localPart = some read := by
    cases shared : Term.readers.lookup child.name.localPart with
    | some read => exact ⟨read, rfl⟩
    | none =>
        rw [lookup_eq_none_iff_notMem_keys] at shared
        exact absurd (holds child member).1 shared
  have settled (child : Element) (member : child ∈ element.childElements) :
      Settles (grammar.readChild registry maxDepth child.name)
        child.tokens := by
    obtain ⟨read, shared⟩ := found child member
    have known : grammar.Knows registry child.name := by
      rw [Knows, terms shared]
      exact Or.inl rfl
    exact (readChild_settlesIf kept known maxDepth).1 (holds child member).2
  have begun :
      repeating (grammar.turn registry maxDepth) record
          ((TokenStream.ofTokens []).withTokens
            ([] ++ (Node.tokensOfAll element.children ++
              [.endTag name]))) =
        .error failure rest := failed
  obtain ⟨child, member, before, after, refused⟩ :=
    turn_elementWise.exists_failed_reader settled (turn_closes named)
      Ignores.nil begun
  obtain ⟨read, shared⟩ := found child member
  rw [readChild, terms shared] at refused
  exact Term.readers_not_refuse shared
    (map_eq_error_iff.mp (map_eq_error_iff.mp refused)) kind

namespace Payload

theorem not_isRefusedFor_of_holdsTerms
    (registry : Registry) (maxDepth : Nat) {element : Element}
    (holds : element.HoldsTerms) (other : Kind) :
    ¬ IsRefusedFor other
        (read registry maxDepth (.ofTokens (tokensAs .request element))) ∧
      ¬ IsRefusedFor other
        (read registry maxDepth (.ofTokens (tokensAs .response element))) := by
  rw [read_request_tokensAs, read_response_tokensAs]
  constructor
  · rintro ⟨failure, rest, failed, refused⟩
    exact BodyGrammar.readRest_not_refuses
      (Term.lookup_readersAs_append RequestChild.term _)
      Request.children_keep holds rfl (map_eq_error_iff.mp failed) other
      refused
  · rintro ⟨failure, rest, failed, refused⟩
    exact BodyGrammar.readRest_not_refuses
      (Term.lookup_readersAs_append ResponseChild.term _)
      Response.children_keep holds rfl (map_eq_error_iff.mp failed) other
      refused

/-- Inside a request and inside a response, the same content is read as the same
terms or refused for the same reason, exactly if neither is refused for an
element that only the other knows.  This is so whenever the content consists of
terms that fit their content model, and whenever no element in it has a name that
only one of the tables has. -/
theorem request_and_response_state_same_terms_iff
    {registry : Registry} (plain : registry.IsPlain) (maxDepth : Nat)
    {element : Element}
    (inner : ∀ tag, .startTag tag ∈ Node.tokensOfAll element.children →
      ¬ IsSingleRoot tag.localName) :
    let asked :=
      read registry maxDepth (.ofTokens (tokensAs .request element))
    let answered :=
      read registry maxDepth (.ofTokens (tokensAs .response element))
    (StatesSameTerms asked answered ↔
        ¬ IsRefusedFor .response asked ∧ ¬ IsRefusedFor .request answered) ∧
      (element.HoldsTerms → StatesSameTerms asked answered) ∧
      ((∀ tag, .startTag tag ∈ Node.tokensOfAll element.children →
          IsKnownAlike tag.localName) →
        StatesSameTerms asked answered) := by
  intro asked answered
  have same_iff : StatesSameTerms asked answered ↔
      ¬ IsRefusedFor .response asked ∧ ¬ IsRefusedFor .request answered := by
    constructor
    · intro same
      refine ⟨fun refused => ?_, fun refused => ?_⟩
      · exact not_isRefusedFor_own plain maxDepth (Or.inr rfl) element
          (same.refused_left refused)
      · exact not_isRefusedFor_own plain maxDepth (Or.inl rfl) element
          (same.refused_right refused)
    · rintro ⟨requestAccepts, responseAccepts⟩
      rcases statesSameTerms_or_refused plain maxDepth (fun _ => True)
          (fun tag opening => ⟨inner tag opening, trivial⟩) with same |
        ⟨failure, rest, failed, name, refused, _, known, _⟩ |
        ⟨failure, rest, failed, name, refused, _, known, _⟩
      · exact same
      · exact absurd ⟨failure, rest, failed, name, refused, known⟩
          requestAccepts
      · exact absurd ⟨failure, rest, failed, name, refused, known⟩
          responseAccepts
  refine ⟨same_iff, fun holds => same_iff.mpr ⟨?_, ?_⟩, fun balanced => ?_⟩
  · exact (not_isRefusedFor_of_holdsTerms registry maxDepth holds _).1
  · exact (not_isRefusedFor_of_holdsTerms registry maxDepth holds _).2
  · rcases statesSameTerms_or_refused plain maxDepth IsKnownAlike
        (fun tag opening => ⟨inner tag opening, balanced tag opening⟩)
      with same |
      ⟨_, _, _, name, _, both, known, unknown⟩ |
      ⟨_, _, _, name, _, both, known, unknown⟩
    · exact same
    · exact absurd (both.mpr known) unknown
    · exact absurd (both.mp known) unknown

/-- A request or a response with a size of key and a key, and a text between
them.  The key is described by a status, which only a response knows. -/
def describedKey : Element :=
  ⟨.ofLocal "", [⟨.ofLocal "Context", "a"⟩],
    [.element (.ofLocal "KeySize") [] [.text "256"], .text " ",
      .element (.ofLocal "UseKey") [] [.element (.ofLocal "Status") [] []]]⟩

theorem describedKey_is_stated_alike :
    Registry.standard.IsPlain ∧
      (∀ tag, .startTag tag ∈ Node.tokensOfAll describedKey.children →
        ¬ IsSingleRoot tag.localName) ∧
      describedKey.HoldsTerms ∧
      StatesSameTerms
        (read .standard 1 (.ofTokens (tokensAs .request describedKey)))
        (read .standard 1 (.ofTokens (tokensAs .response describedKey))) := by
  have plain : Registry.standard.IsPlain := Or.inr rfl
  have inner (tag : StartTag)
      (opening : .startTag tag ∈ Node.tokensOfAll describedKey.children) :
      ¬ IsSingleRoot tag.localName := by
    have named : tag = ⟨.ofLocal "KeySize", []⟩ ∨
        tag = ⟨.ofLocal "UseKey", []⟩ ∨ tag = ⟨.ofLocal "Status", []⟩ := by
      simpa [describedKey, Node.tokensOfAll, Node.tokens] using opening
    rcases named with rfl | rfl | rfl <;> unfold IsSingleRoot <;> decide
  have holds : describedKey.HoldsTerms := by
    have keySize : Element.FitsContentModel
        ⟨.ofLocal "KeySize", [], [.text "256"]⟩ := trivial
    have useKey : Element.FitsContentModel
        ⟨.ofLocal "UseKey", [], [.element (.ofLocal "Status") [] []]⟩ :=
      Nat.le_refl 1
    refine List.forall_mem_cons.mpr ⟨⟨by decide, keySize⟩, ?_⟩
    exact List.forall_mem_singleton.mpr ⟨by decide, useKey⟩
  exact ⟨plain, inner, holds,
    (request_and_response_state_same_terms_iff plain 1 inner).2.1 holds⟩

/-- A renewal with another one and a status inside it. -/
def renewalWithStatus : Element :=
  ⟨.ofLocal "", [],
    [.element (.ofLocal "Renewing") []
      [.element (.ofLocal "Renewing") [] [],
        .element (.ofLocal "Status") [] []]]⟩

theorem StatesSameTerms.isUnclaimed
    {left right : EStateM.Result Failure TokenStream Payload}
    (same : StatesSameTerms left right)
    (unclaimed : Cursor.IsUnclaimed left) : Cursor.IsUnclaimed right := by
  obtain ⟨name, rest, rfl⟩ := unclaimed
  cases right with
  | ok payload others => cases same
  | error failure others =>
      cases same
      exact ⟨name, others, rfl⟩

/-- A renewal is closed by the end of an element inside it, and what stands
behind that one is taken for a child of the message.  A request refuses a status
there, a response reads it. -/
theorem not_all_shared_children_are_read_alike :
    ¬ ∀ (maxDepth : Nat) (element : Element),
      (∀ child ∈ element.childElements,
        child.localName ∈ Term.readers.map Prod.fst) →
      (∀ tag, .startTag tag ∈ Node.tokensOfAll element.children →
        ¬ IsSingleRoot tag.localName) →
      StatesSameTerms
        (read .standard maxDepth (.ofTokens (tokensAs .request element)))
        (read .standard maxDepth
          (.ofTokens (tokensAs .response element))) := by
  intro allAlike
  have inner (tag : StartTag)
      (opening :
        .startTag tag ∈ Node.tokensOfAll renewalWithStatus.children) :
      ¬ IsSingleRoot tag.localName := by
    have named : tag = ⟨.ofLocal "Renewing", []⟩ ∨
        tag = ⟨.ofLocal "Status", []⟩ := by
      simpa [renewalWithStatus, Node.tokensOfAll, Node.tokens]
        using opening
    rcases named with rfl | rfl <;> unfold IsSingleRoot <;> decide
  have same := allAlike 1 renewalWithStatus (by decide) inner
  have refused : Cursor.IsUnclaimed
      (read .standard 1
        (.ofTokens (tokensAs .request renewalWithStatus))) := by
    decide +kernel
  have notRefused : ¬ Cursor.IsUnclaimed
      (read .standard 1
        (.ofTokens (tokensAs .response renewalWithStatus))) := by
    decide +kernel
  exact notRefused (same.isUnclaimed refused)

end Payload

end WsTrust
