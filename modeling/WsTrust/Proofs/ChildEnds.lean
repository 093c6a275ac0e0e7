import WsTrust.Body
import WsTrust.Proofs.RecordFields
import WsTrust.Proofs.Wrappers

/-!
# Where children end

A child is read to its own end tag and no further exactly if the number of
elements in it is one that its reader is made for.
-/

namespace WsTrust

open Cursor

/-! ## Content that readers are made for -/

/-- Which elements stand directly inside an element. -/
inductive ContentModel where
  /-- Any elements. -/
  | anything
  /-- No element. -/
  | nothing
  /-- At most one element. -/
  | optional
  /-- One element. -/
  | single
  /-- Two elements, the first of which has no element in it. -/
  | span
  deriving DecidableEq, Repr

namespace ContentModel

def Allows : ContentModel → List Element → Prop
  | anything, _ => True
  | nothing, children => children = []
  | optional, children => children.length ≤ 1
  | single, children => children.length = 1
  | span, children =>
      ∃ first last, children = [first, last] ∧ first.childElements = []

def named : List (String × ContentModel) :=
  [("Lifetime", span),
    ("OnBehalfOf", optional),
    ("Entropy", optional),
    ("UseKey", optional),
    ("Renewing", nothing),
    ("RequestedProofToken", optional),
    ("RequestedAttachedReference", single),
    ("RequestedUnattachedReference", single),
    ("ValidateTarget", optional),
    ("RenewTarget", optional),
    ("CancelTarget", optional),
    ("AppliesTo", optional)]

def ofName (localPart : String) : ContentModel :=
  (named.lookup localPart).getD anything

end ContentModel

/-- The elements in an element are those that the reader of a child with its
local name is made for. -/
def Element.FitsContentModel (element : Element) : Prop :=
  (ContentModel.ofName element.localName).Allows element.childElements

/-! ## Rows of a grammar -/

/-- The reader of elements with a local name stops behind those that fit their
content model, and behind no others. -/
def Cursor.KeepsTo
    {Child : Type} (localPart : String) (read : Nat → Cursor Child) : Prop :=
  ∀ (maxDepth : Nat) (element : Element),
    element.localName = localPart →
      SettlesIf
        ((ContentModel.ofName localPart).Allows element.childElements)
        (read maxDepth) element.tokens

theorem Cursor.KeepsTo.map
    {Part Child : Type} {localPart : String} {read : Nat → Cursor Part}
    (kept : KeepsTo localPart read) (change : Part → Child) :
    KeepsTo localPart fun maxDepth => change <$> read maxDepth :=
  fun maxDepth element named => (kept maxDepth element named).map change

theorem Term.readers_keep :
    ∀ row ∈ Term.readers, KeepsTo row.1 row.2 := by
  simp only [Term.readers, List.forall_mem_cons]
  refine ⟨?requestType, ?tokenType, ?keyType, ?lifetime, ?onBehalfOf,
    ?keySize, ?entropy, ?useKey, ?renewing, by simp⟩
  all_goals intro maxDepth element named
  case requestType | tokenType | keyType =>
    exact (SettlesIf.of_settles
      (Scalar.readUri_settles _ _ element) trivial).map _
  case keySize =>
    exact (SettlesIf.of_settles
      (Scalar.readInteger_settles _ _ element) trivial).map _
  case lifetime => exact (Lifetime.read_settlesIf named).map _
  case onBehalfOf =>
    exact ((Fragment.readOne_settlesIf named maxDepth).map _).map _
  case entropy => exact (Entropy.read_settlesIf named).map _
  case useKey => exact (UseKey.read_settlesIf named maxDepth).map _
  case renewing => exact (Renewing.read_settlesIf named).map _

theorem Term.readersAs_keep
    {Child : Type} (ofTerm : Term → Child) :
    ∀ row ∈ Term.readersAs ofTerm, KeepsTo row.1 row.2 := by
  intro row member
  obtain ⟨⟨localPart, read⟩, inReaders, rfl⟩ := List.mem_map.mp member
  exact (Term.readers_keep (localPart, read) inReaders).map ofTerm

theorem Response.children_keep :
    ∀ row ∈ Response.grammar.children, KeepsTo row.1 row.2 := by
  simp only [Response.grammar, List.forall_mem_append,
    List.forall_mem_cons]
  refine ⟨Term.readersAs_keep _, ?cancelled, ?proofToken, ?requestedToken,
    ?attached, ?unattached, ?status, by simp⟩
  all_goals intro maxDepth element named
  case cancelled =>
    have skipped := Settles.of_reads (skipElement_reads element)
    exact SettlesIf.of_settles
      (skipped.bind_last fun _ _ => Settles.pure _) trivial
  case proofToken => exact (ProofToken.read_settlesIf named).map _
  case requestedToken =>
    exact (SettlesIf.of_settles
      (RequestedToken.read_settles named maxDepth) trivial).map _
  case attached | unattached =>
    exact (TokenReference.readWrapped_settlesIf named maxDepth).map _
  case status =>
    exact (SettlesIf.of_settles (Status.read_settles named) trivial).map _

theorem Request.children_keep :
    ∀ row ∈ Request.grammar.children, KeepsTo row.1 row.2 := by
  simp only [Request.grammar, List.forall_mem_append,
    List.forall_mem_cons]
  refine ⟨Term.readersAs_keep _, ?computedKey, ?signature, ?encryption,
    ?canonicalization, ?validate, ?renew, ?cancel, by simp⟩
  all_goals intro maxDepth element named
  case computedKey | signature | encryption | canonicalization =>
    exact (SettlesIf.of_settles
      (Scalar.readUri_settles _ _ element) trivial).map _
  case validate | renew | cancel =>
    exact (Fragment.readOne_settlesIf named maxDepth).map _

/-! ## Children of a body -/

namespace BodyGrammar

variable {Record Child : Type} {grammar : BodyGrammar Record Child}
  {registry : Registry} {element : Element}

/-- A grammar has a reader of its own for elements of this name, or the
extension for WS-Policy reads them. -/
def Knows
    (grammar : BodyGrammar Record Child) (registry : Registry)
    (name : QName) : Prop :=
  (grammar.children.lookup name.localPart).isSome ∨
    (registry = .standard ∧ name.isNamed Vocabulary.policy "AppliesTo")

theorem readExtension_settlesIf
    (party : element.name.isNamed Vocabulary.policy "AppliesTo") :
    SettlesIf element.FitsContentModel
      (grammar.readExtension .standard element.name) element.tokens := by
  have named : element.localName = "AppliesTo" := by
    simp only [QName.isNamed, Bool.and_eq_true, beq_iff_eq] at party
    exact party.2
  have claimed :
      Registry.standard.lookup? element.name =
        some Registry.policyExtension := by
    simp [Registry.lookup?, Registry.standard, Registry.register,
      Registry.empty, Registry.policyExtension, party]
  have fits :
      element.FitsContentModel ↔ element.childElements.length ≤ 1 := by
    rw [Element.FitsContentModel, named]
    rfl
  simp only [readExtension, claimed, Registry.policyExtension,
    bind_map_left]
  exact ((AppliesTo.read_settlesIf named).congr fits).map
    fun found => some (grammar.appliesTo found)

theorem readChild_settlesIf
    (kept : ∀ row ∈ grammar.children, KeepsTo row.1 row.2)
    (known : grammar.Knows registry element.name) (maxDepth : Nat) :
    SettlesIf element.FitsContentModel
      (grammar.readChild registry maxDepth element.name)
      element.tokens := by
  rw [readChild]
  cases found : grammar.children.lookup element.name.localPart with
  | some read =>
      have row := kept _ (mem_of_lookup_eq_some found)
      exact (row maxDepth element rfl).map some
  | none =>
      rcases known with tabled | ⟨rfl, party⟩
      · rw [found] at tabled
        cases tabled
      · exact readExtension_settlesIf party

end BodyGrammar

/-- A child that is read successfully ends where its reader stops exactly if it
fits its content model, and then the reader takes no notice of what
follows. -/
theorem child_ends_iff_fitsContentModel
    {registry : Registry} {maxDepth : Nat} {element : Element}
    {rest : List Token} {stream after : TokenStream}
    (held : stream.Holds (element.tokens ++ rest)) :
    (∀ child : Option RequestChild,
      Request.grammar.Knows registry element.name →
      Request.grammar.readChild registry maxDepth element.name stream =
        .ok child after →
      (after.Holds rest ↔ element.FitsContentModel) ∧
        (element.FitsContentModel →
          Reads (Request.grammar.readChild registry maxDepth element.name)
            element.tokens child)) ∧
    (∀ child : Option ResponseChild,
      Response.grammar.Knows registry element.name →
      Response.grammar.readChild registry maxDepth element.name stream =
        .ok child after →
      (after.Holds rest ↔ element.FitsContentModel) ∧
        (element.FitsContentModel →
          Reads (Response.grammar.readChild registry maxDepth element.name)
            element.tokens child)) := by
  constructor
  · intro child known succeeded
    have settled :=
      BodyGrammar.readChild_settlesIf Request.children_keep known maxDepth
    exact settled.of_ok held succeeded
  · intro child known succeeded
    have settled :=
      BodyGrammar.readChild_settlesIf Response.children_keep known maxDepth
    exact settled.of_ok held succeeded

def partyOf (children : List Node) : Element :=
  ⟨QName.ofParts Vocabulary.policy "AppliesTo", [], children⟩

theorem party_with_one_fragment_ends :
    let fragment := Element.ofName (QName.ofLocal "Fragment")
    let party := partyOf [fragment.toNode]
    let rest := [Token.endTag (QName.ofLocal "RequestSecurityToken")]
    (TokenStream.ofTokens rest).Holds rest ∧
      Reads
        (Request.grammar.readChild .standard 8 party.name)
        party.tokens
        (some (.term (.appliesTo (.fragment fragment)))) := by
  intro fragment party rest
  have fits : party.FitsContentModel := Nat.le_refl 1
  have known : Request.grammar.Knows .standard party.name :=
    Or.inr ⟨rfl, by decide⟩
  have held : (TokenStream.ofTokens (party.tokens ++ rest)).Holds
      (party.tokens ++ rest) := rfl
  have succeeded : Request.grammar.readChild .standard 8 party.name
      (TokenStream.ofTokens (party.tokens ++ rest)) =
        .ok (some (.term (.appliesTo (.fragment fragment))))
          (TokenStream.ofTokens rest) := rfl
  have ends := (child_ends_iff_fitsContentModel held).1 _ known succeeded
  exact ⟨ends.1.2 fits, ends.2 fits⟩

/-- A relying party that is followed by another element of its own name. -/
def doubledParty : Element :=
  partyOf [(Element.ofName (QName.ofLocal "Fragment")).toNode,
    (partyOf []).toNode]

/-- The reader of a relying party takes the end of an element inside it for its
own, and leaves its own end tag. -/
theorem not_all_children_end :
    ¬ ∀ (registry : Registry) (maxDepth : Nat) (element : Element)
      (rest : List Token) (stream after : TokenStream)
      (child : Option ResponseChild),
      Response.grammar.Knows registry element.name →
      stream.Holds (element.tokens ++ rest) →
      Response.grammar.readChild registry maxDepth element.name stream =
        .ok child after →
      after.Holds rest := by
  intro allEnd
  have stopped := allEnd .standard 8 doubledParty []
    (TokenStream.ofTokens doubledParty.tokens)
    (TokenStream.ofTokens [.endTag doubledParty.name])
    (some (.term (.appliesTo
      (.fragment (Element.ofName (QName.ofLocal "Fragment"))))))
    (Or.inr ⟨rfl, by decide⟩) rfl rfl
  cases stopped

end WsTrust
