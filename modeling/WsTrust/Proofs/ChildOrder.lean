import WsTrust.Proofs.RecordFields

/-!
# The order of children

The record that a body is read to is the fold of its children.  Each child
changes at most the field that it belongs to, so of the children for one field
the last one counts, and children for different fields may change places.
-/

namespace WsTrust

/-- The relying party that an extension makes of an element, if it makes
one. -/
def ExtensionValue.party? : ExtensionValue → Option AppliesTo
  | .appliesTo party => some party
  | .fragment _ => none
  | .empty => none

namespace BodyGrammar

open Cursor

variable {Record Child : Type} {grammar : BodyGrammar Record Child}
  {registry : Registry} {maxDepth : Nat}

/-! ## What a block says -/

namespace Block

variable (block : Block grammar registry maxDepth)

def localName : String :=
  block.opening.localName

/-- A block is read successfully where nothing follows it. -/
theorem exists_ok :
    ∃ after : TokenStream,
      grammar.readChild registry maxDepth block.opening.name
          (TokenStream.ofTokens (block.tokens ++ [])) =
        .ok block.child after := by
  obtain ⟨after, succeeded, _⟩ :=
    block.reads.holds (TokenStream.holds_ofTokens (block.tokens ++ []))
  exact ⟨after, succeeded⟩

/-- A child belongs to the field that the block is named for. -/
theorem target_eq_named
    (fields : grammar.Fields) {child : Child}
    (stated : block.child = some child) :
    fields.target child = fields.named block.localName := by
  obtain ⟨after, succeeded⟩ := block.exists_ok
  rw [stated] at succeeded
  exact fields.target_of_readChild succeeded

/-- A block with a name of the grammar says something. -/
theorem child_ne_none
    {read : Nat → Cursor Child}
    (found : grammar.children.lookup block.localName = some read) :
    block.child ≠ none := by
  obtain ⟨after, succeeded⟩ := block.exists_ok
  rw [readChild, show block.opening.name.localPart = block.localName from rfl,
    found] at succeeded
  obtain ⟨child, _, equality⟩ := map_eq_ok_iff.mp succeeded
  rw [← equality]
  exact Option.some_ne_none child

/-- A block with another name says what the first extension that claims it
makes of it, if that is a relying party. -/
theorem child_of_extension
    {extension : Extension} {value : ExtensionValue}
    (absent : grammar.children.lookup block.localName = none)
    (claimed : registry.lookup? block.opening.name = some extension)
    (read : Reads extension.read block.tokens value) :
    block.child = value.party?.map grammar.appliesTo := by
  obtain ⟨after, succeeded⟩ := block.exists_ok
  rw [readChild, show block.opening.name.localPart = block.localName from rfl,
    absent] at succeeded
  simp only [readExtension, claimed] at succeeded
  obtain ⟨made, middle, madeOf, concluded⟩ := bind_eq_ok_iff.mp succeeded
  obtain ⟨rfl, _⟩ := read.of_ok (TokenStream.holds_ofTokens _) madeOf
  cases made with
  | appliesTo party => exact (EStateM.Result.ok.inj concluded).1.symm
  | fragment content => exact (EStateM.Result.ok.inj concluded).1.symm
  | empty => exact (EStateM.Result.ok.inj concluded).1.symm

end Block

/-! ## The fold over blocks -/

/-- A grammar folds the children of a body into its record, field by field. -/
structure FoldsChildren
    (grammar : BodyGrammar Record Child)
    (fields : grammar.Fields) : Prop where
  /-- A body with any texts between its blocks is read to the fold of the
  blocks over the record that says only the context, up to its end tag. -/
  reads :
    ∀ (registry : Registry) (maxDepth : Nat) (root : StartTag)
      (parts : List (BodyPart grammar registry maxDepth)) (name : QName)
      (stream : TokenStream) (rest : List Token),
      name.localPart = grammar.elementName →
      stream.Holds
        (.startTag root ::
          (parts.flatMap BodyPart.tokens ++ .endTag name :: rest)) →
      ∃ after : TokenStream,
        grammar.read registry maxDepth stream =
          .ok
            (grammar.addAll (grammar.ofContext (contextOf root))
              ((blocksOf parts).map Block.child))
            after ∧
        after.Holds rest
  /-- A block changes at most the field that its name belongs to. -/
  changes_own_field :
    ∀ (registry : Registry) (maxDepth : Nat)
      (block : Block grammar registry maxDepth) (record : Record)
      (field : fields.Field),
      field ≠ fields.named block.localName →
      fields.get (grammar.addOptional record block.child) field =
        fields.get record field
  /-- A block with a name of the grammar always sets its field; any other block
  sets the field of the relying party if the extension yields one, and
  nothing otherwise. -/
  sets :
    ∀ (registry : Registry) (maxDepth : Nat)
      (block : Block grammar registry maxDepth),
      (∀ read, grammar.children.lookup block.localName = some read →
        ∃ child, block.child = some child ∧
          fields.target child = fields.named block.localName) ∧
      (∀ extension value,
        grammar.children.lookup block.localName = none →
        registry.lookup? block.opening.name = some extension →
        Reads extension.read block.tokens value →
        block.child = value.party?.map grammar.appliesTo)
  /-- Of the blocks for one field, the last one decides its value. -/
  last_wins :
    ∀ (registry : Registry) (maxDepth : Nat)
      (before after : List (Block grammar registry maxDepth))
      (block : Block grammar registry maxDepth) (child : Child)
      (record : Record),
      block.child = some child →
      (∀ later ∈ after, later.child = none ∨
        fields.named later.localName ≠ fields.named block.localName) →
      fields.get
          (grammar.addAll record
            ((before ++ block :: after).map Block.child))
          (fields.target child) =
        fields.meaning child
  /-- Blocks may be rearranged as long as those for one field keep their
  order. -/
  rearranges :
    ∀ (registry : Registry) (maxDepth : Nat)
      (left right : List (Block grammar registry maxDepth))
      (record : Record),
      (∀ field, fields.about field (left.map Block.child) =
        fields.about field (right.map Block.child)) →
      grammar.addAll record (left.map Block.child) =
        grammar.addAll record (right.map Block.child)
  /-- Blocks for different fields may be permuted. -/
  permutes :
    ∀ (registry : Registry) (maxDepth : Nat)
      (left right : List (Block grammar registry maxDepth))
      (record : Record),
      left.Perm right →
      left.Pairwise (fun first second =>
        fields.named first.localName ≠ fields.named second.localName) →
      grammar.addAll record (left.map Block.child) =
        grammar.addAll record (right.map Block.child)

/-- Blocks named for different fields set different fields. -/
theorem separate_of_named_ne
    (fields : grammar.Fields)
    {first second : Block grammar registry maxDepth}
    (different :
      fields.named first.localName ≠ fields.named second.localName) :
    fields.Separate first.child second.child := by
  intro left right atFirst atSecond equality
  apply different
  rw [← first.target_eq_named fields atFirst, equality,
    second.target_eq_named fields atSecond]

theorem foldsChildren (fields : grammar.Fields) :
    grammar.FoldsChildren fields where
  reads := by
    intro registry maxDepth root parts name stream rest named held
    apply (read_reads root parts named).holds
    simpa using held
  changes_own_field := by
    intro registry maxDepth block record field different
    apply fields.get_addOptional_other
    rintro child stated rfl
    exact different (block.target_eq_named fields stated)
  sets := by
    intro registry maxDepth block
    constructor
    · intro read found
      obtain ⟨child, stated⟩ :=
        Option.ne_none_iff_exists'.mp (block.child_ne_none found)
      exact ⟨child, stated, block.target_eq_named fields stated⟩
    · intro extension value absent claimed read
      exact block.child_of_extension absent claimed read
  last_wins := by
    intro registry maxDepth before after block child record stated last
    rw [List.map_append, List.map_cons, stated]
    apply fields.get_addAll_last
    intro later member
    obtain ⟨laterBlock, inAfter, laterStated⟩ := List.mem_map.mp member
    rw [laterBlock.target_eq_named fields laterStated,
      block.target_eq_named fields stated]
    rcases last laterBlock inAfter with silent | different
    · rw [silent] at laterStated
      cases laterStated
    · exact different
  rearranges := by
    intro registry maxDepth left right record agree
    exact fields.addAll_eq_of_about_eq record agree
  permutes := by
    intro registry maxDepth left right record permutation different
    apply fields.addAll_eq_of_perm (permutation.map Block.child)
    exact List.pairwise_map.mpr
      (different.imp fun apart => separate_of_named_ne fields apart)

end BodyGrammar

/-! ## Both records -/

/-- A token that was reported as cancelled stays so. -/
theorem Response.cancelled_addAll
    {response : Response} {children : List (Option ResponseChild)}
    (reported :
      response.cancelled = true ∨ some .cancelled ∈ children) :
    (grammar.addAll response children).cancelled = true := by
  induction children generalizing response with
  | nil => simpa using reported
  | cons head tail inductionHypothesis =>
      apply inductionHypothesis
      rcases reported with before | member
      · left
        cases head with
        | none => exact before
        | some child => cases child <;> first | exact before | rfl
      · rcases List.mem_cons.mp member with rfl | inTail
        · exact Or.inl rfl
        · exact Or.inr inTail

/-- Requests and responses are folds of their children, field by field, and a
cancellation once reported is kept. -/
theorem request_and_response_fold_children :
    Response.grammar.FoldsChildren Response.fields ∧
      Request.grammar.FoldsChildren Request.fields ∧
      ∀ (response : Response) (children : List (Option ResponseChild)),
        response.cancelled = true ∨ some .cancelled ∈ children →
        (Response.grammar.addAll response children).cancelled = true :=
  ⟨BodyGrammar.foldsChildren Response.fields,
    BodyGrammar.foldsChildren Request.fields,
    fun _ _ reported => Response.cancelled_addAll reported⟩

/-! ## Two children in either order -/

def cancellationBlock : Response.grammar.Block .empty 8 where
  opening := ⟨QName.ofLocal "RequestedTokenCancelled", []⟩
  content := [.endTag (QName.ofLocal "RequestedTokenCancelled")]
  child := some .cancelled
  reads := by
    let element := Element.ofName (QName.ofLocal "RequestedTokenCancelled")
    have named : element.localName = "RequestedTokenCancelled" := rfl
    have skipped := Cursor.skipElement_reads element
    exact BodyGrammar.readChild_reads_of_lookup named rfl
      (skipped.bind_last (Cursor.Reads.pure _))

def keySizeBlock : Response.grammar.Block .empty 8 where
  opening := ⟨QName.ofLocal "KeySize", []⟩
  content := [.text " 256 ", .endTag (QName.ofLocal "KeySize")]
  child := some (.term (.keySize 256))
  reads := by
    let element : Element :=
      ⟨QName.ofLocal "KeySize", [], [.text " 256 "]⟩
    have named : element.localName = "KeySize" := rfl
    have held : element.HoldsText := by decide
    have trimmed : element.trimmedText = "256" := by decide
    have number :
        Text.readNatural Text.wordBound element.trimmedText.toList =
          .ok 256 := by
      rw [trimmed]
      rfl
    have read := Scalar.readInteger_reads "KeySize" "key size" held number
    exact BodyGrammar.readChild_reads_of_lookup named rfl
      ((read.map Term.keySize).map ResponseChild.term)

theorem named_cancellationBlock_ne :
    Response.fields.named cancellationBlock.localName ≠
      Response.fields.named keySizeBlock.localName := by
  have named : Response.fields.named cancellationBlock.localName =
      Response.Field.cancelled := rfl
  have otherNamed : Response.fields.named keySizeBlock.localName =
      Response.Field.term .keySize := rfl
  rw [named, otherNamed]
  exact Response.Field.noConfusion

theorem cancellation_and_keySize_fold :
    let root : StartTag :=
      ⟨QName.ofLocal "RequestSecurityTokenResponse",
        [⟨QName.ofLocal "Context", "a"⟩]⟩
    let tokens := Token.startTag root ::
      (keySizeBlock.tokens ++ (Token.text " " :: cancellationBlock.tokens) ++
        [.endTag root.name])
    let response := Response.grammar.addAll (Response.ofContext "a")
      [some .cancelled, some (.term (.keySize 256))]
    (∃ after : TokenStream,
      Response.grammar.read .empty 8 (TokenStream.ofTokens tokens) =
        .ok response after ∧ after.Holds []) ∧
    response.context = "a" ∧
    response.cancelled = true := by
  intro root tokens response
  have folds := request_and_response_fold_children
  have swapped := folds.1.permutes .empty 8
    [keySizeBlock, cancellationBlock] [cancellationBlock, keySizeBlock]
    (Response.ofContext "a") (List.Perm.swap _ _ [])
    (by simpa using named_cancellationBlock_ne.symm)
  have read := folds.1.reads .empty 8 root
    [.block keySizeBlock, .text " ", .block cancellationBlock] root.name
    (TokenStream.ofTokens tokens) [] rfl rfl
  have readInOrder :
      ∃ after : TokenStream,
        Response.grammar.read .empty 8 (TokenStream.ofTokens tokens) =
          .ok
            (Response.grammar.addAll (Response.ofContext "a")
              ([keySizeBlock, cancellationBlock].map
                BodyGrammar.Block.child))
            after ∧
        after.Holds [] := read
  rw [swapped] at readInOrder
  have context :=
    Response.grammar.addAll_keeps (fun each => each.context)
      Response.context_add (Response.ofContext "a")
      [some .cancelled, some (.term (.keySize 256))]
  exact ⟨readInOrder, context.trans (Response.context_ofContext "a"),
    folds.2.2 _ _ (Or.inr List.mem_cons_self)⟩

end WsTrust
