import Mathlib.Data.List.Find
import WsTrust.Proofs.Comparison
import WsTrust.Proofs.Compositions

/-!
# Readers that correspond

Two runs of a reader are compared by a relation between what they yield.  If the
steps that readers are put together from correspond under some comparison of
messages, and correspondence passes to whatever is put together from
corresponding parts, then all readers of messages correspond, those of the
extensions being given.
-/

namespace WsTrust

def Payload.rootNames : List String :=
  [Kind.request, .requestCollection, .response, .responseCollection].map
    Kind.rootName

namespace Cursor

/-- Both turns ask for another one, or both are done. -/
inductive Turn.Corresponds
    {LeftState RightState LeftResult RightResult : Type}
    (states : LeftState → RightState → Prop)
    (results : LeftResult → RightResult → Prop) :
    Turn LeftState LeftResult → Turn RightState RightResult → Prop
  | again {left : LeftState} {right : RightState}
      (related : states left right) :
      Corresponds states results (.again left) (.again right)
  | done {left : LeftResult} {right : RightResult}
      (related : results left right) :
      Corresponds states results (.done left) (.done right)

/-! ## Compositional correspondence -/

/-- The steps that readers of messages are put together from correspond to
themselves, and correspondence passes to compositions.  `Tags` says which start
tags correspond, and `Closes` which end tags are recognised alike. -/
structure Correspondence
    (Tags : StartTag → StartTag → Prop) (Closes : String → Prop)
    (comparison : Comparison)
    (Has : {Left Right : Type} →
      (Left → Right → Prop) → Cursor Left → Cursor Right → Prop) :
    Prop where
  localName_eq {left right : StartTag} (tags : Tags left right) :
    left.localName = right.localName
  attribute?_eq {left right : StartTag} (tags : Tags left right)
    (localPart : String) :
    left.attribute? localPart = right.attribute? localPart
  ofAttributes {left right : StartTag} (tags : Tags left right) :
    (TokenReference.ofAttributes left.attributes).Matches comparison
      (TokenReference.ofAttributes right.attributes)
  emptyValue : comparison.value "" ""
  closes {localPart : String} (inner : localPart ∉ Payload.rootNames) :
    Closes localPart
  pure {Left Right : Type} {related : Left → Right → Prop}
    {left : Left} {right : Right} (results : related left right) :
    Has related (Pure.pure left) (Pure.pure right)
  refuse {Left Right : Type} (related : Left → Right → Prop)
    (fault : Fault) (claimed : ∀ name, fault ≠ .unclaimedExtension name) :
    Has related (Cursor.refuse fault) (Cursor.refuse fault)
  raise {Left Right : Type} (related : Left → Right → Prop)
    (error : ParseError) :
    Has related (Cursor.raise error) (Cursor.raise error)
  bind {Left Right LeftNext RightNext : Type}
    {related : Left → Right → Prop}
    {relatedNext : LeftNext → RightNext → Prop}
    {left : Cursor Left} {right : Cursor Right}
    {leftNext : Left → Cursor LeftNext}
    {rightNext : Right → Cursor RightNext}
    (first : Has related left right)
    (second : ∀ leftResult rightResult, related leftResult rightResult →
      Has relatedNext (leftNext leftResult) (rightNext rightResult)) :
    Has relatedNext (left >>= leftNext) (right >>= rightNext)
  nextStartTag (expected : String) :
    Has Tags (Cursor.nextStartTag expected) (Cursor.nextStartTag expected)
  expectEndTag {localPart : String} (closing : Closes localPart) :
    Has Eq (Cursor.expectEndTag localPart) (Cursor.expectEndTag localPart)
  peekStartTag :
    Has (Option.Rel Tags) Cursor.peekStartTag Cursor.peekStartTag
  peekChild (within : String) :
    Has (Option.Rel Tags) (Cursor.peekChild within)
      (Cursor.peekChild within)
  elementText (within : String) :
    Has comparison.value (Cursor.elementText within)
      (Cursor.elementText within)
  requiredText (within what : String) :
    Has comparison.value (Cursor.requiredText within what)
      (Cursor.requiredText within what)
  readUri (localPart what : String) :
    Has Eq (Scalar.readUri localPart what) (Scalar.readUri localPart what)
  readInteger (localPart what : String) :
    Has Eq (Scalar.readInteger localPart what)
      (Scalar.readInteger localPart what)
  skipElement : Has Eq Cursor.skipElement Cursor.skipElement
  captureElement (maxDepth : Nat) :
    Has comparison.element (Cursor.captureElement maxDepth)
      (Cursor.captureElement maxDepth)
  /-- Of the tags that are looked at, end tags are consumed. -/
  atBoundary {Left Right : Type} {related : Left → Right → Prop}
    {leftNext : Option Boundary → Cursor Left}
    {rightNext : Option Boundary → Cursor Right}
    (opening : ∀ left right, Tags left right →
      Has related (leftNext (some (.opening left)))
        (rightNext (some (.opening right))))
    (closing : ∃ localPart left right, Closes localPart ∧
      related left right ∧ ∀ name,
        leftNext (some (.closing name)) = closeWith localPart left name ∧
          rightNext (some (.closing name)) =
            closeWith localPart right name)
    (ended : Has related (leftNext none) (rightNext none)) :
    Has related (peekBoundary >>= leftNext) (peekBoundary >>= rightNext)
  /-- Of the tokens that are looked at, texts are refused. -/
  atTag {Left Right : Type} {related : Left → Right → Prop}
    {leftNext : Option Token → Cursor Left}
    {rightNext : Option Token → Cursor Right}
    (opening : ∀ left right, Tags left right →
      Has related (leftNext (some (.startTag left)))
        (rightNext (some (.startTag right))))
    (closing : ∃ localPart left right, Closes localPart ∧
      related left right ∧ ∀ name,
        leftNext (some (.endTag name)) = closeWith localPart left name ∧
          rightNext (some (.endTag name)) = closeWith localPart right name)
    (texts : ∃ fault, (∀ name, fault ≠ .unclaimedExtension name) ∧
      ∀ content,
        leftNext (some (.text content)) = Cursor.refuse fault ∧
          rightNext (some (.text content)) = Cursor.refuse fault)
    (ended : Has related (leftNext none) (rightNext none)) :
    Has related (peek >>= leftNext) (peek >>= rightNext)
  repeating {LeftState RightState Left Right : Type}
    {states : LeftState → RightState → Prop}
    {related : Left → Right → Prop}
    {leftTurn : LeftState → Cursor (Turn LeftState Left)}
    {rightTurn : RightState → Cursor (Turn RightState Right)}
    {left : LeftState} {right : RightState} (start : states left right)
    (turns : ∀ left right, states left right →
      Has (Turn.Corresponds states related) (leftTurn left)
        (rightTurn right)) :
    Has related (Cursor.repeating leftTurn left)
      (Cursor.repeating rightTurn right)

namespace Correspondence

variable {Tags : StartTag → StartTag → Prop} {Closes : String → Prop}
  {comparison : Comparison}
  {Has : {Left Right : Type} →
    (Left → Right → Prop) → Cursor Left → Cursor Right → Prop}
  (corresponds : Correspondence Tags Closes comparison Has)

include corresponds

/-! ## Tags -/

theorem name_localPart_eq
    {left right : StartTag} (tags : Tags left right) :
    left.name.localPart = right.name.localPart :=
  corresponds.localName_eq tags

theorem map
    {Left Right LeftOther RightOther : Type}
    {related : Left → Right → Prop}
    {relatedOther : LeftOther → RightOther → Prop}
    {left : Cursor Left} {right : Cursor Right}
    (reading : Has related left right)
    {leftChange : Left → LeftOther} {rightChange : Right → RightOther}
    (changed : ∀ leftResult rightResult, related leftResult rightResult →
      relatedOther (leftChange leftResult) (rightChange rightResult)) :
    Has relatedOther (leftChange <$> left) (rightChange <$> right) := by
  rw [map_eq_bind, map_eq_bind]
  exact corresponds.bind reading fun leftResult rightResult results =>
    corresponds.pure (changed leftResult rightResult results)

theorem expectName
    {left right : StartTag} (tags : Tags left right) (localPart : String) :
    Has Eq (Cursor.expectName left.name localPart)
      (Cursor.expectName right.name localPart) := by
  rw [Cursor.expectName, Cursor.expectName,
    corresponds.name_localPart_eq tags]
  split
  · exact corresponds.pure rfl
  · exact corresponds.refuse _ _ (by simp)

theorem enter (localPart : String) :
    Has Tags (Cursor.enter localPart) (Cursor.enter localPart) := by
  refine corresponds.bind (corresponds.nextStartTag localPart)
    fun left right tags => ?_
  exact corresponds.bind (corresponds.expectName tags localPart)
    fun _ _ _ => corresponds.pure tags

/-- Reading an end tag is the last step of many readers. -/
theorem closing
    {localPart : String} (inner : localPart ∉ Payload.rootNames)
    {Left Right : Type} {related : Left → Right → Prop}
    {left : Left} {right : Right} (results : related left right) :
    Has related
      (do
        Cursor.expectEndTag localPart
        return left)
      (do
        Cursor.expectEndTag localPart
        return right) :=
  corresponds.bind (corresponds.expectEndTag (corresponds.closes inner))
    fun _ _ _ => corresponds.pure results

/-! ## Values -/

theorem lifetime :
    Has (Lifetime.Matches comparison) Lifetime.read Lifetime.read := by
  have ending {left right : Option Timestamp}
      (created :
        Option.Rel
          (fun first second => comparison.value first.text second.text)
          left right) :
      Has (Lifetime.Matches comparison) (Lifetime.readEnd left)
        (Lifetime.readEnd right) := by
    refine corresponds.bind (corresponds.nextStartTag "Expires")
      fun tag other tags => ?_
    rw [corresponds.localName_eq tags]
    split
    · refine corresponds.bind (corresponds.requiredText _ _)
        fun text other texts => ?_
      exact corresponds.closing (by decide) ⟨created, texts⟩
    · exact corresponds.refuse _ _ nofun
  refine corresponds.bind (corresponds.enter _) fun _ _ _ => ?_
  refine corresponds.bind (corresponds.nextStartTag "Created")
    fun tag other tags => ?_
  rw [corresponds.localName_eq tags]
  split
  · have created :
        Has
          (Option.Rel
            fun first second => comparison.value first.text second.text)
          (some <$> Timestamp.mk <$> Cursor.elementText "Created")
          (some <$> Timestamp.mk <$> Cursor.elementText "Created") := by
      have timestamps :
          Has
            (fun first second => comparison.value first.text second.text)
            (Timestamp.mk <$> Cursor.elementText "Created")
            (Timestamp.mk <$> Cursor.elementText "Created") :=
        corresponds.map (corresponds.elementText "Created")
          fun _ _ texts => texts
      exact corresponds.map timestamps fun _ _ texts => .some texts
    exact corresponds.bind created fun _ _ created => ending created
  · exact corresponds.bind (corresponds.pure .none)
      fun _ _ created => ending created

theorem binarySecret (typeRequired : Bool) :
    Has (BinarySecret.Matches comparison) (BinarySecret.read typeRequired)
      (BinarySecret.read typeRequired) := by
  refine corresponds.bind (corresponds.enter _) fun left right tags => ?_
  rw [corresponds.attribute?_eq tags]
  dsimp only
  split
  · exact corresponds.refuse _ _ nofun
  · refine corresponds.bind (corresponds.requiredText _ _)
      fun text other texts => ?_
    exact corresponds.pure ⟨rfl, text, other, rfl, rfl, texts⟩

theorem entropy :
    Has (Entropy.Matches comparison) Entropy.read Entropy.read := by
  refine corresponds.bind (corresponds.enter _) fun _ _ _ => ?_
  refine corresponds.bind (corresponds.peekChild _)
    fun child other children => ?_
  rcases children with tags | _
  · dsimp only
    rw [corresponds.localName_eq tags]
    split
    · have secret :
          Has (Option.Rel (BinarySecret.Matches comparison))
            (some <$> BinarySecret.read false)
            (some <$> BinarySecret.read false) :=
        corresponds.map (corresponds.binarySecret false)
          fun _ _ secrets => .some secrets
      exact corresponds.bind secret fun _ _ secrets =>
        corresponds.closing (by decide) secrets
    · exact corresponds.bind corresponds.skipElement fun _ _ _ =>
        corresponds.closing (by decide) .none
  · exact corresponds.closing (by decide) .none

theorem useKey (maxDepth : Nat) :
    Has (UseKey.Matches comparison) (UseKey.read maxDepth)
      (UseKey.read maxDepth) := by
  refine corresponds.bind (corresponds.enter _) fun _ _ _ => ?_
  refine corresponds.bind (corresponds.peekChild _)
    fun child other children => ?_
  rcases children with tags | _
  · dsimp only
    rw [corresponds.localName_eq tags]
    split
    · refine corresponds.bind (corresponds.captureElement maxDepth)
        fun fragment other fragments => ?_
      exact corresponds.closing (by decide) fragments
    · exact corresponds.refuse _ _ nofun
  · exact corresponds.refuse _ _ nofun

theorem proofToken :
    Has (ProofToken.Matches comparison) ProofToken.read ProofToken.read := by
  refine corresponds.bind (corresponds.enter _) fun _ _ _ => ?_
  refine corresponds.bind (corresponds.peekChild _)
    fun child other children => ?_
  rcases children with tags | _
  · dsimp only
    rw [corresponds.localName_eq tags]
    split
    · have secret :
          Has (ProofToken.Matches comparison)
            (ProofToken.binarySecret <$> BinarySecret.read true)
            (ProofToken.binarySecret <$> BinarySecret.read true) :=
        corresponds.map (corresponds.binarySecret true)
          fun _ _ secrets => .binarySecret secrets
      exact corresponds.bind secret fun _ _ proofs =>
        corresponds.closing (by decide) proofs
    · split
      · refine corresponds.bind (corresponds.nextStartTag _)
          fun _ _ _ => ?_
        have algorithm :
            Has (ProofToken.Matches comparison)
              (ProofToken.computedKey <$>
                Cursor.requiredText "ComputedKey" "computed key algorithm")
              (ProofToken.computedKey <$>
                Cursor.requiredText "ComputedKey"
                  "computed key algorithm") :=
          corresponds.map (corresponds.requiredText _ _)
            fun _ _ texts => .computedKey texts
        exact corresponds.bind algorithm fun _ _ proofs =>
          corresponds.closing (by decide) proofs
      · exact corresponds.bind
          (corresponds.refuse (ProofToken.Matches comparison) _ nofun)
          fun _ _ proofs => corresponds.closing (by decide) proofs
  · exact corresponds.closing (by decide) .none

theorem renewing : Has Eq Renewing.read Renewing.read := by
  refine corresponds.bind (corresponds.enter _) fun left right tags => ?_
  refine corresponds.closing (by decide) ?_
  simp only [Renewing.flag?, corresponds.attribute?_eq tags]

theorem status :
    Has (Status.Matches comparison) Status.read Status.read := by
  refine corresponds.bind (corresponds.enter _) fun _ _ _ => ?_
  have nothing : Status.Matches comparison ⟨"", ""⟩ ⟨"", ""⟩ :=
    ⟨corresponds.emptyValue, corresponds.emptyValue⟩
  refine corresponds.repeating nothing fun status other statuses => ?_
  refine corresponds.atTag (fun left right tags => ?_)
    ⟨"Status", .done status, .done other, corresponds.closes (by decide),
      .done statuses, fun _ => ⟨rfl, rfl⟩⟩
    ⟨.unexpectedText "Status", nofun, fun _ => ⟨rfl, rfl⟩⟩
    (corresponds.refuse _ (.streamExhausted "Status") nofun)
  dsimp only
  rw [corresponds.localName_eq tags]
  split
  · refine corresponds.bind (corresponds.enter _) fun _ _ _ => ?_
    refine corresponds.bind (corresponds.requiredText _ _)
      fun text other texts => ?_
    exact corresponds.pure (.again { statuses with code := texts })
  · split
    · refine corresponds.bind (corresponds.enter _) fun _ _ _ => ?_
      refine corresponds.bind (corresponds.requiredText _ _)
        fun text other texts => ?_
      exact corresponds.pure (.again { statuses with reason := texts })
    · exact corresponds.refuse _ _ nofun

/-! ## Fragments -/

theorem readOne
    {localPart : String} (inner : localPart ∉ Payload.rootNames)
    (maxDepth : Nat) :
    Has comparison.element (Fragment.readOne localPart maxDepth)
      (Fragment.readOne localPart maxDepth) := by
  refine corresponds.bind (corresponds.enter _) fun _ _ _ => ?_
  refine corresponds.bind (corresponds.peekChild _)
    fun child other children => ?_
  rcases children with tags | _
  · refine corresponds.bind (corresponds.captureElement maxDepth)
      fun fragment other fragments => ?_
    exact corresponds.closing inner fragments
  · exact corresponds.refuse _ _ nofun

theorem readRest
    {localPart : String} (inner : localPart ∉ Payload.rootNames)
    (maxDepth : Nat) :
    Has (List.Forall₂ comparison.element)
      (Fragment.readRest localPart maxDepth)
      (Fragment.readRest localPart maxDepth) := by
  have nothing : List.Forall₂ comparison.element [] [] := .nil
  refine corresponds.repeating nothing fun earlier other fragments => ?_
  refine corresponds.atBoundary (fun left right tags => ?_)
    ⟨localPart, .done earlier.reverse, .done other.reverse,
      corresponds.closes inner,
      .done (List.rel_reverse fragments), fun _ => ⟨rfl, rfl⟩⟩
    (corresponds.refuse _ _ nofun)
  refine corresponds.bind (corresponds.captureElement maxDepth)
    fun fragment other captured => ?_
  exact corresponds.pure (.again (.cons captured fragments))

theorem onBehalfOf (maxDepth : Nat) :
    Has (OnBehalfOf.Matches comparison) (OnBehalfOf.read maxDepth)
      (OnBehalfOf.read maxDepth) :=
  corresponds.bind (corresponds.readOne (by decide) maxDepth)
    fun _ _ fragments => corresponds.pure fragments

theorem requestedToken (maxDepth : Nat) :
    Has (RequestedToken.Matches comparison) (RequestedToken.read maxDepth)
      (RequestedToken.read maxDepth) := by
  refine corresponds.bind (corresponds.enter _) fun _ _ _ => ?_
  exact corresponds.bind (corresponds.readRest (by decide) maxDepth)
    fun _ _ fragments => corresponds.pure fragments

theorem readWrapped
    {localPart : String} (inner : localPart ∉ Payload.rootNames)
    (maxDepth : Nat) :
    Has (TokenReference.Matches comparison)
      (TokenReference.readWrapped localPart maxDepth)
      (TokenReference.readWrapped localPart maxDepth) := by
  have reference :
      Has (TokenReference.Matches comparison) (TokenReference.read maxDepth)
        (TokenReference.read maxDepth) := by
    refine corresponds.bind (corresponds.enter _) fun left right tags => ?_
    refine corresponds.bind (corresponds.readRest (by decide) maxDepth)
      fun _ _ fragments => ?_
    exact corresponds.pure
      { corresponds.ofAttributes tags with any := fragments }
  refine corresponds.bind (corresponds.enter _) fun _ _ _ => ?_
  exact corresponds.bind reference fun _ _ references =>
    corresponds.closing inner references

/-! ## Relying parties -/

theorem readEndpoint :
    Has comparison.value AppliesTo.readEndpoint AppliesTo.readEndpoint := by
  have searched :
      Has (Option.Rel comparison.value)
        (Cursor.repeating AppliesTo.turn none)
        (Cursor.repeating AppliesTo.turn none) := by
    have nothing : Option.Rel comparison.value none none := .none
    refine corresponds.repeating nothing fun address other addresses => ?_
    refine corresponds.bind (corresponds.peekChild _)
      fun child other children => ?_
    rcases children with tags | _
    · dsimp only
      have unset : address = none ↔ other = none := by
        cases addresses <;> simp
      simp only [corresponds.localName_eq tags, unset]
      split
      · refine corresponds.bind (corresponds.enter _) fun _ _ _ => ?_
        refine corresponds.bind (corresponds.requiredText _ _)
          fun text other texts => ?_
        exact corresponds.pure (.again (.some texts))
      · exact corresponds.bind corresponds.skipElement fun _ _ _ =>
          corresponds.pure (.again addresses)
    · exact corresponds.pure (.done addresses)
  refine corresponds.bind (corresponds.enter _) fun _ _ _ => ?_
  refine corresponds.bind searched fun address other addresses => ?_
  refine corresponds.bind
    (corresponds.expectEndTag (corresponds.closes (by decide)))
    fun _ _ _ => ?_
  cases addresses with
  | none => exact corresponds.raise _ _
  | some texts => exact corresponds.pure texts

theorem appliesTo :
    Has (AppliesTo.Matches comparison) AppliesTo.read AppliesTo.read := by
  refine corresponds.bind (corresponds.enter _) fun _ _ _ => ?_
  refine corresponds.bind (corresponds.peekChild _)
    fun child other children => ?_
  rcases children with tags | _
  · dsimp only
    rw [corresponds.localName_eq tags]
    split
    · have reference :
          Has (AppliesTo.Matches comparison)
            (AppliesTo.endpointReference <$> AppliesTo.readEndpoint)
            (AppliesTo.endpointReference <$> AppliesTo.readEndpoint) :=
        corresponds.map corresponds.readEndpoint
          fun _ _ addresses => .endpointReference addresses
      exact corresponds.bind reference fun _ _ parties =>
        corresponds.closing (by decide) parties
    · have fragment :
          Has (AppliesTo.Matches comparison)
            (AppliesTo.fragment <$>
              Cursor.captureElement AppliesTo.maxDepth)
            (AppliesTo.fragment <$>
              Cursor.captureElement AppliesTo.maxDepth) :=
        corresponds.map (corresponds.captureElement AppliesTo.maxDepth)
          fun _ _ fragments => .fragment fragments
      exact corresponds.bind fragment fun _ _ parties =>
        corresponds.closing (by decide) parties
  · exact corresponds.closing (by decide) (.value corresponds.emptyValue)

/-! ## Children -/

theorem terms (maxDepth : Nat) :
    ∀ row ∈ Term.readers,
      Has (Term.Matches comparison) (row.2 maxDepth) (row.2 maxDepth) := by
  simp only [Term.readers, List.forall_mem_cons]
  refine ⟨?requestType, ?tokenType, ?keyType, ?lifetime, ?onBehalfOf,
    ?keySize, ?entropy, ?useKey, ?renewing, by simp⟩
  case requestType | tokenType | keyType =>
    refine corresponds.map (corresponds.readUri _ _) ?_
    rintro uri _ rfl
    constructor
  case lifetime =>
    exact corresponds.map corresponds.lifetime
      fun _ _ spans => .lifetime spans
  case onBehalfOf =>
    exact corresponds.map (corresponds.onBehalfOf maxDepth)
      fun _ _ delegations => .onBehalfOf delegations
  case keySize =>
    refine corresponds.map (corresponds.readInteger _ _) ?_
    rintro bits _ rfl
    exact .keySize bits
  case entropy =>
    exact corresponds.map corresponds.entropy
      fun _ _ contributed => .entropy contributed
  case useKey =>
    exact corresponds.map (corresponds.useKey maxDepth)
      fun _ _ keys => .useKey keys
  case renewing =>
    refine corresponds.map corresponds.renewing ?_
    rintro renewal _ rfl
    exact .renewing renewal

theorem termsAs
    {Child : Type} {Matches : Child → Child → Prop} {ofTerm : Term → Child}
    (wrapped : ∀ left right : Term, left.Matches comparison right →
      Matches (ofTerm left) (ofTerm right))
    (maxDepth : Nat) :
    ∀ row ∈ Term.readersAs ofTerm,
      Has Matches (row.2 maxDepth) (row.2 maxDepth) := by
  intro row member
  obtain ⟨⟨localPart, read⟩, inReaders, rfl⟩ := List.mem_map.mp member
  exact corresponds.map
    (corresponds.terms maxDepth (localPart, read) inReaders) wrapped

theorem requestChildren (maxDepth : Nat) :
    ∀ row ∈ Request.grammar.children,
      Has (RequestChild.Matches comparison) (row.2 maxDepth)
        (row.2 maxDepth) := by
  simp only [Request.grammar, List.forall_mem_append, List.forall_mem_cons]
  refine ⟨corresponds.termsAs (fun _ _ stated => .term stated) maxDepth,
    ?computedKey, ?signature, ?encryption, ?canonicalization, ?validate,
    ?renew, ?cancel, by simp⟩
  case computedKey | signature | encryption | canonicalization =>
    refine corresponds.map (corresponds.readUri _ _) ?_
    rintro uri _ rfl
    constructor
  case validate =>
    exact corresponds.map (corresponds.readOne (by decide) maxDepth)
      fun _ _ tokens => .validateTarget tokens
  case renew =>
    exact corresponds.map (corresponds.readOne (by decide) maxDepth)
      fun _ _ tokens => .renewTarget tokens
  case cancel =>
    exact corresponds.map (corresponds.readOne (by decide) maxDepth)
      fun _ _ tokens => .cancelTarget tokens

theorem responseChildren (maxDepth : Nat) :
    ∀ row ∈ Response.grammar.children,
      Has (ResponseChild.Matches comparison) (row.2 maxDepth)
        (row.2 maxDepth) := by
  simp only [Response.grammar, List.forall_mem_append, List.forall_mem_cons]
  refine ⟨corresponds.termsAs (fun _ _ stated => .term stated) maxDepth,
    ?cancelled, ?proofToken, ?requestedToken, ?attached, ?unattached,
    ?status, by simp⟩
  case cancelled =>
    exact corresponds.bind corresponds.skipElement fun _ _ _ =>
      corresponds.pure .cancelled
  case proofToken =>
    exact corresponds.map corresponds.proofToken
      fun _ _ proofs => .proofToken proofs
  case requestedToken =>
    exact corresponds.map (corresponds.requestedToken maxDepth)
      fun _ _ tokens => .requestedToken tokens
  case attached =>
    exact corresponds.map (corresponds.readWrapped (by decide) maxDepth)
      fun _ _ references => .attachedReference references
  case unattached =>
    exact corresponds.map (corresponds.readWrapped (by decide) maxDepth)
      fun _ _ references => .unattachedReference references
  case status =>
    exact corresponds.map corresponds.status
      fun _ _ outcomes => .status outcomes

end Correspondence

end Cursor

/-! ## Extensions and grammars -/

/-- An extension claims tags that correspond alike, and its reader corresponds
to itself. -/
structure Extension.Corresponds
    (Tags : StartTag → StartTag → Prop) (comparison : Comparison)
    (Has : {Left Right : Type} →
      (Left → Right → Prop) → Cursor Left → Cursor Right → Prop)
    (extension : Extension) : Prop where
  claims_eq {left right : StartTag} (tags : Tags left right) :
    extension.claims left.name = extension.claims right.name
  reads :
    Has (ExtensionValue.Matches comparison) extension.read extension.read

/-- Records that match stay so when matching children are added. -/
structure BodyGrammar.Compares {Record Child : Type}
    (grammar : BodyGrammar Record Child) (comparison : Comparison)
    (Records : Record → Record → Prop) (Children : Child → Child → Prop) :
    Prop where
  ofContext (context : String) :
    Records (grammar.ofContext context) (grammar.ofContext context)
  add {left right : Record} (records : Records left right)
    {child other : Child} (children : Children child other) :
    Records (grammar.add left child) (grammar.add right other)
  appliesTo {left right : AppliesTo}
    (parties : left.Matches comparison right) :
    Children (grammar.appliesTo left) (grammar.appliesTo right)

theorem Request.grammar_compares (comparison : Comparison) :
    grammar.Compares comparison (Request.Matches comparison)
      (RequestChild.Matches comparison) where
  ofContext := .ofContext
  add records _ _ children := records.add children
  appliesTo parties := .term (.appliesTo parties)

theorem Response.grammar_compares (comparison : Comparison) :
    grammar.Compares comparison (Response.Matches comparison)
      (ResponseChild.Matches comparison) where
  ofContext := .ofContext
  add records _ _ children := records.add children
  appliesTo parties := .term (.appliesTo parties)

namespace Cursor.Correspondence

variable {Tags : StartTag → StartTag → Prop} {Closes : String → Prop}
  {comparison : Comparison}
  {Has : {Left Right : Type} →
    (Left → Right → Prop) → Cursor Left → Cursor Right → Prop}
  (corresponds : Correspondence Tags Closes comparison Has)

include corresponds in
theorem policyExtension
    (claimed : ∀ left right, Tags left right →
      left.name.namespaceUri = right.name.namespaceUri) :
    Registry.policyExtension.Corresponds Tags comparison Has where
  claims_eq {left right} tags := by
    simp only [Registry.policyExtension, QName.isNamed,
      claimed left right tags, corresponds.name_localPart_eq tags]
  reads :=
    corresponds.map corresponds.appliesTo fun _ _ parties =>
      .appliesTo parties

include corresponds in
theorem plainExtensions
    {registry : Registry} (plain : registry.IsPlain)
    (claimed : ∀ left right, Tags left right →
      left.name.namespaceUri = right.name.namespaceUri) :
    ∀ extension ∈ registry.extensions,
      extension.Corresponds Tags comparison Has := by
  intro extension member
  rcases plain with rfl | rfl
  · cases member
  · rw [List.mem_singleton.mp member]
    exact corresponds.policyExtension claimed

section Bodies

variable {registry : Registry}
  (extensions : ∀ extension ∈ registry.extensions,
    extension.Corresponds Tags comparison Has)
  {Record Child : Type} {grammar : BodyGrammar Record Child}
  {Records : Record → Record → Prop} {Children : Child → Child → Prop}
  (compares : grammar.Compares comparison Records Children)
  (unclaimed : ∀ left right, Tags left right →
    grammar.children.lookup right.localName = none →
      Has (Option.Rel Children)
        (Cursor.refuse (.unclaimedExtension left.name))
        (Cursor.refuse (.unclaimedExtension right.name)))

include corresponds extensions compares unclaimed

theorem readExtension
    {left right : StartTag} (tags : Tags left right)
    (absent : grammar.children.lookup right.localName = none) :
    Has (Option.Rel Children) (grammar.readExtension registry left.name)
      (grammar.readExtension registry right.name) := by
  have found :
      registry.lookup? right.name = registry.lookup? left.name := by
    refine List.find?_congr fun extension registered => ?_
    exact ((extensions extension registered).claims_eq tags).symm
  rw [BodyGrammar.readExtension, BodyGrammar.readExtension, found]
  cases claimed : registry.lookup? left.name with
  | none => exact unclaimed left right tags absent
  | some extension =>
      have registered : extension ∈ registry.extensions :=
        List.mem_of_find?_eq_some claimed
      refine corresponds.bind (extensions extension registered).reads
        fun value other values => ?_
      cases values with
      | appliesTo parties =>
          exact corresponds.pure (.some (compares.appliesTo parties))
      | fragment fragments => exact corresponds.pure .none
      | empty => exact corresponds.pure .none

variable {maxDepth : Nat}
  (children : ∀ row ∈ grammar.children,
    Has Children (row.2 maxDepth) (row.2 maxDepth))

include children

theorem readChild
    {left right : StartTag} (tags : Tags left right) :
    Has (Option.Rel Children)
      (grammar.readChild registry maxDepth left.name)
      (grammar.readChild registry maxDepth right.name) := by
  rw [BodyGrammar.readChild, BodyGrammar.readChild,
    corresponds.name_localPart_eq tags]
  cases found : grammar.children.lookup right.name.localPart with
  | none =>
      exact corresponds.readExtension extensions compares unclaimed tags
        found
  | some read =>
      exact corresponds.map (children _ (mem_of_lookup_eq_some found))
        fun _ _ children => .some children

theorem readBody (closes : Closes grammar.elementName) :
    Has Records (grammar.read registry maxDepth)
      (grammar.read registry maxDepth) := by
  refine corresponds.bind (corresponds.nextStartTag _)
    fun left right tags => ?_
  have contexts :
      BodyGrammar.contextOf left = BodyGrammar.contextOf right := by
    rw [BodyGrammar.contextOf, BodyGrammar.contextOf,
      corresponds.attribute?_eq tags]
  rw [contexts]
  refine corresponds.repeating (compares.ofContext _)
    fun record other records => ?_
  refine corresponds.atBoundary (fun left right tags => ?_)
    ⟨grammar.elementName, .done record, .done other, closes,
      .done records, fun _ => ⟨rfl, rfl⟩⟩
    (corresponds.pure (.done records))
  refine corresponds.bind
    (corresponds.readChild extensions compares unclaimed children tags)
    fun child other said => ?_
  refine corresponds.pure (.again ?_)
  cases said with
  | none => exact records
  | some matched => exact compares.add records matched

theorem readCollection
    (closes : Closes grammar.elementName)
    {elementName : String} (closesAll : Closes elementName) :
    Has (List.Forall₂ Records)
      (grammar.readCollection registry maxDepth elementName)
      (grammar.readCollection registry maxDepth elementName) := by
  refine corresponds.bind (corresponds.enter _) fun _ _ _ => ?_
  have nothing : List.Forall₂ Records [] [] := .nil
  refine corresponds.repeating nothing fun earlier other records => ?_
  refine corresponds.atBoundary (fun left right tags => ?_)
    ⟨elementName, .done earlier.reverse, .done other.reverse, closesAll,
      .done (List.rel_reverse records), fun _ => ⟨rfl, rfl⟩⟩
    (corresponds.refuse _ _ nofun)
  dsimp only
  rw [corresponds.localName_eq tags]
  split
  · exact corresponds.bind
      (corresponds.readBody extensions compares unclaimed children closes)
      fun _ _ record => corresponds.pure (.again (.cons record records))
  · exact corresponds.refuse _ _ nofun

end Bodies

include corresponds

/-- Readers of whole messages correspond if those of their extensions do and
all end tags are recognised alike. -/
theorem readPayload
    {registry : Registry}
    (extensions : ∀ extension ∈ registry.extensions,
      extension.Corresponds Tags comparison Has)
    (unclaimed : ∀ {Left Right : Type} (related : Left → Right → Prop)
      (left right : StartTag), Tags left right →
        Has related (Cursor.refuse (.unclaimedExtension left.name))
          (Cursor.refuse (.unclaimedExtension right.name)))
    (closes : ∀ localPart, Closes localPart) (maxDepth : Nat) :
    Has (Payload.Matches comparison) (Payload.read registry maxDepth)
      (Payload.read registry maxDepth) := by
  have requests := corresponds.requestChildren maxDepth
  have responses := corresponds.responseChildren maxDepth
  have kinds (kind : Payload.Kind) :
      Has (Payload.Matches comparison)
        (Payload.readKind registry maxDepth kind)
        (Payload.readKind registry maxDepth kind) := by
    cases kind with
    | request =>
        exact corresponds.map
          (corresponds.readBody extensions
            (Request.grammar_compares comparison)
            (fun left right tags _ => unclaimed _ left right tags)
            requests (closes _))
          fun _ _ records => .request records
    | response =>
        exact corresponds.map
          (corresponds.readBody extensions
            (Response.grammar_compares comparison)
            (fun left right tags _ => unclaimed _ left right tags)
            responses (closes _))
          fun _ _ records => .response records
    | requestCollection =>
        exact corresponds.map
          (corresponds.readCollection extensions
            (Request.grammar_compares comparison)
            (fun left right tags _ => unclaimed _ left right tags)
            requests (closes _) (closes _))
          fun _ _ records => .requestCollection records
    | responseCollection =>
        exact corresponds.map
          (corresponds.readCollection extensions
            (Response.grammar_compares comparison)
            (fun left right tags _ => unclaimed _ left right tags)
            responses (closes _) (closes _))
          fun _ _ records => .responseCollection records
  refine corresponds.bind corresponds.peekStartTag
    fun root other roots => ?_
  rcases roots with tags | _
  · dsimp only
    rw [corresponds.localName_eq tags]
    split
    · exact kinds _
    · exact corresponds.refuse _ _ nofun
  · exact corresponds.refuse _ _ nofun

end Cursor.Correspondence

end WsTrust
