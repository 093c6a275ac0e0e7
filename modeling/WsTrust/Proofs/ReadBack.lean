import WsTrust.Proofs.Body
import WsTrust.Proofs.Numerals
import WsTrust.Proofs.RecordFields
import WsTrust.Proofs.Values
import WsTrust.Proofs.Writing

/-!
# Reading children back

What a child says is read back from the element that it is written as.
-/

namespace WsTrust

open Cursor

variable (style : Style) {maxDepth : Nat} {localPart : String}

/-! ## Values -/

theorem Uri.IsWritable.isValue
    {uri : Uri} (writable : uri.IsWritable) :
    Text.IsValue uri.text :=
  ⟨isTrimmed_of_isReference writable.1, writable.2⟩

theorem Uri.IsWritable.reads_back
    {uri : Uri} (writable : uri.IsWritable)
    (attributes : List Attribute) (localPart what : String) :
    Reads (Scalar.readUri localPart what)
      (style.holding localPart attributes uri.text).tokens uri := by
  have value := writable.isValue
  apply Scalar.readUri_reads
  · exact style.holdsText_holding localPart attributes value
  · rw [style.trimmedText_holding localPart attributes value.1, Uri.read,
      writable.1]

theorem Text.isValue_repr (number : Nat) :
    IsValue (Nat.repr number) :=
  ⟨isTrimmed_repr number, repr_ne_empty number⟩

theorem Scalar.readInteger_reads_back
    {bits : Nat} (small : bits < Text.wordBound)
    (attributes : List Attribute) (localPart what : String) :
    Reads (Scalar.readInteger localPart what)
      (style.holding localPart attributes (Nat.repr bits)).tokens bits := by
  have value := Text.isValue_repr bits
  apply Scalar.readInteger_reads
  · exact style.holdsText_holding localPart attributes value
  · rw [style.trimmedText_holding localPart attributes value.1]
    exact Text.readNatural_repr small

/-! ## Secrets -/

namespace BinarySecret

variable {secret : BinarySecret}

theorem attribute?_type :
    (secret.toElement style).startTag.attribute? "Type" = secret.type := by
  cases type : secret.type with
  | none => simp [toElement, Style.holding, Element.startTag, type]; rfl
  | some given => simp [toElement, Style.holding, Element.startTag, type]; rfl

/-- The text of a secret is written so that it is read back. -/
theorem IsWritable.text
    (writable : secret.IsWritable) :
    (secret.toElement style).HoldsText ∧
      Text.bytesOf (secret.toElement style).trimmedText = secret.value := by
  obtain ⟨text, bytes, value⟩ := writable
  have stored : secret.text?.getD "" = text := by
    rw [text?, bytes, Text.ofBytes?_bytesOf, Option.getD_some]
  rw [toElement, stored]
  constructor
  · exact style.holdsText_holding _ _ value
  · rw [style.trimmedText_holding _ _ value.1, bytes]

end BinarySecret

theorem Entropy.IsWritable.reads_back
    {entropy : Entropy} (writable : entropy.IsWritable) :
    Reads Entropy.read (entropy.toElement style).tokens entropy := by
  obtain ⟨binarySecret⟩ := entropy
  have named : (Entropy.toElement style ⟨binarySecret⟩).localName =
      "Entropy" := style.localName_enclosing _ _ _
  cases binarySecret with
  | none =>
      apply Entropy.read_reads_nothing named
      exact style.childElements_enclosing _ _ _
  | some secret =>
      obtain ⟨held, bytes⟩ := (writable secret rfl).text style
      have children : (Entropy.toElement style ⟨some secret⟩).childElements =
          [secret.toElement style] := style.childElements_enclosing _ _ _
      have read := Entropy.read_reads_secret named children
        (style.localName_holding _ _ _) held
      rwa [bytes, BinarySecret.attribute?_type] at read

theorem ProofToken.IsWritable.reads_back
    {proof : ProofToken} (writable : proof.IsWritable) :
    Reads ProofToken.read (proof.toElement style).tokens proof := by
  have named : (proof.toElement style).localName = "RequestedProofToken" :=
    style.localName_enclosing _ _ _
  cases proof with
  | binarySecret secret =>
      obtain ⟨held, bytes⟩ := writable.1.text style
      have children :
          (ProofToken.toElement style (.binarySecret secret)).childElements =
            [secret.toElement style] := style.childElements_enclosing _ _ _
      have type :
          (secret.toElement style).startTag.attribute? "Type" =
            secret.type := BinarySecret.attribute?_type style
      have read := ProofToken.read_reads_secret named children
        (style.localName_holding _ _ _) held (by rw [type]; exact writable.2)
      rwa [bytes, type] at read
  | computedKey algorithm =>
      have children :
          (ProofToken.toElement style (.computedKey algorithm)).childElements =
            [style.holding "ComputedKey" [] algorithm] :=
        style.childElements_enclosing _ _ _
      have read := ProofToken.read_reads_computedKey named children
        (style.localName_holding _ _ _)
        (style.holdsText_holding _ _ writable)
      rwa [style.trimmedText_holding _ _ writable.1] at read
  | none =>
      apply ProofToken.read_reads_nothing named
      exact style.childElements_enclosing _ _ _

/-! ## Lifetimes, outcomes and renewals -/

theorem Lifetime.IsWritable.reads_back
    {span : Lifetime} (writable : span.IsWritable) :
    Reads Lifetime.read (span.toElement style).tokens span := by
  obtain ⟨created, expires⟩ := span
  obtain ⟨createdTrimmed, expiresValue⟩ := writable
  have named : (Lifetime.toElement style ⟨created, expires⟩).localName =
      "Lifetime" := style.localName_enclosing _ _ _
  have expiryNamed :
      (style.holding "Expires" [] expires.text).localName = "Expires" :=
    style.localName_holding _ _ _
  have held := style.holdsText_holding "Expires" [] expiresValue
  have expiresRead := style.trimmedText_holding "Expires" [] expiresValue.1
  cases created with
  | none =>
      have read := Lifetime.read_reads named
        (style.childElements_enclosing _ _ _) style.placeholder_childless
        expiryNamed held
      rwa [if_neg style.placeholder_name, expiresRead] at read
  | some created =>
      have startNamed :
          (style.holding "Created" [] created.text).localName = "Created" :=
        style.localName_holding _ _ _
      have read := Lifetime.read_reads named
        (style.childElements_enclosing _ _ _)
        (style.childElements_holding _ _ _) expiryNamed held
      rwa [if_pos startNamed, expiresRead,
        style.trimmedText_holding _ _ (createdTrimmed created rfl)] at read

namespace Status

/-- Each part of a status is a code or a reason, and holds its text. -/
theorem IsWritable.parts
    {status : Status} (writable : status.IsWritable) :
    ∀ part ∈ status.parts style,
      (part.localName = "Code" ∨ part.localName = "Reason") ∧
        part.HoldsText := by
  intro part member
  rcases List.mem_append.mp member with inCode | inReason
  · obtain ⟨present, rfl⟩ := (style.mem_optional_iff "Code").mp inCode
    exact ⟨Or.inl (style.localName_holding _ _ _),
      style.holdsText_holding _ _ ⟨writable.1, present⟩⟩
  · obtain ⟨present, rfl⟩ := (style.mem_optional_iff "Reason").mp inReason
    exact ⟨Or.inr (style.localName_holding _ _ _),
      style.holdsText_holding _ _ ⟨writable.2, present⟩⟩

theorem foldl_optional_code
    {code : String} (trimmed : Text.IsTrimmed code) (reason : String) :
    (style.optional "Code" code).foldl withPart ⟨"", reason⟩ =
      ⟨code, reason⟩ := by
  rw [Style.optional]
  by_cases empty : code = ""
  · rw [if_pos empty, empty]
    rfl
  · rw [if_neg empty, List.foldl_cons, List.foldl_nil, withPart,
      if_pos (style.localName_holding _ _ _),
      style.trimmedText_holding _ _ trimmed]

theorem foldl_optional_reason
    {reason : String} (trimmed : Text.IsTrimmed reason) (code : String) :
    (style.optional "Reason" reason).foldl withPart ⟨code, ""⟩ =
      ⟨code, reason⟩ := by
  have notCode :
      ¬ (style.holding "Reason" [] reason).localName = "Code" := by
    rw [style.localName_holding]
    decide
  rw [Style.optional]
  by_cases empty : reason = ""
  · rw [if_pos empty, empty]
    rfl
  · rw [if_neg empty, List.foldl_cons, List.foldl_nil, withPart,
      if_neg notCode, style.trimmedText_holding _ _ trimmed]

theorem IsWritable.reads_back
    {status : Status} (writable : status.IsWritable) :
    Reads Status.read (status.toElement style).tokens status := by
  have parts := writable.parts style
  have read := Status.read_reads (style.localName_enclosing "Status" [] _)
    rfl (fun part member => (parts part member).1)
    (fun part member => (parts part member).2)
  have folded : (status.parts style).foldl withPart ⟨"", ""⟩ = status := by
    rw [Status.parts, List.foldl_append,
      foldl_optional_code style writable.1,
      foldl_optional_reason style writable.2]
  rwa [folded] at read

end Status

theorem Renewing.reads_back (renewal : Renewing) :
    Reads Renewing.read (renewal.toElement style).tokens renewal := by
  have read := Renewing.read_reads
    (style.localName_enclosing "Renewing" _ _)
    (style.childElements_enclosing "Renewing"
      [⟨QName.ofLocal "Allow", toString renewal.allow⟩,
        ⟨QName.ofLocal "OK", toString renewal.ok⟩] [])
  obtain ⟨allow, ok⟩ := renewal
  cases allow <;> cases ok <;> exact read

/-! ## References -/

theorem TokenReference.IsWritable.reads_back
    {reference : TokenReference} (writable : reference.IsWritable maxDepth)
    (localPart : String) :
    Reads (TokenReference.readWrapped localPart maxDepth)
      (reference.toElement style localPart).tokens reference := by
  obtain ⟨other, fit⟩ := writable
  have children := style.childElements_enclosing localPart []
    [style.enclosing "SecurityTokenReference" reference.attributes
      reference.any]
  have content := style.childElements_enclosing "SecurityTokenReference"
    reference.attributes reference.any
  have read := TokenReference.readWrapped_reads
    (style.localName_enclosing localPart _ _) children
    (style.localName_enclosing _ _ _)
    (fun child member => fit child (content ▸ member))
  rw [content] at read
  have attributes := TokenReference.ofAttributes_attributes other
  have lifted : (style.enclosing "SecurityTokenReference"
      reference.attributes reference.any).attributes =
        reference.attributes := rfl
  rwa [lifted, attributes] at read

/-! ## Relying parties -/

theorem AppliesTo.readEndpoint_reads_back
    {address : String} (value : Text.IsValue address) :
    Reads AppliesTo.readEndpoint
      (style.enclosing "EndpointReference" []
        [style.holding "Address" [] address]).tokens
      address := by
  have named : (style.holding "Address" [] address).localName = "Address" :=
    style.localName_holding _ _ _
  apply AppliesTo.readEndpoint_reads (style.localName_enclosing _ _ _)
  · intro child member _
    rw [style.childElements_enclosing, List.mem_singleton] at member
    rw [member]
    exact style.holdsText_holding _ _ value
  · have after := style.trimmedText_holding "Address" [] value.1
    simp only [Style.enclosing, List.map_cons, List.map_nil,
      List.foldl_cons, List.foldl_nil, AppliesTo.addressAfter,
      Element.element?_toNode, named, after, and_self, if_true]

theorem AppliesTo.IsWritable.reads_back
    {party : AppliesTo} (writable : party.IsWritable) :
    Reads AppliesTo.read (party.toElement style).tokens party := by
  have named : (party.toElement style).localName = "AppliesTo" := rfl
  cases party with
  | endpointReference address =>
      exact AppliesTo.read_reads_endpoint named rfl
        (style.localName_enclosing _ _ _)
        (AppliesTo.readEndpoint_reads_back style writable)
  | value text =>
      have empty : text = "" := writable
      rw [empty]
      exact AppliesTo.read_reads_nothing rfl rfl
  | fragment content =>
      exact AppliesTo.read_reads_fragment named rfl writable.1 writable.2

end WsTrust
