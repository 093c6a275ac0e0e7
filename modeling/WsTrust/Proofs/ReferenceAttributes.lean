import Mathlib.Data.List.Induction
import WsTrust.Proofs.ShownFragments
import WsTrust.Proofs.Compositions

/-!
# What the attributes of a reference say

Each attribute of a reference is dropped, says its identifier or its usage, or
is kept under its name.  Of attributes with the same name the last one gives the
value and the first one the prefix, so where all names are different the order
of the attributes makes no difference.
-/

namespace WsTrust

/-! ## Names that are the same -/

theorem Text.bytesOf_inj {left right : String} :
    bytesOf left = bytesOf right ↔ left = right := by
  constructor
  · intro equal
    apply Option.some.inj
    rw [← ofBytes?_bytesOf, equal, ofBytes?_bytesOf]
  · exact congrArg bytesOf

theorem ExpandedName.order_eq_eq_iff {left right : ExpandedName} :
    left.order right = .eq ↔ left = right := by
  obtain ⟨leftNamespace, leftLocal⟩ := left
  obtain ⟨rightNamespace, rightLocal⟩ := right
  rw [order, Ordering.then_eq_eq, Std.compare_eq_iff_eq,
    Std.compare_eq_iff_eq, ExpandedName.mk.injEq]
  exact and_congr Text.bytesOf_inj Text.bytesOf_inj

namespace QName

theorem same_iff {left right : QName} :
    left.same right = true ↔ left.toExpandedName = right.toExpandedName :=
  beq_iff_eq

theorem same_self (name : QName) : name.same name = true :=
  same_iff.mpr rfl

theorem same_comm (left right : QName) :
    left.same right = right.same left :=
  BEq.comm

/-- A name cannot be told from one that it is the same as. -/
theorem same_congr
    {left right : QName} (same : left.same right = true) (other : QName) :
    left.same other = right.same other := by
  rw [QName.same, QName.same, same_iff.mp same]

/-- A name with two parts is the same as the one made of these parts. -/
theorem isNamed_eq_same (name : QName) (namespaceUri localPart : String) :
    name.isNamed namespaceUri localPart =
      name.same (ofParts namespaceUri localPart) := by
  obtain ⟨⟨ownNamespace, ownLocal⟩, _⟩ := name
  rw [Bool.eq_iff_iff, same_iff, isNamed_iff, ofParts, ExpandedName.mk.injEq]

end QName

/-! ## Attributes by their names -/

namespace Attribute

/-- The value of the last attribute whose name passes the test. -/
def lastValueWhere? (attributes : List Attribute) (accepts : QName → Bool) :
    Option String :=
  valueWhere? attributes.reverse accepts

/-- The name of the first attribute that is called the same. -/
def firstSame? (attributes : List Attribute) (name : QName) :
    Option QName :=
  (attributes.find? fun each => each.name.same name).map Attribute.name

end Attribute

namespace AttributeMap

def entryUnder? (map : AttributeMap) (name : QName) : Option (QName × String) :=
  map.entries.find? fun entry => entry.1.same name

theorem get?_eq_entryUnder? (map : AttributeMap) (name : QName) :
    map.get? name = (map.entryUnder? name).map Prod.snd := rfl

/-- A name stands after no name that it is the same as. -/
theorem same_eq_false_of_lt
    {left right : QName} (before : left.order right = .lt) :
    left.same right = false := by
  by_contra notFalse
  have same : left.same right = true := by simpa using notFalse
  have equal : left.order right = .eq :=
    ExpandedName.order_eq_eq_iff.mpr (QName.same_iff.mp same)
  rw [before] at equal
  cases equal

variable {map : AttributeMap}

/-- Every entry is found under its own name. -/
theorem mem_entries_iff {entry : QName × String} :
    entry ∈ map.entries ↔ map.entryUnder? entry.1 = some entry := by
  obtain ⟨entries, sorted⟩ := map
  constructor
  · intro member
    change entries.find? (fun other => other.1.same entry.1) = some entry
    obtain ⟨before, after, rfl⟩ := List.append_of_mem member
    have earlier := (List.pairwise_append.mp sorted).2.2
    apply List.find?_eq_some_iff_append.mpr
    refine ⟨QName.same_self entry.1, before, after, rfl, ?_⟩
    intro other otherMember
    have different := same_eq_false_of_lt
      (earlier other otherMember entry List.mem_cons_self)
    simp [different]
  · exact List.mem_of_find?_eq_some

/-- Maps in which the same is found under every name are equal. -/
theorem eq_of_entryUnder?_eq
    {other : AttributeMap}
    (same : ∀ name, map.entryUnder? name = other.entryUnder? name) :
    map = other := by
  apply eq_of_mem_iff
  intro entry
  rw [mem_entries_iff, mem_entries_iff, same]

/-- A name that is before all names of the entries is not among them. -/
theorem find?_eq_none_of_lt
    {entries : List (QName × String)} {name : QName}
    (after : ∀ entry ∈ entries, name.order entry.1 = .lt) :
    entries.find? (fun entry => entry.1.same name) = none := by
  apply List.find?_eq_none.mpr
  intro entry member
  have different := same_eq_false_of_lt (after entry member)
  rw [QName.same_comm] at different
  simp [different]

/-- After an insertion the value is found under the name as it was first
written, and all else as it was. -/
theorem entryUnder?_insert (name : QName) (value : String) (other : QName) :
    (map.insert name value).entryUnder? other =
      if name.same other then
        some (((map.entryUnder? name).map Prod.fst).getD name, value)
      else
        map.entryUnder? other := by
  obtain ⟨entries, sorted⟩ := map
  change (insertEntry name value entries).find? _ =
    if name.same other then
      some (((entries.find? _).map Prod.fst).getD name, value)
    else
      entries.find? _
  induction entries with
  | nil =>
      rw [insertEntry, List.find?_cons]
      cases name.same other <;> rfl
  | cons head tail inductionHypothesis =>
      obtain ⟨present, old⟩ := head
      obtain ⟨headFirst, tailSorted⟩ := List.pairwise_cons.mp sorted
      have later := inductionHypothesis tailSorted
      rw [insertEntry]
      split
      · rename_i before
        have after : ∀ entry ∈ (present, old) :: tail,
            name.order entry.1 = .lt :=
          List.forall_mem_cons.mpr ⟨before, fun entry member =>
            QName.order_trans before (headFirst entry member)⟩
        rw [find?_eq_none_of_lt after, List.find?_cons]
        cases name.same other <;> simp
      · rename_i equal
        have same : name.same present = true :=
          QName.same_iff.mpr (ExpandedName.order_eq_eq_iff.mp equal)
        have found : present.same name = true := by
          rw [QName.same_comm, same]
        rw [List.find?_cons, List.find?_cons, List.find?_cons, found,
          ← QName.same_congr same other]
        cases name.same other <;> simp
      · rename_i after
        have different : present.same name = false :=
          same_eq_false_of_lt (QName.order_eq_gt_iff.mp after)
        rw [List.find?_cons, List.find?_cons, List.find?_cons, different,
          later]
        cases sameOther : name.same other with
        | false => simp
        | true =>
            have differentOther : present.same other = false := by
              rw [← different, QName.same_comm, QName.same_comm present,
                QName.same_congr sameOther]
            simp [differentOther]

end AttributeMap

/-! ## Attributes one after another -/

namespace Attribute

variable (attributes : List Attribute) (added : Attribute)

theorem lastValueWhere?_append (accepts : QName → Bool) :
    lastValueWhere? (attributes ++ [added]) accepts =
      if accepts added.name then some added.value
      else lastValueWhere? attributes accepts := by
  rw [lastValueWhere?, valueWhere?, List.reverse_append,
    List.reverse_singleton, List.singleton_append, List.find?_cons]
  cases accepts added.name <;> rfl

theorem firstSame?_append (name : QName) :
    firstSame? (attributes ++ [added]) name =
      (firstSame? attributes name).or
        (if added.name.same name then some added.name else none) := by
  rw [firstSame?, firstSame?, List.find?_append, Option.map_or,
    List.find?_singleton]
  cases added.name.same name <;> rfl

/-- What attributes say under a name: the first one its prefix, and the last one
its value. -/
def said? (name : QName) : Option (QName × String) :=
  (firstSame? attributes name).bind fun first =>
    (lastValueWhere? attributes (·.same name)).map fun value => (first, value)

/-- There is a last value under a name exactly if there is a first name. -/
theorem isSome_lastValueWhere?_same (name : QName) :
    (lastValueWhere? attributes (·.same name)).isSome =
      (firstSame? attributes name).isSome := by
  rw [lastValueWhere?, valueWhere?, firstSame?, Option.isSome_map,
    Option.isSome_map, Bool.eq_iff_iff, List.find?_isSome, List.find?_isSome]
  simp

theorem said?_map_fst (name : QName) :
    (said? attributes name).map Prod.fst = firstSame? attributes name := by
  have both := isSome_lastValueWhere?_same attributes name
  rw [said?]
  cases first : firstSame? attributes name with
  | none => rfl
  | some earliest =>
      rw [first, Option.isSome_some, Option.isSome_iff_exists] at both
      obtain ⟨value, last⟩ := both
      simp [last]

theorem said?_map_snd (name : QName) :
    (said? attributes name).map Prod.snd =
      lastValueWhere? attributes (·.same name) := by
  have both := isSome_lastValueWhere?_same attributes name
  rw [said?]
  cases last : lastValueWhere? attributes (·.same name) with
  | none =>
      rw [last, Option.isSome_none, eq_comm, Option.isSome_eq_false_iff,
        Option.isNone_iff_eq_none] at both
      rw [both]
      rfl
  | some value =>
      rw [last, Option.isSome_some, eq_comm, Option.isSome_iff_exists] at both
      obtain ⟨earliest, first⟩ := both
      simp [first]

theorem firstSame?_congr
    {left right : QName} (same : left.same right = true) :
    firstSame? attributes left = firstSame? attributes right := by
  have tests (each : Attribute) :
      each.name.same left = each.name.same right := by
    rw [QName.same_comm, QName.same_congr same, QName.same_comm]
  simp only [firstSame?, tests]

theorem said?_append (name : QName) :
    said? (attributes ++ [added]) name =
      if added.name.same name then
        some (((said? attributes added.name).map Prod.fst).getD added.name,
          added.value)
      else
        said? attributes name := by
  rw [said?, firstSame?_append, lastValueWhere?_append, said?_map_fst]
  cases same : added.name.same name with
  | false => simp [said?]
  | true =>
      rw [firstSame?_congr attributes same]
      cases firstSame? attributes name <;> simp

section Permuted

variable {attributes others : List Attribute}

/-- Where at most one attribute passes a test, it is found wherever it
stands. -/
theorem find?_eq_of_perm
    {accepts : Attribute → Bool} (permuted : attributes.Perm others)
    (single : attributes.countP accepts ≤ 1) :
    attributes.find? accepts = others.find? accepts := by
  have filtered := permuted.filter accepts
  rw [List.countP_eq_length_filter] at single
  rw [← List.head?_filter, ← List.head?_filter]
  rcases kept : attributes.filter accepts with _ | ⟨only, _ | _⟩
  · rw [kept] at filtered
    rw [filtered.nil_eq]
  · rw [kept] at filtered
    rw [filtered.singleton_eq]
  · simp [kept] at single

theorem lastValueWhere?_eq_of_perm
    {accepts : QName → Bool} (permuted : attributes.Perm others)
    (single : attributes.countP (fun each => accepts each.name) ≤ 1) :
    lastValueWhere? attributes accepts =
      lastValueWhere? others accepts := by
  have reversed : attributes.reverse.Perm others.reverse :=
    (List.reverse_perm attributes).trans
      (permuted.trans (List.reverse_perm others).symm)
  rw [lastValueWhere?, lastValueWhere?,
    valueWhere?, valueWhere?,
    find?_eq_of_perm reversed (by rwa [List.countP_reverse])]

/-- Attributes with different names say at most one thing under a name. -/
theorem countP_same_le_one
    (different : attributes.Pairwise fun left right =>
      left.name.same right.name = false)
    (name : QName) :
    attributes.countP (fun each => each.name.same name) ≤ 1 := by
  have kept := different.filter fun each => each.name.same name
  rw [List.countP_eq_length_filter]
  rcases filtered : attributes.filter (fun each => each.name.same name) with
    _ | ⟨first, _ | ⟨second, rest⟩⟩
  · rw [filtered]
    exact Nat.zero_le 1
  · rw [filtered]
    exact Nat.le_refl 1
  · have isNamed (each : Attribute)
        (member : each ∈ first :: second :: rest) :
        each.name.same name = true := by
      rw [← filtered] at member
      exact (List.mem_filter.mp member).2
    rw [filtered] at kept
    have apart := (List.pairwise_cons.mp kept).1 second List.mem_cons_self
    have firstNamed := isNamed first (by simp)
    have secondNamed := isNamed second (by simp)
    rw [QName.same_congr firstNamed, QName.same_comm, secondNamed] at apart
    cases apart

theorem said?_eq_of_perm
    (permuted : attributes.Perm others)
    (different : attributes.Pairwise fun left right =>
      left.name.same right.name = false)
    (name : QName) :
    said? attributes name = said? others name := by
  have atMostOne := countP_same_le_one different name
  rw [said?, said?, firstSame?, firstSame?,
    find?_eq_of_perm permuted atMostOne,
    lastValueWhere?_eq_of_perm permuted atMostOne]

end Permuted

end Attribute

namespace TokenReference

theorem isOther_congr {left right : QName}
    (same : left.same right = true) :
    IsOther left ↔ IsOther right := by
  rw [QName.same_iff] at same
  rw [isOther_iff, isOther_iff, same]

section OneMore

variable (reference : TokenReference) (added : Attribute)

theorem addAttribute_id :
    (reference.addAttribute added).id =
      if added.name.isNamed Vocabulary.utility "Id" then some added.value
      else reference.id := by
  have distinct : Vocabulary.declarations ≠ Vocabulary.utility := by decide
  rw [addAttribute]
  split
  · rename_i declared
    simp [QName.isNamed, declared, distinct]
  · split
    · rfl
    · split <;> rfl

theorem addAttribute_usage :
    (reference.addAttribute added).usage =
      if isUsage added.name then some added.value
      else reference.usage := by
  rw [addAttribute]
  split
  · rename_i declared
    simp [isUsage, declared, Vocabulary.declarations, Vocabulary.security]
  · split
    · rename_i isId
      simp_all [isUsage, QName.isNamed]
    · split <;> rfl

theorem addAttribute_otherAttributes :
    (reference.addAttribute added).otherAttributes =
      if IsOther added.name then
        reference.otherAttributes.insert added.name added.value
      else reference.otherAttributes := by
  by_cases other : IsOther added.name
  · rw [addAttribute_of_isOther other, if_pos other]
  · rw [if_neg other, addAttribute]
    split
    · rfl
    · split
      · rfl
      · split
        · rfl
        · exact absurd ⟨‹_›, ‹_›, ‹_›⟩ other

end OneMore

section Described

variable (attributes : List Attribute)

theorem ofAttributes_append (added : Attribute) :
    ofAttributes (attributes ++ [added]) =
      (ofAttributes attributes).addAttribute added := by
  rw [ofAttributes, List.foldl_append]
  rfl

theorem ofAttributes_id :
    (ofAttributes attributes).id =
      Attribute.lastValueWhere? attributes
        (·.isNamed Vocabulary.utility "Id") := by
  induction attributes using List.reverseRecOn with
  | nil => rfl
  | append_singleton earlier added inductionHypothesis =>
      rw [ofAttributes_append, addAttribute_id,
        Attribute.lastValueWhere?_append, inductionHypothesis]

theorem ofAttributes_usage :
    (ofAttributes attributes).usage =
      Attribute.lastValueWhere? attributes isUsage := by
  induction attributes using List.reverseRecOn with
  | nil => rfl
  | append_singleton earlier added inductionHypothesis =>
      rw [ofAttributes_append, addAttribute_usage,
        Attribute.lastValueWhere?_append, inductionHypothesis]

theorem ofAttributes_any : (ofAttributes attributes).any = [] := by
  induction attributes using List.reverseRecOn with
  | nil => rfl
  | append_singleton earlier added inductionHypothesis =>
      rw [ofAttributes_append, addAttribute]
      split
      · exact inductionHypothesis
      · split
        · exact inductionHypothesis
        · split <;> exact inductionHypothesis

/-- Under a name without a meaning of its own a reference keeps what its
attributes say. -/
theorem ofAttributes_entryUnder? (name : QName) :
    (ofAttributes attributes).otherAttributes.entryUnder? name =
      if IsOther name then Attribute.said? attributes name else none := by
  induction attributes using List.reverseRecOn generalizing name with
  | nil => simp [ofAttributes, empty, AttributeMap.empty,
      AttributeMap.entryUnder?, Attribute.said?, Attribute.firstSame?]
  | append_singleton earlier added inductionHypothesis =>
      rw [ofAttributes_append, addAttribute_otherAttributes,
        Attribute.said?_append]
      by_cases other : IsOther added.name
      · rw [if_pos other, AttributeMap.entryUnder?_insert, inductionHypothesis,
          inductionHypothesis, if_pos other]
        by_cases same : added.name.same name = true
        · rw [if_pos same, if_pos ((isOther_congr same).mp other)]
          simp [same]
        · simp [same]
      · rw [if_neg other, inductionHypothesis]
        by_cases otherName : IsOther name
        · have different : ¬ added.name.same name = true := fun same =>
            other ((isOther_congr same).mpr otherName)
          simp [otherName, different]
        · simp [otherName]

theorem ofAttributes_filter :
    ofAttributes (attributes.filter
        fun each => each.name.namespaceUri ≠ Vocabulary.declarations) =
      ofAttributes attributes := by
  rw [ofAttributes, ofAttributes, List.foldl_filter]
  congr 1
  funext reference added
  by_cases declared : added.name.namespaceUri = Vocabulary.declarations
  · simp [addAttribute, declared]
  · simp [declared]

/-- What each attribute of a start tag becomes of the reference. -/
structure Partitions (reference : TokenReference) : Prop where
  id :
    reference.id =
      Attribute.lastValueWhere? attributes
        (·.isNamed Vocabulary.utility "Id")
  usage : reference.usage = Attribute.lastValueWhere? attributes isUsage
  sorted : AttributeMap.IsSorted reference.otherAttributes.entries
  /-- The names that are kept are those without a meaning of their own, each as
  it was first written. -/
  names (name : QName) :
    name ∈ reference.otherAttributes.names ↔
      IsOther name ∧ Attribute.firstSame? attributes name = some name
  values {name : QName} (other : IsOther name) :
    reference.otherAttributes.get? name =
      Attribute.lastValueWhere? attributes (·.same name)

theorem ofAttributes_partitions :
    Partitions attributes (ofAttributes attributes) := by
  constructor
  case id => exact ofAttributes_id attributes
  case usage => exact ofAttributes_usage attributes
  case sorted => exact (ofAttributes attributes).otherAttributes.sorted
  case names =>
    intro name
    rw [← Attribute.said?_map_fst, AttributeMap.names]
    constructor
    · intro kept
      obtain ⟨entry, member, rfl⟩ := List.mem_map.mp kept
      have found := AttributeMap.mem_entries_iff.mp member
      rw [ofAttributes_entryUnder?] at found
      obtain ⟨other, said⟩ := Option.ite_none_right_eq_some.mp found
      exact ⟨other, by rw [said]; rfl⟩
    · rintro ⟨other, first⟩
      obtain ⟨entry, said, rfl⟩ := Option.map_eq_some_iff.mp first
      apply List.mem_map_of_mem
      apply AttributeMap.mem_entries_iff.mpr
      rw [ofAttributes_entryUnder?, if_pos other, said]
  case values =>
    intro name other
    rw [AttributeMap.get?_eq_entryUnder?, ofAttributes_entryUnder?,
      if_pos other, Attribute.said?_map_snd]

end Described

/-! ## The order of the attributes -/

theorem ofAttributes_eq_of_perm
    {attributes others : List Attribute}
    (permuted : attributes.Perm others)
    (different : attributes.Pairwise fun left right =>
      left.name.same right.name = false)
    (single : attributes.countP (fun each => isUsage each.name) ≤ 1) :
    ofAttributes attributes = ofAttributes others := by
  have idOnce :
      attributes.countP
        (fun each => each.name.isNamed Vocabulary.utility "Id") ≤ 1 := by
    simp only [QName.isNamed_eq_same]
    exact Attribute.countP_same_le_one different _
  have id : (ofAttributes attributes).id = (ofAttributes others).id := by
    rw [ofAttributes_id, ofAttributes_id,
      Attribute.lastValueWhere?_eq_of_perm permuted idOnce]
  have usage :
      (ofAttributes attributes).usage = (ofAttributes others).usage := by
    rw [ofAttributes_usage, ofAttributes_usage,
      Attribute.lastValueWhere?_eq_of_perm permuted single]
  have otherAttributes :
      (ofAttributes attributes).otherAttributes =
        (ofAttributes others).otherAttributes := by
    apply AttributeMap.eq_of_entryUnder?_eq
    intro name
    rw [ofAttributes_entryUnder?, ofAttributes_entryUnder?,
      Attribute.said?_eq_of_perm permuted different]
  have any : (ofAttributes attributes).any = (ofAttributes others).any := by
    rw [ofAttributes_any, ofAttributes_any]
  generalize ofAttributes attributes = left, ofAttributes others = right
    at id usage otherAttributes any
  cases left
  cases right
  simp_all

/-! ## Reading a reference -/

/-- The start tag of a reference decides all of it but the content, which alone
decides whether it is read. -/
theorem read_of_startTag
    (maxDepth : Nat) {tag : StartTag}
    (named : tag.localName = "SecurityTokenReference")
    (stream : TokenStream) (tokens : List Token) :
    read maxDepth (stream.withTokens (.startTag tag :: tokens)) =
      ((fun any => { ofAttributes tag.attributes with any }) <$>
        Fragment.readRest "SecurityTokenReference" maxDepth)
        (stream.withTokens tokens) := by
  have found :
      Cursor.nextStartTag "SecurityTokenReference"
          (stream.withTokens (.startTag tag :: tokens)) =
        .ok tag (stream.withTokens tokens) :=
    Cursor.scan_cons stream ..
  have tagNamed : tag.name.localPart = "SecurityTokenReference" := named
  rw [read, Cursor.enter_bind_eq, Cursor.bind_of_ok found, if_pos tagNamed,
    Cursor.map_eq_bind]

/-- Each attribute of a start tag is dropped if it is in the namespace of
declarations, else says the identifier or the usage of the reference, else is
kept under its name; of several the last one counts, with the name as it was
first written.  All this succeeds whatever the attributes are.  If all names
differ and at most one attribute says the usage, their order makes no
difference. -/
theorem reference_attributes_are_partitioned
    (attributes : List Attribute) {name : QName}
    (named : name.localPart = "SecurityTokenReference") :
    Partitions attributes (ofAttributes attributes) ∧
    (∀ (maxDepth : Nat) (stream : TokenStream) (tokens : List Token),
      read maxDepth
          (stream.withTokens (.startTag ⟨name, attributes⟩ :: tokens)) =
        ((fun any => { ofAttributes attributes with any }) <$>
          Fragment.readRest "SecurityTokenReference" maxDepth)
          (stream.withTokens tokens)) ∧
    (∀ (maxDepth : Nat) (stream : TokenStream) (tokens : List Token),
      read maxDepth
          (stream.withTokens (.startTag ⟨name, attributes.filter fun each =>
            each.name.namespaceUri ≠ Vocabulary.declarations⟩ :: tokens)) =
        read maxDepth
          (stream.withTokens (.startTag ⟨name, attributes⟩ :: tokens))) ∧
    ((attributes.Pairwise fun left right =>
        left.name.same right.name = false) →
      attributes.countP (fun each => isUsage each.name) ≤ 1 →
      ∀ others : List Attribute, attributes.Perm others →
      ∀ (maxDepth : Nat) (stream : TokenStream) (tokens : List Token),
        read maxDepth
            (stream.withTokens (.startTag ⟨name, others⟩ :: tokens)) =
          read maxDepth
            (stream.withTokens (.startTag ⟨name, attributes⟩ :: tokens))) := by
  have described (listed : List Attribute) (maxDepth : Nat) :=
    @read_of_startTag maxDepth ⟨name, listed⟩ named
  refine ⟨ofAttributes_partitions attributes, described attributes, ?_, ?_⟩
  · intro maxDepth stream tokens
    rw [described, described, ofAttributes_filter]
  · intro different single others permuted maxDepth stream tokens
    rw [described, described,
      ofAttributes_eq_of_perm permuted different single]

/-- Two identifiers, two usages in different namespaces, a declaration, and a
kind under two prefixes. -/
def repeatedAttributes : List Attribute :=
  [⟨⟨⟨Vocabulary.utility, "Id"⟩, "u"⟩, "first"⟩,
    ⟨QName.ofLocal "Usage", "earlier"⟩,
    ⟨⟨⟨"urn:kinds", "Kind"⟩, "x"⟩, "one"⟩,
    ⟨⟨⟨Vocabulary.declarations, "u"⟩, "xmlns"⟩, Vocabulary.utility⟩,
    ⟨⟨⟨Vocabulary.security, "Usage"⟩, "w"⟩, "later"⟩,
    ⟨QName.ofLocal "Note", "kept"⟩,
    ⟨⟨⟨"urn:kinds", "Kind"⟩, "y"⟩, "two"⟩,
    ⟨⟨⟨Vocabulary.utility, "Id"⟩, "v"⟩, "last"⟩]

/-- Attributes with different names, one of which says the usage. -/
def differentAttributes : List Attribute :=
  [⟨QName.ofLocal "Usage", "once"⟩, ⟨QName.ofLocal "Id", "plain"⟩,
    ⟨⟨⟨Vocabulary.utility, "Id"⟩, "u"⟩, "own"⟩]

theorem repeatedAttributes_are_partitioned :
    Partitions repeatedAttributes (ofAttributes repeatedAttributes) ∧
    (ofAttributes repeatedAttributes).id = some "last" ∧
    (ofAttributes repeatedAttributes).usage = some "later" ∧
    (ofAttributes repeatedAttributes).otherAttributes.entries =
      [(QName.ofLocal "Note", "kept"),
        (⟨⟨"urn:kinds", "Kind"⟩, "x"⟩, "two")] ∧
    ∀ (maxDepth : Nat) (stream : TokenStream) (tokens : List Token),
      read maxDepth (stream.withTokens (.startTag
          ⟨QName.ofLocal "SecurityTokenReference",
            differentAttributes.reverse⟩ :: tokens)) =
        read maxDepth (stream.withTokens (.startTag
          ⟨QName.ofLocal "SecurityTokenReference",
            differentAttributes⟩ :: tokens)) := by
  have named :
      (QName.ofLocal "SecurityTokenReference").localPart =
        "SecurityTokenReference" := rfl
  have repeated :=
    reference_attributes_are_partitioned repeatedAttributes named
  have different :=
    reference_attributes_are_partitioned differentAttributes named
  have id :
      Attribute.lastValueWhere? repeatedAttributes
        (·.isNamed Vocabulary.utility "Id") = some "last" := by
    decide
  have usage :
      Attribute.lastValueWhere? repeatedAttributes isUsage =
        some "later" := by
    decide
  exact ⟨repeated.1, repeated.1.id.trans id, repeated.1.usage.trans usage,
    by decide, different.2.2.2 (by decide) (by decide) _
      (List.reverse_perm differentAttributes).symm⟩

end TokenReference

end WsTrust
