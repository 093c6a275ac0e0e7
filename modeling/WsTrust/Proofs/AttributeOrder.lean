import WsTrust.TokenReference

/-!
# Attributes in order

The attributes of a reference that have no meaning of their own are kept in the
order of their names.  Written in this order, they are read back as they are.
-/

namespace WsTrust

theorem AttributeMap.insertEntry_of_last
    {name : QName} {entries : List (QName × String)}
    (last : ∀ entry ∈ entries, entry.1.order name = .lt) (value : String) :
    insertEntry name value entries = entries ++ [(name, value)] := by
  induction entries with
  | nil => rfl
  | cons head tail inductionHypothesis =>
      obtain ⟨present, old⟩ := head
      obtain ⟨headBefore, tailBefore⟩ := List.forall_mem_cons.mp last
      have after : name.order present = .gt :=
        QName.order_eq_gt_iff.mpr headBefore
      simp only [insertEntry, after, inductionHypothesis tailBefore,
        List.cons_append]

/-! ## The attributes of a reference -/

namespace TokenReference

/-- The name has no meaning of its own on a reference. -/
def IsOther (name : QName) : Prop :=
  name.namespaceUri ≠ Vocabulary.declarations ∧
    ¬ name.isNamed Vocabulary.utility "Id" ∧ ¬ isUsage name

instance (name : QName) : Decidable (IsOther name) :=
  inferInstanceAs (Decidable (_ ∧ _))

theorem isOther_iff {name : QName} :
    IsOther name ↔
      name.namespaceUri ≠ Vocabulary.declarations ∧
        ¬ (name.namespaceUri = Vocabulary.utility ∧ name.localPart = "Id") ∧
        ¬ (name.localPart = "Usage" ∧
          (name.namespaceUri = "" ∨
            name.namespaceUri = Vocabulary.security)) := by
  rw [IsOther, isUsage_iff, QName.isNamed_iff]

def attributes (reference : TokenReference) : List Attribute :=
  (reference.id.map
      (Attribute.mk (QName.ofParts Vocabulary.utility "Id"))).toList ++
    (reference.usage.map (Attribute.mk (QName.ofLocal "Usage"))).toList ++
    reference.otherAttributes.entries.map fun (name, value) => ⟨name, value⟩

theorem addAttribute_of_isOther
    {name : QName} (other : IsOther name)
    (reference : TokenReference) (value : String) :
    reference.addAttribute ⟨name, value⟩ =
      { reference with
        otherAttributes := reference.otherAttributes.insert name value } := by
  obtain ⟨notDeclared, notId, notUsage⟩ := other
  rw [addAttribute, if_neg notDeclared, if_neg notId, if_neg notUsage]

def KeepsOthers (reference : TokenReference) : Prop :=
  ∀ entry ∈ reference.otherAttributes.entries, IsOther entry.1

theorem KeepsOthers.addAttribute
    {reference : TokenReference} (kept : reference.KeepsOthers)
    (added : Attribute) :
    (reference.addAttribute added).KeepsOthers := by
  rw [TokenReference.addAttribute]
  split
  · exact kept
  · rename_i notDeclared
    split
    · exact kept
    · rename_i notId
      split
      · exact kept
      · rename_i notUsage
        exact AttributeMap.forall_mem_insertEntry IsOther
          ⟨notDeclared, notId, notUsage⟩ kept added.value

/-- What a start tag describes keeps only attributes without a meaning of
their own. -/
theorem keepsOthers_ofAttributes (attributes : List Attribute) :
    (ofAttributes attributes).KeepsOthers := by
  have initial : empty.KeepsOthers := nofun
  rw [ofAttributes]
  generalize empty = reference at initial
  induction attributes generalizing reference with
  | nil => exact initial
  | cons head tail inductionHypothesis =>
      exact inductionHypothesis _ (initial.addAttribute head)

/-- Attributes that come in order are added to those that come before them. -/
theorem foldl_addAttribute_of_sorted
    {entries added : List (QName × String)}
    (sorted : AttributeMap.IsSorted (entries ++ added))
    (other : ∀ entry ∈ added, IsOther entry.1)
    (reference : TokenReference)
    (known : reference.otherAttributes.entries = entries) :
    (added.map fun (name, value) => Attribute.mk name value).foldl
        addAttribute reference =
      { reference with otherAttributes := ⟨entries ++ added, sorted⟩ } := by
  induction added generalizing entries reference with
  | nil =>
      have unchanged :
          reference.otherAttributes = ⟨entries ++ [], sorted⟩ :=
        AttributeMap.ext (known.trans (List.append_nil entries).symm)
      rw [← unchanged]
      rfl
  | cons head tail inductionHypothesis =>
      obtain ⟨name, value⟩ := head
      obtain ⟨headOther, tailOther⟩ := List.forall_mem_cons.mp other
      have last : ∀ entry ∈ entries, entry.1.order name = .lt :=
        fun entry member =>
          (List.pairwise_append.mp sorted).2.2 entry member (name, value)
            List.mem_cons_self
      have inserted :
          (reference.otherAttributes.insert name value).entries =
            entries ++ [(name, value)] := by
        rw [AttributeMap.entries_insert, known,
          AttributeMap.insertEntry_of_last last]
      have regrouped :
          entries ++ (name, value) :: tail =
            entries ++ [(name, value)] ++ tail := by simp
      have tailSorted := sorted
      rw [regrouped] at tailSorted
      rw [List.map_cons, List.foldl_cons, addAttribute_of_isOther headOther,
        inductionHypothesis tailSorted tailOther _ inserted]
      simp only [regrouped]

/-- A reference is read back from the attributes it is written with. -/
theorem ofAttributes_attributes
    {reference : TokenReference} (other : reference.KeepsOthers) :
    ofAttributes reference.attributes = { reference with any := [] } := by
  obtain ⟨id, usage, ⟨entries, sorted⟩, any⟩ := reference
  have sortedFromEmpty : AttributeMap.IsSorted ([] ++ entries) := sorted
  have added (start : TokenReference)
      (fresh : start.otherAttributes.entries = []) :=
    foldl_addAttribute_of_sorted sortedFromEmpty other start fresh
  rw [ofAttributes, attributes, List.foldl_append, List.foldl_append]
  cases id with
  | none =>
      cases usage with
      | none => exact added _ rfl
      | some usage => exact added _ rfl
  | some id =>
      cases usage with
      | none => exact added _ rfl
      | some usage => exact added _ rfl

end TokenReference

end WsTrust
