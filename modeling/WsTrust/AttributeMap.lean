import WsTrust.Element

/-!
# Attribute maps

Attributes in the order of their names, one for each expanded name.  Inserting
under a name that is present replaces the value and keeps the name as it was
first inserted, with its prefix.
-/

namespace WsTrust

namespace AttributeMap

/-- The names of the entries are strictly increasing. -/
def IsSorted (entries : List (QName × String)) : Prop :=
  entries.Pairwise fun earlier later => earlier.1.order later.1 = .lt

instance (entries : List (QName × String)) : Decidable (IsSorted entries) :=
  inferInstanceAs (Decidable (entries.Pairwise _))

end AttributeMap

/-- Names with their values, in strictly increasing order of the names. -/
@[ext]
structure AttributeMap where
  entries : List (QName × String)
  sorted : AttributeMap.IsSorted entries
  deriving DecidableEq, Repr

namespace AttributeMap

def empty : AttributeMap :=
  ⟨[], .nil⟩

instance : Inhabited AttributeMap := ⟨empty⟩

def size (map : AttributeMap) : Nat :=
  map.entries.length

/-! ## Insertion -/

def insertEntry (name : QName) (value : String) :
    List (QName × String) → List (QName × String)
  | [] => [(name, value)]
  | (present, old) :: rest =>
      match name.order present with
      | .lt => (name, value) :: (present, old) :: rest
      | .eq => (present, value) :: rest
      | .gt => (present, old) :: insertEntry name value rest

/-- What is true of the inserted name and of the names that were there is true
of all names after an insertion. -/
theorem forall_mem_insertEntry
    (accepts : QName → Prop) {name : QName} {entries : List (QName × String)}
    (inserted : accepts name) (present : ∀ entry ∈ entries, accepts entry.1)
    (value : String) :
    ∀ entry ∈ insertEntry name value entries, accepts entry.1 := by
  induction entries with
  | nil =>
      intro entry member
      rw [insertEntry, List.mem_singleton] at member
      rw [member]
      exact inserted
  | cons head tail inductionHypothesis =>
      obtain ⟨headAccepted, tailAccepted⟩ := List.forall_mem_cons.mp present
      rw [insertEntry]
      split
      · exact List.forall_mem_cons.mpr ⟨inserted, present⟩
      · exact List.forall_mem_cons.mpr ⟨headAccepted, tailAccepted⟩
      · exact List.forall_mem_cons.mpr
          ⟨headAccepted, inductionHypothesis tailAccepted⟩

/-- Insertion keeps entries in order. -/
theorem IsSorted.insertEntry
    {entries : List (QName × String)} (sorted : IsSorted entries)
    (name : QName) (value : String) :
    IsSorted (insertEntry name value entries) := by
  induction entries with
  | nil => exact List.pairwise_singleton _ _
  | cons head tail inductionHypothesis =>
      obtain ⟨headFirst, tailSorted⟩ := List.pairwise_cons.mp sorted
      rw [AttributeMap.insertEntry]
      split
      · rename_i before
        refine List.pairwise_cons.mpr ⟨?_, sorted⟩
        refine List.forall_mem_cons.mpr ⟨before, fun entry member => ?_⟩
        exact QName.order_trans before (headFirst entry member)
      · exact List.pairwise_cons.mpr ⟨headFirst, tailSorted⟩
      · rename_i after
        refine List.pairwise_cons.mpr ⟨?_, inductionHypothesis tailSorted⟩
        exact forall_mem_insertEntry (head.1.order · = .lt)
          (QName.order_eq_gt_iff.mp after) headFirst value

def insert (map : AttributeMap) (name : QName) (value : String) :
    AttributeMap :=
  ⟨insertEntry name value map.entries, map.sorted.insertEntry name value⟩

@[simp]
theorem entries_insert (map : AttributeMap) (name : QName) (value : String) :
    (map.insert name value).entries = insertEntry name value map.entries := rfl

/-! ## Names and values -/

def get? (map : AttributeMap) (name : QName) : Option String :=
  (map.entries.find? fun entry => entry.1.same name).map Prod.snd

/-- The value under the first name with the local part. -/
def getLocal? (map : AttributeMap) (localPart : String) : Option String :=
  (map.entries.find? fun entry => entry.1.localPart == localPart).map Prod.snd

def names (map : AttributeMap) : List QName :=
  map.entries.map Prod.fst

theorem IsSorted.erasePrefixes
    {entries : List (QName × String)} (sorted : IsSorted entries) :
    IsSorted (entries.map fun entry => (entry.1.erasePrefix, entry.2)) :=
  List.pairwise_map.mpr sorted

def erasePrefixes (map : AttributeMap) : AttributeMap :=
  ⟨map.entries.map fun entry => (entry.1.erasePrefix, entry.2),
    map.sorted.erasePrefixes⟩

end AttributeMap

end WsTrust
