import Mathlib.Data.List.Dedup
import WsTrust.Proofs.ReferenceAttributes

/-!
# Attributes inserted one after another

Names have a total order, in which names are level exactly if they are the same.
A map keeps what has been inserted into it by this order: each name once, as it
was first written, with the last of its values.
-/

namespace WsTrust

/-! ## The order of names -/

namespace QName

/-- A total order of names that no prefix influences, in which names are level
exactly if they are the same. -/
structure IsNameOrder (order : QName → QName → Ordering) : Prop where
  prefixless (left right : QName) :
    order left right = order left.erasePrefix right.erasePrefix
  eq_iff_same (left right : QName) :
    order left right = .eq ↔ left.same right = true
  reversed (left right : QName) : (order left right).swap = order right left
  reflexive (name : QName) : (order name name).isLE
  antisymmetric {left right : QName} :
    (order left right).isLE → (order right left).isLE → left.same right = true
  transitive {first second third : QName} :
    (order first second).isLE → (order second third).isLE →
      (order first third).isLE
  total (left right : QName) :
    (order left right).isLE ∨ (order right left).isLE

theorem order_eq_iff_same {left right : QName} :
    left.order right = .eq ↔ left.same right = true :=
  ExpandedName.order_eq_eq_iff.trans same_iff.symm

theorem order_isLE_trans
    {first second third : QName}
    (left : (first.order second).isLE) (right : (second.order third).isLE) :
    (first.order third).isLE := by
  have transitive (name other last : ExpandedName)
      (before : (name.order other).isLE) (after : (other.order last).isLE) :
      (name.order last).isLE := Std.TransCmp.isLE_trans before after
  exact transitive _ _ _ left right

theorem isNameOrder_order : IsNameOrder order where
  prefixless _ _ := rfl
  eq_iff_same _ _ := order_eq_iff_same
  reversed left right :=
    ExpandedName.order_swap left.toExpandedName right.toExpandedName
  reflexive name := by
    rw [order_eq_iff_same.mpr name.same_self]
    rfl
  antisymmetric {left right} before after := by
    have reversed : (left.order right).swap = right.order left :=
      ExpandedName.order_swap _ _
    rw [← reversed] at after
    rw [← order_eq_iff_same]
    revert before after
    cases left.order right <;> simp
  transitive := order_isLE_trans
  total left right := by
    have reversed : (left.order right).swap = right.order left :=
      ExpandedName.order_swap _ _
    rw [← reversed]
    cases left.order right <;> simp

/-- Names with one local part are in the order of the bytes of their
namespaces. -/
theorem order_of_localPart_eq
    {left right : QName} (same : left.localPart = right.localPart) :
    left.order right =
      compare (Text.bytesOf left.namespaceUri)
        (Text.bytesOf right.namespaceUri) := by
  have level : compare (Text.bytesOf left.localPart)
      (Text.bytesOf right.localPart) = .eq := by
    rw [same]
    exact Std.ReflCmp.compare_self
  have parts : left.order right =
      (compare (Text.bytesOf left.namespaceUri)
        (Text.bytesOf right.namespaceUri)).then
      (compare (Text.bytesOf left.localPart)
        (Text.bytesOf right.localPart)) := rfl
  rw [parts, level, Ordering.then_eq]

end QName

/-! ## Attributes one after another -/

namespace Attribute

/-- Attributes say a name with a value if the name is how the first of those
called the same is written, and the value that of the last one. -/
theorem said?_eq_some_iff
    {attributes : List Attribute} {name : QName} {entry : QName × String} :
    said? attributes name = some entry ↔
      firstSame? attributes name = some entry.1 ∧
        lastValueWhere? attributes (·.same name) = some entry.2 := by
  obtain ⟨first, value⟩ := entry
  simp only [said?, Option.bind_eq_some_iff, Option.map_eq_some_iff,
    Prod.mk.injEq]
  constructor
  · rintro ⟨earliest, found, last, valued, rfl, rfl⟩
    exact ⟨found, valued⟩
  · rintro ⟨found, valued⟩
    exact ⟨first, found, value, valued, rfl, rfl⟩

theorem isSome_said?_iff
    {attributes : List Attribute} {name : QName} :
    (said? attributes name).isSome ↔
      ∃ each ∈ attributes, each.name.same name = true := by
  rw [← Option.isSome_map (f := Prod.fst), said?_map_fst, firstSame?,
    Option.isSome_map, List.find?_isSome]

end Attribute

namespace AttributeMap

/-- Inserts an attribute.  The answer is the value that it replaces, if there is
one. -/
def exchange (map : AttributeMap) (added : Attribute) :
    Option String × AttributeMap :=
  (map.get? added.name, map.insert added.name added.value)

/-- The map into which attributes have been inserted one after another. -/
def inserted (history : List Attribute) : AttributeMap :=
  history.foldl (fun map added => (map.exchange added).2) empty

theorem inserted_append (history : List Attribute) (added : Attribute) :
    inserted (history ++ [added]) =
      (inserted history).insert added.name added.value := by
  rw [inserted, List.foldl_append]
  rfl

section Insertions

variable (history : List Attribute)

/-- Under every name a map has what the attributes say that were inserted. -/
theorem entryUnder?_inserted (name : QName) :
    (inserted history).entryUnder? name = Attribute.said? history name := by
  induction history using List.reverseRecOn generalizing name with
  | nil => rfl
  | append_singleton earlier added inductionHypothesis =>
      rw [inserted_append, entryUnder?_insert, Attribute.said?_append,
        inductionHypothesis, inductionHypothesis]

theorem exists_inserted_of_mem
    {entry : QName × String} (member : entry ∈ (inserted history).entries) :
    ∃ each ∈ history, each.name.same entry.1 = true := by
  rw [mem_entries_iff, entryUnder?_inserted] at member
  exact Attribute.isSome_said?_iff.mp (Option.isSome_of_eq_some member)

theorem mem_of_said?
    {name : QName} {entry : QName × String}
    (said : Attribute.said? history name = some entry) :
    entry ∈ (inserted history).entries ∧ entry.1.same name = true := by
  rw [← entryUnder?_inserted] at said
  have found := List.find?_some said
  exact ⟨List.mem_of_find?_eq_some said, found⟩

theorem mem_entries_inserted {entry : QName × String} :
    entry ∈ (inserted history).entries ↔
      Attribute.firstSame? history entry.1 = some entry.1 ∧
        Attribute.lastValueWhere? history (·.same entry.1) =
          some entry.2 := by
  rw [mem_entries_iff, entryUnder?_inserted, Attribute.said?_eq_some_iff]

theorem get?_inserted (name : QName) :
    (inserted history).get? name =
      Attribute.lastValueWhere? history (·.same name) := by
  rw [get?_eq_entryUnder?, entryUnder?_inserted, Attribute.said?_map_snd]

theorem inserted_eq_of_perm
    {others : List Attribute} (permuted : history.Perm others)
    (different : history.Pairwise fun left right =>
      left.name.same right.name = false) :
    inserted others = inserted history := by
  apply eq_of_entryUnder?_eq
  intro name
  rw [entryUnder?_inserted, entryUnder?_inserted,
    Attribute.said?_eq_of_perm permuted different]

/-- Each name that was inserted is there once. -/
theorem perm_names_inserted :
    ((inserted history).names.map QName.toExpandedName).Perm
      (history.map fun each => each.name.toExpandedName).dedup := by
  have distinct :
      ((inserted history).names.map QName.toExpandedName).Nodup := by
    rw [names, List.map_map, List.Nodup, List.pairwise_map]
    refine (inserted history).sorted.imp ?_
    intro earlier later before same
    have different := same_eq_false_of_lt before
    rw [QName.same_iff.mpr same] at different
    cases different
  refine (List.perm_ext_iff_of_nodup distinct (List.nodup_dedup _)).mpr ?_
  intro expanded
  rw [List.mem_dedup]
  constructor
  · intro kept
    obtain ⟨name, named, rfl⟩ := List.mem_map.mp kept
    obtain ⟨entry, member, rfl⟩ := List.mem_map.mp named
    obtain ⟨each, here, same⟩ := exists_inserted_of_mem history member
    exact List.mem_map.mpr ⟨each, here, QName.same_iff.mp same⟩
  · intro present
    obtain ⟨each, here, rfl⟩ := List.mem_map.mp present
    obtain ⟨entry, said⟩ := Option.isSome_iff_exists.mp
      (Attribute.isSome_said?_iff.mpr ⟨each, here, each.name.same_self⟩)
    obtain ⟨member, same⟩ := mem_of_said? history said
    rw [← QName.same_iff.mp same]
    exact List.mem_map_of_mem (List.mem_map_of_mem member)

end Insertions

/-! ## Look-up by local part -/

/-- The first entry that passes a test is the least one. -/
theorem find?_entries_eq_some_iff
    {map : AttributeMap} {accepts : QName × String → Bool}
    {entry : QName × String} :
    map.entries.find? accepts = some entry ↔
      entry ∈ map.entries ∧ accepts entry = true ∧
        ∀ other ∈ map.entries, accepts other = true →
          (entry.1.order other.1).isLE := by
  have sorted := map.sorted
  constructor
  · intro found
    obtain ⟨accepted, before, after, equality, refused⟩ :=
      List.find?_eq_some_iff_append.mp found
    refine ⟨List.mem_of_find?_eq_some found, accepted, ?_⟩
    intro other member otherAccepted
    rw [IsSorted, equality] at sorted
    rw [equality, List.mem_append, List.mem_cons] at member
    rcases member with earlier | rfl | later
    · have notAccepted := refused other earlier
      simp [otherAccepted] at notAccepted
    · exact QName.isNameOrder_order.reflexive _
    · have behind := (List.pairwise_cons.mp
        (List.pairwise_append.mp sorted).2.1).1 other later
      exact Ordering.isLE_of_eq_lt behind
  · rintro ⟨member, accepted, least⟩
    obtain ⟨before, after, equality⟩ := List.append_of_mem member
    refine List.find?_eq_some_iff_append.mpr
      ⟨accepted, before, after, equality, ?_⟩
    intro other earlier
    rw [IsSorted, equality] at sorted
    have ahead := (List.pairwise_append.mp sorted).2.2 other earlier entry
      List.mem_cons_self
    by_contra notRefused
    have otherAccepted : accepts other = true := by simpa using notRefused
    have inMap : other ∈ map.entries := by
      rw [equality]
      exact List.mem_append_left _ earlier
    have notBefore := least other inMap otherAccepted
    rw [QName.order_eq_gt_iff.mpr ahead] at notBefore
    cases notBefore

section Insertions

variable (history : List Attribute)

/-- No inserted name with this local part has a namespace before this one, byte
by byte. -/
def IsLeastNamespace (history : List Attribute) (name : QName) : Prop :=
  ∀ each ∈ history, each.name.localPart = name.localPart →
    (compare (Text.bytesOf name.namespaceUri)
      (Text.bytesOf each.name.namespaceUri)).isLE

instance (history : List Attribute) (name : QName) :
    Decidable (IsLeastNamespace history name) :=
  inferInstanceAs (Decidable (∀ each ∈ history, _ → _))

/-- The value that is found under a local part is the last one that was inserted
under the name whose namespace is the least. -/
theorem getLocal?_inserted_eq_some_iff {localPart value : String} :
    (inserted history).getLocal? localPart = some value ↔
      ∃ name : QName, name.localPart = localPart ∧
        IsLeastNamespace history name ∧
        Attribute.lastValueWhere? history (·.same name) = some value := by
  rw [getLocal?, Option.map_eq_some_iff]
  constructor
  · rintro ⟨entry, found, rfl⟩
    obtain ⟨member, named, least⟩ := find?_entries_eq_some_iff.mp found
    have local_eq : entry.1.localPart = localPart := by simpa using named
    refine ⟨entry.1, local_eq, ?_, ((mem_entries_inserted history).mp
      member).2⟩
    intro each here sameLocal
    obtain ⟨other, said⟩ := Option.isSome_iff_exists.mp
      (Attribute.isSome_said?_iff.mpr ⟨each, here, each.name.same_self⟩)
    obtain ⟨otherMember, same⟩ := mem_of_said? history said
    have expanded := QName.same_iff.mp same
    have otherLocal : other.1.localPart = entry.1.localPart := by
      rw [expanded, sameLocal]
    have before := least other otherMember (by simp [otherLocal, local_eq])
    rw [QName.order_of_localPart_eq otherLocal.symm, expanded] at before
    exact before
  · rintro ⟨name, rfl, least, valued⟩
    have present : (Attribute.said? history name).isSome := by
      rw [← Option.isSome_map (f := Prod.snd), Attribute.said?_map_snd, valued]
      rfl
    obtain ⟨entry, said⟩ := Option.isSome_iff_exists.mp present
    obtain ⟨member, same⟩ := mem_of_said? history said
    have expanded := QName.same_iff.mp same
    refine ⟨entry, find?_entries_eq_some_iff.mpr ⟨member, ?_, ?_⟩, ?_⟩
    · simp [expanded]
    · intro other otherMember otherNamed
      obtain ⟨each, here, called⟩ :=
        exists_inserted_of_mem history otherMember
      have otherLocal : other.1.localPart = name.localPart := by
        simpa using otherNamed
      have otherExpanded := QName.same_iff.mp called
      rw [QName.order_of_localPart_eq (by rw [expanded, otherLocal]), expanded,
        ← otherExpanded]
      exact least each here (by rw [otherExpanded, otherLocal])
    · have values := Attribute.said?_map_snd history name
      rw [said, valued] at values
      exact Option.some.inj values

/-- What a map keeps of the attributes that have been inserted into it. -/
structure Keeps (history : List Attribute) (map : AttributeMap) : Prop where
  increasing : IsSorted map.entries
  different :
    map.names.Pairwise fun earlier later => earlier.same later = false
  /-- The names are those that have been inserted, each as it was first written,
  with the value that was inserted last. -/
  entries (name : QName) (value : String) :
    (name, value) ∈ map.entries ↔
      Attribute.firstSame? history name = some name ∧
        Attribute.lastValueWhere? history (·.same name) = some value
  /-- There are as many entries as different names have been inserted. -/
  size :
    map.size =
      (history.map fun each => each.name.toExpandedName).dedup.length
  /-- Under a local part the value of the name with the least namespace is
  found. -/
  found (localPart value : String) :
    map.getLocal? localPart = some value ↔
      ∃ name : QName, name.localPart = localPart ∧
        IsLeastNamespace history name ∧
        Attribute.lastValueWhere? history (·.same name) = some value

theorem keeps_inserted : Keeps history (inserted history) where
  increasing := (inserted history).sorted
  different := by
    rw [names, List.pairwise_map]
    exact (inserted history).sorted.imp same_eq_false_of_lt
  entries _ _ := mem_entries_inserted history
  size := by
    have length := (perm_names_inserted history).length_eq
    rw [names, List.length_map, List.length_map] at length
    exact length
  found _ _ := getLocal?_inserted_eq_some_iff history

/-- What a reference keeps of its attributes are those without a meaning of their
own, inserted one after another. -/
theorem otherAttributes_ofAttributes :
    (TokenReference.ofAttributes history).otherAttributes =
      inserted (history.filter fun each => TokenReference.IsOther each.name) := by
  induction history using List.reverseRecOn with
  | nil => rfl
  | append_singleton earlier added inductionHypothesis =>
      rw [TokenReference.ofAttributes_append,
        TokenReference.addAttribute_otherAttributes, inductionHypothesis,
        List.filter_append]
      by_cases other : TokenReference.IsOther added.name
      · rw [if_pos other, List.filter_singleton, decide_eq_true other,
          cond_true, inserted_append]
      · rw [if_neg other, List.filter_singleton, decide_eq_false other,
          cond_false, List.append_nil]

end Insertions

/-- Names are in a total order that no prefix influences and in which the same
names, and only these, are level.  Whatever attributes are inserted one after
another, the names of the map are strictly increasing, one for each different
name; each stands as it was first written with the value that was inserted last,
and under a local part the value with the least namespace is found.  One more
insertion answers with the value that it replaces, which there is exactly if the
name was there.  The order of insertions with different names makes no
difference.  The attributes of a reference are kept by such insertions. -/
theorem insertions_are_kept_in_order
    (history : List Attribute) (added : Attribute) :
    QName.IsNameOrder QName.order ∧
    Keeps history (inserted history) ∧
    (((inserted history).exchange added).2 = inserted (history ++ [added]) ∧
      ((inserted history).exchange added).1 =
        Attribute.lastValueWhere? history (·.same added.name) ∧
      (((inserted history).exchange added).1.isSome ↔
        ∃ each ∈ history, each.name.same added.name = true)) ∧
    ((history.Pairwise fun left right =>
        left.name.same right.name = false) →
      ∀ others : List Attribute, history.Perm others →
        inserted others = inserted history) ∧
    (TokenReference.ofAttributes history).otherAttributes =
      inserted (history.filter fun each =>
        TokenReference.IsOther each.name) := by
  have answered : ((inserted history).exchange added).1 =
      Attribute.lastValueWhere? history (·.same added.name) :=
    get?_inserted history added.name
  refine ⟨QName.isNameOrder_order, keeps_inserted history,
    ⟨(inserted_append history added).symm, answered, ?_⟩, ?_,
    otherAttributes_ofAttributes history⟩
  · rw [answered, Attribute.isSome_lastValueWhere?_same,
      ← Attribute.said?_map_fst, Option.isSome_map]
    exact Attribute.isSome_said?_iff
  · intro different others permuted
    exact inserted_eq_of_perm history permuted different

def kinds : List Attribute :=
  [⟨⟨⟨"urn:b", "Kind"⟩, "x"⟩, "one"⟩, ⟨⟨⟨"urn:a", "Kind"⟩, "y"⟩, "two"⟩]

def laterKind : Attribute :=
  ⟨⟨⟨"urn:b", "Kind"⟩, "z"⟩, "three"⟩

example :
    inserted (kinds ++ [laterKind]) =
      ⟨[(⟨⟨"urn:a", "Kind"⟩, "y"⟩, "two"),
        (⟨⟨"urn:b", "Kind"⟩, "x"⟩, "three")], by decide⟩ := by
  decide

theorem repeatedKind_is_kept_in_order :
    ((inserted kinds).exchange laterKind).1 = some "one" ∧
    (inserted (kinds ++ [laterKind])).getLocal? "Kind" = some "two" ∧
    inserted kinds.reverse = inserted kinds := by
  have earlier := insertions_are_kept_in_order kinds laterKind
  have all := insertions_are_kept_in_order (kinds ++ [laterKind]) laterKind
  have least : IsLeastNamespace (kinds ++ [laterKind])
      ⟨⟨"urn:a", "Kind"⟩, "y"⟩ := by
    decide
  refine ⟨?_, ?_, ?_⟩
  · rw [earlier.2.2.1.2.1]
    decide
  · exact (all.2.1.found "Kind" "two").mpr
      ⟨⟨⟨"urn:a", "Kind"⟩, "y"⟩, rfl, least, by decide⟩
  · exact earlier.2.2.2.1 (by decide) _ (List.reverse_perm kinds).symm

end AttributeMap

end WsTrust
