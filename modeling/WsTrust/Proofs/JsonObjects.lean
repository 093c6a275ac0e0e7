import Mathlib.Data.List.Forall2
import WsTrust.Json

/-!
# Objects whose fields have no order

Two values say the same if they are equal but for the order of the fields of
objects.  Objects whose fields are optional and have fixed names say the same
only if every field does.  A type is told by what its values are shown as if only
equal ones say the same.
-/

namespace WsTrust.Json

/-- Values that are equal but for the order of fields.  Of several fields with
one name the first one counts. -/
inductive Same : Json → Json → Prop
  | boolean (value : Bool) : Same (.boolean value) (.boolean value)
  | number (value : Nat) : Same (.number value) (.number value)
  | string (value : String) : Same (.string value) (.string value)
  | array {items others : List Json}
      (each : List.Forall₂ Same items others) :
      Same (.array items) (.array others)
  | object {fields others : List (String × Json)}
      (each : ∀ name,
        Option.Rel Same (fields.lookup name) (others.lookup name)) :
      Same (.object fields) (.object others)

namespace Same

mutual

theorem refl : (value : Json) → Same value value
  | .boolean value => .boolean value
  | .number value => .number value
  | .string value => .string value
  | .array items => .array (refl_items items)
  | .object fields => .object fun name => refl_lookup name fields

theorem refl_items : (items : List Json) → List.Forall₂ Same items items
  | [] => .nil
  | item :: rest => .cons (refl item) (refl_items rest)

theorem refl_lookup (name : String) :
    (fields : List (String × Json)) →
      Option.Rel Same (fields.lookup name) (fields.lookup name)
  | [] => .none
  | (present, value) :: rest => by
      rw [List.lookup_cons]
      split
      · exact .some (refl value)
      · exact refl_lookup name rest

end

/-! ## Values without fields -/

theorem boolean_inj
    {left right : Bool} (same : Same (.boolean left) (.boolean right)) :
    left = right := by
  cases same
  rfl

theorem number_inj
    {left right : Nat} (same : Same (.number left) (.number right)) :
    left = right := by
  cases same
  rfl

theorem string_inj
    {left right : String} (same : Same (.string left) (.string right)) :
    left = right := by
  cases same
  rfl

theorem items
    {left right : List Json} (same : Same (.array left) (.array right)) :
    List.Forall₂ Same left right := by
  cases same with
  | array each => exact each

theorem lookup
    {left right : List (String × Json)}
    (same : Same (.object left) (.object right)) (name : String) :
    Option.Rel Same (left.lookup name) (right.lookup name) := by
  cases same with
  | object each => exact each name

end Same

/-! ## Objects with fixed names -/

/-- The fields of an object that has some of these names, in this order. -/
def ofSlots : List String → List (Option Json) → List (String × Json)
  | name :: names, value :: values =>
      optional name value ++ ofSlots names values
  | _, _ => []

theorem lookup_optional_self (name : String) (value : Option Json) :
    (optional name value).lookup name = value := by
  cases value with
  | none => rfl
  | some value => simp [optional]

theorem lookup_optional_of_ne
    {name other : String} (different : name ≠ other) (value : Option Json) :
    (optional other value).lookup name = none := by
  cases value with
  | none => rfl
  | some value =>
      have unequal : (name == other) = false := beq_false_of_ne different
      rw [optional, List.lookup_cons, unequal]
      rfl

theorem lookup_ofSlots_of_notMem
    {name : String} {names : List String} (absent : name ∉ names)
    (values : List (Option Json)) :
    (ofSlots names values).lookup name = none := by
  induction names generalizing values with
  | nil => rfl
  | cons head tail inductionHypothesis =>
      rw [List.mem_cons, not_or] at absent
      obtain ⟨different, absentTail⟩ := absent
      cases values with
      | nil => rfl
      | cons value values =>
          rw [ofSlots, List.lookup_append, lookup_optional_of_ne different,
            inductionHypothesis absentTail]
          rfl

theorem lookup_ofSlots_self
    {name : String} {names : List String} (absent : name ∉ names)
    (value : Option Json) (values : List (Option Json)) :
    (ofSlots (name :: names) (value :: values)).lookup name = value := by
  rw [ofSlots, List.lookup_append, lookup_optional_self,
    lookup_ofSlots_of_notMem absent, Option.or_none]

theorem lookup_ofSlots_of_ne
    {name head : String} (different : name ≠ head) (names : List String)
    (value : Option Json) (values : List (Option Json)) :
    (ofSlots (head :: names) (value :: values)).lookup name =
      (ofSlots names values).lookup name := by
  rw [ofSlots, List.lookup_append, lookup_optional_of_ne different,
    Option.none_or]

/-- Two objects with the same optional fields say the same only if each field
says the same in both or is absent from both. -/
theorem Same.slots
    {names : List String} (distinct : names.Nodup)
    {left right : List (Option Json)}
    (leftLength : left.length = names.length)
    (rightLength : right.length = names.length)
    (same : Same (.object (ofSlots names left))
      (.object (ofSlots names right))) :
    List.Forall₂ (Option.Rel Same) left right := by
  induction names generalizing left right with
  | nil =>
      rw [List.length_eq_zero_iff.mp leftLength,
        List.length_eq_zero_iff.mp rightLength]
      exact .nil
  | cons head tail inductionHypothesis =>
      obtain ⟨fresh, distinctTail⟩ := List.nodup_cons.mp distinct
      obtain ⟨value, values, rfl⟩ :=
        List.exists_cons_of_length_eq_add_one leftLength
      obtain ⟨other, others, rfl⟩ :=
        List.exists_cons_of_length_eq_add_one rightLength
      have first : Option.Rel Same value other := by
        have found := same.lookup head
        rwa [lookup_ofSlots_self fresh, lookup_ofSlots_self fresh] at found
      have behind (name : String) :
          Option.Rel Same ((ofSlots tail values).lookup name)
            ((ofSlots tail others).lookup name) := by
        by_cases isHead : name = head
        · rw [isHead, lookup_ofSlots_of_notMem fresh,
            lookup_ofSlots_of_notMem fresh]
          exact .none
        · have found := same.lookup name
          rwa [lookup_ofSlots_of_ne isHead,
            lookup_ofSlots_of_ne isHead] at found
      have remaining :=
        inductionHypothesis distinctTail (Nat.succ.inj leftLength)
          (Nat.succ.inj rightLength) (.object behind)
      exact .cons first remaining

/-! ## Records -/

section Records

variable {Field : Type}

/-- The fields of an object that shows a record, in this order. -/
def ofRecord (order : List Field) (name : Field → String)
    (shown : Field → Option Json) : List (String × Json) :=
  ofSlots (order.map name) (order.map shown)

/-- Two objects that show records of one kind say the same only if they do so
field by field. -/
theorem Same.record
    {order : List Field} {name : Field → String}
    (distinct : (order.map name).Nodup) {left right : Field → Option Json}
    (same : Same (.object (ofRecord order name left))
      (.object (ofRecord order name right)))
    {field : Field} (member : field ∈ order) :
    Option.Rel Same (left field) (right field) := by
  have slots := Same.slots distinct (by simp) (by simp) same
  rw [List.forall₂_map_left_iff, List.forall₂_map_right_iff,
    List.forall₂_same] at slots
  exact slots field member

end Records

/-! ## Values that are told by what they are shown as -/

/-- Valid values that are shown as the same agree in what is kept of them. -/
def Reveals {Value Kept : Type} (valid : Value → Prop)
    (shown : Value → Json) (kept : Value → Kept) : Prop :=
  ∀ left right, valid left → valid right →
    Same (shown left) (shown right) → kept left = kept right

/-- All values are told by what they are shown as. -/
def Tells {Value : Type} (shown : Value → Json) : Prop :=
  ∀ left right, Same (shown left) (shown right) → left = right

section Reveals

variable {Value Kept : Type} {valid : Value → Prop} {shown : Value → Json}
  {kept : Value → Kept}

theorem Reveals.option
    (reveals : Reveals valid shown kept) {left right : Option Value}
    (leftValid : ∀ value, left = some value → valid value)
    (rightValid : ∀ value, right = some value → valid value)
    (same : Option.Rel Same (left.map shown) (right.map shown)) :
    left.map kept = right.map kept := by
  cases left with
  | none =>
      cases right with
      | none => rfl
      | some other => cases same
  | some value =>
      cases right with
      | none => cases same
      | some other =>
          have both : Same (shown value) (shown other) :=
            Option.rel_some_some.mp same
          exact congrArg some <|
            reveals value other (leftValid value rfl) (rightValid other rfl)
              both

theorem Reveals.list
    (reveals : Reveals valid shown kept) {left right : List Value}
    (leftValid : ∀ value ∈ left, valid value)
    (rightValid : ∀ value ∈ right, valid value)
    (same : List.Forall₂ Same (left.map shown) (right.map shown)) :
    left.map kept = right.map kept := by
  induction left generalizing right with
  | nil =>
      cases right with
      | nil => rfl
      | cons other others => cases same
  | cons value values inductionHypothesis =>
      cases right with
      | nil => cases same
      | cons other others =>
          obtain ⟨first, behind⟩ := List.forall₂_cons.mp same
          obtain ⟨valueValid, valuesValid⟩ := List.forall_mem_cons.mp leftValid
          obtain ⟨otherValid, othersValid⟩ :=
            List.forall_mem_cons.mp rightValid
          rw [List.map_cons, List.map_cons,
            reveals value other valueValid otherValid first,
            inductionHypothesis valuesValid othersValid behind]

theorem Tells.reveals (tells : Tells shown) :
    Reveals (fun _ => True) shown id :=
  fun left right _ _ same => tells left right same

theorem Tells.option
    (tells : Tells shown) {left right : Option Value}
    (same : Option.Rel Same (left.map shown) (right.map shown)) :
    left = right := by
  have kept := tells.reveals.option (fun _ _ => trivial) (fun _ _ => trivial)
    same
  rwa [Option.map_id, id, id] at kept

theorem Tells.list
    (tells : Tells shown) {left right : List Value}
    (same : List.Forall₂ Same (left.map shown) (right.map shown)) :
    left = right := by
  have kept := tells.reveals.list (fun _ _ => trivial) (fun _ _ => trivial)
    same
  rwa [List.map_id, List.map_id] at kept

end Reveals

theorem tells_string : Tells Json.string :=
  fun _ _ same => same.string_inj

theorem tells_number : Tells Json.number :=
  fun _ _ same => same.number_inj

end WsTrust.Json
