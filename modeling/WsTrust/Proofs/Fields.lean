import WsTrust.Proofs.Body

/-!
# Fields of a record

A record is made up of fields, and what a child says goes into one of them.  A
record is therefore determined by what the last child for each field said, and
children for different fields may change places.
-/

namespace WsTrust.BodyGrammar

variable {Record Child : Type}

/-- The fields of the record that a grammar reads, with the field that each
child belongs to. -/
structure Fields (grammar : BodyGrammar Record Child) where
  Field : Type
  decideEq : DecidableEq Field
  /-- The values that a field can have. -/
  Value : Field → Type
  get : Record → (field : Field) → Value field
  /-- The field that a child sets. -/
  target : Child → Field
  /-- The value that a child sets it to. -/
  meaning : (child : Child) → Value (target child)
  /-- The field that the children with a local name belong to. -/
  named : String → Field
  get_add_target : ∀ record child,
    get (grammar.add record child) (target child) = meaning child
  get_add_other : ∀ record child field, field ≠ target child →
    get (grammar.add record child) field = get record field
  ext : ∀ left right, (∀ field, get left field = get right field) →
    left = right
  target_of_read : ∀ {localPart read},
    grammar.children.lookup localPart = some read →
      ∀ {maxDepth stream child rest},
        read maxDepth stream = .ok child rest → target child = named localPart
  target_appliesTo : ∀ {localPart}, grammar.children.lookup localPart = none →
    ∀ party, target (grammar.appliesTo party) = named localPart

namespace Fields

variable {grammar : BodyGrammar Record Child} (fields : grammar.Fields)

instance : DecidableEq fields.Field := fields.decideEq

/-- What is said about one field, in order. -/
def about (field : fields.Field) (children : List (Option Child)) :
    List Child :=
  (children.filterMap id).filter fun child => fields.target child = field

theorem get_addOptional_other
    (record : Record) (child : Option Child) (field : fields.Field)
    (different : ∀ stated, child = some stated →
      fields.target stated ≠ field) :
    fields.get (grammar.addOptional record child) field =
      fields.get record field := by
  cases child with
  | none => rfl
  | some stated =>
      exact fields.get_add_other record stated field
        (different stated rfl).symm

/-- A child belongs to the field that its name is the name for. -/
theorem target_of_readChild
    {registry : Registry} {maxDepth : Nat} {name : QName}
    {stream rest : TokenStream} {child : Child}
    (read : grammar.readChild registry maxDepth name stream =
      .ok (some child) rest) :
    fields.target child = fields.named name.localPart := by
  rw [readChild] at read
  cases found : grammar.children.lookup name.localPart with
  | some reader =>
      rw [found] at read
      obtain ⟨stated, succeeded, equality⟩ := Cursor.map_eq_ok_iff.mp read
      cases equality
      exact fields.target_of_read found succeeded
  | none =>
      rw [found, readExtension] at read
      cases claimed : registry.lookup? name with
      | none =>
          rw [claimed] at read
          cases read
      | some extension =>
          rw [claimed] at read
          obtain ⟨value, middle, _, concluded⟩ :=
            Cursor.bind_eq_ok_iff.mp read
          cases value with
          | appliesTo party =>
              cases concluded
              exact fields.target_appliesTo found party
          | fragment content => cases concluded
          | empty => cases concluded

/-- Children that set other fields leave a field as it is. -/
theorem get_addAll_other
    (record : Record) (children : List (Option Child))
    (field : fields.Field)
    (different : ∀ stated, some stated ∈ children →
      fields.target stated ≠ field) :
    fields.get (grammar.addAll record children) field =
      fields.get record field := by
  induction children generalizing record with
  | nil => rfl
  | cons head tail inductionHypothesis =>
      rw [addAll_cons, inductionHypothesis _ fun stated member =>
        different stated (List.mem_cons_of_mem head member)]
      exact fields.get_addOptional_other record head field
        fun stated equality =>
          different stated (equality ▸ List.mem_cons_self)

theorem addAll_append
    (record : Record) (left right : List (Option Child)) :
    grammar.addAll record (left ++ right) =
      grammar.addAll (grammar.addAll record left) right :=
  List.foldl_append

/-- The last child for a field decides its value. -/
theorem get_addAll_last
    (record : Record) (before after : List (Option Child)) (child : Child)
    (last : ∀ later, some later ∈ after →
      fields.target later ≠ fields.target child) :
    fields.get (grammar.addAll record (before ++ some child :: after))
        (fields.target child) =
      fields.meaning child := by
  rw [addAll_append, addAll_cons,
    fields.get_addAll_other _ after _ last]
  exact fields.get_add_target _ child

/-- A field has the value that it would have if only the children for it had
been read. -/
theorem get_addAll_about
    (record : Record) (children : List (Option Child))
    (field : fields.Field) :
    fields.get (grammar.addAll record children) field =
      fields.get
        (grammar.addAll record ((fields.about field children).map some))
        field := by
  have general :
      ∀ left right, fields.get left field = fields.get right field →
        fields.get (grammar.addAll left children) field =
          fields.get
            (grammar.addAll right ((fields.about field children).map some))
            field := by
    induction children with
    | nil =>
        intro left right agree
        exact agree
    | cons head tail inductionHypothesis =>
        intro left right agree
        cases head with
        | none => exact inductionHypothesis left right agree
        | some child =>
            by_cases targeted : fields.target child = field
            · have about :
                  fields.about field (some child :: tail) =
                    child :: fields.about field tail := by
                simp [Fields.about, targeted]
              rw [about, List.map_cons, addAll_cons, addAll_cons]
              apply inductionHypothesis
              subst targeted
              exact (fields.get_add_target left child).trans
                (fields.get_add_target right child).symm
            · have about :
                  fields.about field (some child :: tail) =
                    fields.about field tail := by
                simp [Fields.about, targeted]
              rw [about, addAll_cons]
              apply inductionHypothesis
              rw [← agree]
              exact fields.get_add_other left child field (Ne.symm targeted)
  exact general record record rfl

/-- Children that say the same about each field, in the same order, give the
same record, however the fields are mixed. -/
theorem addAll_eq_of_about_eq
    (record : Record) {left right : List (Option Child)}
    (agree : ∀ field, fields.about field left = fields.about field right) :
    grammar.addAll record left = grammar.addAll record right := by
  apply fields.ext
  intro field
  rw [fields.get_addAll_about, fields.get_addAll_about record right,
    agree field]

def Separate (left right : Option Child) : Prop :=
  ∀ first second, left = some first → right = some second →
    fields.target first ≠ fields.target second

theorem Separate.symm
    {fields : grammar.Fields} {left right : Option Child}
    (separate : fields.Separate left right) :
    fields.Separate right left :=
  fun first second atLeft atRight =>
    (separate second first atRight atLeft).symm

/-- Children that all set different fields may be read in any order. -/
theorem addAll_eq_of_perm
    {left right : List (Option Child)}
    (permutation : left.Perm right)
    (separate : left.Pairwise fields.Separate) (record : Record) :
    grammar.addAll record left = grammar.addAll record right := by
  induction permutation generalizing record with
  | nil => rfl
  | cons head _ inductionHypothesis =>
      exact inductionHypothesis (List.pairwise_cons.mp separate).2 _
  | swap second first rest =>
      apply fields.addAll_eq_of_about_eq
      intro field
      have apart : fields.Separate first second :=
        (List.pairwise_cons.mp separate).1 second List.mem_cons_self
      cases first with
      | none => rfl
      | some firstChild =>
          cases second with
          | none => rfl
          | some secondChild =>
              have different := apart firstChild secondChild rfl rfl
              by_cases targeted : fields.target firstChild = field
              · have other : fields.target secondChild ≠ field :=
                  fun equality => different (targeted.trans equality.symm)
                simp [about, targeted, other]
              · simp [about, List.filter_cons, targeted]
  | trans first _ firstHypothesis secondHypothesis =>
      have middle := (first.pairwise_iff Separate.symm).mp separate
      exact (firstHypothesis separate record).trans
        (secondHypothesis middle record)

def IsTrueOf (record : Record) (child : Child) : Prop :=
  fields.get record (fields.target child) = fields.meaning child

/-- A field that agrees with a record keeps doing so under children that are
true of the record. -/
theorem get_addAll_of_true
    {record current : Record} {children : List Child} {field : fields.Field}
    (sound : ∀ child ∈ children, fields.IsTrueOf record child)
    (agree : fields.get current field = fields.get record field) :
    fields.get (grammar.addAll current (children.map some)) field =
      fields.get record field := by
  induction children generalizing current with
  | nil => exact agree
  | cons head tail inductionHypothesis =>
      rw [List.map_cons, addAll_cons]
      apply inductionHypothesis fun child member =>
        sound child (List.mem_cons_of_mem head member)
      by_cases targeted : fields.target head = field
      · subst targeted
        exact (fields.get_add_target current head).trans
          (sound head List.mem_cons_self).symm
      · rw [← agree]
        exact fields.get_add_other current head field (Ne.symm targeted)

/-- Children that are true of a record, and that are enough to tell its fields
from those of the initial record, build it up in any order. -/
theorem addAll_eq_of_true
    {initial record : Record} {children : List Child}
    (sound : ∀ child ∈ children, fields.IsTrueOf record child)
    (complete : ∀ field,
      (∃ child ∈ children, fields.target child = field) ∨
        fields.get initial field = fields.get record field) :
    grammar.addAll initial (children.map some) = record := by
  apply fields.ext
  intro field
  rcases complete field with ⟨child, member, rfl⟩ | agree
  · obtain ⟨before, after, rfl⟩ := List.append_of_mem member
    rw [List.map_append, List.map_cons, addAll_append, addAll_cons]
    apply fields.get_addAll_of_true fun each inAfter =>
      sound each (List.mem_append_right before
        (List.mem_cons_of_mem child inAfter))
    exact (fields.get_add_target _ child).trans (sound child member).symm
  · exact fields.get_addAll_of_true sound agree

end Fields

end WsTrust.BodyGrammar
