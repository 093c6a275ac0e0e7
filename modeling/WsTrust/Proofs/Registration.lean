import WsTrust.Extension.Readers
import WsTrust.Payload
import WsTrust.Proofs.Prepared
import WsTrust.Proofs.RecordFields

/-!
# Further registrations

An extension is asked about an element only if the table of the message does
not know it and no extension before it claims it.  Registering further
extensions therefore concerns only those messages that were refused because
nobody claimed one of their elements, and an extension that claims nothing but
elements of the table concerns no message at all.
-/

namespace WsTrust

namespace Registry

/-! ## Registries with further extensions -/

/-- The registry with further extensions after its own. -/
def followedBy (registry : Registry) (others : List Extension) : Registry :=
  ⟨registry.extensions ++ others⟩

/-- Registering extensions one after another appends them. -/
theorem foldl_register (registry : Registry) (others : List Extension) :
    others.foldl register registry = registry.followedBy others := by
  induction others generalizing registry with
  | nil => simp [followedBy]
  | cons extension rest inductionHypothesis =>
      rw [List.foldl_cons, inductionHypothesis]
      simp [followedBy, register]

/-- An extension that claims a name goes before those registered later. -/
theorem lookup?_followedBy
    (registry : Registry) (others : List Extension) (name : QName) :
    (registry.followedBy others).lookup? name =
      (registry.lookup? name).or ((⟨others⟩ : Registry).lookup? name) := by
  simp only [lookup?, followedBy, List.find?_append]

/-- An extension that does not claim a name has no part in what is found under
it. -/
theorem lookup?_insert_of_not_claims
    (before after : List Extension) {inserted : Extension} {name : QName}
    (unclaimed : ¬ inserted.claims name) :
    (⟨before ++ inserted :: after⟩ : Registry).lookup? name =
      (⟨before ++ after⟩ : Registry).lookup? name := by
  simp only [lookup?, List.find?_append, List.find?_cons]
  rw [Bool.not_eq_true] at unclaimed
  simp only [unclaimed]

end Registry

/-! ## Readings that an unclaimed element may end -/

namespace Cursor

variable {Result Other State : Type}

/-- The reading was refused because nobody claims one of the elements. -/
def IsUnclaimed
    (ended : EStateM.Result Failure TokenStream Result) : Prop :=
  ∃ name rest, ended = .error (.fault (.unclaimedExtension name)) rest

def isUnclaimed : EStateM.Result Failure TokenStream Result → Bool
  | .error (.fault (.unclaimedExtension _)) _ => true
  | _ => false

theorem isUnclaimed_iff (ended : EStateM.Result Failure TokenStream Result) :
    isUnclaimed ended = true ↔ IsUnclaimed ended := by
  constructor
  · intro decided
    unfold isUnclaimed at decided
    split at decided
    · exact ⟨_, _, rfl⟩
    · cases decided
  · rintro ⟨name, rest, rfl⟩
    rfl

instance (ended : EStateM.Result Failure TokenStream Result) :
    Decidable (IsUnclaimed ended) :=
  decidable_of_iff _ (isUnclaimed_iff ended)

/-- On every stream the second reader does what the first one does, unless that
one is refused because nobody claims an element. -/
def ExtendedBy (narrow wide : Cursor Result) : Prop :=
  ∀ stream, IsUnclaimed (narrow stream) ∨ wide stream = narrow stream

namespace ExtendedBy

theorem refl (reader : Cursor Result) : ExtendedBy reader reader :=
  fun _ => Or.inr rfl

theorem of_unclaimed (name : QName) (wide : Cursor Result) :
    ExtendedBy (refuse (.unclaimedExtension name)) wide :=
  fun stream => Or.inl ⟨name, stream, rfl⟩

theorem bind
    {narrow wide : Cursor Result} {narrowNext wideNext : Result → Cursor Other}
    (first : ExtendedBy narrow wide)
    (second : ∀ result, ExtendedBy (narrowNext result) (wideNext result)) :
    ExtendedBy (narrow >>= narrowNext) (wide >>= wideNext) := by
  intro stream
  rcases first stream with ⟨name, rest, unclaimed⟩ | same
  · exact Or.inl ⟨name, rest, bind_of_error unclaimed⟩
  · cases read : narrow stream with
    | ok result rest =>
        rw [bind_of_ok read, bind_of_ok (same.trans read)]
        exact second result rest
    | error failure rest =>
        right
        rw [bind_of_error read, bind_of_error (same.trans read)]

theorem map
    {narrow wide : Cursor Result} (extended : ExtendedBy narrow wide)
    (change : Result → Other) :
    ExtendedBy (change <$> narrow) (change <$> wide) := by
  rw [map_eq_bind, map_eq_bind]
  exact extended.bind fun result => refl (Pure.pure (change result))

/-- Turns that extend others are repeated alike, until a turn is refused. -/
theorem repeating
    {narrow wide : State → Cursor (Turn State Result)}
    (turns : ∀ state, ExtendedBy (narrow state) (wide state))
    (state : State) :
    ExtendedBy (Cursor.repeating narrow state)
      (Cursor.repeating wide state) := by
  intro stream
  induction bound : stream.size using Nat.strongRecOn
    generalizing state stream with
  | _ size inductionHypothesis =>
      subst bound
      rcases turns state stream with ⟨name, rest, unclaimed⟩ | same
      · exact Or.inl ⟨name, rest, repeating_of_error unclaimed⟩
      · rw [Cursor.repeating, Cursor.repeating, same]
        cases narrow state stream with
        | error failure rest => exact Or.inr rfl
        | ok turn rest =>
            cases turn with
            | done result => exact Or.inr rfl
            | again later =>
                dsimp only
                by_cases smaller : rest.size < stream.size
                · rw [if_pos smaller, if_pos smaller]
                  exact inductionHypothesis _ smaller later rest rfl
                · rw [if_neg smaller, if_neg smaller]
                  exact Or.inr rfl

end ExtendedBy

end Cursor

/-! ## Bodies -/

namespace BodyGrammar

variable {Record Child : Type} {grammar : BodyGrammar Record Child}
  {narrow wide : Registry} {maxDepth : Nat}

/-- The table goes before the extensions. -/
theorem readChild_congr
    (found : ∀ name : QName,
      grammar.children.lookup name.localPart = none →
        narrow.lookup? name = wide.lookup? name)
    (name : QName) :
    grammar.readChild narrow maxDepth name =
      grammar.readChild wide maxDepth name := by
  rw [readChild, readChild]
  cases inTable : grammar.children.lookup name.localPart with
  | some read => rfl
  | none => simp only [readExtension, found name inTable]

theorem readChild_extendedBy
    (found : ∀ name extension,
      narrow.lookup? name = some extension →
        wide.lookup? name = some extension)
    (name : QName) :
    Cursor.ExtendedBy (grammar.readChild narrow maxDepth name)
      (grammar.readChild wide maxDepth name) := by
  rw [readChild, readChild]
  cases grammar.children.lookup name.localPart with
  | some read => exact .refl _
  | none =>
      rw [readExtension]
      cases claimed : narrow.lookup? name with
      | none => exact .of_unclaimed name _
      | some extension =>
          rw [readExtension, found name extension claimed]
          exact .refl _

section Messages

variable
  (children : ∀ name,
    Cursor.ExtendedBy (grammar.readChild narrow maxDepth name)
      (grammar.readChild wide maxDepth name))

include children

theorem read_extendedBy :
    Cursor.ExtendedBy (grammar.read narrow maxDepth)
      (grammar.read wide maxDepth) := by
  refine (Cursor.ExtendedBy.refl _).bind fun tag => ?_
  refine Cursor.ExtendedBy.repeating (fun record => ?_) _
  refine (Cursor.ExtendedBy.refl _).bind fun boundary => ?_
  rcases boundary with _ | tag | name
  · exact .refl _
  · exact (children tag.name).bind fun child => .refl _
  · exact .refl _

theorem readCollection_extendedBy (elementName : String) :
    Cursor.ExtendedBy (grammar.readCollection narrow maxDepth elementName)
      (grammar.readCollection wide maxDepth elementName) := by
  refine (Cursor.ExtendedBy.refl _).bind fun tag => ?_
  refine Cursor.ExtendedBy.repeating (fun earlier => ?_) _
  refine (Cursor.ExtendedBy.refl _).bind fun boundary => ?_
  rcases boundary with _ | tag | name
  · exact .refl _
  · dsimp only
    split
    · exact (read_extendedBy children).bind fun record => .refl _
    · exact .refl _
  · exact .refl _

end Messages

/-- Registries that find the same outside the table read the same. -/
theorem read_congr
    (children : ∀ name,
      grammar.readChild narrow maxDepth name =
        grammar.readChild wide maxDepth name) :
    grammar.read narrow maxDepth = grammar.read wide maxDepth := by
  simp only [read, readRest, children]

theorem readCollection_congr
    (children : ∀ name,
      grammar.readChild narrow maxDepth name =
        grammar.readChild wide maxDepth name)
    (elementName : String) :
    grammar.readCollection narrow maxDepth elementName =
      grammar.readCollection wide maxDepth elementName := by
  simp only [readCollection, read_congr children]

end BodyGrammar

/-! ## Messages -/

namespace Payload

/-- The local names of the children that a record in a message of this kind
reads by its table. -/
def Kind.tableNames : Kind → List String
  | .request | .requestCollection => Request.grammar.children.map Prod.fst
  | .response | .responseCollection => Response.grammar.children.map Prod.fst

def kindAhead? (stream : TokenStream) : Option Kind :=
  match Cursor.peekStartTag stream with
  | .ok (some root) _ => Kind.ofRootName? root.localName
  | _ => none

theorem readKind_extendedBy
    {narrow wide : Registry}
    (found : ∀ name extension,
      narrow.lookup? name = some extension →
        wide.lookup? name = some extension)
    (maxDepth : Nat) (kind : Kind) :
    Cursor.ExtendedBy (readKind narrow maxDepth kind)
      (readKind wide maxDepth kind) := by
  have requests (name : QName) :
      Cursor.ExtendedBy (Request.grammar.readChild narrow maxDepth name)
        (Request.grammar.readChild wide maxDepth name) :=
    BodyGrammar.readChild_extendedBy found name
  have responses (name : QName) :
      Cursor.ExtendedBy (Response.grammar.readChild narrow maxDepth name)
        (Response.grammar.readChild wide maxDepth name) :=
    BodyGrammar.readChild_extendedBy found name
  cases kind with
  | request => exact (BodyGrammar.read_extendedBy requests).map _
  | response => exact (BodyGrammar.read_extendedBy responses).map _
  | requestCollection =>
      exact (BodyGrammar.readCollection_extendedBy requests _).map _
  | responseCollection =>
      exact (BodyGrammar.readCollection_extendedBy responses _).map _

theorem readKind_congr
    {narrow wide : Registry} {kind : Kind}
    (found : ∀ name : QName, name.localPart ∉ kind.tableNames →
      narrow.lookup? name = wide.lookup? name)
    (maxDepth : Nat) :
    readKind narrow maxDepth kind = readKind wide maxDepth kind := by
  have outside
      {Record Child : Type} {grammar : BodyGrammar Record Child}
      (table : grammar.children.map Prod.fst = kind.tableNames)
      (name : QName) :
      grammar.readChild narrow maxDepth name =
        grammar.readChild wide maxDepth name := by
    refine BodyGrammar.readChild_congr (fun name absent => ?_) name
    rw [lookup_eq_none_iff_notMem_keys, table] at absent
    exact found name absent
  cases kind with
  | request => simp only [readKind, BodyGrammar.read_congr (outside rfl)]
  | response => simp only [readKind, BodyGrammar.read_congr (outside rfl)]
  | requestCollection =>
      simp only [readKind, BodyGrammar.readCollection_congr (outside rfl)]
  | responseCollection =>
      simp only [readKind, BodyGrammar.readCollection_congr (outside rfl)]

theorem read_extendedBy
    {narrow wide : Registry}
    (found : ∀ name extension,
      narrow.lookup? name = some extension →
        wide.lookup? name = some extension)
    (maxDepth : Nat) :
    Cursor.ExtendedBy (read narrow maxDepth) (read wide maxDepth) := by
  refine (Cursor.ExtendedBy.refl _).bind fun root => ?_
  rcases root with _ | root
  · exact .refl _
  · dsimp only
    cases Kind.ofRootName? root.localName with
    | none => exact .refl _
    | some kind => exact readKind_extendedBy found maxDepth kind

theorem read_congr
    {narrow wide : Registry} {stream : TokenStream}
    (found : ∀ kind, kindAhead? stream = some kind →
      ∀ name : QName, name.localPart ∉ kind.tableNames →
        narrow.lookup? name = wide.lookup? name)
    (maxDepth : Nat) :
    read narrow maxDepth stream = read wide maxDepth stream := by
  rw [read, read]
  rw [kindAhead?] at found
  cases ahead : Cursor.peekStartTag stream with
  | error failure rest =>
      rw [Cursor.bind_of_error ahead, Cursor.bind_of_error ahead]
  | ok root rest =>
      rw [Cursor.bind_of_ok ahead, Cursor.bind_of_ok ahead]
      rw [ahead] at found
      rcases root with _ | root
      · rfl
      · dsimp only at found ⊢
        cases known : Kind.ofRootName? root.localName with
        | none => rfl
        | some kind =>
            dsimp only
            rw [readKind_congr (found kind known) maxDepth]

/-- Extensions that are registered after others change no message but those
that were refused because nobody claims one of their elements, and an extension
that claims only elements of the table, registered before others, after them or
between them, changes no message at all, whatever it would read. -/
theorem registration_changes_no_settled_reading (maxDepth : Nat) :
    (∀ (registry : Registry) (others : List Extension)
        (stream : TokenStream),
      ¬ Cursor.IsUnclaimed (read registry maxDepth stream) →
        read (registry.followedBy others) maxDepth stream =
            read registry maxDepth stream ∧
          read (others.foldl Registry.register registry) maxDepth stream =
            read registry maxDepth stream) ∧
      ∀ (before after : List Extension) (inserted : Extension)
        (stream : TokenStream),
        (∀ kind, kindAhead? stream = some kind →
          ∀ name, inserted.claims name →
            name.localPart ∈ kind.tableNames) →
          read ⟨before ++ inserted :: after⟩ maxDepth stream =
            read ⟨before ++ after⟩ maxDepth stream := by
  constructor
  · intro registry others stream settled
    have found (name : QName) (extension : Extension)
        (claimed : registry.lookup? name = some extension) :
        (registry.followedBy others).lookup? name = some extension := by
      rw [Registry.lookup?_followedBy, claimed, Option.some_or]
    have same :=
      (read_extendedBy found maxDepth stream).resolve_left settled
    rw [Registry.foldl_register]
    exact ⟨same, same⟩
  · intro before after inserted stream sheltered
    refine read_congr (fun kind ahead name outside => ?_) maxDepth
    refine Registry.lookup?_insert_of_not_claims before after fun claimed => ?_
    exact outside (sheltered kind ahead name claimed)

def keyRequest : List Token :=
  [.startTag ⟨.ofLocal "RequestSecurityToken", []⟩,
    .startTag ⟨.ofLocal "KeyType", []⟩, .text "urn:key",
    .endTag (.ofLocal "KeyType"),
    .startTag ⟨.ofParts Vocabulary.policy "AppliesTo", []⟩,
    .endTag (.ofParts Vocabulary.policy "AppliesTo"),
    .endTag (.ofLocal "RequestSecurityToken")]

/-- An extension that claims everything in the policy namespace and leaves it
half read is registered too late to be asked about the relying party, and one
that claims types of keys is never asked. -/
theorem keyRequest_is_read_without_further_extensions :
    let stream := TokenStream.ofTokens keyRequest
    let policies : Extension :=
      ⟨Claim.inNamespace Vocabulary.policy, ExtensionValue.readStartTag⟩
    let keyTypes : Extension :=
      ⟨Claim.localName "KeyType", ExtensionValue.readStartTag⟩
    ¬ Cursor.IsUnclaimed (read .standard 1 stream) ∧
      (read (Registry.standard.followedBy [policies]) 1 stream =
          read .standard 1 stream ∧
        read ([policies].foldl Registry.register .standard) 1 stream =
          read .standard 1 stream) ∧
      (∀ kind, kindAhead? stream = some kind →
        ∀ name, keyTypes.claims name → name.localPart ∈ kind.tableNames) ∧
      read ⟨[] ++ keyTypes :: Registry.standard.extensions⟩ 1 stream =
        read ⟨[] ++ Registry.standard.extensions⟩ 1 stream := by
  intro stream policies keyTypes
  have settled : ¬ Cursor.IsUnclaimed (read .standard 1 stream) := by
    decide +kernel
  have sheltered (kind : Kind) (_ : kindAhead? stream = some kind)
      (name : QName) (claimed : keyTypes.claims name) :
      name.localPart ∈ kind.tableNames := by
    have named : name.localPart = "KeyType" := eq_of_beq claimed
    rw [named]
    cases kind <;> decide
  obtain ⟨appended, inserted⟩ := registration_changes_no_settled_reading 1
  exact ⟨settled, appended .standard [policies] stream settled, sheltered,
    inserted [] Registry.standard.extensions keyTypes stream sheltered⟩

end Payload

end WsTrust
