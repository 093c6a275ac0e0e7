import WsTrust.Proofs.RecordOpenings

/-!
# The contexts of the records of a document

A context is meant to be the value of the `Context` that a record's start tag is
written with.  This holds unless an attribute before it, with a prefix that is
bound to nothing, is taken for the context.
-/

namespace WsTrust

namespace Xml.Opening

/-- A record that begins here has this context: the written one unless an
attribute is taken for it whose prefix is empty or bound to nothing. -/
structure Gives (opening : Opening) (context : String) : Prop where
  unshadowed : opening.shadowing? = none → context = opening.writtenContext
  shadowed (key : List Char) (value : String) :
    opening.shadowing? = some (key, value) →
      context = value ∧
        ∃ unbound : List Char, key = unbound ++ ':' :: "Context".toList ∧
          (unbound = [] ∨ opening.read.scope.uriOf unbound = [])

/-- Nothing but the value that is written is taken for the context. -/
def IsFaithful (opening : Opening) : Prop :=
  ∀ key value, opening.shadowing? = some (key, value) →
    value = opening.writtenContext

instance (opening : Opening) : Decidable opening.IsFaithful :=
  match found : opening.shadowing? with
  | none => isTrue fun key value shadowed => by simp [found] at shadowed
  | some (key, value) =>
      decidable_of_iff (value = opening.writtenContext) (by
        constructor
        · intro same otherKey otherValue shadowed
          rw [found] at shadowed
          cases shadowed
          exact same
        · intro faithful
          exact faithful key value found)

variable {opening : Opening} {text context : String}

theorem gives_of_opens (opens : Opens context (opening.items text)) :
    opening.Gives context := by
  obtain ⟨tag, behind, begins, rfl⟩ := opens
  have read : opening.read.tag = .ok tag := tag_of_items begins
  have resolved := attributes_of_readStartTag read
  constructor
  case unshadowed =>
    intro clear
    exact contextOf_of_unshadowed resolved clear
  case shadowed =>
    intro key value shadowed
    refine ⟨contextOf_of_shadowed resolved shadowed, ?_⟩
    obtain ⟨found, differs⟩ := Option.filter_eq_some_iff.mp shadowed
    have taken := List.find?_some found
    rcases (opening.read.scope.isContext_iff key).mp taken with
      own | ⟨unbound, spelled, _, _, isUnbound⟩
    · exact absurd own (by simpa using differs)
    · exact ⟨unbound, spelled, isUnbound⟩

/-- The context that is given is the written one exactly where nothing else is
taken for it. -/
theorem Gives.eq_writtenContext_iff (given : opening.Gives context) :
    context = opening.writtenContext ↔ opening.IsFaithful := by
  cases found : opening.shadowing? with
  | none =>
      have faithful : opening.IsFaithful := by
        intro key value shadowed
        rw [found] at shadowed
        cases shadowed
      exact iff_of_true (given.unshadowed found) faithful
  | some entry =>
      obtain ⟨key, value⟩ := entry
      rw [(given.shadowed key value found).1]
      constructor
      · intro same otherKey otherValue shadowed
        rw [found] at shadowed
        cases shadowed
        exact same
      · intro faithful
        exact faithful key value found

end Xml.Opening

open Xml (Opening)

namespace Payload

/-- The records of a message that is read from a document begin with these
start tags of it. -/
structure BeginsAt
    (payload : Payload) (settings : Settings) (text : String)
    (openings : List Opening) : Prop where
  placed : ∀ opening ∈ openings, opening.IsIn text
  begin : RecordsBegin .standard settings.maxDepth
    (.ofXml settings.trimText text) payload
    (openings.map fun opening => opening.items text)

/-- Start tags among the items of a document stand in the document. -/
theorem exists_openings_of_opens
    {text : String} {contexts : List String} {beginnings : List (List Item)}
    (opens : List.Forall₂ Opens contexts beginnings)
    (suffixes : ∀ items ∈ beginnings, items <:+ Xml.documentItems text) :
    ∃ openings : List Opening,
      (∀ opening ∈ openings, opening.IsIn text) ∧
        openings.map (fun opening => opening.items text) = beginnings := by
  induction opens with
  | nil => exact ⟨[], by simp, rfl⟩
  | cons opens _ inductionHypothesis =>
      obtain ⟨suffix, otherSuffixes⟩ := List.forall_mem_cons.mp suffixes
      obtain ⟨tag, behind, rfl, _⟩ := opens
      obtain ⟨opening, placed, begins⟩ := Xml.exists_opening suffix
      obtain ⟨others, othersPlaced, rfl⟩ := inductionHypothesis otherSuffixes
      refine ⟨opening :: others, ?_, ?_⟩
      · exact List.forall_mem_cons.mpr ⟨placed, othersPlaced⟩
      · rw [List.map_cons, begins]

variable {settings : Settings} {text : String} {payload : Payload}

theorem exists_beginsAt
    (accepted : readXml .standard settings text = .ok payload) :
    ∃ openings, payload.BeginsAt settings text openings := by
  rw [readXml] at accepted
  split at accepted
  · rename_i found stop succeeded
    cases accepted
    obtain ⟨beginnings, begin⟩ := exists_recordsBegin succeeded
    have suffixes := begin.suffixes (Registry.standard_consumesOn _)
    obtain ⟨openings, placed, rfl⟩ :=
      exists_openings_of_opens begin.opens suffixes
    exact ⟨openings, placed, begin⟩
  · cases accepted

variable {openings : List Opening}

/-- Each start tag gives its context to the record that begins with it. -/
theorem BeginsAt.gives (begins : payload.BeginsAt settings text openings) :
    List.Forall₂ (fun context opening => opening.Gives context)
      payload.contexts openings := by
  have opens := begins.begin.opens
  rw [List.forall₂_map_right_iff] at opens
  exact opens.imp fun _ _ => Opening.gives_of_opens

/-- Contexts that are given are the written ones exactly if nothing else is
taken for any of them. -/
theorem eq_map_writtenContext_iff
    {contexts : List String}
    (given : List.Forall₂ (fun context opening => opening.Gives context)
      contexts openings) :
    contexts = openings.map (fun opening => opening.writtenContext) ↔
      ∀ opening ∈ openings, opening.IsFaithful := by
  induction given with
  | nil => simp
  | cons given _ inductionHypothesis =>
      rw [List.map_cons, List.cons.injEq, given.eq_writtenContext_iff,
        inductionHypothesis, List.forall_mem_cons]

/-- The records of an accepted document begin with start tags of it, and each
has the context that its start tag is written with unless an attribute is taken
for it whose local part is `Context` and whose prefix is empty or bound to
nothing.  All contexts are the written ones exactly if no such attribute has
another value. -/
theorem contexts_are_written_iff
    (accepted : readXml .standard settings text = .ok payload) :
    (∃ openings, payload.BeginsAt settings text openings) ∧
    ∀ openings, payload.BeginsAt settings text openings →
      List.Forall₂ (fun context opening => opening.Gives context)
        payload.contexts openings ∧
      (payload.contexts =
          openings.map (fun opening => opening.writtenContext) ↔
        ∀ opening ∈ openings, opening.IsFaithful) := by
  refine ⟨exists_beginsAt accepted, ?_⟩
  intro openings begins
  exact ⟨begins.gives, eq_map_writtenContext_iff begins.gives⟩

def prefixedContexts : String :=
  "<RequestSecurityTokenCollection xmlns:d='urn:d'>" ++
    "<RequestSecurityToken d:Context='other' Context='a&amp;b'/>" ++
    "<RequestSecurityToken Context='c' x:Context='late'/>" ++
    "</RequestSecurityTokenCollection>"

def prefixedRequests : Payload :=
  .requestCollection [{ context := "a&b" }, { context := "c" }]

theorem prefixedRequests_have_written_contexts :
    ∃ openings,
      prefixedRequests.BeginsAt .standard prefixedContexts openings ∧
        openings.map (fun opening => opening.writtenContext) =
          ["a&b", "c"] := by
  have accepted :
      readXml .standard .standard prefixedContexts = .ok prefixedRequests := by
    decide +kernel
  have faithful :
      ∀ opening ∈ Xml.openingsOf prefixedContexts, opening.IsFaithful := by
    decide +kernel
  obtain ⟨⟨openings, begins⟩, written⟩ := contexts_are_written_iff accepted
  have same := (written openings begins).2.mpr fun opening member =>
    faithful opening (begins.placed opening member).mem_openingsOf
  exact ⟨openings, begins, same.symm⟩

/-- A response with an attribute before its context whose prefix is bound to
nothing. -/
def forgedContext : String :=
  "<RequestSecurityTokenResponse x:Context='forged' Context='real'/>"

def forgedOpening : Opening where
  before := []
  content :=
    "RequestSecurityTokenResponse x:Context='forged' Context='real'".toList
  isEmpty := true
  later := []

/-- The context is taken from the attribute before it. -/
theorem forgedContext_is_not_the_written_one :
    readXml .standard .standard forgedContext =
        .ok (.response { context := "forged" }) ∧
      (Payload.response { context := "forged" }).BeginsAt .standard
        forgedContext [forgedOpening] ∧
      forgedOpening.writtenContext = "real" ∧
      forgedOpening.shadowing? = some ("x:Context".toList, "forged") ∧
      forgedOpening.read.scope.uriOf "x".toList = [] := by
  have accepted :
      readXml .standard .standard forgedContext =
        .ok (.response { context := "forged" }) := by
    decide +kernel
  have only :
      ∀ opening ∈ Xml.openingsOf forgedContext, opening = forgedOpening := by
    decide +kernel
  refine ⟨accepted, ?_, by decide +kernel, by decide +kernel,
    by decide +kernel⟩
  obtain ⟨openings, begins⟩ := exists_beginsAt accepted
  have one : openings.length = 1 := begins.gives.length_eq.symm
  obtain ⟨opening, rfl⟩ := List.length_eq_one_iff.mp one
  have placed := begins.placed opening (List.mem_singleton_self opening)
  rw [only opening placed.mem_openingsOf] at begins
  exact begins

end Payload

end WsTrust
