import WsTrust.Proofs.Lockstep
import WsTrust.Proofs.Registration

/-!
# Children that requests and responses share

The two grammars read the children that they share by the same readers.  Put
inside a request and inside a response, the same content is therefore read as
the same terms, or refused for the same reason, unless one of the two is refused
for an element that only the other knows.
-/

namespace WsTrust

open Payload (Kind)

namespace Likeness

/-! ## Runs that may part -/

/-- Both runs end alike, or one of them fails in a way that is excused. -/
inductive EndsUnless (like : Likeness) {Left Right : Type}
    (related : Left → Right → Prop) (leftExcuse rightExcuse : Failure → Prop) :
    EStateM.Result Failure TokenStream Left →
      EStateM.Result Failure TokenStream Right → Prop
  | alike {left : EStateM.Result Failure TokenStream Left}
      {right : EStateM.Result Failure TokenStream Right}
      (ended : like.Ends related left right) :
      EndsUnless like related leftExcuse rightExcuse left right
  | left {failure : Failure} {stream : TokenStream}
      {right : EStateM.Result Failure TokenStream Right}
      (excused : leftExcuse failure) :
      EndsUnless like related leftExcuse rightExcuse (.error failure stream)
        right
  | right {failure : Failure} {stream : TokenStream}
      {left : EStateM.Result Failure TokenStream Left}
      (excused : rightExcuse failure) :
      EndsUnless like related leftExcuse rightExcuse left
        (.error failure stream)

/-- On streams that are alike the two readers end alike, unless one of them
fails in a way that is excused. -/
def RunsUnless (like : Likeness) {Left Right : Type}
    (related : Left → Right → Prop) (leftExcuse rightExcuse : Failure → Prop)
    (left : Cursor Left) (right : Cursor Right) : Prop :=
  ∀ ⦃stream other : TokenStream⦄, like.Streams stream other →
    like.EndsUnless related leftExcuse rightExcuse (left stream)
      (right other)

namespace RunsUnless

variable {like : Likeness} {leftExcuse rightExcuse : Failure → Prop}
  {Left Right : Type} {related : Left → Right → Prop}

theorem of_runsAlike
    {left : Cursor Left} {right : Cursor Right}
    (alike : like.RunsAlike related left right) :
    like.RunsUnless related leftExcuse rightExcuse left right :=
  fun _ _ streams => .alike (alike streams)

theorem bind
    {LeftNext RightNext : Type} {relatedNext : LeftNext → RightNext → Prop}
    {left : Cursor Left} {right : Cursor Right}
    {leftNext : Left → Cursor LeftNext}
    {rightNext : Right → Cursor RightNext}
    (first : like.RunsUnless related leftExcuse rightExcuse left right)
    (second : ∀ leftResult rightResult, related leftResult rightResult →
      like.RunsUnless relatedNext leftExcuse rightExcuse
        (leftNext leftResult) (rightNext rightResult)) :
    like.RunsUnless relatedNext leftExcuse rightExcuse (left >>= leftNext)
      (right >>= rightNext) := by
  intro stream other streams
  have ended := first streams
  generalize leftRead : left stream = leftEnd,
    rightRead : right other = rightEnd at ended
  cases ended with
  | left excused =>
      rw [Cursor.bind_of_error leftRead]
      exact .left excused
  | right excused =>
      rw [Cursor.bind_of_error rightRead]
      exact .right excused
  | alike ended =>
      cases ended with
      | ok results stops =>
          rw [Cursor.bind_of_ok leftRead, Cursor.bind_of_ok rightRead]
          exact second _ _ results stops
      | error failures stops =>
          rw [Cursor.bind_of_error leftRead, Cursor.bind_of_error rightRead]
          exact .alike (.error failures stops)

/-- Both runs take the same turns, until one of them is excused. -/
theorem repeating
    {LeftState RightState : Type} {states : LeftState → RightState → Prop}
    {leftTurn : LeftState → Cursor (Turn LeftState Left)}
    {rightTurn : RightState → Cursor (Turn RightState Right)}
    {left : LeftState} {right : RightState} (start : states left right)
    (turns : ∀ left right, states left right →
      like.RunsUnless (Cursor.Turn.Corresponds states related) leftExcuse
        rightExcuse (leftTurn left) (rightTurn right)) :
    like.RunsUnless related leftExcuse rightExcuse
      (Cursor.repeating leftTurn left)
      (Cursor.repeating rightTurn right) := by
  intro stream other streams
  induction bound : stream.size using Nat.strongRecOn
    generalizing left right stream other with
  | _ size inductionHypothesis =>
      subst bound
      have ended := turns left right start streams
      generalize leftRead : leftTurn left stream = leftEnd,
        rightRead : rightTurn right other = rightEnd at ended
      cases ended with
      | left excused =>
          rw [Cursor.repeating_of_error leftRead]
          exact .left excused
      | right excused =>
          rw [Cursor.repeating_of_error rightRead]
          exact .right excused
      | alike ended =>
          rw [Cursor.repeating, Cursor.repeating, leftRead, rightRead]
          cases ended with
          | error failures stops => exact .alike (.error failures stops)
          | @ok _ _ leftStop rightStop decided stops =>
              cases decided with
              | done results => exact .alike (.ok results stops)
              | again later =>
                  dsimp only
                  rw [← stops.size_eq, ← streams.size_eq]
                  split
                  case isTrue smaller =>
                    exact inductionHypothesis _ smaller later stops rfl
                  case isFalse =>
                    exact .alike (.error (like.failure_refl (by simp)) stops)

end RunsUnless

end Likeness

/-! ## Roots that differ in name -/

/-- The same failure, up to the name of the root where it is quoted. -/
inductive Failure.SameUpToRoot : Failure → Failure → Prop
  | same (failure : Failure) : SameUpToRoot failure failure
  | unexpectedTag (expected : String) :
      SameUpToRoot (.fault (.unexpectedTag expected Kind.request.rootName))
        (.fault (.unexpectedTag expected Kind.response.rootName))
  | unexpectedClose :
      SameUpToRoot (.fault (.unexpectedClose Kind.request.rootName))
        (.fault (.unexpectedClose Kind.response.rootName))

def Payload.IsSingleRoot (localPart : String) : Prop :=
  localPart = Kind.request.rootName ∨ localPart = Kind.response.rootName

/-- End tags that are equal, or close a request and a response. -/
inductive QName.SameUpToRoot : QName → QName → Prop
  | same (name : QName) (inner : ¬ Payload.IsSingleRoot name.localPart) :
      SameUpToRoot name name
  | roots {left right : QName}
      (request : left.localPart = Kind.request.rootName)
      (response : right.localPart = Kind.response.rootName) :
      SameUpToRoot left right

/-- Nothing but the end tag of the root may differ, and elements have allowed
names. -/
def Likeness.roots (allowed : String → Prop) : Likeness where
  name := QName.SameUpToRoot
  tag left right := left = right ∧ allowed left.localName
  node := Eq
  attributes := Eq
  failure := Failure.SameUpToRoot
  localName_eq tags := by rw [tags.1]
  attribute?_eq tags _ := by rw [tags.1]
  references {left right} tags := by
    rw [tags.1]
    exact ⟨rfl, rfl, rfl, List.forall₂_same.mpr fun _ _ => rfl⟩
  closes names localPart inner := by
    cases names with
    | same => exact Iff.rfl
    | roots request response =>
        rw [request, response]
        refine ⟨fun equal => absurd ?_ inner, fun equal => absurd ?_ inner⟩
        · rw [← equal]
          decide
        · rw [← equal]
          decide
  text _ := rfl
  element {left right} tags children others nodes := by
    rw [List.forall₂_eq_eq_eq] at nodes
    rw [tags.1, nodes]
  failure_refl _ := .same _
  unexpectedTag expected {_ _} names := by
    cases names with
    | same => exact .same _
    | roots request response =>
        rw [request, response]
        exact .unexpectedTag expected
  unexpectedClose names := by
    cases names with
    | same => exact .same _
    | roots request response =>
        rw [request, response]
        exact .unexpectedClose

/-! ## Children -/

/-- A failure that refuses an element which the table of a message of this kind
knows. -/
def Failure.RefusesChildOf (kind : Kind) (failure : Failure) : Prop :=
  ∃ name, failure = .fault (.unclaimedExtension name) ∧
    name.localPart ∈ kind.tableNames

/-- A failure that refuses an element with an allowed name which the table of a
message of this kind knows and that of the other kind does not. -/
def Failure.RefusesChildOnlyOf
    (allowed : String → Prop) (kind other : Kind) (failure : Failure) :
    Prop :=
  ∃ name, failure = .fault (.unclaimedExtension name) ∧
    allowed name.localPart ∧ name.localPart ∈ kind.tableNames ∧
      name.localPart ∉ other.tableNames

/-- The readers of terms stand before the other rows of a table. -/
theorem Term.lookup_readersAs_append
    {Child : Type} (ofTerm : Term → Child)
    (others : List (String × (Nat → Cursor Child))) {localPart : String}
    {read : Nat → Cursor Term}
    (found : readers.lookup localPart = some read) :
    (readersAs ofTerm ++ others).lookup localPart =
      some fun maxDepth => ofTerm <$> read maxDepth := by
  have row : (readersAs ofTerm).lookup localPart =
      (readers.lookup localPart).map fun read maxDepth =>
        ofTerm <$> read maxDepth := by
    rw [readersAs]
    exact lookup_map_value (fun read maxDepth => ofTerm <$> read maxDepth)
      readers localPart
  rw [List.lookup_append, row, found]
  rfl

/-- Both tables know the terms and nothing else. -/
theorem Term.mem_readers_of_mem_tableNames :
    ∀ localPart ∈ Kind.request.tableNames,
      localPart ∈ Kind.response.tableNames →
        localPart ∈ readers.map Prod.fst := by
  decide

/-- A plain registry claims no element that one of the tables knows. -/
theorem Registry.IsPlain.lookup?_of_tableNames
    {registry : Registry} (plain : registry.IsPlain) {kind : Kind}
    {name : QName} (known : name.localPart ∈ kind.tableNames) :
    registry.lookup? name = none := by
  have notParty : "AppliesTo" ∉ kind.tableNames := by
    cases kind <;> decide
  rcases plain with rfl | rfl
  · rfl
  · refine List.find?_eq_none.mpr fun extension member claimed => ?_
    rw [List.mem_singleton.mp member] at claimed
    have named := (Bool.and_eq_true_iff.mp claimed).2
    rw [eq_of_beq named] at known
    exact notParty known

namespace Likeness

variable {allowed : String → Prop} {registry : Registry} {maxDepth : Nat}

/-- A request and a response that state matching terms. -/
def StateAlike (comparison : Comparison)
    (request : Request) (response : Response) : Prop :=
  request.toTerms.Matches comparison response.toTerms

inductive ChildrenAlike (comparison : Comparison) :
    RequestChild → ResponseChild → Prop
  | term {left right : Term} (stated : left.Matches comparison right) :
      ChildrenAlike comparison (.term left) (.term right)

theorem readExtension_runsAlike
    (plain : registry.IsPlain) (name : QName) :
    (roots allowed).RunsAlike
      (Option.Rel (ChildrenAlike (roots allowed).comparison))
      (Request.grammar.readExtension registry name)
      (Response.grammar.readExtension registry name) := by
  have extensions :=
    (roots allowed).correspondence.plainExtensions plain
      fun left right tags => by rw [tags.1]
  rw [BodyGrammar.readExtension, BodyGrammar.readExtension]
  cases claimed : registry.lookup? name with
  | none =>
      exact fun _ _ streams =>
        .error (Failure.SameUpToRoot.same _) streams
  | some extension =>
      have registered : extension ∈ registry.extensions :=
        List.mem_of_find?_eq_some claimed
      have reads := (extensions extension registered).reads
      refine reads.runsAlike.bind fun value other values => ?_
      cases values with
      | appliesTo parties =>
          exact fun _ _ streams =>
            .ok (.some (.term (.appliesTo parties))) streams
      | fragment => exact fun _ _ streams => .ok .none streams
      | empty => exact fun _ _ streams => .ok .none streams

/-- The same child is read alike under both grammars, unless only one of them
knows it and the other refuses it. -/
theorem readChild_runsUnless
    (plain : registry.IsPlain) {name : QName}
    (admitted : allowed name.localPart) :
    (roots allowed).RunsUnless
      (Option.Rel (ChildrenAlike (roots allowed).comparison))
      (Failure.RefusesChildOnlyOf allowed .response .request)
      (Failure.RefusesChildOnlyOf allowed .request .response)
      (Request.grammar.readChild registry maxDepth name)
      (Response.grammar.readChild registry maxDepth name) := by
  have refused
      {Record Child : Type} {grammar : BodyGrammar Record Child}
      {kind : Kind} (known : name.localPart ∈ kind.tableNames)
      (stream : TokenStream) :
      grammar.readExtension registry name stream =
        .error (.fault (.unclaimedExtension name)) stream := by
    rw [BodyGrammar.readExtension, plain.lookup?_of_tableNames known]
    rfl
  rw [BodyGrammar.readChild, BodyGrammar.readChild]
  cases shared : Term.readers.lookup name.localPart with
  | some read =>
      have request :
          Request.grammar.children.lookup name.localPart =
            some fun maxDepth => RequestChild.term <$> read maxDepth :=
        Term.lookup_readersAs_append RequestChild.term _ shared
      have response :
          Response.grammar.children.lookup name.localPart =
            some fun maxDepth => ResponseChild.term <$> read maxDepth :=
        Term.lookup_readersAs_append ResponseChild.term _ shared
      rw [request, response]
      have terms :=
        (roots allowed).correspondence.terms maxDepth _
          (mem_of_lookup_eq_some shared)
      have children :
          (roots allowed).Lockstep
            (ChildrenAlike (roots allowed).comparison)
            (RequestChild.term <$> read maxDepth)
            (ResponseChild.term <$> read maxDepth) :=
        terms.map fun _ _ stated => ChildrenAlike.term stated
      exact .of_runsAlike
        (children.map fun _ _ alike => Option.Rel.some alike).runsAlike
  | none =>
      rw [lookup_eq_none_iff_notMem_keys] at shared
      cases request : Request.grammar.children.lookup name.localPart with
      | none =>
          cases response :
              Response.grammar.children.lookup name.localPart with
          | none => exact .of_runsAlike (readExtension_runsAlike plain name)
          | some read =>
              have known : name.localPart ∈ Kind.response.tableNames :=
                List.mem_map_of_mem (mem_of_lookup_eq_some response)
              rw [lookup_eq_none_iff_notMem_keys] at request
              intro stream other streams
              dsimp only
              rw [refused known stream]
              exact .left ⟨name, rfl, admitted, known, request⟩
      | some read =>
          have known : name.localPart ∈ Kind.request.tableNames :=
            List.mem_map_of_mem (mem_of_lookup_eq_some request)
          cases response :
              Response.grammar.children.lookup name.localPart with
          | none =>
              rw [lookup_eq_none_iff_notMem_keys] at response
              intro stream other streams
              dsimp only
              rw [refused known other]
              exact .right ⟨name, rfl, admitted, known, response⟩
          | some read =>
              have alsoKnown : name.localPart ∈ Kind.response.tableNames :=
                List.mem_map_of_mem (mem_of_lookup_eq_some response)
              exact absurd
                (Term.mem_readers_of_mem_tableNames _ known alsoKnown) shared

/-! ## Bodies -/

/-- The same content is read as matching terms by both grammars, each up to the
end tag of its own root. -/
theorem readRest_runsUnless
    (plain : registry.IsPlain) (maxDepth : Nat) {request : Request}
    {response : Response}
    (stated : StateAlike (roots allowed).comparison request response) :
    (roots allowed).RunsUnless (StateAlike (roots allowed).comparison)
      (Failure.RefusesChildOnlyOf allowed .response .request)
      (Failure.RefusesChildOnlyOf allowed .request .response)
      (Request.grammar.readRest registry maxDepth request)
      (Response.grammar.readRest registry maxDepth response) := by
  refine RunsUnless.repeating stated fun request response stated => ?_
  refine RunsUnless.bind (.of_runsAlike Lockstep.peekBoundary.runsAlike)
    fun boundary other boundaries => ?_
  rcases boundaries with @⟨_, _, tags | names⟩ | _
  · obtain ⟨rfl, admitted⟩ := tags
    refine RunsUnless.bind (readChild_runsUnless plain admitted)
      fun child other children => ?_
    refine .of_runsAlike fun _ _ streams => .ok (.again ?_) streams
    cases children with
    | none => exact stated
    | some alike =>
        cases alike with
        | term matched => exact stated.add matched
  · refine .of_runsAlike ?_
    rename_i left right
    dsimp only
    cases names with
    | same inner =>
        have notRequest : left.localPart ≠ Request.grammar.elementName :=
          fun equal => inner (Or.inl equal)
        have notResponse : left.localPart ≠ Response.grammar.elementName :=
          fun equal => inner (Or.inr equal)
        rw [if_neg notRequest, if_neg notResponse]
        exact fun _ _ streams => .error (Failure.SameUpToRoot.same _) streams
    | roots request response =>
        have closesRequest : left.localPart = Request.grammar.elementName :=
          request
        have closesResponse :
            right.localPart = Response.grammar.elementName := response
        rw [if_pos closesRequest, if_pos closesResponse]
        exact (Lockstep.next.bind fun _ _ _ => .pure (.done stated)).runsAlike
  · exact .of_runsAlike fun _ _ streams => .ok (.done stated) streams

end Likeness

/-! ## Content -/

namespace Node

mutual

/-- What is closed inside a node was opened inside it under the same name. -/
theorem exists_startTag_of_endTag {name : QName} :
    (node : Node) → .endTag name ∈ node.tokens →
      ∃ attributes, .startTag ⟨name, attributes⟩ ∈ node.tokens
  | .text content, member => by
      rw [tokens, List.mem_singleton] at member
      cases member
  | .element opened attributes children, member => by
      rw [tokens, List.mem_cons, List.mem_append,
        List.mem_singleton] at member
      rcases member with impossible | inside | closing
      · cases impossible
      · obtain ⟨found, opening⟩ :=
          exists_startTag_of_endTag_all children inside
        refine ⟨found, ?_⟩
        rw [tokens]
        exact List.mem_cons_of_mem _ (List.mem_append_left _ opening)
      · cases closing
        refine ⟨attributes, ?_⟩
        rw [tokens]
        exact List.mem_cons_self

theorem exists_startTag_of_endTag_all {name : QName} :
    (nodes : List Node) → .endTag name ∈ tokensOfAll nodes →
      ∃ attributes, .startTag ⟨name, attributes⟩ ∈ tokensOfAll nodes
  | [], member => by cases member
  | node :: rest, member => by
      rw [tokensOfAll, List.mem_append] at member
      rw [tokensOfAll]
      rcases member with first | later
      · obtain ⟨found, opening⟩ := exists_startTag_of_endTag node first
        exact ⟨found, List.mem_append_left _ opening⟩
      · obtain ⟨found, opening⟩ :=
          exists_startTag_of_endTag_all rest later
        exact ⟨found, List.mem_append_right _ opening⟩

end

end Node

/-- Around content whose elements have allowed names, only the end tags of the
roots differ. -/
theorem Likeness.streams_roots
    {allowed : String → Prop} {content : List Node}
    (admitted : ∀ tag, .startTag tag ∈ Node.tokensOfAll content →
      ¬ Payload.IsSingleRoot tag.localName ∧ allowed tag.localName)
    {request response : QName}
    (requestNamed : request.localPart = Kind.request.rootName)
    (responseNamed : response.localPart = Kind.response.rootName) :
    (roots allowed).Streams
      (.ofTokens (Node.tokensOfAll content ++ [.endTag request]))
      (.ofTokens (Node.tokensOfAll content ++ [.endTag response])) := by
  have inside (token : Token) (member : token ∈ Node.tokensOfAll content) :
      (roots allowed).Items (.token token) (.token token) := by
    cases token with
    | startTag tag =>
        exact .token (.startTag ⟨rfl, (admitted tag member).2⟩)
    | endTag name =>
        obtain ⟨attributes, opening⟩ :=
          Node.exists_startTag_of_endTag_all content member
        exact .token (.endTag (.same name (admitted _ opening).1))
    | text written => exact .token (.text written)
  refine ⟨rfl, rfl, ?_⟩
  rw [TokenStream.ofTokens, TokenStream.ofTokens,
    List.forall₂_map_left_iff, List.forall₂_map_right_iff]
  refine List.rel_append (List.forall₂_same.mpr inside) ?_
  exact .cons (.token (.endTag (.roots requestNamed responseNamed))) .nil

/-! ## Names of a table -/

/-- Nothing may differ, and no element is refused which the table of a message
of this kind knows. -/
def Likeness.equality (kind : Kind) : Likeness where
  name := Eq
  tag := Eq
  node := Eq
  attributes := Eq
  failure left right := left = right ∧ ¬ left.RefusesChildOf kind
  localName_eq tags := by rw [tags]
  attribute?_eq tags _ := by rw [tags]
  references {left right} tags := by
    rw [tags]
    exact ⟨rfl, rfl, rfl, List.forall₂_same.mpr fun _ _ => rfl⟩
  closes names _ _ := by rw [names]
  text _ := rfl
  element {left right} tags children others nodes := by
    rw [List.forall₂_eq_eq_eq] at nodes
    rw [tags, nodes]
  failure_refl claimed := by
    refine ⟨rfl, ?_⟩
    rintro ⟨name, refused, _⟩
    exact claimed name refused
  unexpectedTag expected {_ _} names := by
    refine ⟨by rw [names], ?_⟩
    rintro ⟨name, refused, _⟩
    cases refused
  unexpectedClose names := by
    refine ⟨by rw [names], ?_⟩
    rintro ⟨name, refused, _⟩
    cases refused

theorem Likeness.streams_equality (kind : Kind) (stream : TokenStream) :
    (equality kind).Streams stream stream := by
  refine ⟨rfl, rfl, List.forall₂_same.mpr fun item _ => ?_⟩
  cases item with
  | token token =>
      cases token with
      | startTag tag => exact .token (.startTag rfl)
      | endTag name => exact .token (.endTag rfl)
      | text content => exact .token (.text content)
  | characters content => exact .characters content
  | fault cause => exact .fault cause

/-- A body never refuses an element which its own table knows. -/
theorem BodyGrammar.read_not_refusesChildOf
    {Record Child : Type} {grammar : BodyGrammar Record Child} {kind : Kind}
    (table : grammar.children.map Prod.fst = kind.tableNames)
    {Records : Record → Record → Prop} {Children : Child → Child → Prop}
    (compares :
      grammar.Compares (Likeness.equality kind).comparison Records Children)
    {registry : Registry} (plain : registry.IsPlain) {maxDepth : Nat}
    (children : ∀ row ∈ grammar.children,
      (Likeness.equality kind).Lockstep Children (row.2 maxDepth)
        (row.2 maxDepth))
    {stream rest : TokenStream} {failure : Failure}
    (failed : grammar.read registry maxDepth stream = .error failure rest) :
    ¬ failure.RefusesChildOf kind := by
  have correspondence := (Likeness.equality kind).correspondence
  have extensions :=
    correspondence.plainExtensions plain fun left right tags => by rw [tags]
  have lockstep :=
    correspondence.readBody extensions compares
      (fun left right tags absent => ?_) children
      (fun left right names => by rw [names])
  · have ended :=
      lockstep.runsAlike (Likeness.streams_equality kind stream)
    rw [failed] at ended
    cases ended with
    | error failures stops => exact failures.2
  · refine .fail ⟨by rw [tags], ?_⟩
    rintro ⟨name, refused, known⟩
    cases refused
    rw [lookup_eq_none_iff_notMem_keys, table] at absent
    exact absent (tags ▸ known)

/-! ## Messages -/

namespace Payload

/-- The message was refused for an element which the table of a message of this
kind knows. -/
def IsRefusedFor
    (kind : Kind) (ended : EStateM.Result Failure TokenStream Payload) :
    Prop :=
  ∃ failure rest, ended = .error failure rest ∧ failure.RefusesChildOf kind

/-- A request and a response with the same terms, or the same failure up to the
name of the root where it is quoted. -/
def StatesSameTerms
    (left right : EStateM.Result Failure TokenStream Payload) : Prop :=
  match left, right with
  | .ok (.request asked) _, .ok (.response answered) _ =>
      asked.toTerms = answered.toTerms
  | .error failure _, .error other _ => failure.SameUpToRoot other
  | _, _ => False

/-- The tokens of a message of this kind with the namespace, the prefix, the
attributes and the content of an element. -/
def tokensAs (kind : Kind) (element : Element) : List Token :=
  Element.tokens
    { element with
      name := { element.name with localPart := kind.rootName } }

theorem read_tokensAs
    (registry : Registry) (maxDepth : Nat) (kind : Kind)
    (element : Element) :
    read registry maxDepth (.ofTokens (tokensAs kind element)) =
      readKind registry maxDepth kind
        (.ofTokens (tokensAs kind element)) := by
  have looked :
      Cursor.peekStartTag (.ofTokens (tokensAs kind element)) =
        .ok
          (some
            ⟨{ element.name with localPart := kind.rootName },
              element.attributes⟩)
          (.ofTokens (tokensAs kind element)) := rfl
  rw [read, Cursor.bind_of_ok looked]
  have known :
      Kind.ofRootName?
          (StartTag.localName
            ⟨{ element.name with localPart := kind.rootName },
              element.attributes⟩) =
        some kind :=
    Kind.ofRootName?_rootName kind
  simp only [known]

/-- Runs over the content of a request and of a response that end alike state
the same terms. -/
theorem statesSameTerms_of_ends
    {allowed : String → Prop} {asking : Cursor Request}
    {answering : Cursor Response} {stream other : TokenStream}
    (ended : (Likeness.roots allowed).Ends
      (Likeness.StateAlike (Likeness.roots allowed).comparison)
      (asking stream) (answering other)) :
    StatesSameTerms ((request <$> asking) stream)
      ((response <$> answering) other) := by
  rw [Cursor.map_eq_bind, Cursor.map_eq_bind]
  generalize asked : asking stream = leftEnd,
    answered : answering other = rightEnd at ended
  cases ended with
  | ok stated stops =>
      rw [Cursor.bind_of_ok asked, Cursor.bind_of_ok answered]
      exact stated.eq (Likeness.roots allowed).value_eq
        fun left right fragments => by
          cases left
          cases right
          cases fragments
          rfl
  | error failures stops =>
      rw [Cursor.bind_of_error asked, Cursor.bind_of_error answered]
      exact failures

def contentAs (kind : Kind) (element : Element) : TokenStream :=
  .ofTokens
    (Node.tokensOfAll element.children ++
      [.endTag { element.name with localPart := kind.rootName }])

theorem read_request_tokensAs
    (registry : Registry) (maxDepth : Nat) (element : Element) :
    read registry maxDepth (.ofTokens (tokensAs .request element)) =
      (request <$>
        Request.grammar.readRest registry maxDepth
          (.ofContext
            (BodyGrammar.contextOf ⟨element.name, element.attributes⟩)))
        (contentAs .request element) := by
  rw [read_tokensAs]
  rfl

theorem read_response_tokensAs
    (registry : Registry) (maxDepth : Nat) (element : Element) :
    read registry maxDepth (.ofTokens (tokensAs .response element)) =
      (response <$>
        Response.grammar.readRest registry maxDepth
          (.ofContext
            (BodyGrammar.contextOf ⟨element.name, element.attributes⟩)))
        (contentAs .response element) := by
  rw [read_tokensAs]
  rfl

/-- A message is refused for no element which its own table knows. -/
theorem not_isRefusedFor_own
    {registry : Registry} (plain : registry.IsPlain) (maxDepth : Nat)
    {kind : Kind} (single : kind = .request ∨ kind = .response)
    (element : Element) :
    ¬ IsRefusedFor kind
      (read registry maxDepth (.ofTokens (tokensAs kind element))) := by
  rintro ⟨failure, rest, failed, refused⟩
  rw [read_tokensAs] at failed
  rcases single with rfl | rfl
  · exact BodyGrammar.read_not_refusesChildOf rfl
      (Request.grammar_compares _) plain
      ((Likeness.equality _).correspondence.requestChildren maxDepth)
      (Cursor.map_eq_error_iff.mp failed) refused
  · exact BodyGrammar.read_not_refusesChildOf rfl
      (Response.grammar_compares _) plain
      ((Likeness.equality _).correspondence.responseChildren maxDepth)
      (Cursor.map_eq_error_iff.mp failed) refused

/-- The tables of requests and of responses both have the name, or neither
has. -/
def IsKnownAlike (localPart : String) : Prop :=
  localPart ∈ Kind.request.tableNames ↔
    localPart ∈ Kind.response.tableNames

/-- Where an element is refused that only the other table knows, the two
readings part; everywhere else they state the same terms. -/
theorem statesSameTerms_or_refused
    {registry : Registry} (plain : registry.IsPlain) (maxDepth : Nat)
    (allowed : String → Prop) {element : Element}
    (admitted : ∀ tag, .startTag tag ∈ Node.tokensOfAll element.children →
      ¬ IsSingleRoot tag.localName ∧ allowed tag.localName) :
    StatesSameTerms
        (read registry maxDepth (.ofTokens (tokensAs .request element)))
        (read registry maxDepth (.ofTokens (tokensAs .response element))) ∨
      (∃ failure rest,
        read registry maxDepth (.ofTokens (tokensAs .request element)) =
            .error failure rest ∧
          failure.RefusesChildOnlyOf allowed .response .request) ∨
      ∃ failure rest,
        read registry maxDepth (.ofTokens (tokensAs .response element)) =
            .error failure rest ∧
          failure.RefusesChildOnlyOf allowed .request .response := by
  let context := BodyGrammar.contextOf ⟨element.name, element.attributes⟩
  have start :
      Likeness.StateAlike (Likeness.roots allowed).comparison
        (.ofContext context) (.ofContext context) := .ofContext context
  have content : (Likeness.roots allowed).Streams
      (contentAs .request element) (contentAs .response element) :=
    Likeness.streams_roots admitted rfl rfl
  have ended := Likeness.readRest_runsUnless plain maxDepth start content
  rw [read_request_tokensAs, read_response_tokensAs]
  generalize asked :
      Request.grammar.readRest registry maxDepth (.ofContext context)
        (contentAs .request element) = leftEnd,
    answered :
      Response.grammar.readRest registry maxDepth (.ofContext context)
        (contentAs .response element) = rightEnd at ended
  cases ended with
  | alike ended =>
      rw [← asked, ← answered] at ended
      exact Or.inl (statesSameTerms_of_ends ended)
  | @left failure rest _ excused =>
      refine Or.inr (Or.inl ⟨failure, rest, ?_, excused⟩)
      exact Cursor.map_eq_error_iff.mpr asked
  | @right failure rest _ excused =>
      refine Or.inr (Or.inr ⟨failure, rest, ?_, excused⟩)
      exact Cursor.map_eq_error_iff.mpr answered

theorem StatesSameTerms.refused_left
    {left right : EStateM.Result Failure TokenStream Payload}
    (same : StatesSameTerms left right) {kind : Kind}
    (refused : IsRefusedFor kind left) : IsRefusedFor kind right := by
  obtain ⟨failure, rest, rfl, name, rfl, known⟩ := refused
  cases right with
  | ok payload others => cases same
  | error failure others =>
      cases same
      exact ⟨_, others, rfl, name, rfl, known⟩

theorem StatesSameTerms.refused_right
    {left right : EStateM.Result Failure TokenStream Payload}
    (same : StatesSameTerms left right) {kind : Kind}
    (refused : IsRefusedFor kind right) : IsRefusedFor kind left := by
  obtain ⟨failure, rest, rfl, name, rfl, known⟩ := refused
  cases left with
  | ok payload others => cases payload <;> cases same
  | error failure others =>
      cases same
      exact ⟨_, others, rfl, name, rfl, known⟩

end Payload

end WsTrust
