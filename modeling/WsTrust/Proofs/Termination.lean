import WsTrust.Proofs.ForwardMotion

/-!
# Reading ends

A repetition makes at most as many turns as there are items, for want of
progress would stop it.  It never comes to that: if the extensions consume
something whenever they succeed, every loop that reads a message consumes
something with every iteration that asks for another one.  So each of them ends
by itself after at most as many iterations as items are left, with the outcome
that the repetition has.
-/

namespace WsTrust

namespace Cursor

variable {State Result : Type}

/-! ## Loops -/

/-- A loop whose iteration is run again as long as it asks for it, with the
number of iterations that asked and with the outcome of the last one. -/
inductive Loops (iteration : State → Cursor (Turn State Result)) :
    Nat → State → TokenStream →
      EStateM.Result Failure TokenStream Result → Prop
  | done {state : State} {stream stop : TokenStream} {result : Result}
      (read : iteration state stream = .ok (.done result) stop) :
      Loops iteration 0 state stream (.ok result stop)
  | failed {state : State} {stream stop : TokenStream} {failure : Failure}
      (read : iteration state stream = .error failure stop) :
      Loops iteration 0 state stream (.error failure stop)
  | again {count : Nat} {state later : State}
      {stream middle : TokenStream}
      {outcome : EStateM.Result Failure TokenStream Result}
      (read : iteration state stream = .ok (.again later) middle)
      (others : Loops iteration count later middle outcome) :
      Loops iteration (count + 1) state stream outcome

/-- The iteration of a loop that passes over texts one at a time, and makes a
turn where no text comes next. -/
def passing
    (turn : State → Cursor (Turn State Result)) (state : State) :
    Cursor (Turn State Result) := do
  match ← peek with
  | some (.text _) =>
      let _ ← next
      return .again state
  | _ => turn state

/-- Wherever the loop begins on what is left of the stream, every iteration
that asks for another one leaves fewer items of what it was given, and after at
most as many of them as there are items the loop ends, with the outcome of this
reader. -/
structure Winds
    (stream : TokenStream)
    (iteration : State → Cursor (Turn State Result))
    (reader : State → Cursor Result) : Prop where
  consumes {state later : State} {given middle : TokenStream}
    (left : given.IsRestOf stream)
    (read : iteration state given = .ok (.again later) middle) :
    middle.IsRestOf given ∧ middle.size < given.size
  ends (state : State) {given : TokenStream}
    (left : given.IsRestOf stream) :
    ∃ count ≤ given.size,
      Loops iteration count state given (reader state given)

section Repetition

variable {registry : Registry} {stream : TokenStream}
  {turn : State → Cursor (Turn State Result)}

theorem consumes_of_moves
    {iteration : State → Cursor (Turn State Result)} {state later : State}
    {given middle : TokenStream}
    (moves : MovesOn registry (turnLeast 0) given (iteration state given))
    (read : iteration state given = .ok (.again later) middle) :
    middle.IsRestOf given ∧ middle.size < given.size := by
  rw [read] at moves
  cases moves with
  | ok left fewer => exact ⟨left, fewer⟩

/-- A turn that does the same with fewer items of a stream begins the same
repetition. -/
theorem repeating_of_same
    {state : State} {given after : TokenStream}
    (moves : MovesOn registry (turnLeast 0) after (turn state after))
    (fewer : after.size ≤ given.size)
    (same : turn state after = turn state given) :
    repeating turn state after = repeating turn state given := by
  rcases turned : turn state after with
    ⟨later | result, middle⟩ | ⟨failure, stop⟩
  · have progress := (consumes_of_moves moves turned).2
    rw [repeating_of_again turned progress,
      repeating_of_again (same.symm.trans turned)
        (Nat.lt_of_lt_of_le progress fewer)]
  · rw [repeating_of_done turned,
      repeating_of_done (same.symm.trans turned)]
  · rw [repeating_of_error turned,
      repeating_of_error (same.symm.trans turned)]

/-- A repetition of turns that consume something is a loop that ends, also if
some iterations of the loop only pass over something that the next turn would
have passed over. -/
theorem Winds.of_passes
    {iteration : State → Cursor (Turn State Result)}
    (turns : ∀ state, Moves registry stream (turnLeast 0) (turn state))
    (passes : ∀ (state : State) {given : TokenStream},
      given.IsRestOf stream →
        iteration state given = turn state given ∨
          ∃ after : TokenStream,
            iteration state given = .ok (.again state) after ∧
              after.IsRestOf given ∧ after.size < given.size ∧
                turn state after = turn state given) :
    Winds stream iteration (repeating turn) where
  consumes {state later given middle} left read := by
    rcases passes state left with same | ⟨after, passed, leftToo, fewer, _⟩
    · rw [same] at read
      exact consumes_of_moves (turns state given left) read
    · rw [passed] at read
      cases read
      exact ⟨leftToo, fewer⟩
  ends state given left := by
    induction bound : given.size using Nat.strongRecOn
      generalizing state given with
    | _ size inductionHypothesis =>
        subst bound
        rcases passes state left with
          same | ⟨after, passed, leftToo, fewer, same⟩
        · rcases turned : turn state given with
            ⟨later | result, middle⟩ | ⟨failure, stop⟩
          · obtain ⟨leftLater, fewer⟩ :=
              consumes_of_moves (turns state given left) turned
            obtain ⟨count, few, others⟩ :=
              inductionHypothesis _ fewer later middle
                (leftLater.trans left) rfl
            rw [repeating_of_again turned fewer]
            exact ⟨count + 1, by omega, .again (same.trans turned) others⟩
          · rw [repeating_of_done turned]
            exact ⟨0, Nat.zero_le _, .done (same.trans turned)⟩
          · rw [repeating_of_error turned]
            exact ⟨0, Nat.zero_le _, .failed (same.trans turned)⟩
        · obtain ⟨count, few, others⟩ :=
            inductionHypothesis _ fewer state after (leftToo.trans left) rfl
          rw [← repeating_of_same (turns state after (leftToo.trans left))
            (Nat.le_of_lt fewer) same]
          exact ⟨count + 1, by omega, .again passed others⟩

theorem Winds.of_moves
    (turns : ∀ state, Moves registry stream (turnLeast 0) (turn state)) :
    Winds stream turn (repeating turn) :=
  of_passes turns fun _ _ _ => Or.inl rfl

end Repetition

/-! ## Texts that are passed over -/

theorem peekBoundary_of_fault
    {stream stop : TokenStream} {failure : Failure}
    (looked : peek stream = .error failure stop) :
    peekBoundary stream = .error failure stop := by
  have dropped : dropUntil (!·.isText) stream = .error failure stop := by
    rw [← Undisturbed.dropUntil]
    rw [peek] at looked
    rcases reported : firstReport? stream.trimming stream.items with
      _ | ⟨fault | token, rest⟩
    · rw [reported] at looked
      cases looked
    · rw [reported] at looked
      cases looked
      rw [dropUntil, TokenStream.items_lookedAt, pullItems_eq, reported]
      rfl
    · rw [reported] at looked
      cases looked
  exact bind_of_error dropped

/-- A text in front of a tag is passed over, however one comes to it. -/
theorem peekBoundary_of_text_ahead
    {stream middle : TokenStream} {content : String}
    (looked : peek stream = .ok (some (.text content)) middle) :
    ∃ after : TokenStream,
      next middle = .ok (some (.text content)) after ∧
        after.size < middle.size ∧
          peekBoundary after = peekBoundary stream := by
  obtain ⟨rest, begins⟩ := startsWith_of_peek looked
  have consumed :
      next middle =
        .ok (some (.text content)) { middle with items := rest } := by
    simp only [next, begins, firstReport?, Item.read?]
  have fewer : rest.length < middle.size := by
    rw [TokenStream.size, begins]
    exact Nat.lt_succ_self rest.length
  refine ⟨_, consumed, fewer, ?_⟩
  have dropped :
      dropUntil (!·.isText) { middle with items := rest } =
        dropUntil (!·.isText) stream := by
    rw [← Undisturbed.dropUntil _ stream, ← lookedAt_of_peek looked]
    rw [dropUntil, dropUntil, begins]
    simp only [dropUntil.dropItems, Item.read?, Token.isText]
    exact dropItems_withItems _ middle rest rest
  simp only [peekBoundary, bind, EStateM.bind, dropped]

/-- Turns that look at a boundary first may as well pass over the texts before
it one at a time. -/
theorem Winds.passing
    {registry : Registry} {stream : TokenStream}
    {turn : State → Cursor (Turn State Result)}
    (looks : ∀ state, ∃ next, turn state = peekBoundary >>= next)
    (turns : ∀ state, Moves registry stream (turnLeast 0) (turn state)) :
    Winds stream (Cursor.passing turn) (repeating turn) := by
  refine of_passes turns fun state given left => ?_
  obtain ⟨next, begins⟩ := looks state
  have looking : MovesOn registry (fun _ => 0) given (peek given) :=
    Moves.peek given left
  cases looked : peek given with
  | error failure stop =>
      apply Or.inl
      rw [Cursor.passing, bind_of_error looked, begins,
        bind_of_error (peekBoundary_of_fault looked)]
  | ok found middle =>
      rw [looked] at looking
      have pulled := lookedAt_of_peek looked
      have undisturbed : Undisturbed (turn state) := by
        rw [begins]
        exact ((Undisturbed.dropUntil _).bind _).bind next
      have turned : turn state middle = turn state given := by
        rw [pulled, undisturbed given]
      cases looking with
      | ok leftMiddle _ =>
          rcases found with _ | tag | name | content
          · exact Or.inl ((bind_of_ok looked).trans turned)
          · exact Or.inl ((bind_of_ok looked).trans turned)
          · exact Or.inl ((bind_of_ok looked).trans turned)
          · obtain ⟨after, consumed, fewer, same⟩ :=
              peekBoundary_of_text_ahead looked
            have passed :
                Cursor.passing turn state given =
                  .ok (.again state) after := by
              rw [Cursor.passing, bind_of_ok looked]
              exact bind_of_ok consumed
            have moved :
                MovesOn registry (fun token => if token.isSome then 1 else 0)
                  middle (Cursor.next middle) :=
              Moves.next middle (leftMiddle.trans left)
            rw [consumed] at moved
            cases moved with
            | ok leftAfter _ =>
                refine Or.inr ⟨after, passed, leftAfter.trans leftMiddle,
                  Nat.lt_of_lt_of_le fewer leftMiddle.size_le, ?_⟩
                rw [begins]
                simp only [bind, EStateM.bind, same]

/-! ## Turns -/

namespace Moves

variable {registry : Registry} {stream : TokenStream}

theorem again
    {Read : Type} {reader : Cursor Read}
    (moves : Moves registry stream (fun _ => 1) reader)
    (later : Read → State) :
    Moves registry stream (turnLeast 0)
      (do
        let read ← reader
        return (.again (later read) : Turn State Result)) :=
  moves.bind fun _ => pure rfl

theorem map
    {Other : Type} {reader : Cursor Result}
    (moves : Moves registry stream (fun _ => 0) reader)
    (change : Result → Other) :
    Moves registry stream (fun _ => 0) (change <$> reader) := by
  rw [map_eq_bind]
  exact moves.bind_any fun _ => pure rfl

/-- A turn that looks at a boundary closes at an end tag, and has to consume
something only behind a start tag. -/
theorem boundaryTurn
    {next : Option Boundary → Cursor (Turn State Result)}
    (opening : ∀ tag,
      Moves registry stream (turnLeast 0) (next (some (.opening tag))))
    (closing : ∃ localPart result, ∀ name,
      next (some (.closing name)) =
        Cursor.closeWith localPart (.done result) name)
    (ended : Moves registry stream (turnLeast 0) (next none)) :
    Moves registry stream (turnLeast 0) (Cursor.peekBoundary >>= next) := by
  refine peekBoundary.bind_any fun boundary => ?_
  rcases boundary with _ | tag | name
  · exact ended
  · exact opening tag
  · obtain ⟨localPart, result, closed⟩ := closing
    rw [closed name, Cursor.closeWith]
    split
    · refine bind_any (Moves.next.weaken fun _ => Nat.zero_le _) fun _ => ?_
      exact pure rfl
    · exact refuse (by simp)

end Moves

end Cursor

open Cursor

/-- Whenever an extension succeeds on what is left of the stream, it leaves
fewer items of what it was given. -/
def Registry.ConsumesOn
    (registry : Registry) (stream : TokenStream) : Prop :=
  ∀ extension ∈ registry.extensions,
    ∀ {given stop : TokenStream} {value : ExtensionValue},
      given.IsRestOf stream → extension.read given = .ok value stop →
        stop.IsRestOf given ∧ stop.size < given.size

theorem Registry.ConsumesOn.moves
    {registry : Registry} {stream : TokenStream}
    (consuming : registry.ConsumesOn stream) :
    ∀ extension ∈ registry.extensions,
      Moves registry stream (fun _ => 1) extension.read := by
  intro extension member given left
  cases read : extension.read given with
  | ok value stop =>
      obtain ⟨leftLater, fewer⟩ := consuming extension member left read
      exact .ok leftLater fewer
  | error failure stop =>
      exact .extension ⟨extension, member, given, .refl given, read⟩

/-- Also when an extension fails on what is left of the stream, it leaves what
is left of that. -/
def Registry.StaysOn (registry : Registry) (stream : TokenStream) : Prop :=
  ∀ extension ∈ registry.extensions,
    ∀ {given stop : TokenStream} {failure : Failure},
      given.IsRestOf stream → extension.read given = .error failure stop →
        stop.IsRestOf given

theorem Registry.StaysOn.isRestOf
    {registry : Registry} {stream stop : TokenStream} {failure : Failure}
    (staying : registry.StaysOn stream)
    (failed : registry.FailsOn stream failure stop) :
    stop.IsRestOf stream := by
  obtain ⟨extension, member, given, left, read⟩ := failed
  exact (staying extension member left read).trans left

theorem Registry.StaysOn.isRestOf_of_moves
    {registry : Registry} {stream : TokenStream} {Result : Type}
    {least : Result → Nat}
    {outcome : EStateM.Result Failure TokenStream Result}
    (staying : registry.StaysOn stream)
    (moves : MovesOn registry least stream outcome) :
    (stopOf outcome).IsRestOf stream := by
  cases moves with
  | ok left _ => exact left
  | error left _ => exact left
  | extension failed => exact staying.isRestOf failed

section Standard

variable (stream : TokenStream)

theorem Registry.policyExtension_moves
    {extension : Extension} (member : extension ∈ standard.extensions) :
    Moves .empty stream (fun _ => 1) extension.read := by
  have composes := Moves.compositional .empty stream
  rw [List.mem_singleton.mp member]
  exact composes.map composes.appliesTo _

/-- The extension for WS-Policy consumes something whenever it succeeds. -/
theorem Registry.standard_consumesOn : standard.ConsumesOn stream := by
  intro extension member given stop value left read
  have moved := policyExtension_moves stream member given left
  rw [read] at moved
  cases moved with
  | ok leftLater fewer => exact ⟨leftLater, fewer⟩

theorem Registry.standard_staysOn : standard.StaysOn stream := by
  intro extension member given stop failure left read
  have moved := policyExtension_moves stream member given left
  rw [read] at moved
  cases moved with
  | error leftLater _ => exact leftLater
  | extension failed =>
      obtain ⟨other, impossible, _⟩ := failed
      cases impossible

end Standard

/-! ## Bodies and collections -/

namespace BodyGrammar

variable {Record Child : Type} {grammar : BodyGrammar Record Child}
  {registry : Registry} {stream : TokenStream}
  (consuming : registry.ConsumesOn stream) {maxDepth : Nat}
  (children : ∀ row ∈ grammar.children,
    Moves registry stream (fun _ => 1) (row.2 maxDepth))

include consuming children

theorem turn_moves (record : Record) :
    Moves registry stream (turnLeast 0)
      (grammar.turn registry maxDepth record) := by
  refine Moves.boundaryTurn (fun tag => ?_)
    ⟨grammar.elementName, record, fun _ => rfl⟩ (Moves.pure rfl)
  have child :=
    (Moves.compositional registry stream).readChild consuming.moves children
      tag.name
  exact child.again _

theorem read_moves :
    Moves registry stream (fun _ => 1) (grammar.read registry maxDepth) := by
  refine (Moves.nextStartTag _).bind_after fun tag => ?_
  exact Moves.repeating (turn_moves consuming children) _

theorem collectionTurn_moves
    (elementName : String) (earlier : List Record) :
    Moves registry stream (turnLeast 0)
      (grammar.collectionTurn registry maxDepth elementName earlier) := by
  refine Moves.boundaryTurn (fun tag => ?_)
    ⟨elementName, earlier.reverse, fun _ => rfl⟩ (Moves.refuse nofun)
  dsimp only
  split
  · exact (read_moves consuming children).again _
  · exact Moves.refuse nofun

theorem readCollection_moves (elementName : String) :
    Moves registry stream (fun _ => 0)
      (grammar.readCollection registry maxDepth elementName) := by
  have entered := (Moves.compositional registry stream).enter elementName
  refine entered.bind_any fun tag => ?_
  exact Moves.repeating (collectionTurn_moves consuming children elementName) []

end BodyGrammar

/-! ## Messages -/

namespace Payload

/-- All loops in which messages are read end by themselves, wherever they begin
on what is left of the stream. -/
structure EveryLoopWinds
    (registry : Registry) (maxDepth : Nat) (stream : TokenStream) :
    Prop where
  requests :
    Winds stream (passing (Request.grammar.turn registry maxDepth))
      (Request.grammar.readRest registry maxDepth)
  responses :
    Winds stream (passing (Response.grammar.turn registry maxDepth))
      (Response.grammar.readRest registry maxDepth)
  requestCollections :
    Winds stream
      (passing (Request.grammar.collectionTurn registry maxDepth
        Kind.requestCollection.rootName))
      (repeating (Request.grammar.collectionTurn registry maxDepth
        Kind.requestCollection.rootName))
  responseCollections :
    Winds stream
      (passing (Response.grammar.collectionTurn registry maxDepth
        Kind.responseCollection.rootName))
      (repeating (Response.grammar.collectionTurn registry maxDepth
        Kind.responseCollection.rootName))
  status : Winds stream Status.turn (repeating Status.turn)
  requestedTokens :
    Winds stream
      (passing (Fragment.turn "RequestedSecurityToken" maxDepth))
      (repeating (Fragment.turn "RequestedSecurityToken" maxDepth))
  tokenReferences :
    Winds stream
      (passing (Fragment.turn "SecurityTokenReference" maxDepth))
      (repeating (Fragment.turn "SecurityTokenReference" maxDepth))
  endpoints : Winds stream AppliesTo.turn (repeating AppliesTo.turn)

variable {registry : Registry} {stream : TokenStream}
  (consuming : registry.ConsumesOn stream) (maxDepth : Nat)

include consuming

theorem everyLoopWinds : EveryLoopWinds registry maxDepth stream := by
  have composes := Moves.compositional registry stream
  have requests := composes.requestChildren maxDepth
  have responses := composes.responseChildren maxDepth
  have fragments (localPart : String) :
      Winds stream (passing (Fragment.turn localPart maxDepth))
        (repeating (Fragment.turn localPart maxDepth)) := by
    have turns (earlier : List Element) :
        Moves registry stream (turnLeast 0)
          (Fragment.turn localPart maxDepth earlier) := by
      have turn := composes.fragmentTurn localPart maxDepth earlier
      exact turn.weaken (turnLeast_le_one (Nat.zero_le 1))
    exact Winds.passing (fun earlier => ⟨_, rfl⟩) turns
  constructor
  case requests =>
    exact Winds.passing (fun record => ⟨_, rfl⟩)
      (BodyGrammar.turn_moves consuming requests)
  case responses =>
    exact Winds.passing (fun record => ⟨_, rfl⟩)
      (BodyGrammar.turn_moves consuming responses)
  case requestCollections =>
    exact Winds.passing (fun earlier => ⟨_, rfl⟩)
      (BodyGrammar.collectionTurn_moves consuming requests _)
  case responseCollections =>
    exact Winds.passing (fun earlier => ⟨_, rfl⟩)
      (BodyGrammar.collectionTurn_moves consuming responses _)
  case status =>
    have turns (status : Status) :
        Moves registry stream (turnLeast 0) (Status.turn status) := by
      have turn := composes.statusTurn status
      exact turn.weaken (turnLeast_le_one (Nat.zero_le 1))
    exact Winds.of_moves turns
  case requestedTokens => exact fragments "RequestedSecurityToken"
  case tokenReferences => exact fragments "SecurityTokenReference"
  case endpoints =>
    have turns (address : Option String) :
        Moves registry stream (turnLeast 0) (AppliesTo.turn address) := by
      refine (Moves.peekChild _).bind_any fun child => ?_
      cases child with
      | none => exact Moves.pure rfl
      | some child =>
          have turn := composes.endpointChild address child
          exact turn.weaken (turnLeast_le_one (Nat.zero_le 1))
    exact Winds.of_moves turns

theorem read_moves :
    Moves registry stream (fun _ => 0) (read registry maxDepth) := by
  have composes := Moves.compositional registry stream
  have requests := composes.requestChildren maxDepth
  have responses := composes.responseChildren maxDepth
  have kinds (kind : Kind) :
      Moves registry stream (fun _ => 0)
        (readKind registry maxDepth kind) := by
    cases kind with
    | request =>
        have single := BodyGrammar.read_moves consuming requests
        exact (single.weaken fun _ => Nat.zero_le 1).map _
    | response =>
        have single := BodyGrammar.read_moves consuming responses
        exact (single.weaken fun _ => Nat.zero_le 1).map _
    | requestCollection =>
        exact (BodyGrammar.readCollection_moves consuming requests _).map _
    | responseCollection =>
        exact (BodyGrammar.readCollection_moves consuming responses _).map _
  refine Moves.peekStartTag.bind_any fun root => ?_
  split
  · exact Moves.refuse nofun
  · split
    · exact kinds _
    · exact Moves.refuse nofun

/-- If the extensions consume something whenever they succeed, every message is
read to an end: to its value, with the last items of the stream left, or to a
failure, with the last items left as well unless an extension failed and left
something else, and never for want of progress unless an extension reported it.
An extension that leaves the last items also when it fails makes this hold
without exception.  Each of the loops ends by itself, with fewer items left
after every iteration that asks for another one. -/
theorem reading_ends_and_moves_forward :
    (∀ {payload : Payload} {stop : TokenStream},
      read registry maxDepth stream = .ok payload stop →
        stop.IsRestOf stream) ∧
      (∀ {failure : Failure} {stop : TokenStream},
        read registry maxDepth stream = .error failure stop →
          stop.IsRestOf stream ∧ failure ≠ .fault .noProgress ∨
            registry.FailsOn stream failure stop) ∧
        (registry.StaysOn stream →
          (stopOf (read registry maxDepth stream)).IsRestOf stream ∧
            ∀ tokens : List Token, stream.Holds tokens →
              ∃ left : List Token,
                (stopOf (read registry maxDepth stream)).Holds left ∧
                  left <:+ tokens) ∧
          EveryLoopWinds registry maxDepth stream := by
  have moves := read_moves consuming maxDepth stream (.refl stream)
  refine ⟨?accepted, ?refused, ?stays, everyLoopWinds consuming maxDepth⟩
  case accepted =>
    intro payload stop succeeded
    rw [succeeded] at moves
    cases moves with
    | ok left _ => exact left
  case refused =>
    intro failure stop failed
    rw [failed] at moves
    cases moves with
    | error left possible => exact Or.inl ⟨left, possible⟩
    | extension failed => exact Or.inr failed
  case stays =>
    intro staying
    have left := staying.isRestOf_of_moves moves
    exact ⟨left, fun tokens held => left.holds held⟩

/-- A request that ends in the middle of a relying party, with an element that
is not closed. -/
def unclosedTokens : List Token :=
  [.startTag ⟨.ofLocal "RequestSecurityToken", []⟩, .text "x",
    .startTag ⟨.ofParts Vocabulary.policy "AppliesTo", []⟩,
    .startTag ⟨.ofLocal "EndpointReference", []⟩,
    .startTag ⟨.ofLocal "Metadata", []⟩, .text "y"]

omit consuming in
theorem reading_of_unclosed_tokens_ends :
    let stream := TokenStream.ofTokens unclosedTokens
    Registry.standard.ConsumesOn stream ∧
      Registry.standard.StaysOn stream ∧
        stream.Holds unclosedTokens ∧
          (∃ left : List Token,
            (stopOf (read .standard 1 stream)).Holds left ∧
              left <:+ unclosedTokens) ∧
            EveryLoopWinds .standard 1 stream := by
  intro stream
  have consuming := Registry.standard_consumesOn stream
  have staying := Registry.standard_staysOn stream
  have held := TokenStream.holds_ofTokens unclosedTokens
  obtain ⟨_, _, stays, loops⟩ := reading_ends_and_moves_forward consuming 1
  exact ⟨consuming, staying, held, (stays staying).2 unclosedTokens held,
    loops⟩

end Payload

end WsTrust
