import WsTrust.Proofs.Compositions
import WsTrust.Proofs.LookingAhead
import WsTrust.Proofs.Postconditions

/-!
# Readers move forward on every stream

What a reader leaves of a stream are its last items, the first of which it may
have looked at.  Readers of messages leave fewer items than they were given
when they succeed, and when they fail they leave what is left of the stream as
well.  All of this needs only that the extensions, when they succeed, leave
fewer items than they were given.
-/

namespace WsTrust

/-! ## What is left of a stream -/

/-- The items on the left are what is left of those on the right: the last ones
of them, of which the first may have been looked at. -/
inductive Item.Remain : List Item → List Item → Prop
  | refl (items : List Item) : Remain items items
  | lookedAt {trimming : Bool} {head : Item} {token : Token}
      (read : head.read? trimming = some (.ok token)) (rest : List Item) :
      Remain (.token token :: rest) (head :: rest)
  | cons {left rest : List Item} (head : Item) (remain : Remain left rest) :
      Remain left (head :: rest)

namespace Item.Remain

theorem of_suffix {left items : List Item} (suffix : left <:+ items) :
    Remain left items := by
  obtain ⟨consumed, rfl⟩ := suffix
  induction consumed with
  | nil => exact .refl left
  | cons head tail inductionHypothesis => exact .cons head inductionHypothesis

theorem trans
    {left middle items : List Item}
    (first : Remain left middle) (second : Remain middle items) :
    Remain left items := by
  induction second with
  | refl items => exact first
  | cons head _ inductionHypothesis =>
      exact .cons head (inductionHypothesis first)
  | lookedAt read rest =>
      cases first with
      | refl => exact .lookedAt read rest
      | lookedAt again =>
          cases again
          exact .lookedAt read rest
      | cons _ remain => exact .cons _ remain

theorem length_le {left items : List Item} (remain : Remain left items) :
    left.length ≤ items.length := by
  induction remain with
  | refl items => exact Nat.le_refl _
  | lookedAt read rest => exact Nat.le_refl _
  | cons head _ inductionHypothesis =>
      exact Nat.le_succ_of_le inductionHypothesis

/-- Of prepared tokens a suffix is left. -/
theorem exists_suffix
    {left : List Item} {tokens : List Token}
    (remain : Remain left (tokens.map Item.token)) :
    ∃ others : List Token,
      left = others.map Item.token ∧ others <:+ tokens := by
  induction tokens with
  | nil =>
      cases remain with
      | refl => exact ⟨[], rfl, List.suffix_refl []⟩
  | cons head tail inductionHypothesis =>
      cases remain with
      | refl => exact ⟨head :: tail, rfl, List.suffix_refl _⟩
      | lookedAt read =>
          cases read
          exact ⟨head :: tail, rfl, List.suffix_refl _⟩
      | cons _ remain =>
          obtain ⟨others, equality, suffix⟩ := inductionHypothesis remain
          exact ⟨others, equality, suffix.trans (List.suffix_cons head tail)⟩

end Item.Remain

namespace TokenStream

/-- The stream is what is left of another one. -/
def IsRestOf (rest stream : TokenStream) : Prop :=
  Item.Remain rest.items stream.items

namespace IsRestOf

theorem refl (stream : TokenStream) : stream.IsRestOf stream :=
  Item.Remain.refl stream.items

theorem trans
    {rest middle stream : TokenStream}
    (first : rest.IsRestOf middle) (second : middle.IsRestOf stream) :
    rest.IsRestOf stream :=
  Item.Remain.trans first second

theorem size_le {rest stream : TokenStream} (left : rest.IsRestOf stream) :
    rest.size ≤ stream.size :=
  Item.Remain.length_le left

theorem holds
    {rest stream : TokenStream} (left : rest.IsRestOf stream)
    {tokens : List Token} (held : stream.Holds tokens) :
    ∃ others : List Token, rest.Holds others ∧ others <:+ tokens := by
  rw [IsRestOf, held] at left
  exact left.exists_suffix

end IsRestOf

end TokenStream

/-- On what is left of the stream an extension failed, and stopped here. -/
def Registry.FailsOn
    (registry : Registry) (stream : TokenStream)
    (failure : Failure) (stop : TokenStream) : Prop :=
  ∃ extension ∈ registry.extensions, ∃ given : TokenStream,
    given.IsRestOf stream ∧ extension.read given = .error failure stop

theorem Registry.FailsOn.mono
    {registry : Registry} {rest stream stop : TokenStream}
    {failure : Failure} (failed : registry.FailsOn rest failure stop)
    (left : rest.IsRestOf stream) :
    registry.FailsOn stream failure stop := by
  obtain ⟨extension, member, given, leftOfRest, read⟩ := failed
  exact ⟨extension, member, given, leftOfRest.trans left, read⟩

namespace Cursor

variable {Result Other State : Type} {registry : Registry}

/-! ## Moving forward -/

/-- The outcome of a run that began on this stream.  If it succeeded, it left
what is left of the stream, fewer items by as many as the result asks for; if it
failed, it also left what is left, and not for want of progress, unless an
extension failed. -/
inductive MovesOn
    (registry : Registry) (least : Result → Nat) (stream : TokenStream) :
    EStateM.Result Failure TokenStream Result → Prop
  | ok {result : Result} {stop : TokenStream}
      (left : stop.IsRestOf stream)
      (fewer : stop.size + least result ≤ stream.size) :
      MovesOn registry least stream (.ok result stop)
  | error {failure : Failure} {stop : TokenStream}
      (left : stop.IsRestOf stream)
      (possible : failure ≠ .fault .noProgress) :
      MovesOn registry least stream (.error failure stop)
  | extension {failure : Failure} {stop : TokenStream}
      (failed : registry.FailsOn stream failure stop) :
      MovesOn registry least stream (.error failure stop)

/-- On whatever is left of the origin the reader moves forward. -/
def Moves
    (registry : Registry) (origin : TokenStream) (least : Result → Nat)
    (reader : Cursor Result) : Prop :=
  ∀ stream : TokenStream, stream.IsRestOf origin →
    MovesOn registry least stream (reader stream)

namespace MovesOn

variable {least lower : Result → Nat} {stream middle : TokenStream}
  {outcome : EStateM.Result Failure TokenStream Result}

theorem weaken
    (moves : MovesOn registry least stream outcome)
    (atMost : ∀ result, lower result ≤ least result) :
    MovesOn registry lower stream outcome := by
  cases moves with
  | @ok result stop left fewer =>
      have bound := atMost result
      exact .ok left (by omega)
  | error left possible => exact .error left possible
  | extension failed => exact .extension failed

/-- What was consumed before a run counts for the whole. -/
theorem after
    {consumed : Nat} (left : middle.IsRestOf stream)
    (fewer : middle.size + consumed ≤ stream.size)
    (later :
      MovesOn registry (fun result => least result - consumed) middle
        outcome) :
    MovesOn registry least stream outcome := by
  cases later with
  | ok leftLater fewerLater => exact .ok (leftLater.trans left) (by omega)
  | error leftLater possible => exact .error (leftLater.trans left) possible
  | extension failed => exact .extension (failed.mono left)

end MovesOn

/-- A turn that asks for another one has consumed something, and the last one
at least this much. -/
def turnLeast (last : Nat) : Turn State Result → Nat
  | .again _ => 1
  | .done _ => last

theorem turnLeast_le_one
    {last : Nat} (atMost : last ≤ 1) (turned : Turn State Result) :
    turnLeast last turned ≤ 1 := by
  cases turned with
  | again later => exact Nat.le_refl 1
  | done result => exact atMost

variable {origin : TokenStream}

namespace Moves

variable {least lower : Result → Nat} {reader : Cursor Result}

theorem weaken
    (moves : Moves registry origin least reader)
    (atMost : ∀ result, lower result ≤ least result) :
    Moves registry origin lower reader :=
  fun stream left => (moves stream left).weaken atMost

theorem pure {result : Result} (nothing : least result = 0) :
    Moves registry origin least (Pure.pure result : Cursor Result) := by
  intro stream _
  refine .ok (.refl stream) ?_
  rw [nothing]
  exact Nat.le_refl _

theorem refuse {fault : Fault} (possible : fault ≠ .noProgress) :
    Moves registry origin least (Cursor.refuse fault) := by
  intro stream _
  refine .error (.refl stream) ?_
  intro equality
  exact possible (Failure.fault.inj equality)

theorem raise (error : ParseError) :
    Moves registry origin least (Cursor.raise error) :=
  fun stream _ => .error (.refl stream) nofun

/-- The second of two readers may depend on how the first one left the
stream. -/
theorem bind_at
    {next : Result → Cursor Other} {total : Other → Nat}
    (first : Moves registry origin least reader)
    (second : ∀ {stream middle : TokenStream} {result : Result},
      reader stream = .ok result middle → middle.IsRestOf origin →
        MovesOn registry (fun other => total other - least result) middle
          (next result middle)) :
    Moves registry origin total (reader >>= next) := by
  intro stream leftOfOrigin
  have moved := first stream leftOfOrigin
  cases read : reader stream with
  | ok result middle =>
      rw [read] at moved
      rw [bind_of_ok read]
      cases moved with
      | ok left fewer =>
          have later := second read (left.trans leftOfOrigin)
          exact later.after left fewer
  | error failure stop =>
      rw [read] at moved
      rw [bind_of_error read]
      cases moved with
      | error left possible => exact .error left possible
      | extension failed => exact .extension failed

theorem bind
    {next : Result → Cursor Other} {total : Other → Nat}
    (first : Moves registry origin least reader)
    (second : ∀ result,
      Moves registry origin (fun other => total other - least result)
        (next result)) :
    Moves registry origin total (reader >>= next) :=
  first.bind_at fun {_ middle result} _ left => second result middle left

/-- Nothing that is read verbatim is read by an extension. -/
theorem verbatim
    (moves : Moves .empty origin least reader) :
    Moves registry origin least (Cursor.verbatim reader) := by
  intro stream leftOfOrigin
  have leftToo : (stream.withVerbatim true).IsRestOf origin := leftOfOrigin
  have moved := moves _ leftToo
  cases read : reader (stream.withVerbatim true) with
  | ok result stop =>
      rw [read] at moved
      rw [verbatim_of_ok read]
      cases moved with
      | ok left fewer => exact .ok left fewer
  | error failure stop =>
      rw [read] at moved
      rw [verbatim_of_error read]
      cases moved with
      | error left possible => exact .error left possible
      | extension failed =>
          obtain ⟨extension, member, _⟩ := failed
          cases member

/-! ## The steps of a cursor -/

/-- A token was consumed, if there was one. -/
theorem next :
    Moves registry origin (fun token => if token.isSome then 1 else 0)
      Cursor.next := by
  intro stream _
  rw [Cursor.next]
  rcases found : firstReport? stream.trimming stream.items with
    _ | ⟨fault | token, rest⟩
  · exact .ok (.of_suffix List.nil_suffix) (Nat.zero_le _)
  · exact .error (.of_suffix (firstReport?_suffix found)) (by simp)
  · obtain ⟨item, _, suffix⟩ := exists_of_firstReport? found
    refine .ok (.of_suffix (firstReport?_suffix found)) ?_
    exact suffix.length_le

theorem peek : Moves registry origin (fun _ => 0) Cursor.peek := by
  intro stream _
  rw [Cursor.peek]
  rcases found : firstReport? stream.trimming stream.items with
    _ | ⟨fault | token, rest⟩
  · exact .ok (.of_suffix List.nil_suffix) (Nat.zero_le _)
  · exact .error (.of_suffix (firstReport?_suffix found)) (by simp)
  · obtain ⟨item, read, suffix⟩ := exists_of_firstReport? found
    have left : Item.Remain (.token token :: rest) stream.items :=
      (Item.Remain.lookedAt read rest).trans (.of_suffix suffix)
    exact .ok left left.length_le

theorem scan
    {expected : String}
    {step : State → Token → Except Failure (Turn State Result)}
    (possible : ∀ state token, step state token ≠ .error (.fault .noProgress))
    (state : State) :
    Moves registry origin (fun _ => 1) (Cursor.scan expected step state) := by
  intro stream _
  have scanned (items : List Item) (suffix : items <:+ stream.items)
      (state : State) :
      MovesOn registry (fun _ => 1) stream
        (Cursor.scan.scanItems expected step stream items state) := by
    induction items generalizing state with
    | nil => exact .error (.of_suffix suffix) (by simp)
    | cons item rest inductionHypothesis =>
        have left : rest <:+ stream.items :=
          (List.suffix_cons item rest).trans suffix
        rw [Cursor.scan.scanItems]
        rcases read : item.read? stream.trimming with _ | fault | token
        · exact inductionHypothesis left state
        · exact .error (.of_suffix left) (by simp)
        · simp only
          rcases decided : step state token with failure | later | result
          · refine .error (.of_suffix left) ?_
            rintro rfl
            exact possible state token decided
          · exact inductionHypothesis left later
          · exact .ok (.of_suffix left) suffix.length_le
  exact scanned stream.items (List.suffix_refl _) state

theorem dropUntil (stops : Token → Bool) :
    Moves registry origin (fun _ => 0) (Cursor.dropUntil stops) := by
  intro stream _
  have dropped (items : List Item) (suffix : items <:+ stream.items) :
      MovesOn registry (fun _ => 0) stream
        (Cursor.dropUntil.dropItems stops stream items) := by
    induction items with
    | nil => exact .ok (.of_suffix suffix) (Nat.zero_le _)
    | cons item rest inductionHypothesis =>
        have left : rest <:+ stream.items :=
          (List.suffix_cons item rest).trans suffix
        rw [Cursor.dropUntil.dropItems]
        rcases read : item.read? stream.trimming with _ | fault | token
        · exact inductionHypothesis left
        · exact .error (.of_suffix left) (by simp)
        · simp only
          by_cases stop : stops token
          · rw [if_pos stop]
            have remain : Item.Remain (.token token :: rest) stream.items :=
              (Item.Remain.lookedAt read rest).trans (.of_suffix suffix)
            exact .ok remain remain.length_le
          · rw [if_neg stop]
            exact inductionHypothesis left
  exact dropped stream.items (List.suffix_refl _)

/-! ## Repetition -/

/-- A repeated reading moves forward by induction on the items that are left,
which every turn that asks for another one makes fewer. -/
theorem repeating
    {turn : State → Cursor (Turn State Result)} {last : Nat}
    (turns : ∀ state, Moves registry origin (turnLeast last) (turn state))
    (state : State) :
    Moves registry origin (fun _ => last) (Cursor.repeating turn state) := by
  intro stream leftOfOrigin
  induction bound : stream.size using Nat.strongRecOn
    generalizing state stream with
  | _ size inductionHypothesis =>
      subst bound
      have moved := turns state stream leftOfOrigin
      rcases turned : turn state stream with
        ⟨later | result, middle⟩ | ⟨failure, stop⟩
      · rw [turned] at moved
        cases moved with
        | ok left fewer =>
            have progress : middle.size < stream.size := fewer
            rw [repeating_of_again turned progress]
            have others := inductionHypothesis _ progress later middle
              (left.trans leftOfOrigin) rfl
            have noMore : middle.size + 0 ≤ stream.size := left.size_le
            exact MovesOn.after left noMore others
      · rw [turned] at moved
        rw [repeating_of_done turned]
        cases moved with
        | ok left fewer => exact .ok left fewer
      · rw [turned] at moved
        rw [repeating_of_error turned]
        cases moved with
        | error left possible => exact .error left possible
        | extension failed => exact .extension failed

/-! ## The readers put together from them -/

/-- Where nothing needs to be consumed, what was consumed before may be left
out of account. -/
theorem bind_any
    {next : Result → Cursor Other} {total : Other → Nat}
    (first : Moves registry origin (fun _ => 0) reader)
    (second : ∀ result, Moves registry origin total (next result)) :
    Moves registry origin total (reader >>= next) :=
  first.bind second

/-- After a reader that has consumed something, nothing need be consumed. -/
theorem bind_after
    {next : Result → Cursor Other}
    (first : Moves registry origin (fun _ => 1) reader)
    (second : ∀ result, Moves registry origin (fun _ => 0) (next result)) :
    Moves registry origin (fun _ => 1) (reader >>= next) :=
  first.bind second

theorem nextStartTag (expected : String) :
    Moves registry origin (fun _ => 1) (Cursor.nextStartTag expected) :=
  scan (fun _ token => by cases token <;> nofun) ()

theorem nextEndTag (expected : String) :
    Moves registry origin (fun _ => 1) (Cursor.nextEndTag expected) :=
  scan (fun _ token => by cases token <;> nofun) ()

theorem elementText (within : String) :
    Moves registry origin (fun _ => 1) (Cursor.elementText within) :=
  scan (fun _ token => by cases token <;> nofun) ""

theorem peekStartTag :
    Moves registry origin (fun _ => 0) Cursor.peekStartTag := by
  refine (dropUntil _).bind_any fun _ => peek.bind_any fun token => ?_
  split
  · exact pure rfl
  · exact pure rfl

theorem peekBoundary :
    Moves registry origin (fun _ => 0) Cursor.peekBoundary := by
  refine (dropUntil _).bind_any fun _ => peek.bind_any fun token => ?_
  split
  · exact pure rfl
  · exact pure rfl
  · exact pure rfl

theorem peekChild (within : String) :
    Moves registry origin (fun _ => 0) (Cursor.peekChild within) := by
  refine peekBoundary.bind_any fun boundary => ?_
  split
  · exact pure rfl
  · exact pure rfl
  · exact refuse nofun

theorem requiredText (within what : String) :
    Moves registry origin (fun _ => 1)
      (Cursor.requiredText within what) := by
  have ahead : Moves registry origin (fun _ => 0) hasTextAhead := by
    refine peek.bind_any fun token => ?_
    split
    · exact pure rfl
    · exact pure rfl
  refine ahead.bind_any fun isText => ?_
  split
  · refine (elementText within).bind_after fun text => ?_
    split
    · exact raise _
    · exact pure rfl
  · exact raise _

theorem skipElement :
    Moves registry origin (fun _ => 1) Cursor.skipElement := by
  refine (nextStartTag "element").bind_after fun _ => ?_
  refine (scan (fun inner token => ?_) 0).weaken fun _ => Nat.zero_le 1
  cases token <;> cases inner <;> nofun

theorem captureElement (maxDepth : Nat) :
    Moves registry origin (fun _ => 1) (Cursor.captureElement maxDepth) := by
  have possible (state : Unclosed × List Unclosed) (token : Token) :
      captureStep maxDepth state token ≠ .error (.fault .noProgress) := by
    obtain ⟨inner, outer⟩ := state
    cases token with
    | startTag tag =>
        rw [captureStep]
        split <;> nofun
    | endTag name => cases outer <;> nofun
    | text content => nofun
  refine next.bind fun token => ?_
  rcases token with _ | tag | name | content
  · exact refuse nofun
  · exact verbatim ((scan possible _).weaken fun _ => Nat.zero_le 1)
  · exact refuse nofun
  · exact refuse nofun

/-! ## Tags that were looked at -/

def Boundary.token : Boundary → Token
  | .opening tag => .startTag tag
  | .closing name => .endTag name

theorem startsWith_boundary
    {stream rest : TokenStream} {boundary : Boundary}
    (looked : Cursor.peekBoundary stream = .ok (some boundary) rest) :
    rest.StartsWith (Boundary.token boundary) := by
  obtain ⟨_, dropped, _, looked⟩ := bind_eq_ok_iff.mp looked
  obtain ⟨token, after, peeked, concluded⟩ := bind_eq_ok_iff.mp looked
  rcases token with _ | tag | name | content
  · cases concluded
  · cases concluded
    exact startsWith_of_peek peeked
  · cases concluded
    exact startsWith_of_peek peeked
  · cases concluded

theorem closeWith
    {stream : TokenStream} {token : Token} (starts : stream.StartsWith token)
    (localPart : String) (result : Result) (name : QName) :
    MovesOn registry (fun _ => 1) stream
      (Cursor.closeWith localPart result name stream) := by
  obtain ⟨items, begins⟩ := starts
  have consumed :
      Cursor.next stream = .ok (some token) { stream with items } := by
    simp only [Cursor.next, begins, firstReport?, Item.read?]
  rw [Cursor.closeWith]
  split
  · rw [bind_of_ok consumed]
    have suffix : items <:+ stream.items := by
      rw [begins]
      exact List.suffix_cons _ items
    have fewer : items.length + 1 ≤ stream.size := by
      rw [TokenStream.size, begins]
      exact Nat.le_refl _
    exact .ok (.of_suffix suffix) fewer
  · exact .error (.refl stream) (by simp)

theorem atBoundary
    {next : Option Boundary → Cursor Result}
    (opening : ∀ tag,
      Moves registry origin (fun _ => 1) (next (some (.opening tag))))
    (closing : ∃ localPart result, ∀ name,
      next (some (.closing name)) = Cursor.closeWith localPart result name)
    (ended : Moves registry origin (fun _ => 1) (next none)) :
    Moves registry origin (fun _ => 1) (Cursor.peekBoundary >>= next) := by
  refine peekBoundary.bind_at ?_
  intro stream middle boundary looked left
  rcases boundary with _ | tag | name
  · exact ended middle left
  · exact opening tag middle left
  · obtain ⟨localPart, result, closed⟩ := closing
    rw [closed name]
    exact closeWith (startsWith_boundary looked) localPart result name

theorem atTag
    {next : Option Token → Cursor Result}
    (opening : ∀ tag,
      Moves registry origin (fun _ => 1) (next (some (.startTag tag))))
    (closing : ∃ localPart result, ∀ name,
      next (some (.endTag name)) = Cursor.closeWith localPart result name)
    (texts : ∀ content,
      Moves registry origin (fun _ => 1) (next (some (.text content))))
    (ended : Moves registry origin (fun _ => 1) (next none)) :
    Moves registry origin (fun _ => 1) (Cursor.peek >>= next) := by
  refine peek.bind_at ?_
  intro stream middle token looked left
  rcases token with _ | tag | name | content
  · exact ended middle left
  · exact opening tag middle left
  · obtain ⟨localPart, result, closed⟩ := closing
    rw [closed name]
    exact closeWith (startsWith_of_peek looked) localPart result name
  · exact texts content middle left

/-- Moving forward passes to whatever readers are put together from. -/
theorem compositional (registry : Registry) (origin : TokenStream) :
    Compositional
      (fun reader => Moves registry origin (fun _ => 0) reader)
      (fun reader => Moves registry origin (fun _ => 1) reader) where
  has_of_ends ends := ends.weaken fun _ => Nat.zero_le 1
  pure _ := pure rfl
  refuse _ possible := refuse possible
  raise := raise
  bind := bind_any
  bindEnds := bind_any
  endsBind first second := by
    refine first.bind_after fun result => ?_
    rcases second result with ends | ⟨other, equality⟩
    · exact ends.weaken fun _ => Nat.zero_le 1
    · rw [equality]
      exact pure rfl
  nextStartTag := nextStartTag
  nextEndTag := nextEndTag
  peekChild := peekChild
  elementText := elementText
  skipElement := skipElement
  captureElement := captureElement
  requiredTextOf expected text := by
    refine (nextStartTag expected).bind_after fun tag => ?_
    rcases text tag with ⟨fault, refused, possible⟩ |
      ⟨within, what, later, equality, finished⟩
    · rw [refused]
      exact refuse possible
    · rw [equality]
      have required :
          Moves registry origin (fun _ => 1)
            (Cursor.requiredText within what) :=
        requiredText within what
      refine (required.weaken fun _ => Nat.zero_le 1).bind_any fun text => ?_
      rcases finished text with ends | ⟨result, concluded⟩
      · exact ends.weaken fun _ => Nat.zero_le 1
      · rw [concluded]
        exact pure rfl
  atBoundary opening closing ended := by
    obtain ⟨expected, exhausted⟩ := ended
    refine atBoundary opening closing ?_
    rw [exhausted]
    exact refuse nofun
  atTag opening closing texts ended := by
    obtain ⟨fault, refused, possible⟩ := texts
    obtain ⟨expected, exhausted⟩ := ended
    refine atTag opening closing (fun content => ?_) ?_
    · rw [refused content]
      exact refuse possible
    · rw [exhausted]
      exact refuse nofun
  searching {Seen State Result look next} looks found ended := by
    refine repeating fun state => looks.bind_any fun seen => ?_
    cases seen with
    | some seen =>
        exact (found state seen).weaken (turnLeast_le_one (Nat.zero_le 1))
    | none =>
        obtain ⟨result, equality⟩ := ended state
        rw [equality]
        exact pure rfl
  repeatingEnds turns := by
    refine repeating fun state => (turns state).weaken ?_
    exact turnLeast_le_one (Nat.le_refl 1)

end Moves

end Cursor

end WsTrust
