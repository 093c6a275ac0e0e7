import Mathlib.Data.List.Forall2
import WsTrust.Proofs.DocumentItems
import WsTrust.Proofs.Programs

/-!
# Streams that deliver the same tokens

Two streams that do not trim, and whose items report the same tokens one by
one, cannot be told apart by a program.  A document without a fault and the
list of its tokens are such streams.
-/

namespace WsTrust

/-! ## Streams that are alike -/

/-- Untrimmed, both items are reported as the same token. -/
def Item.Alike (left right : Item) : Prop :=
  ∃ token, left.read? false = some (.ok token) ∧
    right.read? false = some (.ok token)

theorem Item.Alike.refl (token : Token) :
    (Item.token token).Alike (.token token) :=
  ⟨token, rfl, rfl⟩

namespace TokenStream

/-- Neither stream trims, and their items are alike one by one. -/
structure Alike (left right : TokenStream) : Prop where
  left_untrimmed : left.trimText = false
  right_untrimmed : right.trimText = false
  items : List.Forall₂ Item.Alike left.items right.items

namespace Alike

variable {left right : TokenStream} (alike : left.Alike right)

include alike

theorem left_trimming : left.trimming = false := by
  simp only [trimming, alike.left_untrimmed, Bool.false_and]

theorem right_trimming : right.trimming = false := by
  simp only [trimming, alike.right_untrimmed, Bool.false_and]

theorem size_eq : left.size = right.size :=
  alike.items.length_eq

theorem withVerbatim (verbatim : Bool) :
    (left.withVerbatim verbatim).Alike (right.withVerbatim verbatim) :=
  ⟨alike.left_untrimmed, alike.right_untrimmed, alike.items⟩

theorem withItems
    {leftItems rightItems : List Item}
    (items : List.Forall₂ Item.Alike leftItems rightItems) :
    ({ left with items := leftItems } : TokenStream).Alike
      { right with items := rightItems } :=
  ⟨alike.left_untrimmed, alike.right_untrimmed, items⟩

theorem tokens_eq : left.tokens = right.tokens := by
  have delivered
      {leftItems rightItems : List Item}
      (items : List.Forall₂ Item.Alike leftItems rightItems) :
      deliver false leftItems = deliver false rightItems := by
    induction items with
    | nil => rfl
    | cons head _ inductionHypothesis =>
        obtain ⟨token, leftRead, rightRead⟩ := head
        simp only [deliver, leftRead, rightRead, inductionHypothesis]
  rw [tokens, tokens, alike.left_trimming, alike.right_trimming]
  exact delivered alike.items

/-- Both streams are at their end, or both report the same token next. -/
theorem head_cases :
    left.items = [] ∧ right.items = [] ∨
      ∃ token leftHead rightHead leftRest rightRest,
        left.items = leftHead :: leftRest ∧
          right.items = rightHead :: rightRest ∧
            leftHead.read? false = some (.ok token) ∧
              rightHead.read? false = some (.ok token) ∧
                List.Forall₂ Item.Alike leftRest rightRest := by
  cases leftItems : left.items with
  | nil =>
      have both := alike.items
      rw [leftItems, List.forall₂_nil_left_iff] at both
      exact Or.inl ⟨rfl, both⟩
  | cons leftHead leftRest =>
      have both := alike.items
      rw [leftItems, List.forall₂_cons_left_iff] at both
      obtain ⟨rightHead, rightRest, head, rest, rightItems⟩ := both
      obtain ⟨token, leftRead, rightRead⟩ := head
      exact Or.inr ⟨token, leftHead, rightHead, leftRest, rightRest, rfl,
        rightItems, leftRead, rightRead, rest⟩

end Alike

end TokenStream

namespace Cursor

/-! ## Readers that cannot tell such streams apart -/

variable {Result Other State : Type}

/-- Both runs give the same result or the same failure, and stop at streams
that are alike. -/
inductive EndAlike :
    EStateM.Result Failure TokenStream Result →
      EStateM.Result Failure TokenStream Result → Prop
  | ok {left right : TokenStream} (result : Result)
      (stops : left.Alike right) :
      EndAlike (.ok result left) (.ok result right)
  | error {left right : TokenStream} (failure : Failure)
      (stops : left.Alike right) :
      EndAlike (.error failure left) (.error failure right)

/-- On streams that are alike the reader does the same. -/
def Agrees (reader : Cursor Result) : Prop :=
  ∀ {left right : TokenStream}, left.Alike right →
    EndAlike (reader left) (reader right)

namespace Agrees

theorem pure (result : Result) :
    Agrees (Pure.pure result : Cursor Result) :=
  fun alike => .ok result alike

theorem fail (failure : Failure) :
    Agrees (throw failure : Cursor Result) :=
  fun alike => .error failure alike

theorem bind
    {reader : Cursor Result} {next : Result → Cursor Other}
    (first : Agrees reader) (second : ∀ result, Agrees (next result)) :
    Agrees (reader >>= next) := by
  intro left right alike
  have ended := first alike
  generalize leftRead : reader left = leftEnd,
    rightRead : reader right = rightEnd at ended
  cases ended with
  | ok result stops =>
      rw [bind_of_ok leftRead, bind_of_ok rightRead]
      exact second result stops
  | error failure stops =>
      rw [bind_of_error leftRead, bind_of_error rightRead]
      exact .error failure stops

theorem recover
    {reader : Cursor Result} {handler : Failure → Cursor Result}
    (first : Agrees reader) (second : ∀ failure, Agrees (handler failure)) :
    Agrees (tryCatch reader handler) := by
  intro left right alike
  have ended := first alike
  simp only [tryCatch, tryCatchThe, MonadExceptOf.tryCatch,
    EStateM.tryCatch]
  generalize reader left = leftEnd, reader right = rightEnd at ended
  cases ended with
  | ok result stops => exact .ok result stops
  | error failure stops => exact second failure stops

/-! ## Single tokens -/

theorem next : Agrees Cursor.next := by
  intro left right alike
  rcases alike.head_cases with ⟨leftNil, rightNil⟩ |
    ⟨token, leftHead, rightHead, leftRest, rightRest,
      leftItems, rightItems, leftRead, rightRead, rest⟩
  · simp only [Cursor.next, leftNil, rightNil, firstReport?]
    exact .ok none (alike.withItems .nil)
  · simp only [Cursor.next, alike.left_trimming, alike.right_trimming,
      leftItems, rightItems, firstReport?, leftRead, rightRead]
    exact .ok (some token) (alike.withItems rest)

theorem peek : Agrees Cursor.peek := by
  intro left right alike
  rcases alike.head_cases with ⟨leftNil, rightNil⟩ |
    ⟨token, leftHead, rightHead, leftRest, rightRest,
      leftItems, rightItems, leftRead, rightRead, rest⟩
  · simp only [Cursor.peek, leftNil, rightNil, firstReport?]
    exact .ok none (alike.withItems .nil)
  · simp only [Cursor.peek, alike.left_trimming, alike.right_trimming,
      leftItems, rightItems, firstReport?, leftRead, rightRead]
    exact .ok (some token) (alike.withItems (.cons (.refl token) rest))

theorem preserveText (verbatim : Bool) :
    Agrees (Cursor.preserveText verbatim) :=
  fun alike => .ok () (alike.withVerbatim verbatim)

/-! ## Scanning tokens -/

theorem scan
    (expected : String)
    (step : State → Token → Except Failure (Turn State Result))
    (state : State) : Agrees (Cursor.scan expected step state) := by
  intro left right alike
  have scanned
      {leftItems rightItems : List Item}
      (items : List.Forall₂ Item.Alike leftItems rightItems)
      (state : State) :
      EndAlike
        (Cursor.scan.scanItems expected step left leftItems state)
        (Cursor.scan.scanItems expected step right rightItems state) := by
    induction items generalizing state with
    | nil => exact .error _ (alike.withItems .nil)
    | cons head rest inductionHypothesis =>
        obtain ⟨token, leftRead, rightRead⟩ := head
        simp only [Cursor.scan.scanItems, alike.left_trimming,
          alike.right_trimming, leftRead, rightRead]
        rcases step state token with failure | later | result
        · exact .error failure (alike.withItems rest)
        · exact inductionHypothesis later
        · exact .ok result (alike.withItems rest)
  exact scanned alike.items state

theorem dropUntil (stops : Token → Bool) :
    Agrees (Cursor.dropUntil stops) := by
  intro left right alike
  have dropped
      {leftItems rightItems : List Item}
      (items : List.Forall₂ Item.Alike leftItems rightItems) :
      EndAlike
        (Cursor.dropUntil.dropItems stops left leftItems)
        (Cursor.dropUntil.dropItems stops right rightItems) := by
    induction items with
    | nil => exact .ok () (alike.withItems .nil)
    | cons head rest inductionHypothesis =>
        obtain ⟨token, leftRead, rightRead⟩ := head
        simp only [Cursor.dropUntil.dropItems, alike.left_trimming,
          alike.right_trimming, leftRead, rightRead]
        by_cases stop : stops token
        · simp only [if_pos stop]
          exact .ok () (alike.withItems (.cons (.refl token) rest))
        · simp only [if_neg stop]
          exact inductionHypothesis
  exact dropped alike.items

/-! ## Repetition -/

/-- Both runs make the same turns, and as their streams stay of one size they
also find the same want of progress. -/
theorem repeating
    {turn : State → Cursor (Turn State Result)}
    (turns : ∀ state, Agrees (turn state)) (state : State) :
    Agrees (Cursor.repeating turn state) := by
  intro left right alike
  induction bound : left.size using Nat.strongRecOn
    generalizing state left right with
  | _ size inductionHypothesis =>
      subst bound
      have ended := turns state alike
      rw [Cursor.repeating, Cursor.repeating]
      generalize turn state left = leftEnd, turn state right = rightEnd
        at ended
      cases ended with
      | error failure stops => exact .error failure stops
      | @ok leftStop rightStop decided stops =>
          cases decided with
          | done result => exact .ok result stops
          | again later =>
              simp only [← alike.size_eq, ← stops.size_eq]
              by_cases smaller : leftStop.size < left.size
              · simp only [if_pos smaller]
                exact inductionHypothesis _ smaller later stops rfl
              · simp only [if_neg smaller]
                exact .error _ stops

end Agrees

/-- A program does the same on streams that are alike. -/
theorem IsProgram.agrees
    {reader : Cursor Result} (program : IsProgram reader) :
    Agrees reader := by
  induction program with
  | pure result => exact Agrees.pure result
  | fail failure => exact Agrees.fail failure
  | bind _ _ first second => exact first.bind second
  | recover _ _ first second => exact first.recover second
  | next => exact Agrees.next
  | peek => exact Agrees.peek
  | preserveText verbatim => exact Agrees.preserveText verbatim
  | scan expected step state => exact Agrees.scan expected step state
  | dropUntil stops => exact Agrees.dropUntil stops
  | repeating _ state turns => exact Agrees.repeating turns state

/-- What a run yields, with the tokens that are still unread where it
stops. -/
def outcome (reader : Cursor Result) (stream : TokenStream) :
    Except Failure Result × Interrupted Token Xml.DocumentFault :=
  match reader stream with
  | .ok result rest => (.ok result, rest.tokens)
  | .error failure rest => (.error failure, rest.tokens)

theorem IsProgram.outcome_eq
    {reader : Cursor Result} (program : IsProgram reader)
    {left right : TokenStream} (alike : left.Alike right) :
    outcome reader left = outcome reader right := by
  have ended := program.agrees alike
  rw [outcome, outcome]
  generalize reader left = leftEnd, reader right = rightEnd at ended
  cases ended with
  | ok result stops => simp only [stops.tokens_eq]
  | error failure stops => simp only [stops.tokens_eq]

end Cursor

/-! ## Documents -/

theorem Item.read?_untrimmed_eq_none_iff {item : Item} :
    item.read? false = none ↔ item = .characters "" := by
  cases item with
  | token delivered => simp [read?]
  | fault cause => simp [read?]
  | characters content => simp [read?]

/-- Items that all report something report what they deliver one by one. -/
theorem TokenStream.alike_of_deliver
    {items : List Item} (reported : Item.characters "" ∉ items)
    {tokens : List Token} (delivered : deliver false items = ⟨tokens, none⟩) :
    List.Forall₂ Item.Alike items (tokens.map Item.token) := by
  induction items generalizing tokens with
  | nil =>
      cases delivered
      exact .nil
  | cons item rest inductionHypothesis =>
      rw [List.mem_cons, not_or] at reported
      rw [deliver] at delivered
      rcases read : item.read? false with _ | fault | token
      · have empty := Item.read?_untrimmed_eq_none_iff.mp read
        exact absurd empty.symm reported.1
      · rw [read] at delivered
        cases delivered
      · rw [read] at delivered
        have whole :
            (deliver false rest).cons token = ⟨tokens, none⟩ := delivered
        rw [Interrupted.cons, Interrupted.mk.injEq] at whole
        obtain ⟨rfl, unfailing⟩ := whole
        have later : deliver false rest = ⟨(deliver false rest).items, none⟩ :=
          congrArg (Interrupted.mk _) unfailing
        exact .cons ⟨token, read, rfl⟩
          (inductionHypothesis reported.2 later)

/-- A document without a fault delivers its tokens as they are delivered from
a list. -/
theorem TokenStream.ofXml_alike_ofTokens
    {text : String} {tokens : List Token}
    (tokenized : (ofXml false text).tokens = ⟨tokens, none⟩) :
    (ofXml false text).Alike (ofTokens tokens) :=
  ⟨rfl, rfl,
    alike_of_deliver (Xml.characters_empty_not_mem_documentItems text)
      tokenized⟩

theorem Payload.readXml_eq_outcome
    (registry : Registry) (settings : Settings) (text : String) :
    readXml registry settings text =
      (Cursor.outcome (read registry settings.maxDepth)
        (.ofXml settings.trimText text)).1 := by
  rw [readXml, Cursor.outcome]
  cases read registry settings.maxDepth (.ofXml settings.trimText text) <;>
    rfl

/-- Reading a document untrimmed gives what reading its tokens gives, the same
message or the same failure, and leaves the same tokens unread. -/
theorem Payload.read_document_eq_read_tokens
    {registry : Registry} (programs : registry.HasPrograms)
    (maxDepth : Nat) {text : String} {tokens : List Token}
    (tokenized : (TokenStream.ofXml false text).tokens = ⟨tokens, none⟩) :
    Cursor.outcome (read registry maxDepth) (.ofXml false text) =
        Cursor.outcome (read registry maxDepth) (.ofTokens tokens) ∧
      readXml registry ⟨false, maxDepth⟩ text =
        (Cursor.outcome (read registry maxDepth) (.ofTokens tokens)).1 := by
  have alike := TokenStream.ofXml_alike_ofTokens tokenized
  have same :=
    (read_isProgram programs maxDepth).outcome_eq alike
  refine ⟨same, ?_⟩
  rw [← same]
  exact readXml_eq_outcome registry ⟨false, maxDepth⟩ text

def spacedMessage : String :=
  "<RequestSecurityToken> <OnBehalfOf><Id> x&amp;y </Id>\n" ++
    "</OnBehalfOf></RequestSecurityToken>\n"

/-- The tokens of the message, the last of which its reader leaves unread. -/
def spacedTokens : List Token :=
  [.startTag ⟨.ofParts "" "RequestSecurityToken", []⟩, .text " ",
    .startTag ⟨.ofParts "" "OnBehalfOf", []⟩,
    .startTag ⟨.ofParts "" "Id", []⟩, .text " x&y ",
    .endTag (.ofParts "" "Id"), .text "\n",
    .endTag (.ofParts "" "OnBehalfOf"),
    .endTag (.ofParts "" "RequestSecurityToken"), .text "\n"]

theorem spacedMessage_is_read_as_its_tokens :
    Registry.standard.HasPrograms ∧
      (TokenStream.ofXml false spacedMessage).tokens =
        ⟨spacedTokens, none⟩ ∧
      Cursor.outcome (Payload.read .standard 1)
          (.ofXml false spacedMessage) =
        Cursor.outcome (Payload.read .standard 1)
          (.ofTokens spacedTokens) ∧
      Payload.readXml .standard ⟨false, 1⟩ spacedMessage =
        (Cursor.outcome (Payload.read .standard 1)
          (.ofTokens spacedTokens)).1 := by
  have programs := Registry.standard_hasPrograms
  have tokenized :
      (TokenStream.ofXml false spacedMessage).tokens =
        ⟨spacedTokens, none⟩ := by
    decide +kernel
  exact ⟨programs, tokenized,
    Payload.read_document_eq_read_tokens programs 1 tokenized⟩

end WsTrust
