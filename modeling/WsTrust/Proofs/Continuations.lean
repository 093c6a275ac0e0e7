import WsTrust.Proofs.Programs

/-!
# What follows a message

A program that stops before the end of some prepared tokens has not seen those
it stopped at, so it does the same whatever they are.  A message that stops
right behind its tokens has consumed an end tag last, unless the stream ended
there, so it does not see what follows either.
-/

namespace WsTrust

namespace Cursor

variable {Result Other State : Type}

deriving instance DecidableEq for EStateM.Result

/-! ## Readers that see nothing of what they leave -/

def stoppingAt :
    EStateM.Result Failure TokenStream Result → TokenStream →
      EStateM.Result Failure TokenStream Result
  | .ok result _, stop => .ok result stop
  | .error failure _, stop => .error failure stop

/-- The reader only moves forward, and if it leaves one of its own tokens, it
does the same with other tokens after those. -/
structure Nearsighted (reader : Cursor Result) : Prop where
  advances : Advances reader
  unaware {stream after : TokenStream} {tokens left rest : List Token}
    (leaves : left ≠ [])
    (stopped :
      stopOf (reader (stream.withTokens (tokens ++ rest))) =
        after.withTokens (left ++ rest))
    (other : TokenStream) (others : List Token) :
    ∃ stop : TokenStream,
      reader (other.withTokens (tokens ++ others)) =
        stoppingAt (reader (stream.withTokens (tokens ++ rest)))
          (stop.withTokens (left ++ others))

theorem withTokens_injective
    {stream other : TokenStream} {tokens others : List Token}
    (equality : stream.withTokens tokens = other.withTokens others) :
    tokens = others := by
  have held : (stream.withTokens tokens).Holds others := by
    rw [equality]
    exact other.holds_withTokens others
  exact (stream.holds_withTokens_iff tokens others).mp held

theorem tryCatch_of_ok
    {reader : Cursor Result} {stream stop : TokenStream} {result : Result}
    (read : reader stream = .ok result stop)
    (handler : Failure → Cursor Result) :
    tryCatch reader handler stream = .ok result stop := by
  simp only [tryCatch, tryCatchThe, MonadExceptOf.tryCatch,
    EStateM.tryCatch, read]

theorem tryCatch_of_error
    {reader : Cursor Result} {stream stop : TokenStream} {failure : Failure}
    (failed : reader stream = .error failure stop)
    (handler : Failure → Cursor Result) :
    tryCatch reader handler stream = handler failure stop := by
  simp only [tryCatch, tryCatchThe, MonadExceptOf.tryCatch,
    EStateM.tryCatch, failed]
  rfl

namespace Nearsighted

theorem unaware_ok
    {reader : Cursor Result} (sight : Nearsighted reader)
    {stream after : TokenStream} {tokens left rest : List Token}
    {result : Result} (leaves : left ≠ [])
    (succeeded :
      reader (stream.withTokens (tokens ++ rest)) =
        .ok result (after.withTokens (left ++ rest)))
    (other : TokenStream) (others : List Token) :
    ∃ stop : TokenStream,
      reader (other.withTokens (tokens ++ others)) =
        .ok result (stop.withTokens (left ++ others)) := by
  have stopped := congrArg stopOf succeeded
  obtain ⟨stop, same⟩ := sight.unaware leaves stopped other others
  rw [succeeded] at same
  exact ⟨stop, same⟩

theorem unaware_error
    {reader : Cursor Result} (sight : Nearsighted reader)
    {stream after : TokenStream} {tokens left rest : List Token}
    {failure : Failure} (leaves : left ≠ [])
    (failed :
      reader (stream.withTokens (tokens ++ rest)) =
        .error failure (after.withTokens (left ++ rest)))
    (other : TokenStream) (others : List Token) :
    ∃ stop : TokenStream,
      reader (other.withTokens (tokens ++ others)) =
        .error failure (stop.withTokens (left ++ others)) := by
  have stopped := congrArg stopOf failed
  obtain ⟨stop, same⟩ := sight.unaware leaves stopped other others
  rw [failed] at same
  exact ⟨stop, same⟩

/-- What a reader leaves is a suffix of what it was given. -/
theorem suffix_of_stop
    {reader : Cursor Result} (advances : Advances reader)
    {stream after : TokenStream} {tokens left : List Token}
    (stopped :
      stopOf (reader (stream.withTokens tokens)) = after.withTokens left) :
    left <:+ tokens := by
  obtain ⟨_, remaining, stoppedToo, suffix⟩ := advances stream tokens
  rw [stopped] at stoppedToo
  rwa [withTokens_injective stoppedToo]

/-- A reader that leaves one of its own tokens was given one. -/
theorem ne_nil
    {reader : Cursor Result} (advances : Advances reader)
    {stream after : TokenStream} {tokens left rest : List Token}
    (leaves : left ≠ [])
    (stopped :
      stopOf (reader (stream.withTokens (tokens ++ rest))) =
        after.withTokens (left ++ rest)) :
    tokens ≠ [] := by
  rintro rfl
  have shorter := (suffix_of_stop advances stopped).length_le
  simp only [List.length_append, List.nil_append] at shorter
  have nonempty := List.length_pos_iff.mpr leaves
  omega

theorem pure (result : Result) :
    Nearsighted (Pure.pure result : Cursor Result) where
  advances := .pure result
  unaware {stream after tokens left rest} _ stopped other others := by
    have same : tokens ++ rest = left ++ rest :=
      withTokens_injective stopped
    rw [List.append_cancel_right same]
    exact ⟨other, rfl⟩

theorem fail (failure : Failure) :
    Nearsighted (throw failure : Cursor Result) where
  advances stream tokens := ⟨stream, tokens, rfl, List.suffix_refl tokens⟩
  unaware {stream after tokens left rest} _ stopped other others := by
    have same : tokens ++ rest = left ++ rest :=
      withTokens_injective stopped
    rw [List.append_cancel_right same]
    exact ⟨other, rfl⟩

theorem bind
    {reader : Cursor Result} {next : Result → Cursor Other}
    (first : Nearsighted reader)
    (second : ∀ result, Nearsighted (next result)) :
    Nearsighted (reader >>= next) where
  advances := first.advances.bind fun result => (second result).advances
  unaware {stream after tokens left rest} leaves stopped other others := by
    cases read : reader (stream.withTokens (tokens ++ rest)) with
    | error failure stop =>
        rw [bind_of_error read] at stopped ⊢
        simp only [stopOf] at stopped
        subst stopped
        obtain ⟨stop, same⟩ := first.unaware_error leaves read other others
        exact ⟨stop, bind_of_error same⟩
    | ok result stop =>
        rw [bind_of_ok read] at stopped ⊢
        obtain ⟨middle, remaining, rfl, _⟩ := first.advances.of_ok read
        obtain ⟨consumed, rfl⟩ :=
          suffix_of_stop (second result).advances stopped
        rw [← List.append_assoc] at read stopped ⊢
        have leavesToo : consumed ++ left ≠ [] :=
          List.append_ne_nil_of_right_ne_nil consumed leaves
        obtain ⟨there, same⟩ :=
          first.unaware_ok leavesToo read other others
        rw [bind_of_ok same]
        exact (second result).unaware leaves stopped there others

theorem recover
    {reader : Cursor Result} {handler : Failure → Cursor Result}
    (first : Nearsighted reader)
    (second : ∀ failure, Nearsighted (handler failure)) :
    Nearsighted (tryCatch reader handler) where
  advances stream tokens := by
    obtain ⟨middle, left, stopped, suffix⟩ := first.advances stream tokens
    cases read : reader (stream.withTokens tokens) with
    | ok result stop =>
        rw [read] at stopped
        rw [tryCatch_of_ok read]
        exact ⟨middle, left, stopped, suffix⟩
    | error failure stop =>
        obtain ⟨after, remaining, stoppedToo, suffixToo⟩ :=
          (second failure).advances middle left
        rw [read, stopOf] at stopped
        rw [← stopped] at stoppedToo
        rw [tryCatch_of_error read]
        exact ⟨after, remaining, stoppedToo, suffixToo.trans suffix⟩
  unaware {stream after tokens left rest} leaves stopped other others := by
    cases read : reader (stream.withTokens (tokens ++ rest)) with
    | ok result stop =>
        rw [tryCatch_of_ok read] at stopped ⊢
        simp only [stopOf] at stopped
        subst stopped
        obtain ⟨stop, same⟩ := first.unaware_ok leaves read other others
        exact ⟨stop, tryCatch_of_ok same handler⟩
    | error failure stop =>
        rw [tryCatch_of_error read] at stopped ⊢
        obtain ⟨middle, remaining, stoppedFirst, _⟩ :=
          first.advances stream (tokens ++ rest)
        rw [read, stopOf] at stoppedFirst
        subst stoppedFirst
        obtain ⟨consumed, rfl⟩ :=
          suffix_of_stop (second failure).advances stopped
        rw [← List.append_assoc] at read stopped ⊢
        have leavesToo : consumed ++ left ≠ [] :=
          List.append_ne_nil_of_right_ne_nil consumed leaves
        obtain ⟨there, same⟩ :=
          first.unaware_error leavesToo read other others
        rw [tryCatch_of_error same]
        exact (second failure).unaware leaves stopped there others

/-! ## The steps of a cursor -/

/-- A step that leaves one of its own tokens was given one to begin with. -/
theorem of_head
    {reader : Cursor Result} (advances : Advances reader)
    (unaware : ∀ {stream after : TokenStream} {head : Token}
      {tail left rest : List Token}, left ≠ [] →
      stopOf (reader (stream.withTokens (head :: (tail ++ rest)))) =
        after.withTokens (left ++ rest) →
      ∀ (other : TokenStream) (others : List Token),
        ∃ stop : TokenStream,
          reader (other.withTokens (head :: (tail ++ others))) =
            stoppingAt
              (reader (stream.withTokens (head :: (tail ++ rest))))
              (stop.withTokens (left ++ others))) :
    Nearsighted reader where
  advances := advances
  unaware {stream after tokens left rest} leaves stopped other others := by
    have nonempty := ne_nil advances leaves stopped
    cases tokens with
    | nil => exact absurd rfl nonempty
    | cons head tail => exact unaware leaves stopped other others

theorem next : Nearsighted Cursor.next := by
  apply of_head next_advances
  intro stream after head tail left rest _ stopped other others
  have same : tail ++ rest = left ++ rest := withTokens_injective stopped
  rw [List.append_cancel_right same]
  exact ⟨other, rfl⟩

theorem peek : Nearsighted Cursor.peek := by
  apply of_head peek_advances
  intro stream after head tail left rest _ stopped other others
  have same : head :: tail ++ rest = left ++ rest :=
    withTokens_injective stopped
  rw [← List.append_cancel_right same]
  exact ⟨other, rfl⟩

theorem preserveText (verbatim : Bool) :
    Nearsighted (Cursor.preserveText verbatim) where
  advances stream tokens :=
    ⟨stream.withVerbatim verbatim, tokens, rfl, List.suffix_refl tokens⟩
  unaware {stream after tokens left rest} _ stopped other others := by
    have switched (stream : TokenStream) (tokens : List Token) :
        Cursor.preserveText verbatim (stream.withTokens tokens) =
          .ok () ((stream.withVerbatim verbatim).withTokens tokens) := rfl
    rw [switched] at stopped
    have same : tokens ++ rest = left ++ rest :=
      withTokens_injective stopped
    rw [List.append_cancel_right same]
    exact ⟨other.withVerbatim verbatim, rfl⟩

theorem scan
    (expected : String)
    (step : State → Token → Except Failure (Turn State Result))
    (state : State) : Nearsighted (Cursor.scan expected step state) where
  advances := scan_advances expected step state
  unaware {stream after tokens left rest} leaves stopped other others := by
    induction tokens generalizing state with
    | nil =>
        exact absurd rfl
          (ne_nil (scan_advances expected step state) leaves stopped)
    | cons head tail inductionHypothesis =>
        simp only [List.cons_append, scan_cons] at stopped ⊢
        rcases decided : step state head with failure | later | result
        · rw [decided] at stopped
          have same : tail ++ rest = left ++ rest :=
            withTokens_injective stopped
          rw [List.append_cancel_right same]
          exact ⟨other, rfl⟩
        · rw [decided] at stopped
          exact inductionHypothesis later stopped
        · rw [decided] at stopped
          have same : tail ++ rest = left ++ rest :=
            withTokens_injective stopped
          rw [List.append_cancel_right same]
          exact ⟨other, rfl⟩

theorem dropUntil (stops : Token → Bool) :
    Nearsighted (Cursor.dropUntil stops) where
  advances := dropUntil_advances stops
  unaware {stream after tokens left rest} leaves stopped other others := by
    induction tokens with
    | nil =>
        exact absurd rfl (ne_nil (dropUntil_advances stops) leaves stopped)
    | cons head tail inductionHypothesis =>
        simp only [List.cons_append, dropUntil_withTokens,
          List.dropWhile_cons] at stopped inductionHypothesis ⊢
        by_cases stop : stops head
        · simp only [stop, Bool.not_true, Bool.false_eq_true, if_false]
            at stopped ⊢
          have same : head :: tail ++ rest = left ++ rest :=
            withTokens_injective stopped
          rw [← List.append_cancel_right same]
          exact ⟨other, rfl⟩
        · simp only [stop, Bool.not_false, if_true] at stopped ⊢
          exact inductionHypothesis stopped

/-! ## Repetition -/

theorem repeating
    {turn : State → Cursor (Turn State Result)}
    (turns : ∀ state, Nearsighted (turn state)) (state : State) :
    Nearsighted (Cursor.repeating turn state) where
  advances := repeating_advances (fun state => (turns state).advances) state
  unaware {stream after tokens left rest} leaves stopped other others := by
    induction bound : tokens.length using Nat.strongRecOn
      generalizing state stream tokens other with
    | _ length inductionHypothesis =>
        subst bound
        have first := turns state
        rcases turned : turn state (stream.withTokens (tokens ++ rest)) with
          ⟨later | result, stop⟩ | ⟨failure, stop⟩
        · obtain ⟨middle, remaining, rfl, _⟩ := first.advances.of_ok turned
          by_cases progress :
              (middle.withTokens remaining).size <
                (stream.withTokens (tokens ++ rest)).size
          · rw [repeating_of_again turned progress] at stopped ⊢
            have others' := repeating_advances
              (fun state => (turns state).advances) later
            obtain ⟨consumed, rfl⟩ := suffix_of_stop others' stopped
            rw [← List.append_assoc] at turned stopped progress ⊢
            have leavesToo : consumed ++ left ≠ [] :=
              List.append_ne_nil_of_right_ne_nil consumed leaves
            obtain ⟨there, same⟩ :=
              first.unaware_ok leavesToo turned other others
            simp only [TokenStream.size_withTokens, List.length_append]
              at progress
            have progressToo :
                (there.withTokens (consumed ++ left ++ others)).size <
                  (other.withTokens (tokens ++ others)).size := by
              simp only [TokenStream.size_withTokens, List.length_append]
              omega
            rw [repeating_of_again same progressToo]
            refine inductionHypothesis _ ?_ later stopped there rfl
            simp only [List.length_append]
            omega
          · rw [repeating_of_stuck turned progress] at stopped ⊢
            have same : remaining = left ++ rest :=
              withTokens_injective stopped
            subst same
            obtain ⟨there, same⟩ :=
              first.unaware_ok leaves turned other others
            simp only [TokenStream.size_withTokens, List.length_append]
              at progress
            have stuckToo :
                ¬ (there.withTokens (left ++ others)).size <
                  (other.withTokens (tokens ++ others)).size := by
              simp only [TokenStream.size_withTokens, List.length_append]
              omega
            exact ⟨there, repeating_of_stuck same stuckToo⟩
        · rw [repeating_of_done turned] at stopped ⊢
          simp only [stopOf] at stopped
          subst stopped
          obtain ⟨stop, same⟩ := first.unaware_ok leaves turned other others
          exact ⟨stop, repeating_of_done same⟩
        · rw [repeating_of_error turned] at stopped ⊢
          simp only [stopOf] at stopped
          subst stopped
          obtain ⟨stop, same⟩ :=
            first.unaware_error leaves turned other others
          exact ⟨stop, repeating_of_error same⟩

end Nearsighted

/-- A program sees nothing of the tokens it leaves. -/
theorem IsProgram.nearsighted
    {reader : Cursor Result} (program : IsProgram reader) :
    Nearsighted reader := by
  induction program with
  | pure result => exact .pure result
  | fail failure => exact .fail failure
  | bind _ _ first second => exact first.bind second
  | recover _ _ first second => exact first.recover second
  | next => exact .next
  | peek => exact .peek
  | preserveText verbatim => exact .preserveText verbatim
  | scan expected step state => exact .scan expected step state
  | dropUntil stops => exact .dropUntil stops
  | repeating _ state turns => exact .repeating turns state

/-! ## Readers that close what they read -/

/-- A reader that, if it stops exactly where other tokens begin with one of the
last results, has consumed a token of its own, and gives the same result
whatever follows. -/
structure Closes (last : Result → Prop) (reader : Cursor Result) : Prop
    extends Nearsighted reader where
  closes {stream after : TokenStream} {tokens rest : List Token}
    {result : Result} (wanted : last result) (follows : rest ≠ [])
    (succeeded :
      reader (stream.withTokens (tokens ++ rest)) =
        .ok result (after.withTokens rest)) :
    tokens ≠ [] ∧ Reads reader tokens result

def anyResult : Result → Prop := fun _ => True

/-- The results of a turn that does not ask for another one. -/
def isDone : Turn State Result → Prop
  | .again _ => False
  | .done _ => True

namespace Closes

theorem refuse (last : Result → Prop) (fault : Fault) :
    Closes last (Cursor.refuse fault : Cursor Result) where
  toNearsighted := .fail (.fault fault)
  closes _ _ succeeded := nomatch succeeded

/-- The second of two readers closes what the first one begins. -/
theorem closes_after
    {reader : Cursor Result} {next : Result → Cursor Other}
    {last : Other → Prop} {stream stop after : TokenStream}
    {tokens rest : List Token} {result : Result} {other : Other}
    (first : Nearsighted reader) (second : Closes last (next result))
    (wanted : last other) (follows : rest ≠ [])
    (read :
      reader (stream.withTokens (tokens ++ rest)) = .ok result stop)
    (concluded : next result stop = .ok other (after.withTokens rest)) :
    tokens ≠ [] ∧ Reads (reader >>= next) tokens other := by
  obtain ⟨middle, remaining, rfl, _⟩ := first.advances.of_ok read
  obtain ⟨consumed, rfl⟩ :=
    Nearsighted.suffix_of_stop second.advances (congrArg stopOf concluded)
  obtain ⟨nonempty, closed⟩ := second.closes wanted follows concluded
  refine ⟨Nearsighted.ne_nil first.advances nonempty (congrArg stopOf read),
    fun stream others => ?_⟩
  obtain ⟨there, same⟩ := first.unaware_ok nonempty read stream others
  obtain ⟨stop, finished⟩ := closed there others
  exact ⟨stop, by rw [bind_of_ok same, finished]⟩

/-- Before a reader that closes, a reader may do what it likes. -/
theorem bind
    {reader : Cursor Result} {next : Result → Cursor Other}
    {last : Other → Prop} (first : Nearsighted reader)
    (second : ∀ result, Closes last (next result)) :
    Closes last (reader >>= next) where
  toNearsighted := first.bind fun result => (second result).toNearsighted
  closes wanted follows succeeded := by
    obtain ⟨result, stop, read, concluded⟩ := bind_eq_ok_iff.mp succeeded
    exact closes_after first (second result) wanted follows read concluded

theorem map
    {reader : Cursor Result} (closes : Closes anyResult reader)
    (change : Result → Other) :
    Closes anyResult (change <$> reader) where
  toNearsighted := by
    rw [map_eq_bind]
    exact closes.toNearsighted.bind fun result => .pure (change result)
  closes {stream after tokens rest other} _ follows succeeded := by
    obtain ⟨result, read, rfl⟩ := map_eq_ok_iff.mp succeeded
    obtain ⟨nonempty, closed⟩ := closes.closes trivial follows read
    exact ⟨nonempty, closed.map change⟩

/-- A turn that asks for another one leaves the closing to that one. -/
theorem again
    {reader : Cursor Other} (sight : Nearsighted reader)
    (later : Other → State) :
    Closes isDone
      (do
        let read ← reader
        return (.again (later read) : Turn State Result)) where
  toNearsighted := sight.bind fun read => .pure (Turn.again (later read))
  closes {stream after tokens rest turned} final _ succeeded := by
    obtain ⟨read, stop, _, concluded⟩ := bind_eq_ok_iff.mp succeeded
    cases concluded
    exact absurd final id

theorem closeWith
    (last : Result → Prop) (localPart : String) (result : Result)
    (name : QName) :
    Closes last (Cursor.closeWith localPart result name) where
  toNearsighted := (IsProgram.closeWith localPart result name).nearsighted
  closes {stream after tokens rest value} _ follows succeeded := by
    rw [Cursor.closeWith] at succeeded ⊢
    by_cases named : name.localPart = localPart
    · rw [if_pos named] at succeeded ⊢
      cases tokens with
      | nil =>
          cases rest with
          | nil => exact absurd rfl follows
          | cons head tail =>
              rw [List.nil_append, bind_of_ok (next_cons ..)] at succeeded
              have stopped :
                  stream.withTokens tail = after.withTokens (head :: tail) :=
                congrArg stopOf succeeded
              have same := withTokens_injective stopped
              exact absurd same.symm (List.cons_ne_self head tail)
      | cons head tail =>
          refine ⟨List.cons_ne_nil head tail, ?_⟩
          rw [List.cons_append, bind_of_ok (next_cons ..)] at succeeded
          have stopped :
              stream.withTokens (tail ++ rest) = after.withTokens rest :=
            congrArg stopOf succeeded
          have same := withTokens_injective stopped
          rw [List.append_left_eq_self.mp same]
          obtain ⟨rfl, _⟩ := EStateM.Result.ok.inj succeeded
          exact (next_reads head).bind_last (.pure result)
    · rw [if_neg named] at succeeded
      cases succeeded

/-- Where there is no tag to look at, there is nothing that could follow. -/
theorem untilEnd
    {next : Option Boundary → Cursor Result} {last : Result → Prop}
    (boundary : ∀ boundary, Closes last (next (some boundary)))
    (ended : Nearsighted (next none)) :
    Closes last (Cursor.peekBoundary >>= next) where
  toNearsighted := by
    refine IsProgram.peekBoundary.nearsighted.bind fun seen => ?_
    cases seen with
    | none => exact ended
    | some seen => exact (boundary seen).toNearsighted
  closes {stream after tokens rest result} wanted follows succeeded := by
    have looked := peekBoundary_withTokens (tokens ++ rest) stream
    rw [bind_of_ok looked] at succeeded
    have sight := IsProgram.peekBoundary.nearsighted
    cases seen : boundaryOf ((tokens ++ rest).dropWhile Token.isText) with
    | none =>
        rw [seen, dropWhile_isText_eq_nil seen] at succeeded
        have left := Nearsighted.suffix_of_stop ended.advances
          (congrArg stopOf succeeded)
        exact absurd (List.suffix_nil.mp left) follows
    | some tag =>
        rw [seen] at looked succeeded
        exact closes_after sight (boundary tag) wanted follows looked
          succeeded

/-- The last of the turns closes what all of them read. -/
theorem repeating
    {turn : State → Cursor (Turn State Result)}
    (turns : ∀ state, Closes isDone (turn state)) (state : State) :
    Closes anyResult (Cursor.repeating turn state) where
  toNearsighted :=
    .repeating (fun state => (turns state).toNearsighted) state
  closes {stream after tokens rest result} _ follows succeeded := by
    induction bound : tokens.length using Nat.strongRecOn
      generalizing state stream tokens with
    | _ length inductionHypothesis =>
        subst bound
        have first := turns state
        rcases turned : turn state (stream.withTokens (tokens ++ rest)) with
          ⟨later | value, stop⟩ | ⟨failure, stop⟩
        · obtain ⟨middle, remaining, rfl, _⟩ := first.advances.of_ok turned
          by_cases progress :
              (middle.withTokens remaining).size <
                (stream.withTokens (tokens ++ rest)).size
          · rw [repeating_of_again turned progress] at succeeded
            have others := repeating_advances
              (fun state => (turns state).advances) later
            obtain ⟨consumed, rfl⟩ :=
              Nearsighted.suffix_of_stop others (congrArg stopOf succeeded)
            simp only [TokenStream.size_withTokens, List.length_append,
              Nat.add_lt_add_iff_right] at progress
            obtain ⟨nonempty, closed⟩ :=
              inductionHypothesis _ progress later succeeded rfl
            refine ⟨Nearsighted.ne_nil first.advances nonempty
              (congrArg stopOf turned), fun stream others => ?_⟩
            obtain ⟨there, same⟩ :=
              first.unaware_ok nonempty turned stream others
            obtain ⟨stop, finished⟩ := closed there others
            have progressToo :
                (there.withTokens (consumed ++ others)).size <
                  (stream.withTokens (tokens ++ others)).size := by
              simp only [TokenStream.size_withTokens, List.length_append]
              omega
            exact ⟨stop, by
              rw [repeating_of_again same progressToo, finished]⟩
          · rw [repeating_of_stuck turned progress] at succeeded
            cases succeeded
        · rw [repeating_of_done turned] at succeeded
          cases succeeded
          have final : isDone (.done result : Turn State Result) := trivial
          obtain ⟨nonempty, closed⟩ := first.closes final follows turned
          refine ⟨nonempty, fun stream others => ?_⟩
          obtain ⟨there, same⟩ := closed stream others
          exact ⟨there, repeating_of_done same⟩
        · rw [repeating_of_error turned] at succeeded
          cases succeeded

end Closes

end Cursor

/-! ## Messages -/

open Cursor

namespace BodyGrammar

variable {Record Child : Type} {grammar : BodyGrammar Record Child}
  {registry : Registry} (programs : registry.HasPrograms) {maxDepth : Nat}
  (children : ∀ row ∈ grammar.children, IsProgram (row.2 maxDepth))

include programs children

theorem readRest_closes (record : Record) :
    Closes anyResult (grammar.readRest registry maxDepth record) := by
  refine Closes.repeating (fun record => ?_) record
  refine Closes.untilEnd (fun boundary => ?_) (.pure _)
  cases boundary with
  | opening tag =>
      have child := IsProgram.compositional.readChild programs children
        tag.name
      exact .again child.nearsighted fun read =>
        grammar.addOptional record read
  | closing name => exact .closeWith isDone grammar.elementName _ name

theorem read_closes :
    Closes anyResult (grammar.read registry maxDepth) :=
  .bind (IsProgram.nextStartTag _).nearsighted fun _ =>
    readRest_closes programs children _

theorem readCollection_closes (elementName : String) :
    Closes anyResult
      (grammar.readCollection registry maxDepth elementName) := by
  have entered := IsProgram.compositional.enter elementName
  refine Closes.bind entered.nearsighted fun _ => ?_
  refine Closes.repeating (fun earlier => ?_) []
  refine Closes.untilEnd (fun boundary => ?_) (.fail _)
  cases boundary with
  | opening tag =>
      dsimp only
      split
      · have body := read_closes programs children
        exact .again body.toNearsighted fun read => read :: earlier
      · exact .refuse isDone _
  | closing name => exact .closeWith isDone elementName _ name

end BodyGrammar

namespace Payload

def readEach (registry : Registry) (maxDepth : Nat) :
    Nat → Cursor (List Payload)
  | 0 => return []
  | count + 1 => do
      let first ← read registry maxDepth
      let others ← readEach registry maxDepth count
      return first :: others

/-- Some tokens, with the message that is read from them if other tokens
follow. -/
structure Completed (registry : Registry) (maxDepth : Nat) where
  tokens : List Token
  payload : Payload
  rest : List Token
  after : TokenStream
  follows : rest ≠ []
  succeeded :
    read registry maxDepth (.ofTokens (tokens ++ rest)) = .ok payload after
  stopped : after.Holds rest

section Programs

variable {registry : Registry} (programs : registry.HasPrograms)
  (maxDepth : Nat)

include programs

theorem read_closes : Closes anyResult (read registry maxDepth) := by
  have composes := IsProgram.compositional.toCompositional
  have responses := composes.responseChildren maxDepth
  have requests := composes.requestChildren maxDepth
  have kinds (kind : Kind) :
      Closes anyResult (readKind registry maxDepth kind) := by
    cases kind with
    | request =>
        exact (BodyGrammar.read_closes programs requests).map _
    | response =>
        exact (BodyGrammar.read_closes programs responses).map _
    | requestCollection =>
        exact (BodyGrammar.readCollection_closes programs requests _).map _
    | responseCollection =>
        exact (BodyGrammar.readCollection_closes programs responses _).map _
  refine Closes.bind IsProgram.peekStartTag.nearsighted fun root => ?_
  split
  · exact .refuse anyResult _
  · split
    · exact kinds _
    · exact .refuse anyResult _

/-- A message that was read up to exactly where other tokens begin is read from
its own tokens alone. -/
theorem reads_of_completed
    {tokens rest : List Token} {payload : Payload} {after : TokenStream}
    (follows : rest ≠ [])
    (succeeded :
      read registry maxDepth (.ofTokens (tokens ++ rest)) =
        .ok payload after)
    (stopped : after.Holds rest) :
    Reads (read registry maxDepth) tokens payload := by
  have held := TokenStream.holds_ofTokens (tokens ++ rest)
  rw [held.eq_withTokens, stopped.eq_withTokens] at succeeded
  exact ((read_closes programs maxDepth).closes trivial follows succeeded).2

theorem readEach_reads
    (messages : List (Completed registry maxDepth)) :
    Reads (readEach registry maxDepth messages.length)
      (messages.flatMap Completed.tokens)
      (messages.map Completed.payload) := by
  induction messages with
  | nil => exact .pure []
  | cons message others inductionHypothesis =>
      have first := reads_of_completed programs maxDepth message.follows
        message.succeeded message.stopped
      exact first.bind (inductionHypothesis.bind_last (.pure _))

/-- A message that is read up to exactly where other tokens begin is read in
the same way whatever tokens follow, none included, and is read up to where
these begin.  So messages that stand one behind another are read one after
another. -/
theorem completed_reading_ignores_what_follows :
    (∀ {tokens rest : List Token} {payload : Payload} {after : TokenStream},
      rest ≠ [] →
        read registry maxDepth (.ofTokens (tokens ++ rest)) =
            .ok payload after →
          after.Holds rest →
            ∀ others : List Token, ∃ stop : TokenStream,
              read registry maxDepth (.ofTokens (tokens ++ others)) =
                  .ok payload stop ∧
                stop.Holds others) ∧
      ∀ (messages : List (Completed registry maxDepth))
        (others : List Token), ∃ stop : TokenStream,
          readEach registry maxDepth messages.length
              (.ofTokens (messages.flatMap Completed.tokens ++ others)) =
              .ok (messages.map Completed.payload) stop ∧
            stop.Holds others := by
  constructor
  · intro tokens rest payload after follows succeeded stopped others
    have reads :=
      reads_of_completed programs maxDepth follows succeeded stopped
    exact reads.holds (TokenStream.holds_ofTokens (tokens ++ others))
  · intro messages others
    exact (readEach_reads programs maxDepth messages).holds
      (TokenStream.holds_ofTokens _)

end Programs

def renewable : Completed .standard 1 where
  tokens :=
    [.startTag ⟨.ofLocal "RequestSecurityToken", []⟩, .text "x",
      .startTag ⟨.ofLocal "Renewing", []⟩, .endTag (.ofLocal "Renewing"),
      .endTag (.ofLocal "RequestSecurityToken")]
  payload := .request { context := "", renewing := some ⟨true, false⟩ }
  rest := [.startTag ⟨.ofLocal "RequestSecurityToken", []⟩]
  after := .ofTokens [.startTag ⟨.ofLocal "RequestSecurityToken", []⟩]
  follows := nofun
  succeeded := by decide +kernel
  stopped := rfl

theorem renewable_requests_are_read_one_after_another :
    Registry.standard.HasPrograms ∧
      (∃ stop : TokenStream,
        read .standard 1 (.ofTokens (renewable.tokens ++ [])) =
            .ok renewable.payload stop ∧
          stop.Holds []) ∧
      ∃ stop : TokenStream,
        readEach .standard 1 2
            (.ofTokens
              (renewable.tokens ++ (renewable.tokens ++ []) ++
                [.text "y"])) =
            .ok [renewable.payload, renewable.payload] stop ∧
          stop.Holds [.text "y"] := by
  have programs := Registry.standard_hasPrograms
  obtain ⟨alone, inARow⟩ :=
    completed_reading_ignores_what_follows programs 1
  exact ⟨programs,
    alone renewable.follows renewable.succeeded renewable.stopped [],
    inARow [renewable, renewable] [.text "y"]⟩

end Payload

end WsTrust
