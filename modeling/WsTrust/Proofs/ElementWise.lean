import Mathlib.Data.List.Forall2
import WsTrust.Proofs.Repetition

/-!
# Content that is read element by element

A turn that passes over texts and hands every element to a reader of its own
goes through the content of an element as long as these readers succeed.
-/

namespace WsTrust.Cursor

variable {State Result Value : Type}

/-! ## Readings that exclude each other -/

theorem Reads.unique
    {reader : Cursor Value} {tokens : List Token} {left right : Value}
    (first : Reads reader tokens left)
    (second : Reads reader tokens right) :
    left = right := by
  obtain ⟨after, succeeded, _⟩ :=
    second.holds (TokenStream.holds_ofTokens (tokens ++ []))
  exact (first.of_ok (TokenStream.holds_ofTokens _) succeeded).1.symm

theorem Reads.not_fails
    {reader : Cursor Value} {tokens : List Token} {value : Value}
    (read : Reads reader tokens value) :
    ¬ Fails reader tokens := by
  intro failed
  obtain ⟨after, succeeded, _⟩ :=
    read.holds (TokenStream.holds_ofTokens (tokens ++ []))
  exact failed.not_ok (TokenStream.holds_ofTokens _) succeeded

def ReadsEach
    (reader : Element → Cursor Value) (elements : List Element)
    (values : List Value) : Prop :=
  List.Forall₂ (fun element value =>
    Reads (reader element) element.tokens value) elements values

theorem ReadsEach.unique
    {reader : Element → Cursor Value} {elements : List Element}
    {left right : List Value}
    (first : ReadsEach reader elements left)
    (second : ReadsEach reader elements right) :
    left = right := by
  induction first generalizing right with
  | nil =>
      cases second
      rfl
  | cons headRead _ inductionHypothesis =>
      cases second with
      | cons otherRead others =>
          rw [headRead.unique otherRead, inductionHypothesis others]

/-- Whatever stands in the first of two related lists is related to
something. -/
theorem exists_of_forall₂
    {Left Right : Type} {related : Left → Right → Prop}
    {lefts : List Left} {rights : List Right}
    (each : List.Forall₂ related lefts rights)
    {left : Left} (member : left ∈ lefts) :
    ∃ right, related left right := by
  induction each with
  | nil => cases member
  | cons headRelated _ inductionHypothesis =>
      rcases List.mem_cons.mp member with rfl | inTail
      · exact ⟨_, headRelated⟩
      · exact inductionHypothesis inTail

/-- Values that are collected the last one first are reversed at the end. -/
theorem reverse_foldl_cons (values : List Value) :
    (values.foldl (fun earlier value => value :: earlier) []).reverse =
      values := by
  rw [List.foldl_flip_cons_eq_append', List.append_nil, List.reverse_reverse]

/-! ## Turns that read one element -/

/-- A turn that passes over texts and reads the next element with a reader of
its own. -/
structure ElementWise
    (turn : State → Cursor (Turn State Result))
    (reader : Element → Cursor Value)
    (next : State → Value → State) : Prop where
  ignores : ∀ content, Ignores turn [.text content]
  becomes :
    ∀ (state : State) (element : Element),
      Becomes (turn state) element.tokens
        (reader element >>= fun value => pure (.again (next state value)))
        element.tokens

namespace ElementWise

variable {turn : State → Cursor (Turn State Result)}
  {reader : Element → Cursor Value} {next : State → Value → State}

/-- If the readers settle on all elements, either each element is read or there
is one that its reader fails on, and the repeated reading with it. -/
theorem passes_or_fails
    (elementWise : ElementWise turn reader next) {nodes : List Node}
    (settled : ∀ element ∈ nodes.filterMap Node.element?,
      Settles (reader element) element.tokens)
    (state : State) {leading : List Token}
    (leadingIgnored : Ignores turn leading) :
    (∃ (values : List Value) (trailing : List Token),
      ReadsEach reader (nodes.filterMap Node.element?) values ∧
      Ignores turn trailing ∧
      ∀ more, Becomes (repeating turn state)
        (leading ++ (Node.tokensOfAll nodes ++ more))
        (repeating turn (values.foldl next state)) (trailing ++ more)) ∨
    ((∃ element ∈ nodes.filterMap Node.element?,
      Fails (reader element) element.tokens) ∧
      Fails (repeating turn state)
        (leading ++ Node.tokensOfAll nodes)) := by
  induction nodes generalizing state leading with
  | nil =>
      exact Or.inl ⟨[], leading, List.Forall₂.nil, leadingIgnored,
        fun _ => Becomes.refl _ _⟩
  | cons head tail inductionHypothesis =>
      cases head with
      | text content =>
          have continued := inductionHypothesis settled state
            (leadingIgnored.append (elementWise.ignores content))
          have sameElements :
              (Node.text content :: tail).filterMap Node.element? =
                tail.filterMap Node.element? := rfl
          rw [sameElements]
          simpa [Node.tokensOfAll_cons, Node.tokens] using continued
      | element name attributes children =>
          let first : Element := ⟨name, attributes, children⟩
          have elements :
              (Node.element name attributes children :: tail).filterMap
                  Node.element? =
                first :: tail.filterMap Node.element? := rfl
          have tokens :
              Node.tokensOfAll (.element name attributes children :: tail) =
                first.tokens ++ Node.tokensOfAll tail := rfl
          rw [elements] at settled ⊢
          rw [tokens]
          have present : leading ++ first.tokens ≠ [] := by
            simp [first.tokens_ne_nil]
          rcases settled first List.mem_cons_self with
            ⟨value, read⟩ | failed
          · have turned :
                Reads (turn state) first.tokens (.again (next state value)) :=
              (elementWise.becomes state first).reads
                (read.bind_last (Reads.pure _))
            have step := fun more =>
              repeating_becomes (leadingIgnored.reads turned) present more
            simp only [List.append_assoc] at step ⊢
            rcases inductionHypothesis
                (fun element member =>
                  settled element (List.mem_cons_of_mem first member))
                (next state value) Ignores.nil with
              ⟨values, trailing, readAll, trailingIgnored, passed⟩ |
              ⟨⟨element, member, failed⟩, failedAll⟩
            · exact Or.inl ⟨value :: values, trailing,
                List.Forall₂.cons read readAll, trailingIgnored,
                fun more => (step _).trans (passed more)⟩
            · exact Or.inr
                ⟨⟨element, List.mem_cons_of_mem first member, failed⟩,
                  (step _).fails failedAll⟩
          · have turnFails : Fails (turn state) first.tokens :=
              (elementWise.becomes state first).fails (failed.bind _)
            refine Or.inr ⟨⟨first, List.mem_cons_self, failed⟩, ?_⟩
            rw [← List.append_assoc]
            exact (repeating_fails
              (leadingIgnored.fails turnFails)).append _

/-- Elements that are each read lead the state on with their values. -/
theorem reads
    (elementWise : ElementWise turn reader next) {nodes : List Node}
    {values : List Value}
    (read : ReadsEach reader (nodes.filterMap Node.element?) values)
    {state : State} {closing : List Token} {result : Result}
    (closed : Reads (turn (values.foldl next state)) closing
      (.done result)) :
    Reads (repeating turn state)
      (Node.tokensOfAll nodes ++ closing) result := by
  have settled : ∀ element ∈ nodes.filterMap Node.element?,
      Settles (reader element) element.tokens := by
    intro element member
    obtain ⟨value, readValue⟩ := exists_of_forall₂ read member
    exact Settles.of_reads readValue
  rcases elementWise.passes_or_fails settled state Ignores.nil with
    ⟨others, trailing, readOthers, ignored, passed⟩ |
    ⟨⟨element, member, failed⟩, _⟩
  · rw [← read.unique readOthers] at passed
    exact (passed closing).reads (repeating_reads (ignored.reads closed))
  · obtain ⟨value, readValue⟩ := exists_of_forall₂ read member
    exact absurd failed readValue.not_fails

/-- Where the readers settle on all elements and the turn always closes, the
repeated reading settles, and it succeeds only if each element is read. -/
theorem reads_or_fails
    (elementWise : ElementWise turn reader next) {nodes : List Node}
    (settled : ∀ element ∈ nodes.filterMap Node.element?,
      Settles (reader element) element.tokens)
    {closing : List Token} {conclude : State → Result}
    (closed : ∀ state,
      Reads (turn state) closing (.done (conclude state)))
    (state : State) :
    (∃ values, ReadsEach reader (nodes.filterMap Node.element?) values ∧
      Reads (repeating turn state) (Node.tokensOfAll nodes ++ closing)
        (conclude (values.foldl next state))) ∨
    Fails (repeating turn state) (Node.tokensOfAll nodes ++ closing) := by
  rcases elementWise.passes_or_fails settled state Ignores.nil with
    ⟨values, _, readAll, _, _⟩ | ⟨_, failed⟩
  · exact Or.inl ⟨values, readAll, elementWise.reads readAll (closed _)⟩
  · exact Or.inr (failed.append closing)

/-- Where the readers settle on all elements and the turn always closes, the
repeated reading fails with what the reader of one of them fails with. -/
theorem exists_failed_reader
    (elementWise : ElementWise turn reader next) {nodes : List Node}
    (settled : ∀ element ∈ nodes.filterMap Node.element?,
      Settles (reader element) element.tokens)
    {closing : List Token} {conclude : State → Result}
    (closed : ∀ state,
      Reads (turn state) closing (.done (conclude state)))
    {state : State} {leading : List Token}
    (leadingIgnored : Ignores turn leading)
    {stream rest : TokenStream} {failure : Failure}
    (failed :
      repeating turn state
          (stream.withTokens
            (leading ++ (Node.tokensOfAll nodes ++ closing))) =
        .error failure rest) :
    ∃ element ∈ nodes.filterMap Node.element?, ∃ before after,
      reader element before = .error failure after := by
  induction nodes generalizing state leading stream with
  | nil =>
      have read := repeating_reads (leadingIgnored.reads (closed state))
      obtain ⟨after, succeeded⟩ := read stream []
      rw [List.append_nil] at succeeded
      rw [Node.tokensOfAll, List.nil_append, succeeded] at failed
      cases failed
  | cons head tail inductionHypothesis =>
      cases head with
      | text content =>
          have continued :
              repeating turn state
                  (stream.withTokens
                    (leading ++ [.text content] ++
                      (Node.tokensOfAll tail ++ closing))) =
                .error failure rest := by
            simpa [Node.tokensOfAll_cons, Node.tokens] using failed
          exact inductionHypothesis settled
            (leadingIgnored.append (elementWise.ignores content)) continued
      | element name attributes children =>
          let first : Element := ⟨name, attributes, children⟩
          have tokens :
              Node.tokensOfAll (.element name attributes children :: tail) =
                first.tokens ++ Node.tokensOfAll tail := rfl
          have begins := (leadingIgnored state first.tokens).trans
            (elementWise.becomes state first)
          rw [tokens] at failed
          rcases settled first List.mem_cons_self with
            ⟨value, read⟩ | refused
          · have present : leading ++ first.tokens ≠ [] := by
              simp [first.tokens_ne_nil]
            have turned : Reads (turn state) (leading ++ first.tokens)
                (.again (next state value)) :=
              begins.reads (read.bind_last (Reads.pure _))
            obtain ⟨after, passed⟩ := repeating_becomes turned present []
              stream (Node.tokensOfAll tail ++ closing)
            simp only [List.append_assoc, List.nil_append] at failed passed
            rw [passed] at failed
            obtain ⟨element, member, refused⟩ := inductionHypothesis
              (fun element member =>
                settled element (List.mem_cons_of_mem first member))
              Ignores.nil failed
            exact ⟨element, List.mem_cons_of_mem first member, refused⟩
          · obtain ⟨middle, turned⟩ :=
              begins stream (Node.tokensOfAll tail ++ closing)
            obtain ⟨cause, after, readerFailed⟩ :=
              refused middle (Node.tokensOfAll tail ++ closing)
            rw [bind_of_error readerFailed] at turned
            simp only [List.append_assoc] at failed turned
            rw [repeating_of_error turned] at failed
            cases failed
            exact ⟨first, List.mem_cons_self, _, _, readerFailed⟩

end ElementWise

end WsTrust.Cursor
