import WsTrust.Proofs.Progress
import WsTrust.Proofs.Repetition

/-!
# Stopping where an element ends

The readers of elements drop tags that they do not look for.  A reader may thus
succeed without stopping behind the element that it was called for: it stops
short at an end tag inside the element, or it runs on behind the end of it.
-/

namespace WsTrust.Cursor

variable {Result Other State : Type}

/-! ## Readers that stop elsewhere -/

/-- Whenever the reader succeeds on tokens that begin with these, it does not
stop right behind these. -/
def Misses (reader : Cursor Result) (tokens : List Token) : Prop :=
  ∀ (stream after : TokenStream) (rest : List Token) (result : Result),
    reader (stream.withTokens (tokens ++ rest)) = .ok result after →
      ¬ after.Holds rest

section Misses

variable {reader later : Cursor Result} {tokens left more : List Token}

theorem Fails.misses
    (failed : Fails reader tokens) :
    Misses reader tokens := by
  intro stream after rest result succeeded
  exact absurd succeeded (failed.not_ok (stream.holds_withTokens _))

theorem Becomes.misses
    (first : Becomes reader tokens later left)
    (second : Misses later left) :
    Misses reader tokens := by
  intro stream after rest result succeeded
  obtain ⟨middle, equality⟩ := first stream rest
  rw [equality] at succeeded
  exact second middle after rest result succeeded

/-- A reader that settles on a part of the tokens stops short of the others. -/
theorem Settles.misses
    (settled : Settles reader tokens) (present : more ≠ []) :
    Misses reader (tokens ++ more) := by
  intro stream after rest result succeeded held
  rw [List.append_assoc] at succeeded
  obtain ⟨_, stopped⟩ :=
    settled.of_ok (stream.holds_withTokens _) succeeded
  have sizes : (more ++ rest).length = rest.length := by
    rw [← stopped.size_eq, held.size_eq]
  have positive := List.length_pos_iff.mpr present
  rw [List.length_append] at sizes
  omega

theorem Settles.bind_misses
    {next : Result → Cursor Other}
    (first : Settles reader tokens)
    (second : ∀ result, Misses (next result) more) :
    Misses (reader >>= next) (tokens ++ more) := by
  rcases first with ⟨result, read⟩ | failed
  · exact (read.becomes next more).misses (second result)
  · exact ((failed.bind next).append more).misses

end Misses

/-! ## Readers that stop there on a condition -/

/-- Under the condition the reader settles on the tokens; otherwise it misses
the end of them whenever it succeeds. -/
def SettlesIf
    (condition : Prop) (reader : Cursor Result) (tokens : List Token) :
    Prop :=
  (condition → Settles reader tokens) ∧
    (¬ condition → Misses reader tokens)

namespace SettlesIf

variable {condition : Prop} {reader later : Cursor Result}
  {tokens left more : List Token}

theorem of_settles
    (settled : Settles reader tokens) (met : condition) :
    SettlesIf condition reader tokens :=
  ⟨fun _ => settled, fun unmet => absurd met unmet⟩

theorem of_misses
    (missed : Misses reader tokens) (unmet : ¬ condition) :
    SettlesIf condition reader tokens :=
  ⟨fun met => absurd met unmet, fun _ => missed⟩

theorem of_fails
    (failed : Fails reader tokens) :
    SettlesIf condition reader tokens :=
  ⟨fun _ => Settles.of_fails failed, fun _ => failed.misses⟩

theorem becomes
    (second : SettlesIf condition later left)
    (first : Becomes reader tokens later left) :
    SettlesIf condition reader tokens :=
  ⟨fun met => first.settles (second.1 met),
    fun unmet => first.misses (second.2 unmet)⟩

theorem bind
    {next : Result → Cursor Other}
    (first : Settles reader tokens)
    (second : ∀ result, SettlesIf condition (next result) more) :
    SettlesIf condition (reader >>= next) (tokens ++ more) :=
  ⟨fun met => first.bind fun result _ => (second result).1 met,
    fun unmet => first.bind_misses fun result => (second result).2 unmet⟩

theorem congr
    {other : Prop}
    (settled : SettlesIf condition reader tokens)
    (equivalent : other ↔ condition) :
    SettlesIf other reader tokens := by
  rwa [propext equivalent]

theorem map
    (settled : SettlesIf condition reader tokens)
    (change : Result → Other) :
    SettlesIf condition (change <$> reader) tokens := by
  refine ⟨fun met => (settled.1 met).map change, fun unmet => ?_⟩
  intro stream after rest result succeeded
  obtain ⟨value, readValue, _⟩ := map_eq_ok_iff.mp succeeded
  exact settled.2 unmet stream after rest value readValue

/-- A reading that succeeded stopped right behind the tokens exactly if the
condition is met, and then it consumes them whatever follows. -/
theorem of_ok
    (settled : SettlesIf condition reader tokens)
    {stream after : TokenStream} {rest : List Token} {value : Result}
    (held : stream.Holds (tokens ++ rest))
    (succeeded : reader stream = .ok value after) :
    (after.Holds rest ↔ condition) ∧
      (condition → Reads reader tokens value) := by
  by_cases met : condition
  · obtain ⟨read, stopped⟩ := (settled.1 met).of_ok held succeeded
    exact ⟨iff_of_true stopped met, fun _ => read⟩
  · rw [held.eq_withTokens] at succeeded
    have missed := settled.2 met stream after rest value succeeded
    exact ⟨iff_of_false missed met, fun metAgain => absurd metAgain met⟩

end SettlesIf

/-! ## Stopping short -/

theorem exists_split_at_endTag
    {tokens : List Token} {name : QName}
    (closed : Token.endTag name ∈ tokens) :
    ∃ (before : List Token) (first : QName) (after : List Token),
      tokens = before ++ .endTag first :: after ∧
        ∀ other, Token.endTag other ∉ before := by
  induction tokens with
  | nil => cases closed
  | cons head tail inductionHypothesis =>
      by_cases closing : ∃ first, head = .endTag first
      · obtain ⟨first, rfl⟩ := closing
        exact ⟨[], first, tail, rfl, fun _ => List.not_mem_nil⟩
      · have inTail : Token.endTag name ∈ tail := by
          rcases List.mem_cons.mp closed with equality | member
          · exact absurd ⟨name, equality.symm⟩ closing
          · exact member
        obtain ⟨before, first, after, rfl, none⟩ :=
          inductionHypothesis inTail
        refine ⟨head :: before, first, after, rfl, ?_⟩
        intro other member
        rcases List.mem_cons.mp member with equality | inBefore
        · exact closing ⟨other, equality.symm⟩
        · exact none other inBefore

/-- Expecting an end tag is settled by the first one that comes. -/
theorem expectEndTag_settles
    {before : List Token} (localPart : String) (name : QName)
    (none : ∀ other, Token.endTag other ∉ before) :
    Settles (expectEndTag localPart) (before ++ [.endTag name]) := by
  have passed :
      Becomes (nextEndTag localPart) (before ++ [.endTag name])
        (nextEndTag localPart) [.endTag name] := by
    refine scan_passes fun token member => ?_
    cases token with
    | endTag other => exact absurd member (none other)
    | startTag tag => rfl
    | text content => rfl
  refine (passed.bind _).settles ?_
  refine Settles.bind_last
    (Settles.of_reads (nextEndTag_reads localPart name)) ?_
  intro found _
  by_cases named : found.localPart = localPart
  · exact Settles.of_reads (expectName_reads named)
  · exact Settles.of_fails (expectName_fails named [])

/-- Closing an element whose tokens are not over at the first end tag stops
short. -/
theorem expectEndTag_misses
    {tokens more : List Token} {name : QName} {result : Result}
    (localPart : String)
    (closed : Token.endTag name ∈ tokens) (present : more ≠ []) :
    Misses (expectEndTag localPart >>= fun _ => pure result)
      (tokens ++ more) := by
  obtain ⟨before, first, after, rfl, none⟩ := exists_split_at_endTag closed
  have settled :=
    (expectEndTag_settles localPart first none).bind_last
      fun _ _ => Settles.pure result
  have left : after ++ more ≠ [] := by simp [present]
  simpa using settled.misses left

/-- An element whose content has no further element is closed. -/
theorem closing_reads
    {name : QName} {localPart : String} {nodes : List Node}
    (named : name.localPart = localPart)
    (noElement : nodes.filterMap Node.element? = []) (result : Result) :
    Reads (expectEndTag localPart >>= fun _ => pure result)
      (Node.tokensOfAll nodes ++ [.endTag name]) result := by
  rw [Node.tokensOfAll_of_no_element noElement]
  have closed := expectEndTag_reads_texts named
    (nodes.filterMap Node.text?)
  exact closed.bind_last (Reads.pure result)

/-- Where the content goes on with an element, the closing stops short, or
fails. -/
theorem closing_settlesIf
    {name : QName} {localPart : String}
    (named : name.localPart = localPart)
    (nodes : List Node) (result : Result) :
    SettlesIf (nodes.filterMap Node.element? = [])
      (expectEndTag localPart >>= fun _ => pure result)
      (Node.tokensOfAll nodes ++ [.endTag name]) := by
  cases elements : nodes.filterMap Node.element? with
  | nil =>
      have closed := closing_reads named elements result
      exact SettlesIf.of_settles (Settles.of_reads closed) rfl
  | cons first others =>
      obtain ⟨texts, after, split, _⟩ :=
        Node.exists_split_at_element elements
      have closed : Token.endTag first.name ∈ Node.tokensOfAll nodes := by
        rw [split, first.tokens_eq]
        simp
      refine SettlesIf.of_misses ?_ (List.cons_ne_nil first others)
      exact expectEndTag_misses localPart closed
        (List.cons_ne_nil (Token.endTag name) [])

/-! ## Running on -/

/-- Whenever the reader succeeds on tokens that begin with these, it has
consumed some of those that follow. -/
def RunsOn (reader : Cursor Result) (tokens : List Token) : Prop :=
  ∀ (stream after : TokenStream) (rest : List Token) (result : Result),
    reader (stream.withTokens (tokens ++ rest)) = .ok result after →
      ∃ (stop : TokenStream) (left : List Token),
        after = stop.withTokens left ∧ left.length < rest.length

namespace RunsOn

variable {reader later : Cursor Result} {tokens left : List Token}

theorem misses
    (ran : RunsOn reader tokens) :
    Misses reader tokens := by
  intro stream after rest result succeeded held
  obtain ⟨stop, left, rfl, shorter⟩ :=
    ran stream after rest result succeeded
  have sizes := held.size_eq
  rw [TokenStream.size_withTokens] at sizes
  omega

theorem of_becomes
    (ran : RunsOn later left)
    (first : Becomes reader tokens later left) :
    RunsOn reader tokens := by
  intro stream after rest result succeeded
  obtain ⟨middle, equality⟩ := first stream rest
  rw [equality] at succeeded
  exact ran middle after rest result succeeded

theorem bind
    {next : Result → Cursor Other}
    (ran : RunsOn reader tokens)
    (advances : ∀ result, Advances (next result)) :
    RunsOn (reader >>= next) tokens := by
  intro stream after rest other succeeded
  obtain ⟨result, middle, first, second⟩ := bind_eq_ok_iff.mp succeeded
  obtain ⟨stop, left, rfl, shorter⟩ := ran stream middle rest result first
  obtain ⟨last, remaining, rfl, suffix⟩ := (advances result).of_ok second
  have bounded := suffix.length_le
  exact ⟨last, remaining, rfl, by omega⟩

end RunsOn

/-- Looking for a start tag passes over tokens without one. -/
theorem nextStartTag_passes
    {passed : List Token} (expected : String)
    (none : ∀ tag, Token.startTag tag ∉ passed) (tokens : List Token) :
    Becomes (nextStartTag expected) (passed ++ tokens)
      (nextStartTag expected) tokens := by
  refine scan_passes fun token member => ?_
  cases token with
  | startTag tag => exact absurd member (none tag)
  | endTag name => rfl
  | text content => rfl

theorem nextStartTag_runsOn
    {tokens : List Token} (expected : String)
    (none : ∀ tag, Token.startTag tag ∉ tokens) :
    RunsOn (nextStartTag expected) tokens := by
  have passed := nextStartTag_passes expected none []
  rw [List.append_nil] at passed
  refine RunsOn.of_becomes ?_ passed
  intro stream after rest tag found
  have consumed : after.size < rest.length := scan_consumes found
  obtain ⟨stop, left, rfl, _⟩ :=
    (nextStartTag_advances expected).of_ok found
  rw [TokenStream.size_withTokens] at consumed
  exact ⟨stop, left, rfl, consumed⟩

/-! ## Into an element -/

theorem enter_becomes_content
    {element : Element} {localPart : String}
    (named : element.localName = localPart)
    (next : StartTag → Cursor Result) :
    Becomes (enter localPart >>= next) element.tokens
      (next element.startTag) element.contentTokens := by
  have tagNamed : element.startTag.localName = localPart := named
  exact enter_becomes tagNamed next element.contentTokens

section Children

variable {element first : Element} {others : List Element}
  (within : String) (next : Option StartTag → Cursor Result)

theorem peekChild_of_childless
    (childless : element.childElements = []) :
    Becomes (peekChild within >>= next) element.contentTokens
      (next none) [.endTag element.name] := by
  rw [Element.contentTokens, Node.tokensOfAll_of_no_element childless]
  have passed := peekChild_of_texts [.endTag element.name] within
    (element.children.filterMap Node.text?)
  exact (passed.bind next).trans
    (peekChild_of_endTag [] within next element.name)

/-- Content with an element is looked at where its first element begins. -/
theorem exists_peekChild_of_children
    (children : element.childElements = first :: others) :
    ∃ after : List Node,
      after.filterMap Node.element? = others ∧
      Becomes (peekChild within >>= next) element.contentTokens
        (next (some first.startTag))
        (first.tokens ++
          (Node.tokensOfAll after ++ [.endTag element.name])) := by
  obtain ⟨texts, after, split, remaining⟩ :=
    Node.exists_split_at_element children
  refine ⟨after, remaining, ?_⟩
  rw [Element.contentTokens, split, List.append_assoc, List.append_assoc]
  have passed := peekChild_of_texts
    (first.tokens ++ (Node.tokensOfAll after ++ [.endTag element.name]))
    within texts
  exact (passed.bind next).trans
    (peekChild_of_startTag _ within next first.startTag)

end Children

end WsTrust.Cursor
