import WsTrust.Proofs.Shortage

/-!
# Truncated messages

A message that breaks off is reported as exhausted.  Only a request or a
response that is not in a collection may also end between two of its children,
with the record of those before; and only the text that a start tag demands is
reported as missing instead.
-/

namespace WsTrust

open Cursor

/-! ## Children under the ready-made registries -/

namespace Registry.IsPlain

variable {registry : Registry} (plain : registry.IsPlain)

include plain

theorem extensions_survive :
    ∀ extension ∈ registry.extensions, Survives 0 extension.read := by
  intro extension member
  rcases plain with rfl | rfl
  · cases member
  · rw [List.mem_singleton.mp member]
    have composes := Survives.compositional
    exact composes.map composes.appliesTo _

theorem responseChild_survives (maxDepth : Nat) (name : QName) :
    Survives 0 (Response.grammar.readChild registry maxDepth name) :=
  Survives.compositional.readChild plain.extensions_survive
    (Survives.compositional.responseChildren maxDepth) name

theorem requestChild_survives (maxDepth : Nat) (name : QName) :
    Survives 0 (Request.grammar.readChild registry maxDepth name) :=
  Survives.compositional.readChild plain.extensions_survive
    (Survives.compositional.requestChildren maxDepth) name

end Registry.IsPlain

namespace BodyGrammar

variable {Record Child : Type} {grammar : BodyGrammar Record Child}
  {registry : Registry} {maxDepth : Nat}

/-! ## Bodies that end between their children -/

/-- The content behind the start tag of a body ends between two children, and
the record is that of the children in it. -/
def BreaksOff
    (grammar : BodyGrammar Record Child)
    (registry : Registry) (maxDepth : Nat)
    (root : StartTag) (content : List Token) (record : Record) : Prop :=
  ∃ parts : List (BodyPart grammar registry maxDepth),
    content = parts.flatMap BodyPart.tokens ∧
    record = grammar.addAll (grammar.ofContext (contextOf root))
      ((blocksOf parts).map Block.child)

theorem readRest_of_parts
    (parts : List (BodyPart grammar registry maxDepth)) (record : Record)
    (stream : TokenStream) :
    ∃ after : TokenStream,
      grammar.readRest registry maxDepth record
          (stream.withTokens (parts.flatMap BodyPart.tokens)) =
        .ok (grammar.addAll record ((blocksOf parts).map Block.child))
          (after.withTokens []) := by
  obtain ⟨trailing, ignored, reached⟩ :=
    repeating_becomes_after_parts (fun part _ => takes_part part) record
      Ignores.nil []
  rw [foldl_parts] at reached
  obtain ⟨middle, equality⟩ := reached stream []
  obtain ⟨after, turned⟩ := ignored _ [] middle []
  simp only [List.append_nil, List.nil_append] at equality turned
  exact ⟨after, equality.trans (repeating_of_done turned)⟩

theorem BreaksOff.read_eq
    {root : StartTag} {content : List Token} {record : Record}
    (breaksOff : grammar.BreaksOff registry maxDepth root content record)
    (stream : TokenStream) :
    ∃ after : TokenStream,
      grammar.read registry maxDepth
          (stream.withTokens (.startTag root :: content)) =
        .ok record (after.withTokens []) := by
  obtain ⟨parts, rfl, rfl⟩ := breaksOff
  obtain ⟨entered, equality⟩ :=
    (nextStartTag_reads grammar.elementName root).becomes
      (fun tag => grammar.readRest registry maxDepth
        (grammar.ofContext (contextOf tag))) [] stream
      (parts.flatMap BodyPart.tokens)
  obtain ⟨after, rest⟩ :=
    readRest_of_parts parts (grammar.ofContext (contextOf root)) entered
  exact ⟨after, equality.trans rest⟩

/-- A member that breaks off leaves the collection exhausted. -/
theorem BreaksOff.exhausts
    {elementName : String} {earlier : List Record} {root : StartTag}
    (named : root.localName = grammar.elementName) (texts : List String)
    {content : List Token} {record : Record}
    (breaksOff : grammar.BreaksOff registry maxDepth root content record) :
    Exhausts
      (repeating (grammar.collectionTurn registry maxDepth elementName)
        earlier)
      (texts.map Token.text ++ (.startTag root :: content)) := by
  have becomes :
      Becomes (grammar.collectionTurn registry maxDepth elementName earlier)
        (texts.map Token.text ++ (.startTag root :: content))
        (grammar.read registry maxDepth >>= fun record =>
          pure (.again (record :: earlier)))
        (.startTag root :: content) :=
    (peekBoundary_of_texts _ texts _).trans
      (collectionTurn_becomes named earlier content)
  intro stream
  obtain ⟨middle, equality⟩ := becomes stream []
  obtain ⟨after, read⟩ := breaksOff.read_eq middle
  rw [List.append_nil, List.append_nil, bind_of_ok read] at equality
  have progress :
      (after.withTokens []).size <
        (stream.withTokens
          (texts.map Token.text ++ (.startTag root :: content))).size := by
    simp only [TokenStream.size_withTokens, List.length_append,
      List.length_cons, List.length_nil]
    omega
  have ended :
      Exhausts
        (grammar.collectionTurn registry maxDepth elementName
          (record :: earlier))
        [] := exhausts_of_texts rfl []
  obtain ⟨expected, stop, exhausted⟩ := ended after
  exact ⟨expected, stop, (repeating_of_again equality progress).trans
    (repeating_of_error exhausted)⟩

/-! ## Bodies that are cut off -/

theorem turn_ignores_texts (texts : List String) :
    Ignores (grammar.turn registry maxDepth) (texts.map Token.text) :=
  fun record => Becomes.of_texts (fun content => turn_ignores content record)
    texts

theorem flatMap_tokens_texts (texts : List String) :
    List.flatMap
        (BodyPart.tokens : BodyPart grammar registry maxDepth → List Token)
        (texts.map BodyPart.text) =
      texts.map Token.text := by
  rw [List.flatMap_map, List.map_eq_flatMap]
  rfl

theorem readRest_passes
    (texts : List String) (block : Block grammar registry maxDepth)
    (record : Record) :
    Becomes (grammar.readRest registry maxDepth record)
      (texts.map Token.text ++ block.tokens)
      (grammar.readRest registry maxDepth
        (grammar.addOptional record block.child))
      [] := by
  have read := (turn_ignores_texts texts).reads
    (turn_reads block.reads record)
  have present : texts.map Token.text ++ block.tokens ≠ [] :=
    List.append_ne_nil_of_right_ne_nil _ (List.cons_ne_nil _ _)
  have passed := repeating_becomes read present []
  rwa [List.append_nil] at passed

/-- What a turn has come to if its stream is cut off behind these tokens. -/
inductive TurnCut
    (grammar : BodyGrammar Record Child)
    (registry : Registry) (maxDepth : Nat)
    (record : Record) (tokens more : List Token) :
    Turn Record Record → TokenStream → Prop
  | ended {turned : Turn Record Record} {after : TokenStream}
      (texts : List String) (split : tokens = texts.map Token.text) :
      TurnCut grammar registry maxDepth record tokens more turned after
  | short {turned : Turn Record Record} {after : TokenStream}
      (falls :
        FallsShort (grammar.turn registry maxDepth record) tokens more) :
      TurnCut grammar registry maxDepth record tokens more turned after
  | closed {after : TokenStream}
      (cut :
        Cut 0 (grammar.turn registry maxDepth record) tokens more
          (.done record) after) :
      TurnCut grammar registry maxDepth record tokens more (.done record)
        after
  | passed {after : TokenStream}
      (texts : List String) (block : Block grammar registry maxDepth)
      (others : List Token)
      (split : tokens = texts.map Token.text ++ (block.tokens ++ others))
      (left : after.Holds (others ++ more)) :
      TurnCut grammar registry maxDepth record tokens more
        (.again (grammar.addOptional record block.child)) after

section Cuts

variable
  (children : ∀ name, Survives 0 (grammar.readChild registry maxDepth name))
  {record : Record} {stream after : TokenStream} {tokens more : List Token}

include children

theorem turn_cut
    {turned : Turn Record Record}
    (read :
      grammar.turn registry maxDepth record
          (stream.withTokens (tokens ++ more)) =
        .ok turned after) :
    TurnCut grammar registry maxDepth record tokens more turned after := by
  cases atBoundary_of_ok read with
  | ended texts split => exact .ended texts split
  | closing texts name others start split closed =>
      obtain rfl := eq_of_closeWith closed
      have cut :
          Cut 0 (grammar.turn registry maxDepth record)
            (texts.map Token.text ++ (.endTag name :: others)) more
            (.done record) after :=
        Cut.of_closing texts (closeWith_cut closed)
      rw [split]
      exact .closed cut
  | opening texts tag others start split opened =>
      obtain ⟨child, stop, readChild, turnedTo⟩ := bind_eq_ok_iff.mp opened
      cases turnedTo
      rw [split]
      rcases (children tag.name readChild).reads_or_fallsShort with
        ⟨consumed, left, splitChild, present, reads, held⟩ | falls
      · obtain ⟨first, content, rfl⟩ := List.exists_cons_of_ne_nil present
        obtain ⟨rfl, rfl⟩ := List.cons.inj splitChild
        exact .passed texts ⟨tag, content, child, reads⟩ left rfl held
      · have becomes :
            Becomes (grammar.turn registry maxDepth record)
              (texts.map Token.text ++ (.startTag tag :: others)) _
              (.startTag tag :: others) :=
          (turn_ignores_texts texts record (.startTag tag :: others)).trans
            (turn_becomes record tag others)
        exact .short ((falls.bind _).of_becomes becomes)

/-- What is left of a body ends between two children, or is cut off like any
other reading. -/
theorem readRest_cut
    {final : Record}
    (succeeded :
      grammar.readRest registry maxDepth record
          (stream.withTokens (tokens ++ more)) =
        .ok final after) :
    (∃ parts : List (BodyPart grammar registry maxDepth),
      tokens = parts.flatMap BodyPart.tokens) ∨
      Cut 0 (grammar.readRest registry maxDepth record) tokens more final
        after := by
  rw [readRest_eq_repeating, repeating_eq_ok_iff] at succeeded
  generalize begun : stream.withTokens (tokens ++ more) = start
    at succeeded
  induction succeeded generalizing stream tokens with
  | done read =>
      subst begun
      cases turn_cut children read with
      | ended texts split =>
          exact Or.inl ⟨texts.map BodyPart.text,
            split.trans (flatMap_tokens_texts texts).symm⟩
      | short falls => exact Or.inr (.short falls.repeating)
      | closed cut => exact Or.inr cut.repeating_done
  | again read progress _ inductionHypothesis =>
      subst begun
      cases turn_cut children read with
      | ended texts split =>
          exact Or.inl ⟨texts.map BodyPart.text,
            split.trans (flatMap_tokens_texts texts).symm⟩
      | short falls => exact Or.inr (.short falls.repeating)
      | passed texts block others split left =>
          rcases inductionHypothesis left.eq_withTokens.symm with
            ⟨parts, rfl⟩ | cut
          · refine Or.inl
              ⟨texts.map BodyPart.text ++ .block block :: parts, ?_⟩
            rw [split, List.flatMap_append, flatMap_tokens_texts,
              List.flatMap_cons]
            rfl
          · right
            rw [split, ← List.append_assoc]
            exact Cut.of_consumed (readRest_passes texts block _) cut

/-- A body breaks off between two children, or is cut off like any other
reading. -/
theorem read_cut
    {root : StartTag} {content : List Token} {final : Record}
    (succeeded :
      grammar.read registry maxDepth
          (stream.withTokens (.startTag root :: content ++ more)) =
        .ok final after) :
    (∃ record, grammar.BreaksOff registry maxDepth root content record) ∨
      Cut 0 (grammar.read registry maxDepth) (.startTag root :: content) more
        final after := by
  have becomes :
      Becomes (grammar.read registry maxDepth) [.startTag root]
        (grammar.readRest registry maxDepth
          (grammar.ofContext (contextOf root))) [] :=
    (nextStartTag_reads grammar.elementName root).becomes _ []
  obtain ⟨middle, equality⟩ := becomes stream (content ++ more)
  have rest :
      grammar.readRest registry maxDepth (grammar.ofContext (contextOf root))
          (middle.withTokens (content ++ more)) =
        .ok final after := equality.symm.trans succeeded
  rcases readRest_cut children rest with ⟨parts, split⟩ | cut
  · exact Or.inl ⟨_, parts, split, rfl⟩
  · exact Or.inr (Cut.of_consumed becomes cut)

/-! ## Collections that are cut off -/

theorem collectionTurn_cut
    (elementName : String) (earlier : List Record)
    {turned : Turn (List Record) (List Record)}
    (read :
      grammar.collectionTurn registry maxDepth elementName earlier
          (stream.withTokens (tokens ++ more)) =
        .ok turned after) :
    Exhausts
        (repeating (grammar.collectionTurn registry maxDepth elementName)
          earlier)
        tokens ∨
      Cut 0 (grammar.collectionTurn registry maxDepth elementName earlier)
        tokens more turned after := by
  cases atBoundary_of_ok read with
  | ended texts split =>
      rw [split]
      exact Or.inr (.exhausted (exhausts_of_texts rfl texts))
  | closing texts name others start split closed =>
      rw [split]
      exact Or.inr (Cut.of_closing texts (closeWith_cut closed))
  | opening texts tag others start split opened =>
      rw [split]
      by_cases named : tag.localName = grammar.elementName
      · simp only [if_pos named] at opened
        obtain ⟨record, middle, readMember, concluded⟩ :=
          bind_eq_ok_iff.mp opened
        rcases read_cut children readMember with ⟨_, breaksOff⟩ | cut
        · exact Or.inl (breaksOff.exhausts named texts)
        · refine Or.inr (Cut.of_opening texts ?_)
          simp only [if_pos named]
          exact cut.endsBind (Or.inr ⟨_, rfl⟩) opened concluded
      · simp only [if_neg named] at opened
        cases opened

theorem readCollection_survives (elementName : String) :
    Survives 0 (grammar.readCollection registry maxDepth elementName) := by
  have turns := Survives.repeating_of_turns (Nat.zero_le 1)
    (fun earlier _ _ _ _ _ read =>
      collectionTurn_cut children elementName earlier read)
  exact (Survives.compositional.enter elementName).bind fun _ => turns []

end Cuts

end BodyGrammar

/-! ## Messages that are cut off -/

theorem exists_first_startTag
    {tokens : List Token} (entered : ∃ tag, .startTag tag ∈ tokens) :
    ∃ leading root content,
      tokens = leading ++ .startTag root :: content ∧
        ∀ token ∈ leading, token.isStartTag = false := by
  obtain ⟨tag, member⟩ := entered
  have isSome : (tokens.find? Token.isStartTag).isSome :=
    List.find?_isSome.mpr ⟨_, member, rfl⟩
  obtain ⟨first, found⟩ := Option.isSome_iff_exists.mp isSome
  obtain ⟨isStartTag, leading, content, split, noTag⟩ :=
    List.find?_eq_some_iff_append.mp found
  cases first with
  | startTag root =>
      exact ⟨leading, root, content, split, fun token inLeading => by
        simpa using noTag token inLeading⟩
  | endTag name => cases isStartTag
  | text content => cases isStartTag

namespace Payload

variable {registry : Registry} {maxDepth : Nat}

/-- The message is a request or a response that breaks off between two of its
children. -/
inductive Unfinished
    (registry : Registry) (maxDepth : Nat)
    (root : StartTag) (content : List Token) : Payload → Prop
  | request {single : Request}
      (named : Kind.ofRootName? root.localName = some .request)
      (breaksOff :
        Request.grammar.BreaksOff registry maxDepth root content single) :
      Unfinished registry maxDepth root content (.request single)
  | response {single : Response}
      (named : Kind.ofRootName? root.localName = some .response)
      (breaksOff :
        Response.grammar.BreaksOff registry maxDepth root content single) :
      Unfinished registry maxDepth root content (.response single)

theorem Unfinished.read_eq
    {root : StartTag} {leading content : List Token} {payload : Payload}
    (noTag : ∀ token ∈ leading, token.isStartTag = false)
    (unfinished : Unfinished registry maxDepth root content payload)
    (stream : TokenStream) :
    ∃ after : TokenStream,
      read registry maxDepth
          (stream.withTokens (leading ++ .startTag root :: content)) =
        .ok payload after := by
  obtain ⟨entered, equality⟩ := read_becomes_at_root noTag root content
    stream []
  rw [List.append_nil, List.append_nil] at equality
  cases unfinished with
  | request named breaksOff =>
      obtain ⟨after, delivered⟩ := breaksOff.read_eq entered
      rw [named] at equality
      exact ⟨_, equality.trans (map_eq_ok_iff.mpr ⟨_, delivered, rfl⟩)⟩
  | response named breaksOff =>
      obtain ⟨after, delivered⟩ := breaksOff.read_eq entered
      rw [named] at equality
      exact ⟨_, equality.trans (map_eq_ok_iff.mpr ⟨_, delivered, rfl⟩)⟩

theorem readKind_cut
    (plain : registry.IsPlain) {kind : Kind} {root : StartTag}
    (named : Kind.ofRootName? root.localName = some kind)
    {stream after : TokenStream} {content more : List Token}
    {payload : Payload}
    (succeeded :
      readKind registry maxDepth kind
          (stream.withTokens (.startTag root :: content ++ more)) =
        .ok payload after) :
    (∃ unfinished, Unfinished registry maxDepth root content unfinished) ∨
      Cut 0 (readKind registry maxDepth kind) (.startTag root :: content)
        more payload after := by
  have requests := plain.requestChild_survives maxDepth
  have responses := plain.responseChild_survives maxDepth
  cases kind with
  | request =>
      obtain ⟨single, read, rfl⟩ := map_eq_ok_iff.mp succeeded
      rcases BodyGrammar.read_cut requests read with ⟨_, breaksOff⟩ | cut
      · exact Or.inl ⟨_, .request named breaksOff⟩
      · exact Or.inr (cut.endsBind (Or.inr ⟨_, rfl⟩) succeeded rfl)
  | response =>
      obtain ⟨single, read, rfl⟩ := map_eq_ok_iff.mp succeeded
      rcases BodyGrammar.read_cut responses read with ⟨_, breaksOff⟩ | cut
      · exact Or.inl ⟨_, .response named breaksOff⟩
      · exact Or.inr (cut.endsBind (Or.inr ⟨_, rfl⟩) succeeded rfl)
  | requestCollection =>
      have members := BodyGrammar.readCollection_survives requests
        Kind.requestCollection.rootName
      exact Or.inr (Survives.compositional.map members _ succeeded)
  | responseCollection =>
      have members := BodyGrammar.readCollection_survives responses
        Kind.responseCollection.rootName
      exact Or.inr (Survives.compositional.map members _ succeeded)

/-- A stream of these tokens is reported as exhausted, or they are a request or
a response that breaks off between two children and is delivered with what it
says so far. -/
inductive ReportsShortage
    (registry : Registry) (maxDepth : Nat) (tokens : List Token) : Prop
  | exhausted (expected : String) (after : TokenStream)
      (reported :
        read registry maxDepth (.ofTokens tokens) =
          .error (.fault (.streamExhausted expected)) after)
  | unfinished (leading content : List Token) (root : StartTag)
      (payload : Payload) (after : TokenStream)
      (split : tokens = leading ++ .startTag root :: content)
      (noTag : ∀ token ∈ leading, token.isStartTag = false)
      (unfinished : Unfinished registry maxDepth root content payload)
      (delivered :
        read registry maxDepth (.ofTokens tokens) = .ok payload after)

theorem missingText_of_demands
    {tokens : List Token} {what : String}
    (demands : Demands (read registry maxDepth) tokens what) :
    ∃ stop, read registry maxDepth (.ofTokens tokens) =
      .error (.parse (.missingText what)) stop := by
  have failed := demands (.ofTokens []) [] nofun
  rwa [List.append_nil] at failed

theorem ReportsShortage.not_demands
    {tokens : List Token}
    (reports : ReportsShortage registry maxDepth tokens) (what : String) :
    ¬ Demands (read registry maxDepth) tokens what := by
  intro demands
  obtain ⟨stop, failed⟩ := missingText_of_demands demands
  cases reports with
  | exhausted expected after reported =>
      rw [reported] at failed
      cases failed
  | unfinished leading content root payload after _ _ _ delivered =>
      rw [delivered] at failed
      cases failed

section Truncation

variable (plain : registry.IsPlain) {tokens more : List Token}
  {payload : Payload} {after : TokenStream}
  (accepted :
    read registry maxDepth (.ofTokens (tokens ++ more)) = .ok payload after)
  (whole : after.Holds []) (cut : more ≠ [])
  (entered : ∃ tag, .startTag tag ∈ tokens)

include plain accepted whole cut entered

/-- A message of which something is cut off breaks off between two children or
falls short. -/
theorem unfinished_or_fallsShort :
    (∃ leading content root unfinished,
      tokens = leading ++ .startTag root :: content ∧
        (∀ token ∈ leading, token.isStartTag = false) ∧
        Unfinished registry maxDepth root content unfinished) ∨
      FallsShort (read registry maxDepth) tokens more := by
  obtain ⟨leading, root, content, split, noTag⟩ :=
    exists_first_startTag entered
  have becomes :
      Becomes (read registry maxDepth) (leading ++ .startTag root :: content)
        _ (.startTag root :: content) :=
    read_becomes_at_root noTag root content
  obtain ⟨middle, equality⟩ := becomes (.ofTokens []) more
  rw [← split] at equality
  have run := equality.symm.trans accepted
  cases named : Kind.ofRootName? root.localName with
  | none =>
      rw [named] at run
      cases run
  | some kind =>
      rw [named] at run becomes
      rcases readKind_cut plain named run with ⟨unfinished, breaksOff⟩ | cutOff
      · exact Or.inl ⟨leading, content, root, unfinished, split, noTag,
          breaksOff⟩
      · right
        rw [split]
        cases cutOff with
        | short falls => exact falls.of_becomes becomes
        | done consumed ahead others split few moves becomes left =>
            have sizes := left.size_eq.symm.trans whole.size_eq
            have positive := List.length_pos_iff.mpr cut
            simp only [List.length_append, List.length_nil] at sizes
            omega

theorem reportsShortage_or_demands :
    ReportsShortage registry maxDepth tokens ∨
      ∃ what, Demands (read registry maxDepth) tokens what ∧
        (∃ earlier tag, tokens = earlier ++ [.startTag tag]) ∧
        ∃ content rest, more = .text content :: rest := by
  rcases unfinished_or_fallsShort plain accepted whole cut entered with
    ⟨leading, content, root, unfinished, split, noTag, breaksOff⟩ | falls
  · obtain ⟨stop, delivered⟩ := breaksOff.read_eq noTag (.ofTokens [])
    rw [← split] at delivered
    exact Or.inl (.unfinished leading content root unfinished stop split noTag
      breaksOff delivered)
  · cases falls with
    | exhausted exhausts =>
        obtain ⟨expected, stop, reported⟩ := exhausts (.ofTokens [])
        exact Or.inl (.exhausted expected stop reported)
    | demanding what demands behind text =>
        exact Or.inr ⟨what, demands, behind, text⟩

end Truncation

end Payload

/-- A message that is cut off before its end reports a shortage, unless it is
cut off where a text is demanded.  That is so only between a start tag and a
text, and the text is then reported as missing. -/
theorem truncation_reports_shortage_iff
    {registry : Registry} (plain : registry.IsPlain) {maxDepth : Nat}
    {tokens more : List Token} {payload : Payload} {after : TokenStream}
    (accepted :
      Payload.read registry maxDepth (.ofTokens (tokens ++ more)) =
        .ok payload after)
    (whole : after.Holds []) (cut : more ≠ [])
    (entered : ∃ tag, .startTag tag ∈ tokens) :
    (Payload.ReportsShortage registry maxDepth tokens ↔
      ∀ what, ¬ Demands (Payload.read registry maxDepth) tokens what) ∧
    ∀ what, Demands (Payload.read registry maxDepth) tokens what →
      (∃ earlier tag, tokens = earlier ++ [.startTag tag]) ∧
      (∃ content rest, more = .text content :: rest) ∧
      ∃ stop, Payload.read registry maxDepth (.ofTokens tokens) =
        .error (.parse (.missingText what)) stop := by
  rcases Payload.reportsShortage_or_demands plain accepted whole cut entered
    with reports | ⟨what, demands, behind, text⟩
  · have harmless := reports.not_demands
    exact ⟨⟨fun _ => harmless, fun _ => reports⟩,
      fun what demands => absurd demands (harmless what)⟩
  · refine ⟨⟨Payload.ReportsShortage.not_demands, fun harmless =>
      absurd demands (harmless what)⟩, fun other demandsOther => ?_⟩
    exact ⟨behind, text, Payload.missingText_of_demands demandsOther⟩

def responseTag : StartTag := (responseOf "c" []).startTag

def keySizeTag : StartTag := ⟨QName.ofLocal "KeySize", []⟩

theorem truncation_behind_keySize_reports_shortage :
    let tokens : List Token :=
      [.startTag responseTag, .startTag keySizeTag, .text " 256 ",
        .endTag keySizeTag.name, .text " "]
    let more : List Token :=
      [.startTag ⟨QName.ofLocal "RequestedTokenCancelled", []⟩,
        .endTag (QName.ofLocal "RequestedTokenCancelled"),
        .endTag responseTag.name]
    (∃ payload, Payload.read .standard 8 (.ofTokens (tokens ++ more)) =
      .ok payload (.ofTokens [])) ∧
    Payload.ReportsShortage .standard 8 tokens := by
  intro tokens more
  have accepted :
      Payload.read .standard 8 (.ofTokens (tokens ++ more)) =
        .ok (.response
          { context := "c", keySize := some 256, cancelled := true })
          (.ofTokens []) := by
    with_unfolding_all rfl
  have shortage := truncation_reports_shortage_iff (Or.inr rfl) accepted rfl
    nofun ⟨_, List.mem_cons_self⟩
  refine ⟨⟨_, accepted⟩, shortage.1.mpr fun what demands => ?_⟩
  obtain ⟨⟨earlier, tag, last⟩, _⟩ := shortage.2 what demands
  have ends := congrArg List.getLast? last
  rw [List.getLast?_concat] at ends
  cases ends

/-- A response up to the start tag of its key size, and what is missing of
it. -/
def openedKeySize : List Token :=
  [.startTag responseTag, .startTag keySizeTag]

def keySizeRest : List Token :=
  [.text " 256 ", .endTag keySizeTag.name, .endTag responseTag.name]

theorem read_whole_keySize :
    Payload.read .standard 8 (.ofTokens (openedKeySize ++ keySizeRest)) =
      .ok (.response { context := "c", keySize := some 256 })
        (.ofTokens []) := by
  with_unfolding_all rfl

theorem read_openedKeySize :
    Payload.read .standard 8 (.ofTokens openedKeySize) =
      .error (.parse (.missingText "key size")) (.ofTokens []) := by
  with_unfolding_all rfl

/-- Behind the start tag of a key size its text is reported as missing although
the stream has ended. -/
theorem not_all_truncations_report_shortage :
    ¬ ∀ (registry : Registry) (maxDepth : Nat) (tokens more : List Token)
      (payload : Payload) (after : TokenStream),
      registry.IsPlain →
      Payload.read registry maxDepth (.ofTokens (tokens ++ more)) =
        .ok payload after →
      after.Holds [] → more ≠ [] → (∃ tag, .startTag tag ∈ tokens) →
      Payload.ReportsShortage registry maxDepth tokens := by
  intro allReport
  have reports := allReport .standard 8 openedKeySize keySizeRest _ _
    (Or.inr rfl) read_whole_keySize rfl nofun ⟨_, List.mem_cons_self⟩
  cases reports with
  | exhausted expected after reported =>
      rw [read_openedKeySize] at reported
      cases reported
  | unfinished leading content root payload after _ _ _ delivered =>
      rw [read_openedKeySize] at delivered
      cases delivered

end WsTrust
