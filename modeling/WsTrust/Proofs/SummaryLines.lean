import WsTrust.CommandLine.Outcome
import WsTrust.Proofs.RecordOrder
import WsTrust.Proofs.ValidRecords

/-!
# The lines of a summary

A record is meant to be summed up in one line.  There is one summary for each
record, in document order, but the texts that it shows are taken as they are:
the summary breaks exactly where they do.  The URI references and the number
that it shows break nowhere.
-/

namespace WsTrust

/-! ## Line breaks -/

namespace Text

/-- The characters at which a line ends: line feed, vertical tab, form feed,
carriage return, next line, and the separators of lines and paragraphs. -/
def isLineBreak (c : Char) : Bool :=
  let code := c.toNat
  (0x0A ≤ code && code ≤ 0x0D) || code == 0x85 || code == 0x2028 ||
    code == 0x2029

def lineBreaks (text : String) : List Char :=
  text.toList.filter isLineBreak

def IsOneLine (text : String) : Prop :=
  lineBreaks text = []

instance (text : String) : Decidable (IsOneLine text) :=
  inferInstanceAs (Decidable (_ = _))

@[simp]
theorem lineBreaks_append (left right : String) :
    lineBreaks (left ++ right) = lineBreaks left ++ lineBreaks right := by
  rw [lineBreaks, String.toList_append, List.filter_append]
  rfl

theorem isLineBreak_of_isVisible {c : Char} (visible : Uri.IsVisible c) :
    isLineBreak c = false := by
  obtain ⟨lower, upper⟩ := visible
  simp only [isLineBreak]
  simp
  omega

theorem isOneLine_of_allVisible
    {text : String} (visible : Uri.AllVisible text.toList) :
    IsOneLine text := by
  rw [IsOneLine, lineBreaks, List.filter_eq_nil_iff]
  intro c member
  rw [isLineBreak_of_isVisible (visible c member)]
  decide

theorem isOneLine_toString (number : Nat) : IsOneLine (toString number) := by
  apply isOneLine_of_allVisible
  intro c member
  have digits : (toString number).toList = Nat.toDigits 10 number :=
    Nat.toList_repr
  rw [digits] at member
  exact Uri.isVisible_of_isDigit
    (Nat.isDigit_of_mem_toDigits (by decide) (by decide) member)

/-- Texts one after another are one line if each of them is. -/
theorem flatMap_lineBreaks_eq_nil_iff (texts : List String) :
    texts.flatMap lineBreaks = [] ↔ ∀ text ∈ texts, IsOneLine text :=
  List.flatMap_eq_nil_iff

end Text

open Cursor Text Summary

/-! ## One summary -/

namespace Summary

theorem lineBreaks_field
    {label : String} (plain : IsOneLine label) (value : Option String) :
    lineBreaks (field label value) = value.toList.flatMap lineBreaks := by
  cases value with
  | none => rfl
  | some value =>
      have space : lineBreaks " " = [] := by decide
      have sign : lineBreaks "=" = [] := by decide
      have none : lineBreaks label = [] := plain
      simp [field, space, sign, none]

theorem lineBreaks_shownContext (context : String) :
    lineBreaks (shownContext context) = lineBreaks context := by
  rw [shownContext]
  split
  · rename_i isEmpty
    rw [String.isEmpty_iff.mp isEmpty]
    decide
  · rfl

end Summary

structure Terms.HasOneLineUris (terms : Terms) : Prop where
  requestType : ∀ uri, terms.requestType = some uri → IsOneLine uri.text
  tokenType : ∀ uri, terms.tokenType = some uri → IsOneLine uri.text

theorem Summary.lineBreaks_uri_field
    {label : String} (plain : IsOneLine label) {uri : Option Uri}
    (oneLine : ∀ found, uri = some found → IsOneLine found.text) :
    lineBreaks (field label (uri.map Uri.text)) = [] := by
  rw [lineBreaks_field plain]
  cases uri with
  | none => rfl
  | some found =>
      have none : lineBreaks found.text = [] := oneLine found rfl
      simp [none]

def Response.shownTexts (response : Response) : List String :=
  [response.context] ++
    (response.appliesTo.map AppliesTo.identifier).toList ++
    (response.lifetime.map fun lifetime => lifetime.expires.text).toList ++
    (response.status.map Status.code).toList

def Request.shownTexts (request : Request) : List String :=
  [request.context] ++
    (request.appliesTo.map AppliesTo.identifier).toList

theorem Response.lineBreaks_summary
    {response : Response} (uris : response.toTerms.HasOneLineUris) :
    lineBreaks response.summary =
      response.shownTexts.flatMap lineBreaks := by
  have requestType :=
    lineBreaks_uri_field (show IsOneLine "request_type" by decide)
      uris.requestType
  have tokenType :=
    lineBreaks_uri_field (show IsOneLine "token_type" by decide)
      uris.tokenType
  have beginning : lineBreaks "RSTR context=" = [] := by decide
  have ending :
      lineBreaks (if response.cancelled then " cancelled" else "") = [] := by
    cases response.cancelled <;> decide
  delta summary
  simp only [lineBreaks_append, beginning, lineBreaks_shownContext,
    tokenType, requestType, ending, List.nil_append, List.append_nil,
    lineBreaks_field (show IsOneLine "applies_to" by decide),
    lineBreaks_field (show IsOneLine "expires" by decide),
    lineBreaks_field (show IsOneLine "status" by decide), shownTexts,
    List.flatMap_append, List.flatMap_singleton]

theorem Request.lineBreaks_summary
    {request : Request} (uris : request.toTerms.HasOneLineUris) :
    lineBreaks request.summary = request.shownTexts.flatMap lineBreaks := by
  have requestType :=
    lineBreaks_uri_field (show IsOneLine "request_type" by decide)
      uris.requestType
  have tokenType :=
    lineBreaks_uri_field (show IsOneLine "token_type" by decide)
      uris.tokenType
  have beginning : lineBreaks "RST context=" = [] := by decide
  have keySize :
      lineBreaks (field "key_size" (request.keySize.map toString)) = [] := by
    rw [lineBreaks_field (by decide)]
    cases request.keySize with
    | none => rfl
    | some bits =>
        have none : lineBreaks (toString bits) = [] := isOneLine_toString bits
        rw [Option.map_some, Option.toList_some, List.flatMap_singleton, none]
  delta summary
  simp only [lineBreaks_append, beginning, lineBreaks_shownContext,
    tokenType, requestType, keySize, List.nil_append, List.append_nil,
    lineBreaks_field (show IsOneLine "applies_to" by decide), shownTexts,
    List.flatMap_append, List.flatMap_singleton]

/-! ## Accepted records -/

def Term.HasOneLineUri : Term → Prop
  | .requestType uri => IsOneLine uri.text
  | .tokenType uri => IsOneLine uri.text
  | _ => True

theorem Uri.IsWritable.isOneLine
    {uri : Uri} (writable : uri.IsWritable) : IsOneLine uri.text :=
  isOneLine_of_allVisible (allVisible_of_isReference writable.1)

theorem Term.IsWritable.hasOneLineUri
    {term : Term} {maxDepth : Nat} (writable : term.IsWritable maxDepth) :
    term.HasOneLineUri := by
  cases term with
  | requestType uri => exact Uri.IsWritable.isOneLine writable
  | tokenType uri => exact Uri.IsWritable.isOneLine writable
  | _ => trivial

section Children

variable {Child : Type} {ofTerm : Term → Child}

def IsOneLineChild (ofTerm : Term → Child) (child : Child) : Prop :=
  ∀ term, child = ofTerm term → term.HasOneLineUri

/-- An extension yields no URI reference. -/
theorem Extension.ensures_isOneLineChild
    (injective : Function.Injective ofTerm) (extension : Extension) :
    Ensures extension.read fun value => ∀ party, value = .appliesTo party →
      IsOneLineChild ofTerm (ofTerm (.appliesTo party)) := by
  refine (Ensures.anything extension.read).mono ?_
  intro _ _ party _ term same
  cases injective same
  trivial

theorem Terms.hasOneLineUris_of_children
    {terms : Terms} {children : List Child}
    (listed : ∀ field term, terms.stated? field = some term →
      ofTerm term ∈ children)
    (oneLine : ∀ child ∈ children, IsOneLineChild ofTerm child) :
    terms.HasOneLineUris where
  requestType uri requested := by
    have found : terms.stated? .requestType = some (.requestType uri) := by
      rw [stated?, requested]
      rfl
    exact oneLine _ (listed _ _ found) _ rfl
  tokenType uri issued := by
    have found : terms.stated? .tokenType = some (.tokenType uri) := by
      rw [stated?, issued]
      rfl
    exact oneLine _ (listed _ _ found) _ rfl

end Children

theorem Response.mem_children_of_stated
    (response : Response) (field : Terms.Field) (term : Term)
    (stated : response.toTerms.stated? field = some term) :
    .term term ∈ response.children := by
  refine List.mem_filterMap.mpr ⟨.term field, Field.mem_all _, ?_⟩
  rw [stated?, stated]
  rfl

theorem Request.mem_children_of_stated
    (request : Request) (field : Terms.Field) (term : Term)
    (stated : request.toTerms.stated? field = some term) :
    .term term ∈ request.children := by
  refine List.mem_filterMap.mpr ⟨.term field, Field.mem_all _, ?_⟩
  rw [stated?, stated]
  rfl

namespace Payload

/-- The URI references that the records of a message show break no line. -/
theorem hasOneLineUris_of_read
    {registry : Registry} {maxDepth : Nat} {stream after : TokenStream}
    {payload : Payload}
    (succeeded : read registry maxDepth stream = .ok payload after) :
    (∀ response ∈ payload.responses, response.toTerms.HasOneLineUris) ∧
      ∀ request ∈ payload.requests, request.toTerms.HasOneLineUris := by
  have responses :
      Response.grammar.Validates registry maxDepth
        (IsOneLineChild ResponseChild.term) fun response =>
          ∀ child ∈ response.children,
            IsOneLineChild ResponseChild.term child := by
    refine Response.validates (fun row member => ?_) fun extension _ =>
      extension.ensures_isOneLineChild fun _ _ => ResponseChild.term.inj
    refine (Response.children_ensure maxDepth row member).mono ?_
    rintro _ writable term rfl
    exact Term.IsWritable.hasOneLineUri writable
  have requests :
      Request.grammar.Validates registry maxDepth
        (IsOneLineChild RequestChild.term) fun request =>
          ∀ child ∈ request.children,
            IsOneLineChild RequestChild.term child := by
    refine Request.validates (fun row member => ?_) fun extension _ =>
      extension.ensures_isOneLineChild fun _ _ => RequestChild.term.inj
    refine (Request.children_ensure maxDepth row member).mono ?_
    rintro _ writable term rfl
    exact Term.IsWritable.hasOneLineUri writable
  obtain ⟨validResponses, validRequests⟩ :=
    read_ensures responses requests succeeded
  constructor
  · intro response member
    exact Terms.hasOneLineUris_of_children response.mem_children_of_stated
      (validResponses response member)
  · intro request member
    exact Terms.hasOneLineUris_of_children request.mem_children_of_stated
      (validRequests request member)

/-! ## All summaries -/

def shownTexts (payload : Payload) : List (List String) :=
  payload.requests.map Request.shownTexts ++
    payload.responses.map Response.shownTexts

/-- What a summary begins with, which says what kind of record it is of. -/
def beginningOf (payload : Payload) (context : String) : String :=
  match payload with
  | .request _ | .requestCollection _ =>
      "RST context=" ++ shownContext context
  | .response _ | .responseCollection _ =>
      "RSTR context=" ++ shownContext context

theorem summaries_eq (payload : Payload) :
    payload.summaries =
      payload.requests.map Request.summary ++
        payload.responses.map Response.summary := by
  cases payload <;> simp [summaries, requests, responses]

/-- Each summary begins with the context of its record. -/
theorem summaries_begin (payload : Payload) :
    List.Forall₂
      (fun line context => ∃ rest, line = payload.beginningOf context ++ rest)
      payload.summaries payload.contexts := by
  have request (single : Request) :
      ∃ rest, single.summary =
        "RST context=" ++ shownContext single.context ++ rest := by
    delta Request.summary
    simp only [String.append_assoc]
    exact ⟨_, rfl⟩
  have response (single : Response) :
      ∃ rest, single.summary =
        "RSTR context=" ++ shownContext single.context ++ rest := by
    delta Response.summary
    simp only [String.append_assoc]
    exact ⟨_, rfl⟩
  cases payload with
  | request single => exact .cons (request single) .nil
  | response single => exact .cons (response single) .nil
  | requestCollection members =>
      simp only [contexts, requests, responses, summaries, List.map_nil,
        List.append_nil, List.forall₂_map_left_iff,
        List.forall₂_map_right_iff]
      exact List.forall₂_same.mpr fun single _ => request single
  | responseCollection members =>
      simp only [contexts, requests, responses, summaries, List.map_nil,
        List.nil_append, List.forall₂_map_left_iff,
        List.forall₂_map_right_iff]
      exact List.forall₂_same.mpr fun single _ => response single

/-- The summaries of a message that was read break where the texts do that they
show. -/
theorem map_lineBreaks_summaries
    {registry : Registry} {maxDepth : Nat} {stream after : TokenStream}
    {payload : Payload}
    (succeeded : read registry maxDepth stream = .ok payload after) :
    payload.summaries.map lineBreaks =
      payload.shownTexts.map fun texts => texts.flatMap lineBreaks := by
  obtain ⟨responses, requests⟩ := hasOneLineUris_of_read succeeded
  rw [summaries_eq, shownTexts, List.map_append, List.map_append,
    List.map_map, List.map_map, List.map_map, List.map_map]
  have ofRequests :
      payload.requests.map (lineBreaks ∘ Request.summary) =
        payload.requests.map
          ((fun texts => texts.flatMap lineBreaks) ∘ Request.shownTexts) :=
    List.map_congr_left fun request member => by
      simp only [Function.comp_apply]
      exact Request.lineBreaks_summary (requests request member)
  have ofResponses :
      payload.responses.map (lineBreaks ∘ Response.summary) =
        payload.responses.map
          ((fun texts => texts.flatMap lineBreaks) ∘ Response.shownTexts) :=
    List.map_congr_left fun response member => by
      simp only [Function.comp_apply]
      exact Response.lineBreaks_summary (responses response member)
  rw [ofRequests, ofResponses]

end Payload

/-! ## What is printed -/

namespace CommandLine

/-- Lines as they are printed, with a line feed behind each. -/
def printed (lines : List String) : String :=
  String.join (lines.map fun line => line ++ "\n")

def lineFeeds (text : String) : Nat :=
  text.toList.count '\n'

theorem lineFeeds_append (left right : String) :
    lineFeeds (left ++ right) = lineFeeds left + lineFeeds right := by
  rw [lineFeeds, String.toList_append, List.count_append]
  rfl

/-- As many line feeds are printed as there are lines and line feeds in them. -/
theorem lineFeeds_printed (lines : List String) :
    lineFeeds (printed lines) =
      lines.length + lineFeeds (String.join lines) := by
  induction lines with
  | nil => rfl
  | cons line rest inductionHypothesis =>
      have ending : lineFeeds "\n" = 1 := by decide
      rw [printed, List.map_cons, String.join_cons, lineFeeds_append,
        lineFeeds_append, ending, ← printed, inductionHypothesis,
        List.length_cons, String.join_cons, lineFeeds_append]
      omega

/-- Line feeds are line breaks. -/
theorem lineFeeds_eq (text : String) :
    lineFeeds text = (lineBreaks text).count '\n' :=
  (List.count_filter (by decide)).symm

end CommandLine

theorem Text.lineBreaks_join (texts : List String) :
    lineBreaks (String.join texts) = texts.flatMap lineBreaks := by
  induction texts with
  | nil => rfl
  | cons first rest inductionHypothesis =>
      rw [String.join_cons, lineBreaks_append, inductionHypothesis,
        List.flatMap_cons]

namespace Payload

open CommandLine

variable {payload : Payload}

/-- Line feeds are counted alike in summaries and in the texts that they show,
where their line breaks are the same. -/
theorem lineFeeds_join_summaries
    (breaks : payload.summaries.map lineBreaks =
      payload.shownTexts.map fun texts => texts.flatMap lineBreaks) :
    lineFeeds (String.join payload.summaries) =
      lineFeeds (String.join payload.shownTexts.flatten) := by
  rw [lineFeeds_eq, lineFeeds_eq, lineBreaks_join, lineBreaks_join,
    List.flatMap_def, breaks, ← List.flatMap_def,
    List.flatten_eq_flatMap, List.flatMap_assoc]
  rfl

/-- An empty collection is shown in one line, too. -/
theorem lineFeeds_shownAs :
    lineFeeds (printed (Outcome.shownAs .summary payload)) =
      max 1 payload.summaries.length +
        lineFeeds (String.join payload.summaries) := by
  rw [lineFeeds_printed, Outcome.shownAs]
  cases lines : payload.summaries with
  | nil =>
      have notice :
          lineFeeds (Outcome.information
            (payload.rootName ++ ": no members")) = 0 := by
        rw [rootName]
        cases payload.kind <;> decide
      have nothing : lineFeeds "" = 0 := by decide
      simp [notice, nothing]
  | cons first others =>
      have present : 1 ≤ (first :: others).length := Nat.succ_pos _
      rw [Nat.max_eq_right present]
      rfl

/-- An accepted message has one summary for each record, in document order.
Each begins with the context of its record, which the start tag of the record
gives, and breaks where the texts do that it shows.  All of them are one line
exactly if all these texts are, and what is printed has one line feed for each
summary and one more for each line feed in these texts. -/
theorem summaries_break_with_their_texts
    {settings : Settings} {text : String}
    (accepted : readXml .standard settings text = .ok payload) :
    (∃ openings, payload.BeginsAt settings text openings ∧
      openings.Pairwise Xml.Opening.IsBefore ∧
      List.Forall₂ (fun context opening => opening.Gives context)
        payload.contexts openings ∧
      List.Forall₂
        (fun line context =>
          ∃ rest, line = payload.beginningOf context ++ rest)
        payload.summaries payload.contexts) ∧
    payload.summaries.length =
      payload.requests.length + payload.responses.length ∧
    payload.summaries.map lineBreaks =
      payload.shownTexts.map (fun texts => texts.flatMap lineBreaks) ∧
    ((∀ line ∈ payload.summaries, IsOneLine line) ↔
      ∀ texts ∈ payload.shownTexts, ∀ shown ∈ texts, IsOneLine shown) ∧
    lineFeeds (printed (Outcome.shownAs .summary payload)) =
      max 1 payload.summaries.length +
        lineFeeds (String.join payload.shownTexts.flatten) := by
  obtain ⟨openings, begins⟩ := exists_beginsAt accepted
  have breaks :
      payload.summaries.map lineBreaks =
        payload.shownTexts.map fun texts => texts.flatMap lineBreaks := by
    rw [readXml] at accepted
    split at accepted
    · rename_i succeeded
      cases accepted
      exact map_lineBreaks_summaries succeeded
    · cases accepted
  refine ⟨⟨openings, begins, begins.ordered, begins.gives,
    payload.summaries_begin⟩, ?length, breaks, ?oneLine, ?printed⟩
  case length =>
    rw [summaries_eq, List.length_append, List.length_map, List.length_map]
  case oneLine =>
    have none :
        (∀ line ∈ payload.summaries.map lineBreaks, line = []) ↔
          ∀ texts ∈ payload.shownTexts.map
            (fun texts => texts.flatMap lineBreaks), texts = [] := by
      rw [breaks]
    simp only [List.forall_mem_map, flatMap_lineBreaks_eq_nil_iff] at none
    exact none
  case printed =>
    rw [lineFeeds_shownAs, lineFeeds_join_summaries breaks]

/-- Two requests, the second of them with a line feed in its context. -/
def brokenContext : String :=
  "<RequestSecurityTokenCollection>" ++
    "<RequestSecurityToken Context='a'/>" ++
    "<RequestSecurityToken Context='b&#10;c'/>" ++
    "</RequestSecurityTokenCollection>"

def brokenContextRequests : Payload :=
  .requestCollection [{ context := "a" }, { context := "b\nc" }]

theorem brokenContext_is_printed_in_three_lines :
    (∃ openings,
      brokenContextRequests.BeginsAt .standard brokenContext openings ∧
        openings.Pairwise Xml.Opening.IsBefore) ∧
      brokenContextRequests.summaries.map lineBreaks = [[], ['\n']] ∧
      lineFeeds (printed
        (Outcome.shownAs .summary brokenContextRequests)) = 3 := by
  have accepted :
      readXml .standard .standard brokenContext =
        .ok brokenContextRequests := by
    decide +kernel
  obtain ⟨⟨openings, begins, ordered, _⟩, _, breaks, _, feeds⟩ :=
    summaries_break_with_their_texts accepted
  exact ⟨⟨openings, begins, ordered⟩, breaks.trans (by decide),
    feeds.trans (by decide)⟩

/-- A response with a line feed in its context, behind which the summary of
another one is feigned. -/
def forgedLine : String :=
  "<RequestSecurityTokenResponse Context='a&#10;RSTR context=b'/>"

def genuineLines : String :=
  "<RequestSecurityTokenResponseCollection>" ++
    "<RequestSecurityTokenResponse Context='a'/>" ++
    "<RequestSecurityTokenResponse Context='b'/>" ++
    "</RequestSecurityTokenResponseCollection>"

/-- One response is printed as if it were two. -/
theorem forgedLine_is_printed_as_two_records :
    let forged : Payload := .response { context := "a\nRSTR context=b" }
    let genuine : Payload :=
      .responseCollection [{ context := "a" }, { context := "b" }]
    readXml .standard .standard forgedLine = .ok forged ∧
      readXml .standard .standard genuineLines = .ok genuine ∧
      forged.summaries = ["RSTR context=a\nRSTR context=b"] ∧
      ¬ (∀ line ∈ forged.summaries, IsOneLine line) ∧
      printed (Outcome.shownAs .summary forged) =
        printed (Outcome.shownAs .summary genuine) := by
  decide +kernel

end Payload

end WsTrust
