import Mathlib.Data.List.Forall2
import Mathlib.Data.List.Nodup
import WsTrust.Element.Written
import WsTrust.Proofs.WrittenNames

/-!
# Written tags read back

A tag that is written out with names of XML ends where it was written to end,
and its names and values are found in it again.  It is a fault exactly if its
attributes cannot stand side by side.
-/

namespace WsTrust

def StartTag.written (tag : StartTag) : List Char :=
  tag.name.written.toList ++ tag.attributes.flatMap Attribute.written

namespace Xml

/-! ## Where a tag ends -/

/-- The search for the end of a tag passes over these characters. -/
def PassedInTag (characters : List Char) : Prop :=
  ∀ rest : List Char,
    splitTag? none (characters ++ rest) =
      (splitTag? none rest).map fun (content, after) =>
        (characters ++ content, after)

namespace PassedInTag

theorem nil : PassedInTag [] := by
  intro rest
  exact Option.map_id'.symm

theorem append
    {first second : List Char} (firstPassed : PassedInTag first)
    (secondPassed : PassedInTag second) :
    PassedInTag (first ++ second) := by
  intro rest
  rw [List.append_assoc, firstPassed, secondPassed, Option.map_map]
  congr 1
  funext split
  simp

theorem flatMap
    {Source : Type} {sources : List Source} {write : Source → List Char}
    (each : ∀ source ∈ sources, PassedInTag (write source)) :
    PassedInTag (sources.flatMap write) := by
  induction sources with
  | nil => exact nil
  | cons source rest inductionHypothesis =>
      obtain ⟨head, tail⟩ := List.forall_mem_cons.mp each
      exact head.append (inductionHypothesis tail)

theorem singleton
    {c : Char} (notClosing : c ≠ '>')
    (notQuoting : ¬ (c = '\x22' ∨ c = '\x27')) :
    PassedInTag [c] := by
  intro rest
  rw [List.singleton_append, splitTag?]
  simp only [if_neg notClosing, if_neg notQuoting, List.singleton_append]

theorem of_unquoted
    {characters : List Char} (notClosing : '>' ∉ characters)
    (notDouble : '\x22' ∉ characters) (notSingle : '\x27' ∉ characters) :
    PassedInTag characters := by
  induction characters with
  | nil => exact nil
  | cons c rest inductionHypothesis =>
      simp only [List.mem_cons, not_or] at notClosing notDouble notSingle
      have head : PassedInTag [c] := by
        apply singleton (Ne.symm notClosing.1)
        rintro (isDouble | isSingle)
        · exact notDouble.1 isDouble.symm
        · exact notSingle.1 isSingle.symm
      exact head.append
        (inductionHypothesis notClosing.2 notDouble.2 notSingle.2)

end PassedInTag

theorem splitTag?_quoted
    {value : List Char} (closed : '\x22' ∉ value) (rest : List Char) :
    splitTag? (some '\x22') (value ++ '\x22' :: rest) =
      (splitTag? none rest).map fun (content, after) =>
        (value ++ '\x22' :: content, after) := by
  induction value with
  | nil => rfl
  | cons c others inductionHypothesis =>
      simp only [List.mem_cons, not_or] at closed
      rw [List.cons_append, splitTag?]
      simp only [if_neg (Ne.symm closed.1),
        inductionHypothesis closed.2, Option.map_map]
      rfl

end Xml

namespace QName

variable {name : QName} (named : name.IsXmlName)

include named

theorem IsXmlName.written_passed : Xml.PassedInTag name.written.toList := by
  apply Xml.PassedInTag.of_unquoted
  · exact named.not_mem_written (by decide) (by decide)
  · exact named.not_mem_written (by decide) (by decide)
  · exact named.not_mem_written (by decide) (by decide)

theorem IsXmlName.written_not_blank :
    ∀ c ∈ name.written.toList, Xml.isMarkupBlank c = false := by
  intro c member
  by_contra blank
  simp only [Xml.isMarkupBlank, Bool.not_eq_false, Bool.or_eq_true,
    beq_iff_eq] at blank
  have notDelimiter :=
    (named.written_characters c member).resolve_left
  rcases blank with ((rfl | rfl) | rfl) | rfl
  · exact notDelimiter (by decide) (by decide)
  · exact notDelimiter (by decide) (by decide)
  · exact notDelimiter (by decide) (by decide)
  · exact notDelimiter (by decide) (by decide)

theorem IsXmlName.written_continuesKey :
    ∀ c ∈ name.written.toList, Xml.continuesKey c = true := by
  intro c member
  have notEquals : c ≠ '=' := by
    rintro rfl
    exact named.not_mem_written (by decide) (by decide) member
  simp [Xml.continuesKey, notEquals, named.written_not_blank c member]

end QName

namespace Attribute

/-- An attribute is written as a blank, its name, an equals sign and its value
in quotation marks. -/
theorem written_append (whole : Attribute) (rest : List Char) :
    whole.written ++ rest =
      ' ' :: (whole.name.written.toList ++ '=' :: '\x22' ::
        (Xml.escape whole.value.toList ++ '\x22' :: rest)) := by
  simp [written]

theorem quote_not_mem_escape (whole : Attribute) :
    '\x22' ∉ Xml.escape whole.value.toList :=
  Xml.not_mem_escape rfl (by decide) _

theorem written_passed
    {whole : Attribute} (named : whole.name.IsXmlName) :
    Xml.PassedInTag whole.written := by
  have blank : Xml.PassedInTag [' '] :=
    Xml.PassedInTag.singleton (by decide) (by decide)
  have equals : Xml.PassedInTag ['='] :=
    Xml.PassedInTag.singleton (by decide) (by decide)
  have quoted :
      Xml.PassedInTag
        ('\x22' :: (Xml.escape whole.value.toList ++ ['\x22'])) := by
    intro rest
    rw [List.cons_append, List.append_assoc, List.singleton_append,
      Xml.splitTag?]
    simp [Xml.splitTag?_quoted whole.quote_not_mem_escape]
    rfl
  have passed :=
    ((blank.append named.written_passed).append equals).append quoted
  simpa [written] using passed

end Attribute

namespace StartTag

variable {tag : StartTag} (named : tag.HasXmlNames)

include named

theorem HasXmlNames.written_passed : Xml.PassedInTag tag.written := by
  refine named.1.written_passed.append (Xml.PassedInTag.flatMap ?_)
  intro each member
  exact Attribute.written_passed (named.2 each member)

theorem HasXmlNames.splitTag?_written (rest : List Char) :
    Xml.splitTag? none (tag.written ++ '>' :: rest) =
      some (tag.written, rest) := by
  rw [named.written_passed, Xml.splitTag?]
  simp

/-- The content of a tag does not end in a slash. -/
theorem HasXmlNames.getLast?_written :
    tag.written.getLast? ≠ some '/' := by
  rw [StartTag.written]
  rcases List.eq_nil_or_concat tag.attributes with none | ⟨others, last, all⟩
  · rw [none, List.flatMap_nil, List.append_nil]
    intro slash
    have member := List.mem_of_getLast? slash
    exact named.1.not_mem_written (by decide) (by decide) member
  · have quoted : (tag.attributes.flatMap Attribute.written).getLast? =
        some '\x22' := by
      rw [all, List.concat_eq_append, List.flatMap_append,
        List.flatMap_singleton, Attribute.written, ← List.append_assoc,
        List.getLast?_concat]
    rw [List.getLast?_append, quoted]
    simp

theorem HasXmlNames.readMarkup_eq (rest : List Char) :
    Xml.readMarkup (tag.written ++ rest) =
      match Xml.splitTag? none (tag.written ++ rest) with
      | some (content, after) =>
          if content.getLast? = some '/' then
            .ok (.startTag content.dropLast true, after)
          else
            .ok (.startTag content false, after)
      | none => .error .unclosedTag := by
  obtain ⟨first, others, equality, notDelimiter⟩ := named.1.exists_written
  rw [StartTag.written, equality]
  simp only [Xml.delimiters, List.mem_cons, not_or] at notDelimiter
  rw [List.cons_append, List.cons_append]
  unfold Xml.readMarkup
  split
  · simp_all
  · simp_all
  · simp_all
  · simp_all
  · rfl

theorem HasXmlNames.readMarkup_written (rest : List Char) :
    Xml.readMarkup (tag.written ++ '>' :: rest) =
      .ok (.startTag tag.written false, rest) := by
  rw [named.readMarkup_eq, named.splitTag?_written]
  exact if_neg named.getLast?_written

theorem HasXmlNames.readMarkup_written_empty (rest : List Char) :
    Xml.readMarkup (tag.written ++ '/' :: '>' :: rest) =
      .ok (.startTag tag.written true, rest) := by
  have split :
      Xml.splitTag? none (tag.written ++ '/' :: '>' :: rest) =
        some (tag.written ++ ['/'], rest) := by
    rw [named.written_passed]
    simp [Xml.splitTag?]
  rw [named.readMarkup_eq, split]
  simp

end StartTag

theorem QName.IsXmlName.readMarkup_endTag
    {name : QName} (named : name.IsXmlName) (rest : List Char) :
    Xml.readMarkup ('/' :: (name.written.toList ++ '>' :: rest)) =
      .ok (.endTag name.written.toList, rest) := by
  rw [Xml.readMarkup, named.written_passed, Xml.splitTag?]
  simp

theorem QName.IsXmlName.endTagName_written
    {name : QName} (named : name.IsXmlName) :
    Xml.endTagName name.written.toList = name.written.toList := by
  have notBlank := named.written_not_blank
  obtain ⟨first, rest, equality, _⟩ := named.exists_written
  rw [equality] at notBlank ⊢
  have someNotBlank :
      ¬ (first :: rest).all Xml.isMarkupBlank = true := by
    intro blank
    have firstBlank := List.all_eq_true.mp blank first List.mem_cons_self
    rw [notBlank first List.mem_cons_self] at firstBlank
    cases firstBlank
  have kept :
      (first :: rest).reverse.dropWhile Xml.isMarkupBlank =
        (first :: rest).reverse := by
    cases reversed : (first :: rest).reverse with
    | nil => rfl
    | cons last others =>
        have member : last ∈ first :: rest := by
          rw [← List.mem_reverse, reversed]
          exact List.mem_cons_self
        exact List.dropWhile_cons_of_neg (by simp [notBlank last member])
  rw [Xml.endTagName, if_neg someNotBlank, kept, List.reverse_reverse]

/-! ## The attributes of a tag -/

namespace Xml

/-- What is read of an attribute is what the attribute was written as. -/
def RawAttribute.Writes (raw : RawAttribute) (whole : Attribute) : Prop :=
  raw.key = whole.name.written.toList ∧
    raw.value = .ok (escape whole.value.toList)

theorem readValue_written
    (position : Nat) (whole : Attribute) (rest : List Char) :
    ∃ next,
      readValue position
          ('\x22' :: (escape whole.value.toList ++ '\x22' :: rest)) =
        .ok (escape whole.value.toList, next, rest) := by
  have inside :
      ∀ c ∈ escape whole.value.toList, (c != '\x22') = true := by
    intro c member
    rw [bne_iff_ne]
    rintro rfl
    exact whole.quote_not_mem_escape member
  have stops : ('\x22' != '\x22') = false := rfl
  have value := Text.takeWhile_append_stop inside stops rest
  have after := Text.dropWhile_append_stop inside stops rest
  rw [readValue, List.dropWhile_cons_of_neg (by decide)]
  simp only [true_or, if_true, value, after]
  exact ⟨_, rfl⟩

/-- An attribute is read where a key, an equals sign and a value follow one
another. -/
theorem rawAttributes_of_value
    (position : Nat)
    {characters rest afterEquals value after : List Char} {first : Char}
    (skipped : characters.dropWhile isMarkupBlank = first :: rest)
    (keyed : (rest.dropWhile continuesKey).dropWhile isMarkupBlank =
      '=' :: afterEquals)
    (read : ∀ start, ∃ next,
      readValue start afterEquals = .ok (value, next, after)) :
    ∃ start next,
      rawAttributes position characters =
        (rawAttributes next after).cons
          ⟨start, first :: rest.takeWhile continuesKey, .ok value⟩ := by
  rw [rawAttributes]
  split
  · rename_i found
    rw [skipped] at found
    cases found
  · rename_i found
    rw [skipped] at found
    cases found
    dsimp only
    split
    · rename_i found
      rw [keyed] at found
      cases found
      split
      · rename_i found
        rw [(read _).choose_spec] at found
        cases found
      · rename_i found
        rw [(read _).choose_spec] at found
        cases found
        exact ⟨_, _, rfl⟩
    · rename_i different
      exact absurd keyed (different afterEquals)

/-- The first of several attributes is found whole, and the others are read
after it. -/
theorem rawAttributes_written_append
    (position : Nat) {whole : Attribute} (named : whole.name.IsXmlName)
    (rest : List Char) :
    ∃ raw next,
      rawAttributes position (whole.written ++ rest) =
          (rawAttributes next rest).cons raw ∧
        raw.Writes whole := by
  obtain ⟨first, others, equality, notDelimiter⟩ := named.exists_written
  have firstNotBlank := named.written_not_blank first
    (by rw [equality]; exact List.mem_cons_self)
  have keyed : ∀ c ∈ others, continuesKey c = true := by
    intro c member
    apply named.written_continuesKey
    rw [equality]
    exact List.mem_cons_of_mem first member
  let afterEquals :=
    '\x22' :: (escape whole.value.toList ++ '\x22' :: rest)
  have written :
      whole.written ++ rest =
        ' ' :: (first :: others ++ '=' :: afterEquals) := by
    rw [whole.written_append, equality]
  have skipped :
      (whole.written ++ rest).dropWhile isMarkupBlank =
        first :: (others ++ '=' :: afterEquals) := by
    rw [written, List.dropWhile_cons_of_pos (by decide), List.cons_append,
      List.dropWhile_cons_of_neg (by simp [firstNotBlank])]
  have equals : continuesKey '=' = false := rfl
  have afterKey :
      ((others ++ '=' :: afterEquals).dropWhile continuesKey).dropWhile
          isMarkupBlank =
        '=' :: afterEquals := by
    rw [Text.dropWhile_append_stop keyed equals,
      List.dropWhile_cons_of_neg (by decide)]
  obtain ⟨start, next, found⟩ :=
    rawAttributes_of_value position skipped afterKey fun start =>
      readValue_written start whole rest
  refine ⟨_, next, found, ?_, rfl⟩
  rw [Text.takeWhile_append_stop keyed equals, equality]

theorem rawAttributes_written
    {attributes : List Attribute}
    (named : ∀ each ∈ attributes, each.name.IsXmlName) (position : Nat) :
    ∃ raws,
      rawAttributes position (attributes.flatMap Attribute.written) =
          ⟨raws, none⟩ ∧
        List.Forall₂ RawAttribute.Writes raws attributes := by
  induction attributes generalizing position with
  | nil =>
      refine ⟨[], ?_, List.Forall₂.nil⟩
      rw [List.flatMap_nil, rawAttributes]
      rfl
  | cons whole others inductionHypothesis =>
      obtain ⟨head, tail⟩ := List.forall_mem_cons.mp named
      obtain ⟨raw, next, found, writes⟩ :=
        rawAttributes_written_append position head
          (others.flatMap Attribute.written)
      obtain ⟨raws, foundOthers, writesOthers⟩ :=
        inductionHypothesis tail next
      refine ⟨raw :: raws, ?_, List.Forall₂.cons writes writesOthers⟩
      rw [List.flatMap_cons, found, foundOthers]
      rfl

/-! ## Declarations of a tag -/

section Declarations

variable {raws : List RawAttribute} {attributes : List Attribute}
  (written : List.Forall₂ RawAttribute.Writes raws attributes)
  (named : ∀ each ∈ attributes, each.name.IsXmlName)

include written named

/-- Admissible declarations extend the scope as they extend the bindings. -/
theorem Scope.Realizes.declareAll
    {scope : Scope} {bindings : Bindings}
    (realized : scope.Realizes bindings)
    (admissible : ∀ each ∈ attributes, each.IsAdmissible) :
    ∃ inner, scope.declareAll raws = (inner, none) ∧
      inner.Realizes (bindings.declareAll attributes) := by
  induction written generalizing scope bindings with
  | nil => exact ⟨scope, rfl, realized⟩
  | @cons raw whole _ _ writes _ inductionHypothesis =>
      obtain ⟨headNamed, tailNamed⟩ := List.forall_mem_cons.mp named
      obtain ⟨headAdmissible, tailAdmissible⟩ :=
        List.forall_mem_cons.mp admissible
      obtain ⟨sameKey, sameValue⟩ := writes
      obtain ⟨extended, declared, realizedNext⟩ :=
        realized.declare headNamed headAdmissible
      rw [Scope.declareAll]
      simp only [sameKey, sameValue, declared]
      exact inductionHypothesis tailNamed realizedNext tailAdmissible

/-- A declaration that is not admissible is reported. -/
theorem Scope.declareAll_fails
    (scope : Scope) (inadmissible : ¬ ∀ each ∈ attributes, each.IsAdmissible) :
    ∃ inner flaw, scope.declareAll raws = (inner, some flaw) := by
  induction written generalizing scope with
  | nil => exact absurd (by simp) inadmissible
  | @cons raw whole _ _ writes _ inductionHypothesis =>
      obtain ⟨headNamed, tailNamed⟩ := List.forall_mem_cons.mp named
      obtain ⟨sameKey, sameValue⟩ := writes
      rw [Scope.declareAll]
      simp only [sameKey, sameValue]
      rw [List.forall_mem_cons, not_and] at inadmissible
      rw [scope.declare_written headNamed]
      cases declares : whole.name.declaredPrefix? with
      | none =>
          have admissible : whole.IsAdmissible := by
            intro other member
            rw [declares] at member
            cases member
          exact inductionHypothesis tailNamed scope (inadmissible admissible)
      | some declared =>
          by_cases admissible : whole.IsAdmissible
          · simp only [if_pos admissible]
            exact inductionHypothesis tailNamed _ (inadmissible admissible)
          · simp only [if_neg admissible]
            exact ⟨scope, _, rfl⟩

end Declarations

/-! ## Values of a tag -/

/-- An attribute under a new key is read, whatever it is. -/
theorem readAttributes_cons_of_new
    (scope : Scope) {earlier rest : List RawAttribute} {raw : RawAttribute}
    {whole : Attribute} (writes : raw.Writes whole)
    (new : raw.key ∉ earlier.map RawAttribute.key) :
    readAttributes scope earlier (raw :: rest) none =
      match readAttributes scope (earlier ++ [raw]) rest none with
      | .error fault => .error fault
      | .ok others =>
          .ok (⟨scope.attributeName raw.key, whole.value⟩ :: others) := by
  have noOther :
      earlier.find? (fun other => other.key == raw.key) = none := by
    rw [List.find?_eq_none]
    intro other member sameKey
    rw [beq_iff_eq] at sameKey
    exact new (sameKey ▸ List.mem_map_of_mem member)
  rw [readAttributes, noOther]
  cases readAttributes scope (earlier ++ [raw]) rest none with
  | error fault => simp only [writes.2, unescape_escape]
  | ok others => simp only [writes.2, unescape_escape, String.ofList_toList]

theorem readAttributes_cons_of_repeated
    (scope : Scope) {earlier : List RawAttribute} {raw : RawAttribute}
    (repeated : raw.key ∈ earlier.map RawAttribute.key)
    (rest : List RawAttribute) :
    ∃ fault,
      readAttributes scope earlier (raw :: rest) none = .error fault := by
  obtain ⟨other, member, sameKey⟩ := List.mem_map.mp repeated
  have found :
      (earlier.find? fun other => other.key == raw.key).isSome = true := by
    rw [List.find?_isSome]
    exact ⟨other, member, beq_iff_eq.mpr sameKey⟩
  obtain ⟨first, equality⟩ := Option.isSome_iff_exists.mp found
  rw [readAttributes, equality]
  exact ⟨_, rfl⟩

section Values

variable {raws : List RawAttribute} {attributes : List Attribute}
  (written : List.Forall₂ RawAttribute.Writes raws attributes)

include written

/-- Attributes under different keys are all read, resolved by the scope. -/
theorem readAttributes_written
    {scope : Scope} {bindings : Bindings}
    (realized : scope.Realizes bindings)
    (named : ∀ each ∈ attributes, each.name.IsXmlName)
    (earlier : List RawAttribute)
    (distinct : (earlier.map RawAttribute.key ++
      attributes.map fun each => each.name.written.toList).Nodup) :
    readAttributes scope earlier raws none =
      .ok (attributes.map (Attribute.rebound bindings)) := by
  induction written generalizing earlier with
  | nil => rfl
  | @cons raw whole _ _ writes _ inductionHypothesis =>
      obtain ⟨headNamed, tailNamed⟩ := List.forall_mem_cons.mp named
      rw [List.map_cons, ← writes.1] at distinct
      have new : raw.key ∉ earlier.map RawAttribute.key := by
        intro member
        have notLater := (List.nodup_cons.mp (List.nodup_middle.mp distinct)).1
        exact notLater (List.mem_append_left _ member)
      rw [List.append_cons, ← List.map_singleton, ← List.map_append]
        at distinct
      rw [readAttributes_cons_of_new scope writes new,
        inductionHypothesis tailNamed _ distinct, writes.1,
        realized.attributeName_written headNamed]
      rfl

/-- Two attributes under one key are a fault. -/
theorem readAttributes_fails
    (scope : Scope) (earlier : List RawAttribute)
    (repeated : ¬ (earlier.map RawAttribute.key ++
      attributes.map fun each => each.name.written.toList).Nodup)
    (distinct : (earlier.map RawAttribute.key).Nodup) :
    ∃ fault, readAttributes scope earlier raws none = .error fault := by
  induction written generalizing earlier with
  | nil => exact absurd (by simpa using distinct) repeated
  | @cons raw whole rest _ writes _ inductionHypothesis =>
      by_cases old : raw.key ∈ earlier.map RawAttribute.key
      · exact readAttributes_cons_of_repeated scope old rest
      · rw [List.map_cons, ← writes.1, List.append_cons,
          ← List.map_singleton, ← List.map_append] at repeated
        have distinctNext :
            ((earlier ++ [raw]).map RawAttribute.key).Nodup := by
          rw [List.map_append, List.map_singleton, List.nodup_middle,
            List.append_nil]
          exact List.nodup_cons.mpr ⟨old, distinct⟩
        obtain ⟨fault, failed⟩ := inductionHypothesis _ repeated distinctNext
        rw [readAttributes_cons_of_new scope writes old, failed]
        exact ⟨fault, rfl⟩

end Values

end Xml

/-! ## Whole tags -/

/-- Keys are distinct exactly if the names are. -/
theorem StartTag.nodup_keys_iff (tag : StartTag) :
    (tag.attributes.map fun each => each.name.written.toList).Nodup ↔
      (tag.attributes.map fun each => each.name.written).Nodup := by
  have injective : Function.Injective String.toList :=
    fun _ _ => String.toList_inj.mp
  have mapped :
      (tag.attributes.map fun each => each.name.written.toList) =
        (tag.attributes.map fun each => each.name.written).map
          String.toList := by
    rw [List.map_map]
    rfl
  rw [mapped, List.nodup_map_iff injective]

section Tags

variable {tag : StartTag} (named : tag.HasXmlNames)

include named

/-- What a written tag is divided into. -/
theorem StartTag.HasXmlNames.takeWhile_written :
    tag.written.takeWhile (!Xml.isMarkupBlank ·) =
        tag.name.written.toList ∧
      tag.written.dropWhile (!Xml.isMarkupBlank ·) =
        tag.attributes.flatMap Attribute.written := by
  have inside :
      ∀ c ∈ tag.name.written.toList, (!Xml.isMarkupBlank c) = true := by
    intro c member
    rw [named.1.written_not_blank c member, Bool.not_false]
  rw [StartTag.written]
  cases tag.attributes with
  | nil =>
      rw [List.flatMap_nil, List.append_nil]
      exact ⟨List.takeWhile_eq_self_iff.mpr inside,
        List.dropWhile_eq_nil_iff.mpr inside⟩
  | cons first others =>
      have blank : (!Xml.isMarkupBlank ' ') = false := rfl
      rw [List.flatMap_cons, first.written_append]
      exact ⟨Text.takeWhile_append_stop inside blank _,
        Text.dropWhile_append_stop inside blank _⟩

variable {scope : Xml.Scope} {bindings : Bindings}
  (realized : scope.Realizes bindings)

include realized

/-- A tag whose attributes can stand side by side is read back, its names in the
namespaces that their prefixes are bound to. -/
theorem StartTag.HasXmlNames.readStartTag_written
    (declarable : tag.IsDeclarable) :
    ∃ inner,
      Xml.readStartTag scope tag.written =
          ⟨tag.name.written.toList, inner,
            .ok (tag.rebound (bindings.declareAll tag.attributes))⟩ ∧
        inner.Realizes (bindings.declareAll tag.attributes) := by
  obtain ⟨distinct, admissible⟩ := declarable
  obtain ⟨name, blanks⟩ := named.takeWhile_written
  obtain ⟨raws, found, written⟩ :=
    Xml.rawAttributes_written named.2
      (Xml.byteLength tag.name.written.toList)
  obtain ⟨inner, declared, realizedInner⟩ :=
    realized.declareAll written named.2 admissible
  have values :=
    Xml.readAttributes_written written realizedInner named.2 []
      (tag.nodup_keys_iff.mpr distinct)
  refine ⟨inner, ?_, realizedInner⟩
  rw [Xml.readStartTag]
  simp only [name, blanks, found, declared, values,
    realizedInner.elementName_written named.1]
  rfl

/-- A tag whose attributes cannot stand side by side is a fault. -/
theorem StartTag.HasXmlNames.readStartTag_fails
    (undeclarable : ¬ tag.IsDeclarable) :
    ∃ fault, (Xml.readStartTag scope tag.written).tag = .error fault := by
  obtain ⟨name, blanks⟩ := named.takeWhile_written
  obtain ⟨raws, found, written⟩ :=
    Xml.rawAttributes_written named.2
      (Xml.byteLength tag.name.written.toList)
  rw [Xml.readStartTag]
  simp only [name, blanks, found]
  by_cases admissible : ∀ each ∈ tag.attributes, each.IsAdmissible
  · obtain ⟨inner, declared, _⟩ :=
      realized.declareAll written named.2 admissible
    have repeated :
        ¬ (tag.attributes.map fun each => each.name.written.toList).Nodup := by
      rw [tag.nodup_keys_iff]
      intro distinct
      exact undeclarable ⟨distinct, admissible⟩
    obtain ⟨fault, failed⟩ :=
      Xml.readAttributes_fails written inner [] repeated
        List.nodup_nil
    simp only [declared, failed]
    exact ⟨fault, rfl⟩
  · obtain ⟨inner, flaw, declared⟩ :=
      Xml.Scope.declareAll_fails written named.2 scope admissible
    simp only [declared]
    exact ⟨_, rfl⟩

end Tags

end WsTrust
