import Mathlib.Data.List.TakeWhile
import WsTrust.Text.CodeRange
import WsTrust.Xml.Scope

/-!
# Names of XML

The names that Namespaces in XML allows without a colon, and the qualified names
that are made of them.  None of their characters ends a name inside a tag, so
the parts of a written name can be told apart again.
-/

namespace WsTrust

namespace Xml

/-- The characters that a name without a colon may start with. -/
def nameStartRanges : List Text.CodeRange :=
  [⟨0x41, 0x5A⟩, ⟨0x5F, 0x5F⟩, ⟨0x61, 0x7A⟩, ⟨0xC0, 0xD6⟩, ⟨0xD8, 0xF6⟩,
    ⟨0xF8, 0x2FF⟩, ⟨0x370, 0x37D⟩, ⟨0x37F, 0x1FFF⟩, ⟨0x200C, 0x200D⟩,
    ⟨0x2070, 0x218F⟩, ⟨0x2C00, 0x2FEF⟩, ⟨0x3001, 0xD7FF⟩,
    ⟨0xF900, 0xFDCF⟩, ⟨0xFDF0, 0xFFFD⟩, ⟨0x10000, 0xEFFFF⟩]

/-- The characters that a name may have, but not start with. -/
def nameTailRanges : List Text.CodeRange :=
  [⟨0x2D, 0x2E⟩, ⟨0x30, 0x39⟩, ⟨0xB7, 0xB7⟩, ⟨0x300, 0x36F⟩,
    ⟨0x203F, 0x2040⟩]

def isNameStart (c : Char) : Bool :=
  Text.inRanges nameStartRanges c

def isNameChar (c : Char) : Bool :=
  isNameStart c || Text.inRanges nameTailRanges c

/-- Whether the characters are a name without a colon, an `NCName`. -/
def isNCName : List Char → Bool
  | [] => false
  | first :: rest => isNameStart first && rest.all isNameChar

def delimiters : List Char :=
  [' ', '\t', '\r', '\n', '=', '\x22', '\x27', '<', '>', '/', '!', '?', ':']

theorem not_mem_delimiters_of_isNameChar
    {c : Char} (inName : isNameChar c = true) : c ∉ delimiters := by
  have none :
      (delimiters.all fun delimiter => !isNameChar delimiter) = true := by
    decide
  intro member
  have notInName := List.all_eq_true.mp none c member
  rw [inName] at notInName
  cases notInName

theorem isNameChar_of_isNameStart
    {c : Char} (starts : isNameStart c = true) :
    isNameChar c = true := by
  rw [isNameChar, starts, Bool.true_or]

theorem forall_isNameChar_of_isNCName
    {characters : List Char} (named : isNCName characters = true) :
    ∀ c ∈ characters, isNameChar c = true := by
  cases characters with
  | nil => cases named
  | cons first rest =>
      simp only [isNCName, Bool.and_eq_true, List.all_eq_true] at named
      obtain ⟨starts, follow⟩ := named
      exact List.forall_mem_cons.mpr
        ⟨isNameChar_of_isNameStart starts, follow⟩

end Xml

namespace QName

/-- The name is made of names without a colon; the prefix may be absent. -/
def IsXmlName (name : QName) : Prop :=
  Xml.isNCName name.localPart.toList = true ∧
    (name.sourcePrefix = "" ∨
      Xml.isNCName name.sourcePrefix.toList = true)

instance (name : QName) : Decidable name.IsXmlName :=
  inferInstanceAs (Decidable (_ ∧ _))

theorem toList_written_of_unprefixed
    {name : QName} (unprefixed : name.sourcePrefix = "") :
    name.written.toList = name.localPart.toList := by
  rw [written, unprefixed]
  rfl

theorem toList_written_of_prefixed
    {name : QName} (prefixed : name.sourcePrefix ≠ "") :
    name.written.toList =
      name.sourcePrefix.toList ++ ':' :: name.localPart.toList := by
  have present : name.sourcePrefix.isEmpty = false := by
    simpa using prefixed
  rw [written, present]
  simp

variable {name : QName} (named : name.IsXmlName)

include named

theorem IsXmlName.local_ne_nil : name.localPart.toList ≠ [] := by
  intro empty
  have isName := named.1
  rw [empty] at isName
  cases isName

theorem IsXmlName.prefix_characters :
    ∀ c ∈ name.sourcePrefix.toList, Xml.isNameChar c = true := by
  rcases named.2 with empty | isName
  · rw [empty]
    simp
  · exact Xml.forall_isNameChar_of_isNCName isName

/-- A written name has no delimiter but the colon after its prefix. -/
theorem IsXmlName.written_characters :
    ∀ c ∈ name.written.toList, c = ':' ∨ c ∉ Xml.delimiters := by
  have localCharacters := Xml.forall_isNameChar_of_isNCName named.1
  intro c member
  by_cases unprefixed : name.sourcePrefix = ""
  · rw [toList_written_of_unprefixed unprefixed] at member
    exact Or.inr
      (Xml.not_mem_delimiters_of_isNameChar (localCharacters c member))
  · rw [toList_written_of_prefixed unprefixed, List.mem_append,
      List.mem_cons] at member
    rcases member with inPrefix | colon | inLocal
    · exact Or.inr (Xml.not_mem_delimiters_of_isNameChar
        (named.prefix_characters c inPrefix))
    · exact Or.inl colon
    · exact Or.inr
        (Xml.not_mem_delimiters_of_isNameChar (localCharacters c inLocal))

/-- No delimiter other than the colon stands in a written name. -/
theorem IsXmlName.not_mem_written
    {delimiter : Char} (delimits : delimiter ∈ Xml.delimiters)
    (notColon : delimiter ≠ ':') :
    delimiter ∉ name.written.toList := by
  intro member
  rcases named.written_characters delimiter member with colon | other
  · exact notColon colon
  · exact other delimits

/-- The first character of a written name is no delimiter at all. -/
theorem IsXmlName.exists_written :
    ∃ first rest, name.written.toList = first :: rest ∧
      first ∉ Xml.delimiters := by
  have startsName (characters : List Char)
      (isName : Xml.isNCName characters = true) (others : List Char) :
      ∃ first rest, characters ++ others = first :: rest ∧
        first ∉ Xml.delimiters := by
    have each := Xml.forall_isNameChar_of_isNCName isName
    cases characters with
    | nil => cases isName
    | cons first rest =>
        exact ⟨first, rest ++ others, rfl,
          Xml.not_mem_delimiters_of_isNameChar
            (each first (List.mem_cons_self ..))⟩
  by_cases unprefixed : name.sourcePrefix = ""
  · rw [toList_written_of_unprefixed unprefixed]
    simpa using startsName _ named.1 []
  · rw [toList_written_of_prefixed unprefixed]
    exact startsName _ (named.2.resolve_left unprefixed) _

/-- A written name divides into its prefix and its local part again. -/
theorem IsXmlName.splitName_written :
    Xml.splitName name.written.toList =
      (if name.sourcePrefix = "" then none
        else some name.sourcePrefix.toList,
      name.localPart.toList) := by
  have notColon (c : Char) (inName : Xml.isNameChar c = true) :
      (c != ':') = true := by
    have notDelimiter := Xml.not_mem_delimiters_of_isNameChar inName
    rw [bne_iff_ne]
    rintro rfl
    exact notDelimiter (by decide)
  by_cases unprefixed : name.sourcePrefix = ""
  · have localCharacters (c : Char) (member : c ∈ name.localPart.toList) :=
      notColon c (Xml.forall_isNameChar_of_isNCName named.1 c member)
    rw [if_pos unprefixed, toList_written_of_unprefixed unprefixed,
      Xml.splitName, List.dropWhile_eq_nil_iff.mpr localCharacters]
  · have prefixCharacters (c : Char)
        (member : c ∈ name.sourcePrefix.toList) :=
      notColon c (named.prefix_characters c member)
    rw [if_neg unprefixed, toList_written_of_prefixed unprefixed,
      Xml.splitName, List.dropWhile_append_of_pos prefixCharacters,
      List.takeWhile_append_of_pos prefixCharacters]
    simp

end QName

end WsTrust
