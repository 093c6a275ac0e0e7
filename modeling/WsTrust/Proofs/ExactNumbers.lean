import Mathlib.Algebra.Group.Nat.Defs
import WsTrust.Proofs.LostBlanks
import WsTrust.Proofs.Numerals
import WsTrust.Proofs.Refusals

/-!
# Numbers are read exactly or refused

A numeral has digits behind a plus sign that it may begin with.  The number of
an element is the value of the numeral that its texts make up, however many
digits there are; a value that does not fit a word is refused and never wraps
around.
-/

namespace WsTrust

namespace Text

/-! ## Digits -/

theorem digitValue?_eq_some_iff {c : Char} {digit : Nat} :
    digitValue? 10 c = some digit ↔
      c.isDigit = true ∧ c.toNat - '0'.toNat = digit := by
  constructor
  · intro read
    obtain ⟨hexadecimal, small⟩ := Option.filter_eq_some_iff.mp read
    have below : digit < 10 := by simpa using small
    have isDigit : c.isDigit = true := by
      rw [Char.isDigit_iff_toNat]
      unfold hexValue? at hexadecimal
      split at hexadecimal
      · rename_i inRange
        exact inRange
      · split at hexadecimal
        · cases hexadecimal
          omega
        · split at hexadecimal
          · cases hexadecimal
            omega
          · cases hexadecimal
    refine ⟨isDigit, ?_⟩
    rw [digitValue?_of_isDigit isDigit] at read
    exact Option.some.inj read
  · rintro ⟨isDigit, rfl⟩
    exact digitValue?_of_isDigit isDigit

/-- The digits that the characters begin with reach the bound, where the digits
before them have a value. -/
def Reaches (bound value : Nat) (characters : List Char) : Prop :=
  ∃ digits, digits <+: characters ∧ (∀ c ∈ digits, c.isDigit = true) ∧
    bound ≤ Nat.ofDigitChars 10 digits value

section Digits

variable {bound value : Nat}

theorem not_reaches_nil (small : value < bound) : ¬ Reaches bound value [] := by
  rintro ⟨digits, beginning, _, reached⟩
  rw [List.prefix_nil.mp beginning, Nat.ofDigitChars_nil] at reached
  omega

theorem reaches_cons_iff
    (small : value < bound) {head : Char} {tail : List Char} :
    Reaches bound value (head :: tail) ↔
      head.isDigit = true ∧
        Reaches bound (value * 10 + (head.toNat - '0'.toNat)) tail := by
  constructor
  · rintro ⟨digits, beginning, allDigits, reached⟩
    cases digits with
    | nil =>
        rw [Nat.ofDigitChars_nil] at reached
        omega
    | cons first others =>
        obtain ⟨same, rest⟩ := List.cons_prefix_cons.mp beginning
        obtain ⟨isDigit, otherDigits⟩ := List.forall_mem_cons.mp allDigits
        rw [Nat.ofDigitChars_cons, Nat.mul_comm] at reached
        subst same
        exact ⟨isDigit, others, rest, otherDigits, reached⟩
  · rintro ⟨isDigit, digits, beginning, allDigits, reached⟩
    refine ⟨head :: digits, List.cons_prefix_cons.mpr ⟨rfl, beginning⟩,
      List.forall_mem_cons.mpr ⟨isDigit, allDigits⟩, ?_⟩
    rwa [Nat.ofDigitChars_cons, Nat.mul_comm]

theorem reaches_of_le {characters : List Char} (reached : bound ≤ value) :
    Reaches bound value characters :=
  ⟨[], List.nil_prefix, nofun, by rwa [Nat.ofDigitChars_nil]⟩

/-- Digits are read to their value if it stays below the bound. -/
theorem readDigits_eq_ok_iff
    (small : value < bound) {characters : List Char} {number : Nat} :
    readDigits 10 bound value characters = .ok number ↔
      (∀ c ∈ characters, c.isDigit = true) ∧
        Nat.ofDigitChars 10 characters value = number ∧ number < bound := by
  constructor
  · intro read
    induction characters generalizing value with
    | nil =>
        cases read
        exact ⟨nofun, Nat.ofDigitChars_nil, small⟩
    | cons head tail inductionHypothesis =>
        simp only [readDigits] at read
        split at read
        · cases read
        · rename_i digit found
          obtain ⟨isDigit, rfl⟩ := digitValue?_eq_some_iff.mp found
          split at read
          · rename_i extended
            obtain ⟨tailDigits, written, fits⟩ :=
              inductionHypothesis extended read
            rw [Nat.mul_comm] at written
            exact ⟨List.forall_mem_cons.mpr ⟨isDigit, tailDigits⟩,
              Nat.ofDigitChars_cons.trans written, fits⟩
          · cases read
  · rintro ⟨allDigits, rfl, fits⟩
    exact readDigits_of_isDigit allDigits fits

/-- Characters are found too large exactly if the digits that they begin with
reach the bound. -/
theorem readDigits_eq_tooLarge_iff
    (small : value < bound) {characters : List Char} :
    readDigits 10 bound value characters = .error .tooLarge ↔
      Reaches bound value characters := by
  induction characters generalizing value with
  | nil => exact iff_of_false (by simp [readDigits]) (not_reaches_nil small)
  | cons head tail inductionHypothesis =>
      rw [reaches_cons_iff small, readDigits]
      cases found : digitValue? 10 head with
      | none =>
          refine iff_of_false (by simp) ?_
          rintro ⟨isDigit, _⟩
          rw [digitValue?_of_isDigit isDigit] at found
          cases found
      | some digit =>
          obtain ⟨isDigit, rfl⟩ := digitValue?_eq_some_iff.mp found
          dsimp only
          split
          · rename_i extended
            rw [inductionHypothesis extended, and_iff_right isDigit]
          · rename_i reached
            exact iff_of_true rfl
              ⟨isDigit, reaches_of_le (Nat.le_of_not_lt reached)⟩

theorem readDigits_ne_empty {radix : Nat} (characters : List Char) :
    readDigits radix bound value characters ≠ .error .empty := by
  induction characters generalizing value with
  | nil => simp [readDigits]
  | cons head tail inductionHypothesis =>
      rw [readDigits]
      split
      · simp
      · dsimp only
        split
        · exact inductionHypothesis
        · simp

end Digits

/-! ## Numerals -/

/-- What stands behind a plus sign that characters may begin with. -/
def behindPlus : List Char → List Char
  | '+' :: rest => rest
  | characters => characters

/-- One or more decimal digits after an optional plus sign. -/
def IsNumeral (characters : List Char) : Prop :=
  behindPlus characters ≠ [] ∧
    ∀ c ∈ behindPlus characters, c.isDigit = true

instance (characters : List Char) : Decidable (IsNumeral characters) :=
  decidable_of_iff
    (behindPlus characters ≠ [] ∧
      (behindPlus characters).all Char.isDigit = true)
    (by rw [IsNumeral, List.all_eq_true])

/-- The characters are a numeral whose value is this number, which is below the
bound. -/
def Writes (bound : Nat) (characters : List Char) (number : Nat) : Prop :=
  IsNumeral characters ∧
    Nat.ofDigitChars 10 (behindPlus characters) 0 = number ∧ number < bound

instance (bound : Nat) (characters : List Char) (number : Nat) :
    Decidable (Writes bound characters number) :=
  inferInstanceAs (Decidable (_ ∧ _))

section Numerals

variable {bound : Nat} {characters : List Char}

theorem readNatural_of_ne_nil (present : characters ≠ []) :
    readNatural bound characters =
      if behindPlus characters = [] then .error .invalidDigit
      else readDigits 10 bound 0 (behindPlus characters) := by
  cases characters with
  | nil => exact absurd rfl present
  | cons head tail =>
      by_cases plus : head = '+'
      · subst plus
        cases tail <;> rfl
      · simp [readNatural, behindPlus, plus]

/-- A number is read exactly from the numerals that write it. -/
theorem readNatural_eq_ok_iff (positive : 0 < bound) {number : Nat} :
    readNatural bound characters = .ok number ↔
      Writes bound characters number := by
  by_cases present : characters = []
  · rw [present]
    exact iff_of_false nofun fun writes => writes.1.1 rfl
  · rw [readNatural_of_ne_nil present, Writes, IsNumeral]
    split
    · rename_i nothing
      exact iff_of_false nofun fun writes => writes.1.1 nothing
    · rename_i digitsPresent
      rw [readDigits_eq_ok_iff positive, and_iff_right digitsPresent]

theorem readNatural_eq_tooLarge_iff (positive : 0 < bound) :
    readNatural bound characters = .error .tooLarge ↔
      Reaches bound 0 (behindPlus characters) := by
  by_cases present : characters = []
  · rw [present]
    exact iff_of_false nofun (not_reaches_nil positive)
  · rw [readNatural_of_ne_nil present]
    split
    · rename_i nothing
      rw [nothing]
      exact iff_of_false nofun (not_reaches_nil positive)
    · exact readDigits_eq_tooLarge_iff positive

theorem readNatural_ne_empty (present : characters ≠ []) :
    readNatural bound characters ≠ .error .empty := by
  rw [readNatural_of_ne_nil present]
  split
  · exact nofun
  · exact readDigits_ne_empty _

end Numerals

end Text

/-! ## Elements that hold a number -/

namespace Cursor

/-- Where texts are not blank together, they are what is required. -/
theorem requiredText_reads_texts
    (within what : String) {texts : List String}
    (present : Text.trim (String.join texts) ≠ "") (name : QName) :
    Reads (requiredText within what)
      (texts.map Token.text ++ [.endTag name])
      (Text.trim (String.join texts)) := by
  cases texts with
  | nil => exact absurd (by decide) present
  | cons head tail =>
      have looked := requiredText_of_text within what head
        (tail.map Token.text ++ [.endTag name])
      refine looked.reads ((elementText_reads within (head :: tail)
        name).bind_last ?_)
      rw [requirePresent, if_neg (by simpa using present)]
      exact Reads.pure _

end Cursor

namespace Scalar

open Cursor Text

def numberOf (what text : String) : Cursor Nat :=
  match readNatural wordBound text.toList with
  | .ok number => pure number
  | .error flaw => raise (.invalidInteger what flaw)

/-- The tokens of an element that holds nothing but texts. -/
def tokensOfTexts (tag : StartTag) (texts : List String) (name : QName) :
    List Token :=
  .startTag tag :: (texts.map Token.text ++ [.endTag name])

section Outcomes

variable (localPart what : String) (tag : StartTag) (name : QName)
  {texts : List String}

theorem readInteger_becomes (tokens : List Token) :
    Becomes (readInteger localPart what) (.startTag tag :: tokens)
      (requiredText localPart what >>= numberOf what) tokens :=
  (nextStartTag_reads localPart tag).becomes _ tokens

theorem readInteger_refuses_blank
    (blank : trim (String.join texts) = "") :
    ∃ left, Refuses (readInteger localPart what)
      (tokensOfTexts tag texts name) (.parse (.missingText what)) left := by
  obtain ⟨left, refused⟩ :=
    requiredText_refuses_blank localPart what blank name
  exact ⟨left, (readInteger_becomes localPart what tag _).refuses
    (refused.bind _)⟩

theorem readInteger_reads_texts
    {number : Nat}
    (read : readNatural wordBound (trim (String.join texts)).toList =
      .ok number) :
    Reads (readInteger localPart what) (tokensOfTexts tag texts name)
      number := by
  have present : trim (String.join texts) ≠ "" := by
    intro blank
    rw [blank] at read
    cases read
  refine (readInteger_becomes localPart what tag _).reads
    ((requiredText_reads_texts localPart what present name).bind_last ?_)
  rw [numberOf, read]
  exact Reads.pure number

theorem readInteger_refuses_flaw
    (present : trim (String.join texts) ≠ "") {flaw : NumeralFlaw}
    (read : readNatural wordBound (trim (String.join texts)).toList =
      .error flaw) :
    Refuses (readInteger localPart what) (tokensOfTexts tag texts name)
      (.parse (.invalidInteger what flaw)) [] := by
  have reached := (requiredText_reads_texts localPart what present
    name).becomes (numberOf what) []
  rw [List.append_nil] at reached
  refine (readInteger_becomes localPart what tag _).refuses
    (reached.refuses ?_)
  rw [numberOf, read]
  exact Refuses.raise _ _

/-- How reading a number ends where characters are what the texts hold. -/
inductive Ends (what : String) (rest : List Token) (written : List Char) :
    EStateM.Result Failure TokenStream Nat → Prop
  | number {value : Nat} {stop : TokenStream}
      (read : readNatural wordBound written = .ok value)
      (held : stop.Holds rest) :
      Ends what rest written (.ok value stop)
  | missing {stop : TokenStream} (blank : written = []) :
      Ends what rest written (.error (.parse (.missingText what)) stop)
  | invalid {flaw : NumeralFlaw} {stop : TokenStream}
      (present : written ≠ [])
      (read : readNatural wordBound written = .error flaw) :
      Ends what rest written
        (.error (.parse (.invalidInteger what flaw)) stop)

theorem readInteger_ends (stream : TokenStream) (rest : List Token) :
    Ends what rest (trim (String.join texts)).toList
      (readInteger localPart what
        (stream.withTokens (tokensOfTexts tag texts name ++ rest))) := by
  by_cases blank : trim (String.join texts) = ""
  · obtain ⟨left, refused⟩ :=
      readInteger_refuses_blank localPart what tag name blank
    obtain ⟨stop, result, _⟩ := refused.holds stream rest
    rw [result]
    exact .missing (by rw [blank]; rfl)
  · cases read : readNatural wordBound (trim (String.join texts)).toList with
    | ok number =>
        obtain ⟨stop, result, held⟩ :=
          (readInteger_reads_texts localPart what tag name read).holds
            (stream.holds_withTokens _)
        rw [result]
        exact .number read held
    | error flaw =>
        obtain ⟨stop, result, _⟩ :=
          (readInteger_refuses_flaw localPart what tag name blank read).holds
            stream rest
        rw [result]
        exact .invalid (mt String.toList_eq_nil_iff.mp blank) read

end Outcomes

section Ends

variable {what : String} {rest : List Token} {written : List Char}
  {outcome : EStateM.Result Failure TokenStream Nat}
  (ends : Ends what rest written outcome)

include ends

theorem Ends.ok_iff {number : Nat} :
    (∃ stop, outcome = .ok number stop ∧ stop.Holds rest) ↔
      readNatural wordBound written = .ok number := by
  cases ends with
  | number read held => simp [read, held]
  | missing blank => simp [blank, readNatural]
  | invalid present read => simp [read]

theorem Ends.isOk_iff :
    (∃ number stop, outcome = .ok number stop) ↔
      ∃ number, readNatural wordBound written = .ok number := by
  constructor
  · rintro ⟨number, stop, rfl⟩
    cases ends with
    | number read held => exact ⟨number, read⟩
  · rintro ⟨number, read⟩
    obtain ⟨stop, result, _⟩ := ends.ok_iff.mpr read
    exact ⟨number, stop, result⟩

theorem Ends.missing_iff :
    (∃ stop, outcome = .error (.parse (.missingText what)) stop) ↔
      written = [] := by
  cases ends with
  | number read held =>
      have present : written ≠ [] := by
        rintro rfl
        cases read
      simp [present]
  | missing blank => simp [blank]
  | invalid present read => simp [present]

theorem Ends.invalid_iff {flaw : NumeralFlaw} :
    (∃ stop,
        outcome = .error (.parse (.invalidInteger what flaw)) stop) ↔
      written ≠ [] ∧ readNatural wordBound written = .error flaw := by
  cases ends with
  | number read held => simp [read]
  | missing blank => simp [blank]
  | invalid present read => simp [present, read]

end Ends

/-- Blanks around the digits of a number are no part of it. -/
theorem trim_repr_amid
    {before after : String} (blankBefore : AllBlank before.toList)
    (blankAfter : AllBlank after.toList) (number : Nat) :
    trim (before ++ Nat.repr number ++ after) = Nat.repr number := by
  rw [trim_append_of_allBlank_right _ blankAfter,
    trim_append_of_allBlank_left blankBefore,
    trim_eq_empty_iff.mpr blankBefore, trim_eq_empty_iff.mpr blankAfter,
    String.empty_append, String.append_empty]
  exact isTrimmed_repr number

/-- An element that holds nothing but texts is read to a number exactly if its
texts, joined and trimmed, are one or more digits after an optional plus sign
whose value fits a word, and then to this value and up to its end tag.  The
number is missing exactly if the texts are blank, and invalid in all other
cases: too large if the digits before any other character reach the bound, and
else for a character that is no digit.  Each number that fits is read back from
its digits with any blanks around them, wherever the text is divided. -/
theorem readInteger_is_exact
    (localPart what : String) (tag : StartTag) (name : QName)
    (texts : List String) (stream : TokenStream) (rest : List Token) :
    let outcome := readInteger localPart what
      (stream.withTokens (tokensOfTexts tag texts name ++ rest))
    let written := (trim (String.join texts)).toList
    (∀ number,
      (∃ stop, outcome = .ok number stop ∧ stop.Holds rest) ↔
        Writes (2 ^ 64) written number) ∧
    ((∃ number stop, outcome = .ok number stop) ↔
      ∃ number, Writes (2 ^ 64) written number) ∧
    ((∃ stop, outcome = .error (.parse (.missingText what)) stop) ↔
      written = []) ∧
    ((∃ flaw stop,
        outcome = .error (.parse (.invalidInteger what flaw)) stop) ↔
      written ≠ [] ∧ ∀ number, ¬ Writes (2 ^ 64) written number) ∧
    ((∃ stop,
        outcome = .error (.parse (.invalidInteger what .tooLarge)) stop) ↔
      Reaches (2 ^ 64) 0 (behindPlus written)) ∧
    (∀ flaw stop,
      outcome = .error (.parse (.invalidInteger what flaw)) stop →
        flaw ≠ .empty) ∧
    ∀ number < 2 ^ 64, ∀ before after : String,
      AllBlank before.toList → AllBlank after.toList →
      String.join texts = before ++ Nat.repr number ++ after →
        ∃ stop, outcome = .ok number stop ∧ stop.Holds rest := by
  intro outcome written
  have ends : Ends what rest written outcome :=
    readInteger_ends localPart what tag name stream rest
  have writes (number : Nat) :
      Writes (2 ^ 64) written number ↔
        readNatural wordBound written = .ok number :=
    (readNatural_eq_ok_iff (by decide)).symm
  have reaches :
      Reaches (2 ^ 64) 0 (behindPlus written) ↔
        readNatural wordBound written = .error .tooLarge :=
    (readNatural_eq_tooLarge_iff (by decide)).symm
  simp only [writes, reaches]
  refine ⟨?exact, ends.isOk_iff, ends.missing_iff, ?invalid, ?tooLarge,
    ?notEmpty, ?readBack⟩
  case exact =>
    intro number
    exact ends.ok_iff
  case invalid =>
    rw [exists_congr fun flaw => ends.invalid_iff, exists_and_left]
    apply and_congr_right
    intro _
    cases readNatural wordBound written <;> simp
  case tooLarge =>
    rw [ends.invalid_iff]
    apply and_iff_right_of_imp
    intro read blank
    rw [blank] at read
    cases read
  case notEmpty =>
    rintro flaw stop result rfl
    obtain ⟨present, read⟩ := ends.invalid_iff.mp ⟨stop, result⟩
    exact readNatural_ne_empty present read
  case readBack =>
    intro number small before after blankBefore blankAfter joined
    have digits : written = (Nat.repr number).toList := by
      simp only [written, joined, trim_repr_amid blankBefore blankAfter]
    rw [ends.ok_iff, digits]
    exact readNatural_repr small

def keySizeTokens (texts : List String) : List Token :=
  tokensOfTexts ⟨QName.ofLocal "KeySize", []⟩ texts (QName.ofLocal "KeySize")

/-- The largest number of a word is read, also from a divided text with a sign
and noughts before it, and the number after it is too large. -/
theorem largestWord_is_read_exactly :
    (∃ stop : TokenStream,
      readInteger "KeySize" "key size" (.ofTokens
          (keySizeTokens [" +0", "018446744073709551615", "\n"] ++
            [.text "behind"])) =
          .ok 18446744073709551615 stop ∧
        stop.Holds [.text "behind"]) ∧
    ∃ stop : TokenStream,
      readInteger "KeySize" "key size" (.ofTokens
          (keySizeTokens ["18446744073709551616"])) =
        .error (.parse (.invalidInteger "key size" .tooLarge)) stop := by
  have largest := readInteger_is_exact "KeySize" "key size"
    ⟨QName.ofLocal "KeySize", []⟩ (QName.ofLocal "KeySize")
    [" +0", "018446744073709551615", "\n"] (.ofTokens []) [.text "behind"]
  have next := readInteger_is_exact "KeySize" "key size"
    ⟨QName.ofLocal "KeySize", []⟩ (QName.ofLocal "KeySize")
    ["18446744073709551616"] (.ofTokens []) []
  have written : Writes (2 ^ 64)
      (trim (String.join [" +0", "018446744073709551615", "\n"])).toList
      18446744073709551615 := by decide
  have reached : Reaches (2 ^ 64) 0
      (behindPlus (trim (String.join ["18446744073709551616"])).toList) :=
    ⟨_, List.prefix_rfl, List.all_eq_true.mp (by decide), by decide⟩
  exact ⟨(largest.1 _).mpr written, next.2.2.2.2.1.mpr reached⟩

end Scalar

end WsTrust
