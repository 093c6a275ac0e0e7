import WsTrust.Proofs.UriCharacters
import WsTrust.Text.Numeral

/-!
# Numbers written in decimal

A number below the bound is read back from its decimal digits, and a numeral
consists of visible characters.
-/

namespace WsTrust.Text

theorem digitValue?_of_isDigit {c : Char} (digit : c.isDigit) :
    digitValue? 10 c = some (c.toNat - '0'.toNat) := by
  have bounds : 48 ≤ c.toNat ∧ c.toNat ≤ 57 := by
    simpa [Char.isDigit, UInt32.le_iff_toNat_le] using digit
  have inRange : '0' ≤ c ∧ c ≤ '9' := bounds
  have small : c.toNat - '0'.toNat < 10 := by
    have zero : '0'.toNat = 48 := rfl
    omega
  simp only [digitValue?, hexValue?, if_pos inRange, Option.filter,
    decide_eq_true small, if_true]

/-- More digits make a number no smaller. -/
theorem le_ofDigitChars (digits : List Char) (value : Nat) :
    value ≤ Nat.ofDigitChars 10 digits value := by
  induction digits generalizing value with
  | nil => exact Nat.le_of_eq Nat.ofDigitChars_nil.symm
  | cons head tail inductionHypothesis =>
      rw [Nat.ofDigitChars_cons]
      have extended :=
        inductionHypothesis (10 * value + (head.toNat - '0'.toNat))
      omega

theorem readDigits_of_isDigit
    {digits : List Char} (allDigits : ∀ c ∈ digits, c.isDigit)
    {bound value : Nat} (small : Nat.ofDigitChars 10 digits value < bound) :
    readDigits 10 bound value digits =
      .ok (Nat.ofDigitChars 10 digits value) := by
  induction digits generalizing value with
  | nil => simp [readDigits]
  | cons head tail inductionHypothesis =>
      obtain ⟨headDigit, tailDigits⟩ := List.forall_mem_cons.mp allDigits
      rw [Nat.ofDigitChars_cons, Nat.mul_comm] at small ⊢
      have below : value * 10 + (head.toNat - '0'.toNat) < bound :=
        Nat.lt_of_le_of_lt (le_ofDigitChars tail _) small
      simp only [readDigits, digitValue?_of_isDigit headDigit, if_pos below]
      exact inductionHypothesis tailDigits small

theorem readNatural_repr {number bound : Nat} (small : number < bound) :
    readNatural bound (Nat.repr number).toList = .ok number := by
  have allDigits : ∀ c ∈ Nat.toDigits 10 number, c.isDigit :=
    fun c => Nat.isDigit_of_mem_toDigits (by decide) (by decide)
  have value : Nat.ofDigitChars 10 (Nat.toDigits 10 number) 0 = number :=
    Nat.ofDigitChars_ten_toDigits
  have read := readDigits_of_isDigit allDigits
    (show Nat.ofDigitChars 10 (Nat.toDigits 10 number) 0 < bound by
      rwa [value])
  rw [value] at read
  rw [Nat.toList_repr]
  cases written : Nat.toDigits 10 number with
  | nil => exact absurd written Nat.toDigits_ne_nil
  | cons first rest =>
      rw [written] at read allDigits
      have unsigned : first ≠ '+' := by
        rintro rfl
        exact absurd (allDigits '+' List.mem_cons_self) (by decide)
      unfold readNatural
      split
      · rename_i equality
        cases equality
      · rename_i equality
        cases equality
        exact absurd rfl unsigned
      · rename_i digits equality
        cases equality
        exact absurd rfl unsigned
      · exact read

theorem isTrimmed_repr (number : Nat) : IsTrimmed (Nat.repr number) := by
  apply isTrimmed_of_no_blank
  intro c member
  rw [Nat.toList_repr] at member
  have digit : c.isDigit :=
    Nat.isDigit_of_mem_toDigits (by decide) (by decide) member
  have bounds : 48 ≤ c.toNat ∧ c.toNat ≤ 57 := by
    simpa [Char.isDigit, UInt32.le_iff_toNat_le] using digit
  exact Uri.isBlank_of_isVisible ⟨by omega, by omega⟩

theorem repr_ne_empty (number : Nat) : Nat.repr number ≠ "" := by
  intro equality
  have digits := congrArg String.toList equality
  rw [Nat.toList_repr] at digits
  exact Nat.toDigits_ne_nil digits

theorem isVisible_of_digitValue?
    {radix digit : Nat} {c : Char} (read : digitValue? radix c = some digit) :
    Uri.IsVisible c := by
  obtain ⟨hexadecimal, _⟩ := Option.filter_eq_some_iff.mp read
  exact Uri.isVisible_of_isHexDigit (Option.isSome_of_eq_some hexadecimal)

theorem allVisible_of_readDigits
    {radix bound value number : Nat} {digits : List Char}
    (read : readDigits radix bound value digits = .ok number) :
    Uri.AllVisible digits := by
  induction digits generalizing value with
  | nil => exact .nil
  | cons c rest inductionHypothesis =>
      simp only [readDigits] at read
      split at read
      · cases read
      · rename_i digit found
        split at read
        · exact .cons (isVisible_of_digitValue? found)
            (inductionHypothesis read)
        · cases read

/-- A numeral consists of visible characters. -/
theorem allVisible_of_readNatural
    {bound number : Nat} {characters : List Char}
    (read : readNatural bound characters = .ok number) :
    Uri.AllVisible characters := by
  unfold readNatural at read
  split at read
  · cases read
  · cases read
  · exact .cons (by decide) (allVisible_of_readDigits read)
  · exact allVisible_of_readDigits read

end WsTrust.Text
