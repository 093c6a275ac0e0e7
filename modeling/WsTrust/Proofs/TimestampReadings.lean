import WsTrust.Lifetime
import WsTrust.Proofs.CalendarDates
import WsTrust.Proofs.UriCharacters

/-!
# The two readings of a timestamp agree

A date and a time of day are written with a fixed number of digits each, and a
fraction of a second with any number of them.  The lenient reading, which takes
no zone, and the strict one, which needs one, find the same instant in them; an
offset moves it by as many seconds and leaves its nanoseconds alone.
-/

namespace WsTrust.Timestamp

open Calendar

/-! ## What is written -/

structure Digits (count : Nat) where
  characters : List Char
  length_eq : characters.length = count
  areDigits : characters.all Char.isDigit = true

def Digits.value {count : Nat} (digits : Digits count) : Nat :=
  Nat.ofDigitChars 10 digits.characters 0

/-- A date and a time of day in writing, with the decimal places of a fraction of
a second. -/
structure WrittenMoment where
  year : Digits 4
  month : Digits 2
  day : Digits 2
  hour : Digits 2
  minute : Digits 2
  second : Digits 2
  places : Nat
  fraction : Digits places

namespace WrittenMoment

/-- The fraction behind its point, or nothing if it has no places. -/
def fractionCharacters (written : WrittenMoment) : List Char :=
  if written.places = 0 then [] else '.' :: written.fraction.characters

def characters (written : WrittenMoment) : List Char :=
  written.year.characters ++ '-' ::
    (written.month.characters ++ '-' ::
      (written.day.characters ++ 'T' ::
        (written.hour.characters ++ ':' ::
          (written.minute.characters ++ ':' ::
            (written.second.characters ++ written.fractionCharacters)))))

def text (written : WrittenMoment) : String :=
  String.ofList written.characters

def nanoseconds (written : WrittenMoment) : Nat :=
  written.fraction.value * 10 ^ 9 / 10 ^ written.places

def moment (written : WrittenMoment) : DateTime where
  year := written.year.value
  month := written.month.value
  day := written.day.value
  hour := written.hour.value
  minute := written.minute.value
  second := written.second.value
  nanoseconds := written.nanoseconds

end WrittenMoment

/-- An offset from universal time in writing, of less than a day. -/
structure WrittenOffset where
  isBehind : Bool
  hours : Digits 2
  minutes : Digits 2
  hours_le : hours.value ≤ 23
  minutes_le : minutes.value ≤ 59

namespace WrittenOffset

def characters (offset : WrittenOffset) : List Char :=
  (if offset.isBehind then '-' else '+') ::
    (offset.hours.characters ++ ':' :: offset.minutes.characters)

def text (offset : WrittenOffset) : String :=
  String.ofList offset.characters

def seconds (offset : WrittenOffset) : Int :=
  (if offset.isBehind then -1 else 1) *
    (offset.hours.value * 3600 + offset.minutes.value * 60 : Nat)

end WrittenOffset

/-! ## Digits -/

theorem valueOfDigits_eq (digits : List Char) :
    valueOfDigits digits = Nat.ofDigitChars 10 digits 0 := by
  simp only [valueOfDigits, Nat.ofDigitChars_eq_foldl, Nat.mul_comm]

/-- Digits write a number that has no more digits. -/
theorem ofDigitChars_lt
    {digits : List Char} (areDigits : ∀ c ∈ digits, c.isDigit = true) :
    Nat.ofDigitChars 10 digits 0 < 10 ^ digits.length := by
  induction digits with
  | nil => simp
  | cons head tail inductionHypothesis =>
      obtain ⟨isDigit, tailDigits⟩ := List.forall_mem_cons.mp areDigits
      have small : head.toNat - '0'.toNat < 10 := by
        obtain ⟨_, atMost⟩ := Char.isDigit_iff_toNat.mp isDigit
        have nine : '9'.toNat = '0'.toNat + 9 := rfl
        omega
      have below := inductionHypothesis tailDigits
      rw [Nat.ofDigitChars_cons, Nat.ofDigitChars_eq_ofDigitChars_zero,
        List.length_cons, Nat.pow_succ, Nat.mul_zero, Nat.zero_add]
      have scaled := Nat.mul_le_mul_left (10 ^ tail.length)
        (Nat.le_of_lt_succ small)
      omega

/-- The digits behind the first nine add less than one nanosecond. -/
theorem value_of_take_nine
    {digits : List Char} (areDigits : ∀ c ∈ digits, c.isDigit = true) :
    Nat.ofDigitChars 10 (digits.take 9) 0 *
        Nat.pow 10 (9 - (digits.take 9).length) =
      Nat.ofDigitChars 10 digits 0 * 10 ^ 9 / 10 ^ digits.length := by
  rcases Nat.le_total digits.length 9 with few | many
  · rw [List.take_of_length_le few]
    have scale : 10 ^ 9 = 10 ^ (9 - digits.length) * 10 ^ digits.length := by
      rw [← Nat.pow_add, Nat.sub_add_cancel few]
    rw [scale, ← Nat.mul_assoc, Nat.mul_div_cancel _ (Nat.pow_pos (by decide))]
    rfl
  · have length_eq : (digits.take 9).length = 9 := List.length_take_of_le many
    have behind : ∀ c ∈ digits.drop 9, c.isDigit = true :=
      fun c member => areDigits c (List.mem_of_mem_drop member)
    have below := ofDigitChars_lt behind
    rw [List.length_drop] at below
    have value :
        Nat.ofDigitChars 10 digits 0 =
          10 ^ (digits.length - 9) * Nat.ofDigitChars 10 (digits.take 9) 0 +
            Nat.ofDigitChars 10 (digits.drop 9) 0 := by
      rw [← List.length_drop, ← Nat.ofDigitChars_eq_ofDigitChars_zero,
        ← Nat.ofDigitChars_append, List.take_append_drop]
    have scale : 10 ^ digits.length = 10 ^ (digits.length - 9) * 10 ^ 9 := by
      rw [← Nat.pow_add, Nat.sub_add_cancel many]
    rw [value, scale, Nat.mul_div_mul_right _ _ (Nat.pow_pos (by decide)),
      Nat.mul_add_div (Nat.pow_pos (by decide)), Nat.div_eq_of_lt below,
      length_eq, Nat.sub_self]
    exact Nat.mul_one _

variable {count : Nat} (digits : Digits count) (rest : List Char)

namespace Digits

theorem isDigit_of_mem : ∀ c ∈ digits.characters, Uri.isDigit c = true :=
  List.all_eq_true.mp digits.areDigits

theorem take_append :
    (digits.characters ++ rest).take count = digits.characters :=
  List.take_left' digits.length_eq

theorem drop_append : (digits.characters ++ rest).drop count = rest :=
  List.drop_left' digits.length_eq

theorem fixedDigits?_append :
    fixedDigits? count (digits.characters ++ rest) =
      some (digits.value, rest) := by
  simp only [fixedDigits?, digits.take_append, digits.drop_append]
  rw [if_pos ⟨digits.length_eq, List.all_eq_true.mpr digits.isDigit_of_mem⟩,
    valueOfDigits_eq]
  rfl

theorem ne_nil (positive : 0 < count) : digits.characters ≠ [] := by
  rw [← List.length_pos_iff, digits.length_eq]
  exact positive

theorem someDigits?_append (positive : 0 < count) :
    someDigits? count (digits.characters ++ rest) =
      some (digits.value, rest) := by
  have taken :
      digits.characters.takeWhile Uri.isDigit = digits.characters := by
    have none := List.append_nil digits.characters
    rw [← none, List.takeWhile_append_of_pos digits.isDigit_of_mem,
      List.takeWhile_nil]
  simp only [someDigits?, digits.take_append, taken]
  rw [if_neg (by simpa using digits.ne_nil positive), digits.length_eq,
    digits.drop_append, valueOfDigits_eq]
  rfl

theorem trimStart_append (positive : 0 < count) :
    Text.trimStart (digits.characters ++ rest) =
      digits.characters ++ rest := by
  cases written : digits.characters with
  | nil => exact absurd written (digits.ne_nil positive)
  | cons first others =>
      have member : first ∈ digits.characters := by
        rw [written]
        exact List.mem_cons_self
      have notBlank : Text.isBlank first = false :=
        Uri.isBlank_of_isVisible
          (Uri.isVisible_of_isDigit (digits.isDigit_of_mem first member))
      rw [List.cons_append, Text.trimStart,
        List.dropWhile_cons_of_neg (by simp [notBlank])]

end Digits

theorem looseNumber?_append (digits : Digits 2) (rest : List Char) :
    looseNumber? (digits.characters ++ rest) = some (digits.value, rest) := by
  rw [looseNumber?, digits.trimStart_append rest (by decide),
    digits.someDigits?_append rest (by decide)]

/-- A year that begins with a digit has at most four. -/
theorem looseYear?_append (digits : Digits 4) (rest : List Char) :
    looseYear? (digits.characters ++ rest) =
      some ((digits.value : Int), rest) := by
  rw [looseYear?, digits.trimStart_append rest (by decide)]
  have isDigit := digits.isDigit_of_mem
  cases written : digits.characters with
  | nil => exact absurd written (digits.ne_nil (by decide))
  | cons first others =>
      rw [written] at isDigit
      have firstDigit := isDigit first List.mem_cons_self
      have read := digits.someDigits?_append rest (by decide)
      rw [written, List.cons_append] at read
      rw [List.cons_append]
      split
      · rename_i equality
        cases equality
        cases firstDigit
      · rename_i equality
        cases equality
        cases firstDigit
      · rw [read]
        rfl

/-! ## Fractions -/

/-- What a fraction of a second ends before. -/
def EndsFraction : List Char → Prop
  | [] => True
  | first :: _ => first ≠ '.' ∧ first.isDigit = false

instance : (rest : List Char) → Decidable (EndsFraction rest)
  | [] => inferInstanceAs (Decidable True)
  | _ :: _ => inferInstanceAs (Decidable (_ ∧ _))

theorem takeWhile_of_endsFraction
    {rest : List Char} (ends : EndsFraction rest) :
    rest.takeWhile Uri.isDigit = [] := by
  cases rest with
  | nil => rfl
  | cons first others =>
      have notDigit : Uri.isDigit first = false := ends.2
      exact List.takeWhile_cons_of_neg (by simp [notDigit])

theorem dropWhile_of_endsFraction
    {rest : List Char} (ends : EndsFraction rest) :
    rest.dropWhile Uri.isDigit = rest := by
  have split := List.takeWhile_append_dropWhile (p := Uri.isDigit) (l := rest)
  rwa [takeWhile_of_endsFraction ends] at split

theorem fraction?_append
    (written : WrittenMoment) {rest : List Char} (ends : EndsFraction rest) :
    fraction? (written.fractionCharacters ++ rest) =
      some (written.nanoseconds, rest) := by
  by_cases whole : written.places = 0
  · have none : written.fraction.characters = [] := by
      rw [← List.length_eq_zero_iff, written.fraction.length_eq, whole]
    have zero : written.nanoseconds = 0 := by
      simp [WrittenMoment.nanoseconds, Digits.value, none]
    rw [WrittenMoment.fractionCharacters, if_pos whole, zero]
    cases rest with
    | nil => rfl
    | cons first others =>
        have notPoint := ends.1
        simp [fraction?, notPoint]
  · have digits := written.fraction.isDigit_of_mem
    have present :=
      written.fraction.ne_nil (Nat.pos_of_ne_zero whole)
    rw [WrittenMoment.fractionCharacters, if_neg whole, List.cons_append,
      fraction?]
    simp only [List.takeWhile_append_of_pos digits,
      List.dropWhile_append_of_pos digits, takeWhile_of_endsFraction ends,
      dropWhile_of_endsFraction ends, List.append_nil]
    rw [if_neg (by simpa using present), valueOfDigits_eq,
      value_of_take_nine written.fraction.isDigit_of_mem,
      written.fraction.length_eq]
    rfl

/-! ## The readings -/

theorem bind_of_some
    {First Second : Type} {reading : Option First} {found : First}
    {next : First → Option Second} (read : reading = some found) :
    reading >>= next = next found := by
  rw [read]
  rfl

theorem expect?_cons
    {accepts : Char → Bool} {c : Char} (accepted : accepts c = true)
    (rest : List Char) :
    expect? accepts (c :: rest) = some rest :=
  if_pos accepted

namespace WrittenMoment

variable (written : WrittenMoment)

/-- The strict reading reads the moment and goes on with the offset. -/
theorem readStrict?_append {zone : List Char} (ends : EndsFraction zone) :
    readStrict? (written.characters ++ zone) =
      (offset? zone).bind fun (offset, rest) =>
        if rest.isEmpty then written.moment.toInstant? offset else none := by
  rw [characters, readStrict?]
  simp only [List.append_assoc, List.cons_append]
  refine (bind_of_some (written.year.fixedDigits?_append _)).trans ?_
  refine (bind_of_some (expect?_cons rfl _)).trans ?_
  refine (bind_of_some (written.month.fixedDigits?_append _)).trans ?_
  refine (bind_of_some (expect?_cons rfl _)).trans ?_
  refine (bind_of_some (written.day.fixedDigits?_append _)).trans ?_
  refine (bind_of_some (expect?_cons rfl _)).trans ?_
  refine (bind_of_some (written.hour.fixedDigits?_append _)).trans ?_
  refine (bind_of_some (expect?_cons rfl _)).trans ?_
  refine (bind_of_some (written.minute.fixedDigits?_append _)).trans ?_
  refine (bind_of_some (expect?_cons rfl _)).trans ?_
  refine (bind_of_some (written.second.fixedDigits?_append _)).trans ?_
  exact bind_of_some (fraction?_append written ends)

/-- The lenient reading reads the moment in universal time. -/
theorem readLenient?_characters :
    readLenient? written.characters = written.moment.toInstant? 0 := by
  have ends : EndsFraction [] := trivial
  have fraction := fraction?_append written ends
  rw [List.append_nil] at fraction
  rw [characters, readLenient?]
  refine (bind_of_some (looseYear?_append written.year _)).trans ?_
  refine (bind_of_some (expect?_cons rfl _)).trans ?_
  refine (bind_of_some (looseNumber?_append written.month _)).trans ?_
  refine (bind_of_some (expect?_cons rfl _)).trans ?_
  refine (bind_of_some (looseNumber?_append written.day _)).trans ?_
  refine (bind_of_some (expect?_cons rfl _)).trans ?_
  refine (bind_of_some (looseNumber?_append written.hour _)).trans ?_
  refine (bind_of_some (expect?_cons rfl _)).trans ?_
  refine (bind_of_some (looseNumber?_append written.minute _)).trans ?_
  refine (bind_of_some (expect?_cons rfl _)).trans ?_
  refine (bind_of_some (looseNumber?_append written.second _)).trans ?_
  exact bind_of_some fraction

end WrittenMoment

/-- An offset is read to its seconds. -/
theorem offset?_characters (offset : WrittenOffset) :
    offset? offset.characters = some (offset.seconds, []) := by
  obtain ⟨isBehind, hours, minutes, hours_le, minutes_le⟩ := offset
  have last := minutes.fixedDigits?_append []
  rw [List.append_nil] at last
  have small : hours.value < 24 ∧ minutes.value < 60 := by omega
  cases isBehind with
  | false =>
      simp [WrittenOffset.characters, WrittenOffset.seconds, offset?,
        Digits.fixedDigits?_append, expect?, last, small]
  | true =>
      simp [WrittenOffset.characters, WrittenOffset.seconds, offset?,
        Digits.fixedDigits?_append, expect?, last, small]

section Instants

variable {written : WrittenMoment} (isValid : written.moment.isValid = true)

include isValid

/-- A moment without a zone is refused by the strict reading and taken for
universal time by the lenient one. -/
theorem toInstant?_text :
    toInstant? ⟨written.text⟩ = some written.moment.instant := by
  have ends : EndsFraction [] := trivial
  have strict := written.readStrict?_append ends
  rw [List.append_nil] at strict
  rw [toInstant?, WrittenMoment.text, String.toList_ofList, strict,
    written.readLenient?_characters,
    DateTime.toInstant?_of_isValid isValid, Instant.earlier_zero]
  rfl

/-- A moment with a zone is read strictly, as that much earlier. -/
theorem toInstant?_text_append
    {zone : List Char} {seconds : Int} (ends : EndsFraction zone)
    (read : offset? zone = some (seconds, [])) :
    toInstant? ⟨written.text ++ String.ofList zone⟩ =
      some (written.moment.instant.earlier seconds) := by
  have strict := written.readStrict?_append ends
  rw [read, Option.bind_some] at strict
  dsimp only at strict
  rw [if_pos List.isEmpty_nil,
    DateTime.toInstant?_of_isValid isValid] at strict
  rw [toInstant?, WrittenMoment.text, String.toList_append,
    String.toList_ofList, String.toList_ofList, strict]
  rfl

end Instants

/-- Less than a thousand million nanoseconds are written. -/
theorem WrittenMoment.nanoseconds_lt (written : WrittenMoment) :
    written.nanoseconds < 1000000000 := by
  have below := ofDigitChars_lt written.fraction.isDigit_of_mem
  rw [written.fraction.length_eq] at below
  exact Nat.div_lt_of_lt_mul
    (Nat.mul_lt_mul_of_pos_right below (by decide))

/-- A valid moment has an instant, whose date and time of day in universal time
it is.  Both readings find this instant: the lenient one where there is no zone
and the strict one behind `Z` or an offset of nothing.  Any other offset moves it
by as many seconds.  A lifetime that ends at the moment has therefore expired
with or without a `Z`. -/
theorem readings_agree
    {written : WrittenMoment} (isValid : written.moment.isValid = true) :
    ∃ instant : Instant,
      DateTime.ofInstant instant = written.moment ∧
      toInstant? ⟨written.text⟩ = some instant ∧
      toInstant? ⟨written.text ++ "Z"⟩ = some instant ∧
      toInstant? ⟨written.text ++ "+00:00"⟩ = some instant ∧
      (∀ offset : WrittenOffset,
        toInstant? ⟨written.text ++ offset.text⟩ =
          some (instant.earlier offset.seconds)) ∧
      ∀ plain zoned : Lifetime,
        plain.expires = ⟨written.text⟩ →
        zoned.expires = ⟨written.text ++ "Z"⟩ →
        ∀ now,
          plain.isExpiredAt? now = some (instant.notAfter now) ∧
            zoned.isExpiredAt? now = plain.isExpiredAt? now := by
  have plainly := toInstant?_text isValid
  have zulu :
      toInstant? ⟨written.text ++ "Z"⟩ = some written.moment.instant := by
    have read : offset? ['Z'] = some (0, []) := rfl
    have moved := toInstant?_text_append isValid (by decide) read
    rwa [Instant.earlier_zero] at moved
  have zero :
      toInstant? ⟨written.text ++ "+00:00"⟩ = some written.moment.instant := by
    have read : offset? "+00:00".toList = some (0, []) := by decide
    have moved := toInstant?_text_append isValid (by decide) read
    rwa [Instant.earlier_zero, String.ofList_toList] at moved
  refine ⟨written.moment.instant,
    DateTime.ofInstant_instant isValid written.nanoseconds_lt, plainly, zulu,
    zero, ?_, ?_⟩
  · intro offset
    have ends : EndsFraction offset.characters := by
      rw [WrittenOffset.characters, EndsFraction]
      cases offset.isBehind <;> decide
    exact toInstant?_text_append isValid ends (offset?_characters offset)
  · intro plain zoned expires zonedExpires now
    rw [Lifetime.isExpiredAt?, Lifetime.isExpiredAt?, expires, zonedExpires,
      plainly, zulu]
    exact ⟨rfl, rfl⟩

/-- A leap second at the end of a year, with a fraction of ten digits. -/
def leapSecond : WrittenMoment where
  year := ⟨"1999".toList, rfl, by decide⟩
  month := ⟨"12".toList, rfl, by decide⟩
  day := ⟨"31".toList, rfl, by decide⟩
  hour := ⟨"23".toList, rfl, by decide⟩
  minute := ⟨"59".toList, rfl, by decide⟩
  second := ⟨"60".toList, rfl, by decide⟩
  places := 10
  fraction := ⟨"1234567899".toList, rfl, by decide⟩

def almostOneDayBehind : WrittenOffset where
  isBehind := true
  hours := ⟨"23".toList, rfl, by decide⟩
  minutes := ⟨"59".toList, rfl, by decide⟩
  hours_le := by decide
  minutes_le := by decide

theorem leapSecond_is_read_alike :
    let instant : Instant := ⟨946684799, 1123456789⟩
    let later : Instant := ⟨946684799 + 86340, 1123456789⟩
    leapSecond.text = "1999-12-31T23:59:60.1234567899" ∧
      almostOneDayBehind.text = "-23:59" ∧
      leapSecond.moment.isValid = true ∧
      toInstant? ⟨leapSecond.text⟩ = some instant ∧
      toInstant? ⟨leapSecond.text ++ "Z"⟩ = some instant ∧
      toInstant? ⟨leapSecond.text ++ "-23:59"⟩ = some later ∧
      DateTime.ofInstant instant = ⟨1999, 12, 31, 23, 59, 60, 123456789⟩ ∧
      DateTime.ofInstant later = ⟨2000, 1, 1, 23, 58, 60, 123456789⟩ := by
  intro instant later
  have isValid : leapSecond.moment.isValid = true := by decide
  have behind : almostOneDayBehind.text = "-23:59" := by decide
  have known : toInstant? ⟨leapSecond.text⟩ = some instant := by
    decide +kernel
  obtain ⟨found, calendar, plainly, zulu, _, moved, _⟩ :=
    readings_agree isValid
  obtain rfl : instant = found := Option.some.inj (known.symm.trans plainly)
  have late := moved almostOneDayBehind
  rw [behind] at late
  exact ⟨by decide, behind, isValid, plainly, zulu, late, calendar,
    by decide +kernel⟩

end WsTrust.Timestamp
