import Mathlib.Tactic.SplitIfs
import WsTrust.Json
import WsTrust.Proofs.Numerals

/-!
# The text of a JSON value

The text of a value ends where no continuation can make it another one, a number
where no digit follows.  So it tells the value, with the order of the fields
of its objects.
-/

namespace WsTrust.Json

/-! ## Quoted strings -/

/-- The character that a quoted text begins with, and the text behind it. -/
def unquotedChar? : List Char → Option (Char × List Char)
  | [] => none
  | '\\' :: 'n' :: rest => some ('\n', rest)
  | '\\' :: 'r' :: rest => some ('\r', rest)
  | '\\' :: 't' :: rest => some ('\t', rest)
  | '\\' :: 'b' :: rest => some ('\x08', rest)
  | '\\' :: 'f' :: rest => some ('\x0c', rest)
  | '\\' :: 'u' :: '0' :: '0' :: high :: low :: rest =>
      match Text.hexValue? high, Text.hexValue? low with
      | some upper, some lower =>
          some (Char.ofNat (16 * upper + lower), rest)
      | _, _ => none
  | '\\' :: c :: rest => some (c, rest)
  | c :: rest => some (c, rest)

/-- The escape of a control character without a letter of its own is read
back. -/
theorem unquotedChar?_control
    {c : Char} (control : c.toNat < 0x20) (rest : List Char) :
    unquotedChar?
        ('\\' :: 'u' :: '0' :: '0' :: Text.hexDigit (c.toNat / 16) ::
          Text.hexDigit (c.toNat % 16) :: rest) = some (c, rest) := by
  have upper : Text.hexValue? (Text.hexDigit (c.toNat / 16)) =
      some (c.toNat / 16) := Text.hexValue?_hexDigit (by omega)
  have lower : Text.hexValue? (Text.hexDigit (c.toNat % 16)) =
      some (c.toNat % 16) := Text.hexValue?_hexDigit (by omega)
  rw [unquotedChar?, upper, lower]
  simp only [Nat.div_add_mod, Char.ofNat_toNat]

theorem unquotedChar?_quotedChar (c : Char) (rest : List Char) :
    unquotedChar? (quotedChar c ++ rest) = some (c, rest) := by
  unfold quotedChar
  split_ifs with quote backslash line carriage tab back form control
  · rw [quote]
    rfl
  · rw [backslash]
    rfl
  · rw [line]
    rfl
  · rw [carriage]
    rfl
  · rw [tab]
    rfl
  · rw [back]
    rfl
  · rw [form]
    rfl
  · exact unquotedChar?_control control rest
  · simp [unquotedChar?, backslash]

/-- A quoted character tells the character and ends with it. -/
theorem quotedChar_append_inj
    {first second : Char} {left right : List Char}
    (same : quotedChar first ++ left = quotedChar second ++ right) :
    first = second ∧ left = right := by
  have read := unquotedChar?_quotedChar first left
  rw [same, unquotedChar?_quotedChar] at read
  have both := Prod.mk.inj (Option.some.inj read)
  exact ⟨both.1.symm, both.2.symm⟩

theorem quotedChar_append_ne_quote
    (c : Char) (left right : List Char) :
    quotedChar c ++ left ≠ '\x22' :: right := by
  intro same
  unfold quotedChar at same
  split_ifs at same with quote <;> simp_all

/-- What stands between quotation marks tells the characters. -/
theorem quotedBody_append_inj
    {first second left right : List Char}
    (same :
      first.flatMap quotedChar ++ '\x22' :: left =
        second.flatMap quotedChar ++ '\x22' :: right) :
    first = second ∧ left = right := by
  induction first generalizing second with
  | nil =>
      cases second with
      | nil => exact ⟨rfl, (List.cons.inj same).2⟩
      | cons head tail =>
          rw [List.flatMap_cons, List.append_assoc] at same
          exact absurd same.symm (quotedChar_append_ne_quote head _ _)
  | cons head tail inductionHypothesis =>
      cases second with
      | nil =>
          rw [List.flatMap_cons, List.append_assoc] at same
          exact absurd same (quotedChar_append_ne_quote head _ _)
      | cons other rest =>
          rw [List.flatMap_cons, List.flatMap_cons, List.append_assoc,
            List.append_assoc] at same
          obtain ⟨rfl, remaining⟩ := quotedChar_append_inj same
          obtain ⟨rfl, rfl⟩ := inductionHypothesis remaining
          exact ⟨rfl, rfl⟩

theorem toList_quoted (text : String) :
    (quoted text).toList =
      '\x22' :: (text.toList.flatMap quotedChar ++ ['\x22']) := by
  rw [quoted, String.toList_ofList]
  rfl

theorem quoted_append_inj
    {first second : String} {left right : List Char}
    (same :
      (quoted first).toList ++ left = (quoted second).toList ++ right) :
    first = second ∧ left = right := by
  rw [toList_quoted, toList_quoted, List.cons_append, List.cons_append,
    List.append_assoc, List.append_assoc] at same
  have bodies := quotedBody_append_inj (List.cons.inj same).2
  exact ⟨String.toList_inj.mp bodies.1, bodies.2⟩

/-! ## Numbers -/

/-- No digit stands first. -/
def NoDigitFirst (characters : List Char) : Prop :=
  ∀ c ∈ characters.head?, c.isDigit = false

theorem NoDigitFirst.nil : NoDigitFirst [] := nofun

theorem NoDigitFirst.cons
    {c : Char} (noDigit : c.isDigit = false) (rest : List Char) :
    NoDigitFirst (c :: rest) := by
  intro first isFirst
  cases isFirst
  exact noDigit

theorem takeWhile_isDigit
    (number : Nat) {rest : List Char} (ends : NoDigitFirst rest) :
    ((toString number).toList ++ rest).takeWhile Char.isDigit =
      Nat.toDigits 10 number := by
  have digits : (toString number).toList = Nat.toDigits 10 number :=
    Nat.toList_repr
  have allDigits : ∀ c ∈ Nat.toDigits 10 number, c.isDigit = true :=
    fun c => Nat.isDigit_of_mem_toDigits (by decide) (by decide)
  have nothing : rest.takeWhile Char.isDigit = [] := by
    cases rest with
    | nil => rfl
    | cons c others =>
        have noDigit : c.isDigit = false := ends c rfl
        rw [List.takeWhile_cons, noDigit]
        rfl
  rw [digits, List.takeWhile_append_of_pos allDigits, nothing,
    List.append_nil]

theorem number_append_inj
    {first second : Nat} {left right : List Char}
    (leftEnds : NoDigitFirst left) (rightEnds : NoDigitFirst right)
    (same :
      (toString first).toList ++ left = (toString second).toList ++ right) :
    first = second ∧ left = right := by
  have digits := congrArg (List.takeWhile Char.isDigit) same
  rw [takeWhile_isDigit first leftEnds, takeWhile_isDigit second rightEnds]
    at digits
  have values := congrArg (Nat.ofDigitChars 10 · 0) digits
  simp only [Nat.ofDigitChars_ten_toDigits] at values
  subst values
  exact ⟨rfl, List.append_cancel_left same⟩

/-! ## What a text begins with -/

inductive Shape where
  | boolean
  | number
  | string
  | array
  | object
  deriving DecidableEq

def shape : Json → Shape
  | .boolean _ => .boolean
  | .number _ => .number
  | .string _ => .string
  | .array _ => .array
  | .object _ => .object

def shapeOf (c : Char) : Shape :=
  if c.isDigit then .number
  else if c = '\x22' then .string
  else if c = '[' then .array
  else if c = '\x7b' then .object
  else .boolean

theorem toList_newLine (level : Nat) :
    (newLine level).toList = '\n' :: List.replicate (2 * level) ' ' := by
  simp only [newLine, String.toList_append, String.toList_ofList]
  rfl

theorem toList_pretty_boolean (level : Nat) (value : Bool) :
    (pretty level (.boolean value)).toList =
      if value then ['t', 'r', 'u', 'e'] else ['f', 'a', 'l', 's', 'e'] := by
  rw [pretty]
  cases value <;> rfl

theorem toList_pretty_number (level value : Nat) :
    (pretty level (.number value)).toList = (toString value).toList := by
  rw [pretty]

theorem toList_pretty_string (level : Nat) (value : String) :
    (pretty level (.string value)).toList = (quoted value).toList := by
  rw [pretty]

theorem toList_pretty_array_nil (level : Nat) :
    (pretty level (.array [])).toList = ['[', ']'] := by
  rw [pretty]
  rfl

theorem toList_pretty_object_nil (level : Nat) :
    (pretty level (.object [])).toList = ['\x7b', '\x7d'] := by
  rw [pretty]
  rfl

theorem toList_pretty_array_cons
    (level : Nat) (first : Json) (rest : List Json) :
    (pretty level (.array (first :: rest))).toList =
      '[' :: ((newLine (level + 1)).toList ++
        ((pretty (level + 1) first).toList ++
          ((prettyItems (level + 1) rest).toList ++
            ((newLine level).toList ++ [']'])))) := by
  simp only [pretty, String.toList_append, List.append_assoc]
  rfl

theorem toList_pretty_object_cons
    (level : Nat) (name : String) (value : Json)
    (rest : List (String × Json)) :
    (pretty level (.object ((name, value) :: rest))).toList =
      '\x7b' :: ((newLine (level + 1)).toList ++
        ((quoted name).toList ++ (": ".toList ++
          ((pretty (level + 1) value).toList ++
            ((prettyFields (level + 1) rest).toList ++
              ((newLine level).toList ++ ['\x7d'])))))) := by
  simp only [pretty, String.toList_append, List.append_assoc]
  rfl

theorem toList_prettyItems_cons
    (level : Nat) (item : Json) (rest : List Json) :
    (prettyItems level (item :: rest)).toList =
      ',' :: ((newLine level).toList ++ ((pretty level item).toList ++
        (prettyItems level rest).toList)) := by
  simp only [prettyItems, String.toList_append, List.append_assoc]
  rfl

theorem toList_prettyFields_cons
    (level : Nat) (name : String) (value : Json)
    (rest : List (String × Json)) :
    (prettyFields level ((name, value) :: rest)).toList =
      ',' :: ((newLine level).toList ++ ((quoted name).toList ++
        (": ".toList ++ ((pretty level value).toList ++
          (prettyFields level rest).toList)))) := by
  simp only [prettyFields, String.toList_append, List.append_assoc]
  rfl

/-- The text of a value begins with a character that tells its shape. -/
theorem exists_first_of_pretty (level : Nat) (value : Json) :
    ∃ c rest, (pretty level value).toList = c :: rest ∧
      shapeOf c = value.shape := by
  cases value with
  | boolean value =>
      cases value with
      | true => exact ⟨_, _, toList_pretty_boolean level true, rfl⟩
      | false => exact ⟨_, _, toList_pretty_boolean level false, rfl⟩
  | string value =>
      have text := toList_pretty_string level value
      exact ⟨_, _, text.trans (toList_quoted value), rfl⟩
  | number value =>
      have allDigits : ∀ c ∈ Nat.toDigits 10 value, c.isDigit = true :=
        fun c => Nat.isDigit_of_mem_toDigits (by decide) (by decide)
      have present : Nat.toDigits 10 value ≠ [] := Nat.toDigits_ne_nil
      obtain ⟨c, rest, equality⟩ := List.exists_cons_of_ne_nil present
      have text : (pretty level (.number value)).toList = c :: rest := by
        rw [toList_pretty_number, ← equality]
        exact Nat.toList_repr
      have digit : c.isDigit = true := by
        apply allDigits
        rw [equality]
        exact List.mem_cons_self
      refine ⟨c, rest, text, ?_⟩
      rw [shapeOf, if_pos digit]
      rfl
  | array items =>
      cases items with
      | nil => exact ⟨_, _, toList_pretty_array_nil level, rfl⟩
      | cons first rest =>
          exact ⟨_, _, toList_pretty_array_cons level first rest, rfl⟩
  | object fields =>
      cases fields with
      | nil => exact ⟨_, _, toList_pretty_object_nil level, rfl⟩
      | cons first rest =>
          obtain ⟨name, value⟩ := first
          exact ⟨_, _, toList_pretty_object_cons level name value rest, rfl⟩

theorem shape_eq_of_append_eq
    {level : Nat} {first second : Json} {left right : List Char}
    (same : (pretty level first).toList ++ left =
      (pretty level second).toList ++ right) :
    first.shape = second.shape := by
  obtain ⟨c, rest, firstText, firstShape⟩ :=
    exists_first_of_pretty level first
  obtain ⟨d, others, secondText, secondShape⟩ :=
    exists_first_of_pretty level second
  rw [firstText, secondText] at same
  have sameFirst : c = d := (List.cons.inj same).1
  rw [← firstShape, ← secondShape, sameFirst]

/-! ## Texts of values -/

/-- A new line stands first. -/
def StartsLine (characters : List Char) : Prop :=
  characters.head? = some '\n'

theorem StartsLine.newLine (level : Nat) (rest : List Char) :
    StartsLine ((newLine level).toList ++ rest) := by
  rw [toList_newLine]
  rfl

theorem StartsLine.noDigitFirst
    {characters : List Char} (starts : StartsLine characters) :
    NoDigitFirst characters := by
  intro c isFirst
  rw [StartsLine] at starts
  rw [starts] at isFirst
  cases isFirst
  rfl

theorem StartsLine.ne_comma
    {characters : List Char} (starts : StartsLine characters)
    (rest : List Char) :
    characters ≠ ',' :: rest := by
  intro same
  rw [StartsLine, same] at starts
  cases starts

theorem noDigitFirst_items
    (level : Nat) (items : List Json) {rest : List Char}
    (starts : StartsLine rest) :
    NoDigitFirst ((prettyItems level items).toList ++ rest) := by
  cases items with
  | nil => exact starts.noDigitFirst
  | cons item others =>
      rw [toList_prettyItems_cons]
      exact NoDigitFirst.cons rfl _

theorem noDigitFirst_fields
    (level : Nat) (fields : List (String × Json)) {rest : List Char}
    (starts : StartsLine rest) :
    NoDigitFirst ((prettyFields level fields).toList ++ rest) := by
  cases fields with
  | nil => exact starts.noDigitFirst
  | cons field others =>
      obtain ⟨name, value⟩ := field
      rw [toList_prettyFields_cons]
      exact NoDigitFirst.cons rfl _

mutual

/-- The text of a value tells the value and ends with it, unless a digit
follows. -/
theorem pretty_append_inj
    (level : Nat) (first second : Json) {left right : List Char}
    (leftEnds : NoDigitFirst left) (rightEnds : NoDigitFirst right)
    (same : (pretty level first).toList ++ left =
      (pretty level second).toList ++ right) :
    first = second ∧ left = right := by
  have shapes := shape_eq_of_append_eq same
  cases first with
  | boolean value =>
      cases second with
      | boolean other =>
          rw [toList_pretty_boolean, toList_pretty_boolean] at same
          cases value <;> cases other <;> simp_all
      | _ => cases shapes
  | number value =>
      cases second with
      | number other =>
          rw [toList_pretty_number, toList_pretty_number] at same
          obtain ⟨rfl, remaining⟩ :=
            number_append_inj leftEnds rightEnds same
          exact ⟨rfl, remaining⟩
      | _ => cases shapes
  | string value =>
      cases second with
      | string other =>
          rw [toList_pretty_string, toList_pretty_string] at same
          obtain ⟨rfl, remaining⟩ := quoted_append_inj same
          exact ⟨rfl, remaining⟩
      | _ => cases shapes
  | array items =>
      cases second with
      | array others =>
          obtain ⟨rfl, remaining⟩ := array_append_inj level items others same
          exact ⟨rfl, remaining⟩
      | _ => cases shapes
  | object fields =>
      cases second with
      | object others =>
          obtain ⟨rfl, remaining⟩ :=
            object_append_inj level fields others same
          exact ⟨rfl, remaining⟩
      | _ => cases shapes
termination_by structural first

theorem array_append_inj
    (level : Nat) (first second : List Json) {left right : List Char}
    (same : (pretty level (.array first)).toList ++ left =
      (pretty level (.array second)).toList ++ right) :
    first = second ∧ left = right := by
  cases first with
  | nil =>
      rw [toList_pretty_array_nil] at same
      cases second with
      | nil =>
          rw [toList_pretty_array_nil] at same
          exact ⟨rfl, List.append_cancel_left same⟩
      | cons other others =>
          rw [toList_pretty_array_cons, toList_newLine] at same
          simp at same
  | cons item items =>
      rw [toList_pretty_array_cons] at same
      cases second with
      | nil =>
          rw [toList_pretty_array_nil, toList_newLine] at same
          simp at same
      | cons other others =>
          rw [toList_pretty_array_cons] at same
          simp only [List.cons_append, List.append_assoc] at same
          have behindLine := List.append_cancel_left (List.cons.inj same).2
          have leftStarts := StartsLine.newLine level ([']'] ++ left)
          have rightStarts := StartsLine.newLine level ([']'] ++ right)
          obtain ⟨rfl, remaining⟩ := pretty_append_inj (level + 1) item other
            (noDigitFirst_items (level + 1) items leftStarts)
            (noDigitFirst_items (level + 1) others rightStarts) behindLine
          obtain ⟨rfl, ends⟩ := prettyItems_append_inj (level + 1) items
            others leftStarts rightStarts remaining
          have behindItems := List.append_cancel_left ends
          exact ⟨rfl, List.append_cancel_left behindItems⟩
termination_by structural first

theorem object_append_inj
    (level : Nat) (first second : List (String × Json))
    {left right : List Char}
    (same : (pretty level (.object first)).toList ++ left =
      (pretty level (.object second)).toList ++ right) :
    first = second ∧ left = right := by
  cases first with
  | nil =>
      rw [toList_pretty_object_nil] at same
      cases second with
      | nil =>
          rw [toList_pretty_object_nil] at same
          exact ⟨rfl, List.append_cancel_left same⟩
      | cons other others =>
          rw [toList_pretty_object_cons, toList_newLine] at same
          simp at same
  | cons field fields =>
      obtain ⟨name, value⟩ := field
      rw [toList_pretty_object_cons] at same
      cases second with
      | nil =>
          rw [toList_pretty_object_nil, toList_newLine] at same
          simp at same
      | cons other others =>
          obtain ⟨otherName, otherValue⟩ := other
          rw [toList_pretty_object_cons] at same
          simp only [List.cons_append, List.append_assoc] at same
          have behindLine := List.append_cancel_left (List.cons.inj same).2
          obtain ⟨rfl, behindName⟩ := quoted_append_inj behindLine
          have leftStarts := StartsLine.newLine level (['\x7d'] ++ left)
          have rightStarts := StartsLine.newLine level (['\x7d'] ++ right)
          obtain ⟨rfl, remaining⟩ :=
            pretty_append_inj (level + 1) value otherValue
              (noDigitFirst_fields (level + 1) fields leftStarts)
              (noDigitFirst_fields (level + 1) others rightStarts)
              (List.append_cancel_left behindName)
          obtain ⟨rfl, ends⟩ := prettyFields_append_inj (level + 1) fields
            others leftStarts rightStarts remaining
          have behindFields := List.append_cancel_left ends
          exact ⟨rfl, List.append_cancel_left behindFields⟩
termination_by structural first

/-- The text of further items tells them, if the closing line follows. -/
theorem prettyItems_append_inj
    (level : Nat) (first second : List Json) {left right : List Char}
    (leftStarts : StartsLine left) (rightStarts : StartsLine right)
    (same : (prettyItems level first).toList ++ left =
      (prettyItems level second).toList ++ right) :
    first = second ∧ left = right := by
  cases first with
  | nil =>
      cases second with
      | nil => exact ⟨rfl, same⟩
      | cons other others =>
          rw [toList_prettyItems_cons] at same
          exact absurd same (leftStarts.ne_comma _)
  | cons item items =>
      cases second with
      | nil =>
          rw [toList_prettyItems_cons] at same
          exact absurd same.symm (rightStarts.ne_comma _)
      | cons other others =>
          rw [toList_prettyItems_cons, toList_prettyItems_cons] at same
          simp only [List.cons_append, List.append_assoc] at same
          have behindLine := List.append_cancel_left (List.cons.inj same).2
          obtain ⟨rfl, remaining⟩ := pretty_append_inj level item other
            (noDigitFirst_items level items leftStarts)
            (noDigitFirst_items level others rightStarts) behindLine
          obtain ⟨rfl, ends⟩ := prettyItems_append_inj level items others
            leftStarts rightStarts remaining
          exact ⟨rfl, ends⟩
termination_by structural first

/-- The text of further fields tells them, if the closing line follows. -/
theorem prettyFields_append_inj
    (level : Nat) (first second : List (String × Json))
    {left right : List Char}
    (leftStarts : StartsLine left) (rightStarts : StartsLine right)
    (same : (prettyFields level first).toList ++ left =
      (prettyFields level second).toList ++ right) :
    first = second ∧ left = right := by
  cases first with
  | nil =>
      cases second with
      | nil => exact ⟨rfl, same⟩
      | cons other others =>
          obtain ⟨name, value⟩ := other
          rw [toList_prettyFields_cons] at same
          exact absurd same (leftStarts.ne_comma _)
  | cons field fields =>
      obtain ⟨name, value⟩ := field
      cases second with
      | nil =>
          rw [toList_prettyFields_cons] at same
          exact absurd same.symm (rightStarts.ne_comma _)
      | cons other others =>
          obtain ⟨otherName, otherValue⟩ := other
          rw [toList_prettyFields_cons, toList_prettyFields_cons] at same
          simp only [List.cons_append, List.append_assoc] at same
          have behindLine := List.append_cancel_left (List.cons.inj same).2
          obtain ⟨rfl, behindName⟩ := quoted_append_inj behindLine
          obtain ⟨rfl, remaining⟩ := pretty_append_inj level value otherValue
            (noDigitFirst_fields level fields leftStarts)
            (noDigitFirst_fields level others rightStarts)
            (List.append_cancel_left behindName)
          obtain ⟨rfl, ends⟩ := prettyFields_append_inj level fields others
            leftStarts rightStarts remaining
          exact ⟨rfl, ends⟩
termination_by structural first

end

/-- Values with the same text are equal. -/
theorem toText_inj {first second : Json}
    (same : first.toText = second.toText) :
    first = second := by
  have texts : (pretty 0 first).toList ++ [] =
      (pretty 0 second).toList ++ [] := by
    rw [List.append_nil, List.append_nil]
    exact congrArg String.toList same
  exact (pretty_append_inj 0 first second NoDigitFirst.nil
    NoDigitFirst.nil texts).1

end WsTrust.Json
