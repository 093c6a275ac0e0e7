import WsTrust.Xml.Reference

/-!
# Escaped texts

Escaping leaves none of the five special characters in a text but the
ampersands of its own references, and reading the references of what it leaves
gives the text back.
-/

namespace WsTrust

namespace Text

variable {test : Char → Bool} {body : List Char} {stop : Char}
  (inside : ∀ c ∈ body, test c = true) (stops : test stop = false)

include inside stops

theorem takeWhile_append_stop (rest : List Char) :
    (body ++ stop :: rest).takeWhile test = body := by
  rw [List.takeWhile_append_of_pos inside,
    List.takeWhile_cons_of_neg (by simp [stops]), List.append_nil]

theorem dropWhile_append_stop (rest : List Char) :
    (body ++ stop :: rest).dropWhile test = stop :: rest := by
  rw [List.dropWhile_append_of_pos inside,
    List.dropWhile_cons_of_neg (by simp [stops])]

end Text

namespace Xml

def isSpecial (c : Char) : Bool :=
  c == '<' || c == '>' || c == '&' || c == '\x27' || c == '\x22'

/-- A special character is written as an ampersand, its name and a semicolon,
where the name has none of these. -/
theorem exists_name_of_special {c : Char} (special : isSpecial c = true) :
    ∃ name, escapeChar c = '&' :: (name ++ [';']) ∧
      (∀ letter ∈ name,
        isSpecial letter = false ∧ endsReference letter = false) ∧
      ∀ offset, referenceCharacter offset name = .ok c := by
  have letters (name : List Char)
      (checked : (name.all fun letter =>
        !isSpecial letter && !endsReference letter) = true) :
      ∀ letter ∈ name,
        isSpecial letter = false ∧ endsReference letter = false := by
    simpa using checked
  simp only [isSpecial, Bool.or_eq_true, beq_iff_eq] at special
  rcases special with (((rfl | rfl) | rfl) | rfl) | rfl
  · exact ⟨"lt".toList, rfl, letters _ rfl, fun _ => rfl⟩
  · exact ⟨"gt".toList, rfl, letters _ rfl, fun _ => rfl⟩
  · exact ⟨"amp".toList, rfl, letters _ rfl, fun _ => rfl⟩
  · exact ⟨"apos".toList, rfl, letters _ rfl, fun _ => rfl⟩
  · exact ⟨"quot".toList, rfl, letters _ rfl, fun _ => rfl⟩

theorem escapeChar_of_not_special
    {c : Char} (ordinary : isSpecial c = false) :
    escapeChar c = [c] := by
  simp only [isSpecial, Bool.or_eq_false_iff, beq_eq_false_iff_ne] at ordinary
  obtain ⟨⟨⟨⟨notLess, notGreater⟩, notAmpersand⟩, notApostrophe⟩, notQuote⟩ :=
    ordinary
  rw [escapeChar, if_neg notLess, if_neg notGreater, if_neg notAmpersand,
    if_neg notApostrophe, if_neg notQuote]

theorem escape_cons (c : Char) (rest : List Char) :
    escape (c :: rest) = escapeChar c ++ escape rest := rfl

theorem escape_append (first second : List Char) :
    escape (first ++ second) = escape first ++ escape second :=
  List.flatMap_append

/-- Of the special characters only the ampersand is left by escaping. -/
theorem not_mem_escape
    {c : Char} (special : isSpecial c = true) (notAmpersand : c ≠ '&')
    (characters : List Char) :
    c ∉ escape characters := by
  intro member
  obtain ⟨source, _, written⟩ := List.mem_flatMap.mp member
  by_cases named : isSpecial source
  · obtain ⟨name, equality, letters, _⟩ := exists_name_of_special named
    rw [equality, List.mem_cons, List.mem_append,
      List.mem_singleton] at written
    rcases written with ampersand | letter | semicolon
    · exact notAmpersand ampersand
    · rw [(letters c letter).1] at special
      cases special
    · rw [semicolon] at special
      cases special
  · rw [escapeChar_of_not_special (by simpa using named)] at written
    rw [List.mem_singleton.mp written] at special
    exact named special

/-! ## Reading references back -/

/-- A named reference in front of a text is read as its character. -/
theorem unescapeFrom_reference
    {c : Char} {name : List Char}
    (letters : ∀ letter ∈ name, endsReference letter = false)
    (named : ∀ offset, referenceCharacter offset name = .ok c)
    (total offset : Nat) (rest : List Char) :
    unescapeFrom total offset ('&' :: (name ++ ';' :: rest)) =
      match unescapeFrom total (offset + byteLength name + 2) rest with
      | .ok unescaped => .ok (c :: unescaped)
      | .error flaw => .error flaw := by
  have continues (letter : Char) (member : letter ∈ name) :
      (!endsReference letter) = true := by
    rw [letters letter member, Bool.not_false]
  have body :
      (name ++ ';' :: rest).takeWhile (!endsReference ·) = name :=
    Text.takeWhile_append_stop continues rfl rest
  have afterwards :
      (name ++ ';' :: rest).dropWhile (!endsReference ·) = ';' :: rest :=
    Text.dropWhile_append_stop continues rfl rest
  rw [unescapeFrom, if_pos rfl]
  split
  · rename_i remaining found
    rw [afterwards] at found
    cases found
    rw [body]
    cases following :
        unescapeFrom total (offset + byteLength name + 2) rest with
    | ok unescaped => simp only [named, following]
    | error flaw => simp only [named, following]
  · rename_i different
    exact absurd afterwards (different rest)

theorem unescapeFrom_escape
    (characters : List Char) (total offset : Nat) :
    unescapeFrom total offset (escape characters) = .ok characters := by
  induction characters generalizing offset with
  | nil =>
      rw [escape, List.flatMap_nil, unescapeFrom]
  | cons c rest inductionHypothesis =>
      rw [escape_cons]
      by_cases special : isSpecial c
      · obtain ⟨name, written, letters, named⟩ :=
          exists_name_of_special special
        have reference :
            escapeChar c ++ escape rest =
              '&' :: (name ++ ';' :: escape rest) := by
          rw [written, List.cons_append, List.append_assoc]
          rfl
        rw [reference,
          unescapeFrom_reference (fun letter member =>
            (letters letter member).2) named,
          inductionHypothesis]
      · have ordinary : isSpecial c = false := by simpa using special
        have notAmpersand : c ≠ '&' := by
          rintro rfl
          cases ordinary
        rw [escapeChar_of_not_special ordinary, List.singleton_append,
          unescapeFrom, if_neg notAmpersand, inductionHypothesis]

/-- Reading the references of an escaped text gives the text back. -/
theorem unescape_escape (characters : List Char) :
    unescape (escape characters) = .ok characters :=
  unescapeFrom_escape characters _ 0

end Xml

end WsTrust
