import Mathlib.Data.List.DropRight
import WsTrust.Text.Blank

/-!
# Blanks lost between texts

Two texts that are trimmed before they are joined lack the blanks that stood
where they meet, which trimming the whole text would have kept.  Nothing else is
lost.
-/

namespace WsTrust.Text

/-! ## Trimmed rows of characters -/

/-- The characters without the blanks at their two ends. -/
def trimmed (characters : List Char) : List Char :=
  trimEnd (trimStart characters)

theorem toList_trim (text : String) :
    (trim text).toList = trimmed text.toList := by
  rw [trim, String.toList_ofList]
  rfl

def HasContent (characters : List Char) : Prop :=
  ∃ c ∈ characters, isBlank c = false

def AllBlank (characters : List Char) : Prop :=
  ∀ c ∈ characters, isBlank c = true

theorem allBlank_or_hasContent (characters : List Char) :
    AllBlank characters ∨ HasContent characters := by
  by_cases blank : AllBlank characters
  · exact Or.inl blank
  · simpa [AllBlank, HasContent] using Or.inr blank

theorem AllBlank.append
    {first second : List Char} (one : AllBlank first)
    (other : AllBlank second) : AllBlank (first ++ second) :=
  List.forall_mem_append.mpr ⟨one, other⟩

theorem HasContent.append_left
    {second : List Char} (present : HasContent second) (first : List Char) :
    HasContent (first ++ second) := by
  obtain ⟨c, member, notBlank⟩ := present
  exact ⟨c, List.mem_append_right first member, notBlank⟩

theorem HasContent.append_right
    {first : List Char} (present : HasContent first) (second : List Char) :
    HasContent (first ++ second) := by
  obtain ⟨c, member, notBlank⟩ := present
  exact ⟨c, List.mem_append_left second member, notBlank⟩

theorem trimStart_append
    {first : List Char} (present : HasContent first) (second : List Char) :
    trimStart (first ++ second) = trimStart first ++ second := by
  induction first with
  | nil =>
      obtain ⟨_, member, _⟩ := present
      cases member
  | cons c rest inductionHypothesis =>
      simp only [trimStart, List.cons_append]
      by_cases blank : isBlank c
      · have later : HasContent rest := by
          obtain ⟨other, member, notBlank⟩ := present
          rcases List.mem_cons.mp member with rfl | inRest
          · rw [blank] at notBlank
            cases notBlank
          · exact ⟨other, inRest, notBlank⟩
        rw [List.dropWhile_cons_of_pos blank,
          List.dropWhile_cons_of_pos blank]
        exact inductionHypothesis later
      · rw [List.dropWhile_cons_of_neg blank,
          List.dropWhile_cons_of_neg blank, List.cons_append]

theorem trimStart_append_of_allBlank
    {first : List Char} (blank : AllBlank first) (second : List Char) :
    trimStart (first ++ second) = trimStart second :=
  List.dropWhile_append_of_pos blank

theorem trimEnd_eq_reverse (characters : List Char) :
    trimEnd characters = (trimStart characters.reverse).reverse := rfl

theorem trimEnd_append
    (first : List Char) {second : List Char} (present : HasContent second) :
    trimEnd (first ++ second) = first ++ trimEnd second := by
  have backwards : HasContent second.reverse := by
    obtain ⟨c, member, notBlank⟩ := present
    exact ⟨c, List.mem_reverse.mpr member, notBlank⟩
  rw [trimEnd_eq_reverse, trimEnd_eq_reverse, List.reverse_append,
    trimStart_append backwards, List.reverse_append, List.reverse_reverse]

theorem trimEnd_append_of_allBlank
    (first : List Char) {second : List Char} (blank : AllBlank second) :
    trimEnd (first ++ second) = trimEnd first := by
  have backwards : AllBlank second.reverse :=
    fun c member => blank c (List.mem_reverse.mp member)
  rw [trimEnd_eq_reverse, trimEnd_eq_reverse, List.reverse_append,
    trimStart_append_of_allBlank backwards]

/-- Trimming keeps what stands between two parts that have content. -/
theorem trimmed_amid
    {first last : List Char} (starts : HasContent first)
    (stops : HasContent last) (middle : List Char) :
    trimmed (first ++ middle ++ last) =
      trimStart first ++ middle ++ trimEnd last := by
  rw [trimmed, List.append_assoc, trimStart_append starts,
    ← List.append_assoc, trimEnd_append _ stops]

/-! ## What trimming takes away -/

structure IsSolid (characters : List Char) : Prop where
  begins : ∃ c ∈ characters.head?, isBlank c = false
  ends : ∃ c ∈ characters.getLast?, isBlank c = false

theorem IsSolid.hasContent
    {characters : List Char} (solid : IsSolid characters) :
    HasContent characters := by
  obtain ⟨c, first, notBlank⟩ := solid.begins
  exact ⟨c, List.mem_of_mem_head? first, notBlank⟩

theorem IsSolid.trimStart_eq
    {characters : List Char} (solid : IsSolid characters) :
    trimStart characters = characters := by
  obtain ⟨c, first, notBlank⟩ := solid.begins
  cases characters with
  | nil => cases first
  | cons head rest =>
      cases first
      exact List.dropWhile_cons_of_neg (by simp [notBlank])

theorem IsSolid.trimEnd_eq
    {characters : List Char} (solid : IsSolid characters) :
    trimEnd characters = characters := by
  obtain ⟨c, last, notBlank⟩ := solid.ends
  have backwards : c ∈ characters.reverse.head? := by
    rwa [List.head?_reverse]
  rw [trimEnd]
  cases reversed : characters.reverse with
  | nil =>
      rw [reversed] at backwards
      cases backwards
  | cons head rest =>
      rw [reversed] at backwards
      cases backwards
      rw [List.dropWhile_cons_of_neg (by simp [notBlank]), ← reversed,
        List.reverse_reverse]

theorem IsSolid.append
    {first last : List Char} (starts : IsSolid first) (stops : IsSolid last)
    (middle : List Char) : IsSolid (first ++ middle ++ last) := by
  obtain ⟨c, begins, notBlank⟩ := starts.begins
  obtain ⟨other, ends, otherNotBlank⟩ := stops.ends
  constructor
  · refine ⟨c, ?_, notBlank⟩
    rw [List.append_assoc, List.head?_append, Option.mem_def.mp begins]
    rfl
  · refine ⟨other, ?_, otherNotBlank⟩
    rw [List.getLast?_append, Option.mem_def.mp ends]
    rfl

/-- Trimming takes away the blanks around a solid part. -/
theorem trimmed_of_isSolid
    {before characters after : List Char} (solid : IsSolid characters)
    (blankBefore : AllBlank before) (blankAfter : AllBlank after) :
    trimmed (before ++ characters ++ after) = characters := by
  rw [trimmed, List.append_assoc, trimStart_append_of_allBlank blankBefore,
    trimStart_append solid.hasContent, trimEnd_append_of_allBlank _ blankAfter,
    solid.trimStart_eq, solid.trimEnd_eq]

theorem trimmed_of_allBlank
    {characters : List Char} (blank : AllBlank characters) :
    trimmed characters = [] := by
  rw [trimmed, trimStart, List.dropWhile_eq_nil_iff.mpr blank]
  rfl

/-- What has content is a solid part with blanks around it. -/
theorem HasContent.exists_isSolid
    {characters : List Char} (present : HasContent characters) :
    ∃ before middle after,
      characters = before ++ middle ++ after ∧ IsSolid middle ∧
        AllBlank before ∧ AllBlank after := by
  have blankBefore : AllBlank (characters.takeWhile isBlank) :=
    fun c member => List.mem_takeWhile_imp member
  have blankAfter : AllBlank ((trimStart characters).rtakeWhile isBlank) :=
    fun c member => List.mem_rtakeWhile_imp member
  have divided :
      characters.takeWhile isBlank ++ trimmed characters ++
          (trimStart characters).rtakeWhile isBlank =
        characters := by
    have ending : trimmed characters ++
        (trimStart characters).rtakeWhile isBlank = trimStart characters :=
      List.rdropWhile_append_rtakeWhile
    rw [List.append_assoc, ending]
    exact List.takeWhile_append_dropWhile
  have something : trimmed characters ≠ [] := by
    intro nothing
    rw [nothing, List.append_nil] at divided
    obtain ⟨c, member, notBlank⟩ := present
    rw [← divided] at member
    rw [blankBefore.append blankAfter c member] at notBlank
    cases notBlank
  refine ⟨_, trimmed characters, _, divided.symm, ⟨?_, ?_⟩, blankBefore,
    blankAfter⟩
  · obtain ⟨head, rest, equality⟩ := List.exists_cons_of_ne_nil something
    obtain ⟨dropped, started⟩ : trimmed characters <+: trimStart characters :=
      List.rdropWhile_prefix isBlank _
    have first := List.head?_dropWhile_not isBlank characters
    rw [equality, trimStart] at started
    refine ⟨head, by rw [equality]; rfl, ?_⟩
    simpa [← started] using first
  · refine ⟨_, List.getLast?_eq_some_getLast something, ?_⟩
    have last := List.rdropWhile_last_not isBlank _ something
    exact Bool.eq_false_iff.mpr last

/-! ## Blanks that meet -/

/-- The second text is the first one, except that it may lack blanks in one
place. -/
def LosesBlanks (whole remaining : String) : Prop :=
  ∃ before blanks after : List Char,
    whole.toList = before ++ blanks ++ after ∧
      remaining.toList = before ++ after ∧ AllBlank blanks

/-- Neither of the texts is blank, and a blank stands where they meet. -/
def BlanksMeet (first second : String) : Prop :=
  trim first ≠ "" ∧ trim second ≠ "" ∧
    (first.toList.getLast?.any isBlank = true ∨
      second.toList.head?.any isBlank = true)

instance (first second : String) : Decidable (BlanksMeet first second) :=
  inferInstanceAs (Decidable (_ ∧ _ ∧ _))

theorem LosesBlanks.refl (text : String) : LosesBlanks text text :=
  ⟨text.toList, [], [], by simp, by simp, by simp [AllBlank]⟩

theorem LosesBlanks.eq
    {whole remaining : String} (loses : LosesBlanks whole remaining)
    (noBlank : ∀ c ∈ whole.toList, isBlank c = false) :
    whole = remaining := by
  obtain ⟨before, blanks, after, equality, remains, blank⟩ := loses
  have nothing : blanks = [] := by
    refine List.eq_nil_iff_forall_not_mem.mpr fun c member => ?_
    have inWhole : c ∈ whole.toList := by simp [equality, member]
    have contradiction := noBlank c inWhole
    rw [blank c member] at contradiction
    cases contradiction
  rw [← String.toList_inj, equality, remains, nothing, List.append_nil]

theorem trim_eq_empty_iff {text : String} :
    trim text = "" ↔ AllBlank text.toList := by
  rw [← String.toList_inj, toList_trim]
  constructor
  · intro nothing
    rcases allBlank_or_hasContent text.toList with blank | present
    · exact blank
    · obtain ⟨before, middle, after, equality, solid, blankBefore,
        blankAfter⟩ := present.exists_isSolid
      rw [equality, trimmed_of_isSolid solid blankBefore blankAfter] at nothing
      obtain ⟨c, first, _⟩ := solid.begins
      rw [nothing] at first
      cases first
  · exact trimmed_of_allBlank

theorem trim_append_eq_empty_iff {first second : String} :
    trim (first ++ second) = "" ↔ trim first = "" ∧ trim second = "" := by
  rw [trim_eq_empty_iff, trim_eq_empty_iff, trim_eq_empty_iff,
    String.toList_append]
  exact List.forall_mem_append

theorem hasContent_of_trim_ne
    {text : String} (something : trim text ≠ "") : HasContent text.toList :=
  (allBlank_or_hasContent text.toList).resolve_left
    (mt trim_eq_empty_iff.mpr something)

/-- What trimming leaves of a text that is not blank is solid. -/
theorem isSolid_trim
    {text : String} (something : trim text ≠ "") :
    IsSolid (trim text).toList := by
  obtain ⟨before, middle, after, equality, solid, blankBefore, blankAfter⟩ :=
    (hasContent_of_trim_ne something).exists_isSolid
  rw [toList_trim, equality,
    trimmed_of_isSolid solid blankBefore blankAfter]
  exact solid

/-- Of a trimmed text something remains. -/
theorem LosesBlanks.ne_empty
    {text remaining : String} (loses : LosesBlanks (trim text) remaining)
    (something : trim text ≠ "") : remaining ≠ "" := by
  rintro rfl
  obtain ⟨before, blanks, after, equality, remains, blank⟩ := loses
  obtain ⟨rfl, rfl⟩ := List.append_eq_nil_iff.mp remains.symm
  rw [List.nil_append, List.append_nil] at equality
  obtain ⟨c, member, notBlank⟩ := (isSolid_trim something).hasContent
  rw [equality] at member
  rw [blank c member] at notBlank
  cases notBlank

theorem trim_append_of_allBlank_left
    {first : String} (blank : AllBlank first.toList) (second : String) :
    trim (first ++ second) = trim first ++ trim second := by
  rw [trim_eq_empty_iff.mpr blank, String.empty_append,
    ← String.toList_inj, toList_trim, toList_trim, String.toList_append,
    trimmed, trimStart_append_of_allBlank blank]
  rfl

theorem trim_append_of_allBlank_right
    (first : String) {second : String} (blank : AllBlank second.toList) :
    trim (first ++ second) = trim first ++ trim second := by
  rw [trim_eq_empty_iff.mpr blank, String.append_empty,
    ← String.toList_inj, toList_trim, toList_trim, String.toList_append]
  rcases allBlank_or_hasContent first.toList with blankFirst | present
  · rw [trimmed_of_allBlank blankFirst,
      trimmed_of_allBlank (blankFirst.append blank)]
  · rw [trimmed, trimStart_append present, trimEnd_append_of_allBlank _ blank]
    rfl

/-- Of two texts that are not blank, trimming each takes away the blanks where
they meet. -/
theorem exists_blanks_amid
    {first second : String} (present : trim first ≠ "")
    (otherPresent : trim second ≠ "") :
    ∃ blanks, AllBlank blanks ∧
      (trim (first ++ second)).toList =
        (trim first).toList ++ blanks ++ (trim second).toList ∧
      (blanks ≠ [] ↔ BlanksMeet first second) := by
  obtain ⟨before, middle, after, equality, solid, blankBefore, blankAfter⟩ :=
    (hasContent_of_trim_ne present).exists_isSolid
  obtain ⟨otherBefore, otherMiddle, otherAfter, otherEquality, otherSolid,
    otherBlankBefore, otherBlankAfter⟩ :=
      (hasContent_of_trim_ne otherPresent).exists_isSolid
  have blank := blankAfter.append otherBlankBefore
  refine ⟨after ++ otherBefore, blank, ?_, ?_⟩
  · have whole :
        first.toList ++ second.toList =
          before ++ (middle ++ (after ++ otherBefore) ++ otherMiddle) ++
            otherAfter := by
      simp only [equality, otherEquality, List.append_assoc]
    rw [toList_trim, toList_trim, toList_trim, String.toList_append, whole,
      trimmed_of_isSolid (solid.append otherSolid _) blankBefore
        otherBlankAfter,
      equality, trimmed_of_isSolid solid blankBefore blankAfter,
      otherEquality,
      trimmed_of_isSolid otherSolid otherBlankBefore otherBlankAfter]
  · have last : first.toList.getLast?.any isBlank = true ↔ after ≠ [] := by
      rw [equality, List.getLast?_append]
      cases ending : after.getLast? with
      | none =>
          rw [List.getLast?_eq_none_iff.mp ending]
          obtain ⟨c, ends, notBlank⟩ := solid.ends
          rw [List.getLast?_append, Option.mem_def.mp ends]
          simp [notBlank]
      | some c =>
          have member := List.mem_of_getLast? ending
          simp [blankAfter c member, List.ne_nil_of_mem member]
    have start :
        second.toList.head?.any isBlank = true ↔ otherBefore ≠ [] := by
      rw [otherEquality, List.append_assoc, List.head?_append]
      cases otherBefore with
      | nil =>
          obtain ⟨c, begins, notBlank⟩ := otherSolid.begins
          rw [List.head?_append, Option.mem_def.mp begins]
          simp [notBlank]
      | cons c rest => simp [otherBlankBefore c List.mem_cons_self]
    simp only [BlanksMeet, present, otherPresent, last, start, ne_eq,
      List.append_eq_nil_iff, not_false_eq_true, true_and]
    exact not_and_or

/-- Texts that are trimmed apart make up the whole text trimmed exactly if no
blanks between them meet. -/
theorem trim_append_eq_iff (first second : String) :
    trim (first ++ second) = trim first ++ trim second ↔
      ¬ BlanksMeet first second := by
  by_cases blank : AllBlank first.toList
  · have notPresent : ¬ BlanksMeet first second :=
      fun meet => meet.1 (trim_eq_empty_iff.mpr blank)
    simp [trim_append_of_allBlank_left blank, notPresent]
  by_cases otherBlank : AllBlank second.toList
  · have notPresent : ¬ BlanksMeet first second :=
      fun meet => meet.2.1 (trim_eq_empty_iff.mpr otherBlank)
    simp [trim_append_of_allBlank_right first otherBlank, notPresent]
  obtain ⟨blanks, _, whole, meet⟩ :=
    exists_blanks_amid (mt trim_eq_empty_iff.mp blank)
      (mt trim_eq_empty_iff.mp otherBlank)
  rw [← meet, not_not, ← String.toList_inj, whole, String.toList_append,
    List.append_assoc, List.append_right_inj, List.append_left_eq_self]

/-- Two trimmed texts that are not blank are trimmed together. -/
theorem trim_append_trim
    {first second : String} (something : trim first ≠ "")
    (somethingElse : trim second ≠ "") :
    trim (trim first ++ trim second) = trim first ++ trim second := by
  have solid :=
    (isSolid_trim something).append (isSolid_trim somethingElse) []
  rw [List.append_nil] at solid
  rw [← String.toList_inj, toList_trim, String.toList_append, trimmed,
    solid.trimStart_eq, solid.trimEnd_eq]

/-- Whatever stands around the two texts, no more than the blanks where they
meet is lost. -/
theorem losesBlanks_of_parts (earlier first second later : String) :
    LosesBlanks (trim (earlier ++ trim (first ++ second) ++ later))
      (trim (earlier ++ (trim first ++ trim second) ++ later)) := by
  by_cases meet : BlanksMeet first second
  · obtain ⟨blanks, blank, whole, _⟩ :=
      exists_blanks_amid meet.1 meet.2.1
    have starts :
        HasContent (earlier.toList ++ (trim first).toList) :=
      (isSolid_trim meet.1).hasContent.append_left _
    have stops : HasContent ((trim second).toList ++ later.toList) :=
      (isSolid_trim meet.2.1).hasContent.append_right _
    refine ⟨trimStart (earlier.toList ++ (trim first).toList), blanks,
      trimEnd ((trim second).toList ++ later.toList), ?_, ?_, blank⟩
    · rw [← trimmed_amid starts stops, toList_trim, String.toList_append,
        String.toList_append, whole]
      simp only [List.append_assoc]
    · have joined := trimmed_amid starts stops []
      rw [List.append_nil, List.append_nil] at joined
      rw [← joined, toList_trim, String.toList_append, String.toList_append,
        String.toList_append]
      simp only [List.append_assoc]
  · rw [(trim_append_eq_iff first second).mpr meet]
    exact .refl _

end WsTrust.Text
