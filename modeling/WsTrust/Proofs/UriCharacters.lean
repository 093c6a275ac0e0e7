import WsTrust.Text.Blank
import WsTrust.Uri

/-!
# The characters of a URI reference

Every character of a URI reference is a visible one of ASCII.  A reference has
therefore no blanks that trimming could take away.
-/

namespace WsTrust

namespace Uri

open Text

/-! ## Visible characters -/

def IsVisible (c : Char) : Prop :=
  33 ≤ c.toNat ∧ c.toNat ≤ 126

instance (c : Char) : Decidable (IsVisible c) :=
  inferInstanceAs (Decidable (_ ∧ _))

def AllVisible (characters : List Char) : Prop :=
  ∀ c ∈ characters, IsVisible c

theorem toNat_le_iff (left right : Char) :
    left ≤ right ↔ left.toNat ≤ right.toNat := Iff.rfl

theorem isVisible_of_isLetter {c : Char} (letter : isLetter c) :
    IsVisible c := by
  simp only [isLetter, Bool.or_eq_true, Bool.and_eq_true,
    decide_eq_true_eq, toNat_le_iff, Char.reduceToNat] at letter
  unfold IsVisible
  omega

theorem isVisible_of_isDigit {c : Char} (digit : isDigit c) :
    IsVisible c := by
  simp only [isDigit, Bool.and_eq_true, decide_eq_true_eq, toNat_le_iff,
    Char.reduceToNat] at digit
  unfold IsVisible
  omega

theorem isVisible_of_isHexDigit {c : Char} (digit : isHexDigit c) :
    IsVisible c := by
  simp only [isHexDigit, hexValue?, toNat_le_iff, Char.reduceToNat]
    at digit
  unfold IsVisible
  split at digit
  · omega
  · split at digit
    · omega
    · split at digit
      · omega
      · cases digit

theorem isVisible_of_isUnreserved {c : Char} (unreserved : isUnreserved c) :
    IsVisible c := by
  simp only [isUnreserved, Bool.or_eq_true, beq_iff_eq] at unreserved
  rcases unreserved with
    (((((letter | digit) | rfl) | rfl) | rfl) | rfl)
  · exact isVisible_of_isLetter letter
  · exact isVisible_of_isDigit digit
  all_goals decide

theorem isVisible_of_isSubDelimiter
    {c : Char} (delimiter : isSubDelimiter c) : IsVisible c := by
  have each :
      "!$&'()*+,;=".toList.all fun tested => decide (IsVisible tested) := by
    decide
  have member := List.contains_iff_mem.mp delimiter
  exact of_decide_eq_true (List.all_eq_true.mp each c member)

theorem isVisible_of_isPathCharacter
    {c : Char} (allowed : isPathCharacter c) : IsVisible c := by
  simp only [isPathCharacter, Bool.or_eq_true, beq_iff_eq] at allowed
  rcases allowed with (((unreserved | delimiter) | rfl) | rfl)
  · exact isVisible_of_isUnreserved unreserved
  · exact isVisible_of_isSubDelimiter delimiter
  all_goals decide

/-! ## Lists of characters -/

namespace AllVisible

theorem nil : AllVisible [] := nofun

theorem cons
    {c : Char} {rest : List Char}
    (first : IsVisible c) (others : AllVisible rest) :
    AllVisible (c :: rest) :=
  List.forall_mem_cons.mpr ⟨first, others⟩

theorem append
    {left right : List Char}
    (first : AllVisible left) (second : AllVisible right) :
    AllVisible (left ++ right) :=
  List.forall_mem_append.mpr ⟨first, second⟩

theorem of_all
    {allowed : Char → Bool} {characters : List Char}
    (visible : ∀ c, allowed c → IsVisible c)
    (all : characters.all allowed) :
    AllVisible characters :=
  fun c member => visible c (List.all_eq_true.mp all c member)

end AllVisible

theorem allVisible_of_isEscaped
    {allowed : Char → Bool} {characters : List Char}
    (visible : ∀ c, allowed c → IsVisible c)
    (escaped : isEscaped allowed characters) :
    AllVisible characters := by
  fun_induction isEscaped allowed characters with
  | case1 => exact AllVisible.nil
  | case2 high low rest inductionHypothesis =>
      simp only [Bool.and_eq_true] at escaped
      obtain ⟨⟨highDigit, lowDigit⟩, others⟩ := escaped
      exact .cons (by decide)
        (.cons (isVisible_of_isHexDigit highDigit)
          (.cons (isVisible_of_isHexDigit lowDigit)
            (inductionHypothesis others)))
  | case3 c rest _ inductionHypothesis =>
      simp only [Bool.and_eq_true] at escaped
      obtain ⟨⟨_, first⟩, others⟩ := escaped
      exact .cons (visible c first) (inductionHypothesis others)

theorem allVisible_intercalate
    {mark : Char} {pieces : List (List Char)} (visible : IsVisible mark)
    (each : ∀ piece ∈ pieces, AllVisible piece) :
    AllVisible ([mark].intercalate pieces) := by
  induction pieces with
  | nil => exact AllVisible.nil
  | cons head tail inductionHypothesis =>
      obtain ⟨first, others⟩ := List.forall_mem_cons.mp each
      cases tail with
      | nil => simpa [List.intercalate] using first
      | cons second rest =>
          have joined := inductionHypothesis others
          rw [List.intercalate_cons_cons]
          exact (first.append (.cons visible .nil)).append joined

/-- Characters that are split at a visible mark into visible parts are
visible. -/
theorem allVisible_of_splitOn
    {mark : Char} {characters : List Char} (visible : IsVisible mark)
    (parts : ∀ part ∈ characters.splitOn mark, AllVisible part) :
    AllVisible characters := by
  have joined : [mark].intercalate (characters.splitOn mark) = characters :=
    List.intercalate_splitOn mark
  exact joined ▸ allVisible_intercalate visible parts

/-! ## Hosts -/

theorem all_isDigit_of_isOctet
    {characters : List Char} (octet : isOctet characters) :
    ∀ c ∈ characters, isDigit c := by
  have one : isDigit '1' := by decide
  have two : isDigit '2' := by decide
  have five : isDigit '5' := by decide
  unfold isOctet at octet
  split at octet
  all_goals simp_all

theorem allVisible_of_isFourthVersion
    {characters : List Char} (address : isFourthVersion characters) :
    AllVisible characters := by
  have dot : IsVisible '.' := by decide
  simp only [isFourthVersion, Bool.and_eq_true, List.all_eq_true] at address
  refine allVisible_of_splitOn dot ?_
  intro octet member c inOctet
  exact isVisible_of_isDigit
    (all_isDigit_of_isOctet (address.2 octet member) c inOctet)

theorem allVisible_of_isGroup
    {characters : List Char} (group : isGroup characters) :
    AllVisible characters := by
  simp only [isGroup, Bool.and_eq_true] at group
  exact AllVisible.of_all (fun c => isVisible_of_isHexDigit) group.2

theorem allVisible_of_groupCount?
    {parts : List (List Char)} {count : Nat}
    (counted : groupCount? parts = some count) :
    ∀ part ∈ parts, AllVisible part := by
  induction parts generalizing count with
  | nil => nofun
  | cons first rest inductionHypothesis =>
      cases rest with
      | nil =>
          simp only [groupCount?] at counted
          have firstVisible : AllVisible first := by
            split at counted
            · exact allVisible_of_isGroup ‹_›
            · split at counted
              · exact allVisible_of_isFourthVersion ‹_›
              · cases counted
          exact List.forall_mem_cons.mpr ⟨firstVisible, nofun⟩
      | cons second others =>
          simp only [groupCount?] at counted
          split at counted
          · rename_i group
            obtain ⟨inner, countedRest, _⟩ :=
              Option.map_eq_some_iff.mp counted
            exact List.forall_mem_cons.mpr
              ⟨allVisible_of_isGroup group, inductionHypothesis countedRest⟩
          · cases counted

theorem allVisible_of_colonParts
    {characters : List Char}
    (parts : ∀ part ∈ colonParts characters, AllVisible part) :
    AllVisible characters := by
  rw [colonParts] at parts
  split at parts
  · rename_i empty
    rw [List.isEmpty_iff.mp empty]
    exact AllVisible.nil
  · exact allVisible_of_splitOn (by decide) parts

theorem eq_of_splitAtGap?
    {characters before after : List Char}
    (split : splitAtGap? characters = some (before, after)) :
    characters = before ++ ':' :: ':' :: after := by
  fun_induction splitAtGap? characters generalizing before with
  | case1 rest => simp_all
  | case2 => cases split
  | case3 c rest _ inductionHypothesis =>
      obtain ⟨⟨inner, last⟩, found, equality⟩ :=
        Option.map_eq_some_iff.mp split
      cases equality
      rw [inductionHypothesis found]
      rfl

theorem allVisible_of_isSixthVersion
    {characters : List Char} (address : isSixthVersion characters) :
    AllVisible characters := by
  have colon : IsVisible ':' := by decide
  rw [isSixthVersion] at address
  split at address
  · rename_i noGap
    exact allVisible_of_colonParts
      (allVisible_of_groupCount? (beq_iff_eq.mp address))
  · rename_i before after gap
    simp only [Bool.and_eq_true, List.all_eq_true] at address
    obtain ⟨groupsBefore, groupsAfter⟩ := address
    rw [eq_of_splitAtGap? gap]
    refine .append ?_ (.cons colon (.cons colon ?_))
    · exact allVisible_of_colonParts fun part member =>
        allVisible_of_isGroup (groupsBefore part member)
    · cases counted : groupCount? (colonParts after) with
      | none =>
          rw [counted] at groupsAfter
          cases groupsAfter
      | some count =>
          exact allVisible_of_colonParts (allVisible_of_groupCount? counted)

theorem eq_of_splitFirst?
    {mark : Char} {characters before after : List Char}
    (split : splitFirst? mark characters = some (before, after)) :
    characters = before ++ mark :: after := by
  have whole :
      characters.takeWhile (· != mark) ++ characters.dropWhile (· != mark) =
        characters :=
    List.takeWhile_append_dropWhile
  have stopped := List.head?_dropWhile_not (· != mark) characters
  rw [splitFirst?] at split
  cases dropped : characters.dropWhile (· != mark) with
  | nil =>
      rw [dropped] at split
      cases split
  | cons first rest =>
      rw [dropped] at split stopped whole
      cases split
      have found : first = mark := by simpa using stopped
      rw [found] at whole
      exact whole.symm

theorem eq_of_splitLast?
    {mark : Char} {characters before after : List Char}
    (split : splitLast? mark characters = some (before, after)) :
    characters = before ++ mark :: after := by
  obtain ⟨⟨last, first⟩, found, equality⟩ :=
    Option.map_eq_some_iff.mp split
  cases equality
  have reversed := congrArg List.reverse (eq_of_splitFirst? found)
  simpa using reversed

theorem allVisible_of_isFutureVersion
    {characters : List Char} (address : isFutureVersion characters) :
    AllVisible characters := by
  have colon : IsVisible ':' := by decide
  have dot : IsVisible '.' := by decide
  rw [isFutureVersion] at address
  split at address
  · cases address
  · rename_i version rest split
    simp only [Bool.and_eq_true] at address
    obtain ⟨⟨⟨_, versionDigits⟩, _⟩, restAllowed⟩ := address
    rw [eq_of_splitFirst? split]
    refine .append ?_ (.cons dot ?_)
    · exact AllVisible.of_all (fun c => isVisible_of_isHexDigit)
        versionDigits
    · refine AllVisible.of_all (fun c allowed => ?_) restAllowed
      simp only [Bool.or_eq_true, beq_iff_eq] at allowed
      rcases allowed with ((unreserved | delimiter) | rfl)
      · exact isVisible_of_isUnreserved unreserved
      · exact isVisible_of_isSubDelimiter delimiter
      · exact colon

/-- Characters that begin and end with brackets are what stands between them
with a bracket on each side. -/
theorem eq_of_bracketed
    {characters : List Char}
    (opened : characters.head? = some '[') (long : 2 ≤ characters.length)
    (closed : characters.getLast? = some ']') :
    characters = '[' :: (characters.tail.dropLast ++ [']']) := by
  cases characters with
  | nil => cases opened
  | cons first rest =>
      cases opened
      have present : rest ≠ [] := by
        rintro rfl
        simp at long
      have last : rest.getLast? = some ']' := by
        rwa [List.getLast?_cons_of_ne_nil present] at closed
      obtain ⟨inner, rfl⟩ := List.getLast?_eq_some_iff.mp last
      rw [List.tail_cons, List.dropLast_concat]

theorem allVisible_of_isHost
    {characters : List Char} (host : isHost characters) :
    AllVisible characters := by
  have opening : IsVisible '[' := by decide
  have closing : IsVisible ']' := by decide
  have version : IsVisible 'v' ∧ IsVisible 'V' :=
    ⟨by decide, by decide⟩
  rw [isHost] at host
  split at host
  · rename_i bracketed
    simp only [Bool.and_eq_true, beq_iff_eq, decide_eq_true_eq]
      at bracketed
    obtain ⟨⟨opened, long⟩, closed⟩ := bracketed
    rw [eq_of_bracketed opened long closed]
    refine .cons opening (.append ?_ (.cons closing .nil))
    split at host
    · rename_i future inner
      rw [inner]
      exact .cons version.1 (allVisible_of_isFutureVersion host)
    · rename_i future inner
      rw [inner]
      exact .cons version.2 (allVisible_of_isFutureVersion host)
    · exact allVisible_of_isSixthVersion host
  · refine allVisible_of_isEscaped (fun c allowed => ?_) host
    rcases Bool.or_eq_true_iff.mp allowed with unreserved | delimiter
    · exact isVisible_of_isUnreserved unreserved
    · exact isVisible_of_isSubDelimiter delimiter

/-! ## References -/

def Authority.ofLocated
    (userinfo : Option (List Char)) (located : List Char) : Authority :=
  match splitLast? ':' located with
  | some (host, port) =>
      if port.all isDigit then
        { userinfo, host, port := some port }
      else
        { userinfo, host := located, port := none }
  | none => { userinfo, host := located, port := none }

theorem Authority.ofCharacters_eq (characters : List Char) :
    Authority.ofCharacters characters =
      match splitFirst? '@' characters with
      | some (before, after) => .ofLocated (some before) after
      | none => .ofLocated none characters := by
  rw [Authority.ofCharacters]
  cases splitFirst? '@' characters <;> rfl

theorem Authority.userinfo_ofLocated
    (userinfo : Option (List Char)) (located : List Char) :
    (Authority.ofLocated userinfo located).userinfo = userinfo := by
  rw [Authority.ofLocated]
  split
  · split <;> rfl
  · rfl

theorem Authority.allVisible_of_located
    {userinfo : Option (List Char)} {located : List Char}
    (host : isHost (Authority.ofLocated userinfo located).host) :
    AllVisible located := by
  have colon : IsVisible ':' := by decide
  rw [Authority.ofLocated] at host
  split at host
  · rename_i found port split
    split at host
    · rename_i digits
      rw [eq_of_splitLast? split]
      exact (allVisible_of_isHost host).append (.cons colon
        (AllVisible.of_all (fun c => isVisible_of_isDigit) digits))
    · exact allVisible_of_isHost host
  · exact allVisible_of_isHost host

theorem Authority.allVisible
    {characters : List Char}
    (userinfo : (Authority.ofCharacters characters).userinfo.all isUserinfo)
    (host : isHost (Authority.ofCharacters characters).host) :
    AllVisible characters := by
  have separator : IsVisible '@' := by decide
  rw [Authority.ofCharacters_eq] at userinfo host
  split at host
  · rename_i before after split
    rw [split, Authority.userinfo_ofLocated] at userinfo
    rw [eq_of_splitFirst? split]
    refine .append ?_ (.cons separator (Authority.allVisible_of_located host))
    refine allVisible_of_isEscaped (fun c allowed => ?_) userinfo
    have pathCharacter : isPathCharacter c := by
      simp only [Bool.or_eq_true] at allowed
      simp only [isPathCharacter, Bool.or_eq_true]
      exact Or.inl allowed
    exact isVisible_of_isPathCharacter pathCharacter
  · exact Authority.allVisible_of_located host

structure Parts.AreVisible (parts : Parts) : Prop where
  authority : ∀ characters, parts.authority = some characters →
    AllVisible characters
  path : AllVisible parts.path
  query : ∀ characters, parts.query = some characters →
    AllVisible characters
  fragment : ∀ characters, parts.fragment = some characters →
    AllVisible characters

theorem allVisible_of_isPath
    {characters : List Char} (path : isPath characters) :
    AllVisible characters := by
  refine allVisible_of_isEscaped (fun c allowed => ?_) path
  simp only [Bool.or_eq_true, beq_iff_eq] at allowed
  rcases allowed with pathCharacter | rfl
  · exact isVisible_of_isPathCharacter pathCharacter
  · decide

theorem allVisible_of_isQuery
    {characters : List Char} (query : isQuery characters) :
    AllVisible characters := by
  refine allVisible_of_isEscaped (fun c allowed => ?_) query
  simp only [Bool.or_eq_true, beq_iff_eq] at allowed
  rcases allowed with ((pathCharacter | rfl) | rfl)
  · exact isVisible_of_isPathCharacter pathCharacter
  all_goals decide

theorem Parts.areVisible_of_flaw_none
    {parts : Parts} (flawless : parts.flaw? = none) :
    parts.AreVisible := by
  simp only [Parts.flaw?] at flawless
  split at flawless
  · cases flawless
  split at flawless
  · cases flawless
  split at flawless
  · cases flawless
  split at flawless
  · cases flawless
  split at flawless
  · cases flawless
  rename_i userinfo host path query fragment
  simp only [Bool.not_eq_true', Bool.not_eq_false, Bool.or_eq_true,
    not_or] at userinfo host path query fragment
  refine ⟨?_, allVisible_of_isPath path.1, ?_, ?_⟩
  · intro characters given
    rw [given] at userinfo host
    exact Authority.allVisible userinfo host
  · intro characters given
    rw [given] at query
    exact allVisible_of_isQuery query
  · intro characters given
    rw [given] at fragment
    exact allVisible_of_isQuery fragment

/-- What is left of a reference without scheme, query and fragment, with these
three put back. -/
def Parts.ofPath
    (scheme : Option (List Char)) (hierarchy : List Char)
    (query fragment : Option (List Char)) : Parts :=
  match hierarchy with
  | '/' :: '/' :: rest =>
      { scheme
        authority := some (rest.takeWhile (· != '/'))
        path := rest.dropWhile (· != '/')
        query
        fragment }
  | path => { scheme, authority := none, path, query, fragment }

theorem Parts.ofHierarchy_eq
    (scheme : Option (List Char)) (characters : List Char) :
    Parts.ofHierarchy scheme characters =
      match splitFirst? '#' characters with
      | some (before, fragment) =>
          match splitFirst? '?' before with
          | some (hierarchy, query) =>
              .ofPath scheme hierarchy (some query) (some fragment)
          | none => .ofPath scheme before none (some fragment)
      | none =>
          match splitFirst? '?' characters with
          | some (hierarchy, query) =>
              .ofPath scheme hierarchy (some query) none
          | none => .ofPath scheme characters none none := by
  unfold Parts.ofHierarchy Parts.ofPath
  cases splitFirst? '#' characters with
  | none =>
      dsimp only
      cases splitFirst? '?' characters <;> rfl
  | some parts =>
      dsimp only
      cases splitFirst? '?' parts.1 <;> rfl

theorem Parts.query_ofPath
    (scheme : Option (List Char)) (hierarchy : List Char)
    (query fragment : Option (List Char)) :
    (Parts.ofPath scheme hierarchy query fragment).query = query := by
  unfold Parts.ofPath
  split <;> rfl

theorem Parts.fragment_ofPath
    (scheme : Option (List Char)) (hierarchy : List Char)
    (query fragment : Option (List Char)) :
    (Parts.ofPath scheme hierarchy query fragment).fragment = fragment := by
  unfold Parts.ofPath
  split <;> rfl

theorem Parts.allVisible_of_path
    {scheme query fragment : Option (List Char)} {hierarchy : List Char}
    (visible : (Parts.ofPath scheme hierarchy query fragment).AreVisible) :
    AllVisible hierarchy := by
  have slash : IsVisible '/' := by decide
  unfold Parts.ofPath at visible
  split at visible
  · rename_i rest
    have whole :
        rest.takeWhile (· != '/') ++ rest.dropWhile (· != '/') = rest :=
      List.takeWhile_append_dropWhile
    rw [← whole]
    exact .cons slash (.cons slash
      ((visible.authority _ rfl).append visible.path))
  · exact visible.path

theorem Parts.allVisible_of_hierarchy
    {scheme : Option (List Char)} {characters : List Char}
    (visible : (Parts.ofHierarchy scheme characters).AreVisible) :
    AllVisible characters := by
  have hash : IsVisible '#' := by decide
  have question : IsVisible '?' := by decide
  rw [Parts.ofHierarchy_eq] at visible
  split at visible
  · rename_i before fragment split
    rw [eq_of_splitFirst? split]
    split at visible
    · rename_i hierarchy query splitAgain
      have fragmentVisible :=
        visible.fragment fragment (Parts.fragment_ofPath ..)
      have queryVisible := visible.query query (Parts.query_ofPath ..)
      rw [eq_of_splitFirst? splitAgain]
      exact ((Parts.allVisible_of_path visible).append
        (.cons question queryVisible)).append (.cons hash fragmentVisible)
    · have fragmentVisible :=
        visible.fragment fragment (Parts.fragment_ofPath ..)
      exact (Parts.allVisible_of_path visible).append
        (.cons hash fragmentVisible)
  · split at visible
    · rename_i hierarchy query split
      have queryVisible := visible.query query (Parts.query_ofPath ..)
      rw [eq_of_splitFirst? split]
      exact (Parts.allVisible_of_path visible).append
        (.cons question queryVisible)
    · exact Parts.allVisible_of_path visible

theorem allVisible_of_isScheme
    {characters : List Char} (scheme : isScheme characters) :
    AllVisible characters := by
  cases characters with
  | nil => exact AllVisible.nil
  | cons first rest =>
      simp only [isScheme, Bool.and_eq_true] at scheme
      refine .cons (isVisible_of_isLetter scheme.1)
        (AllVisible.of_all (fun c allowed => ?_) scheme.2)
      simp only [Bool.or_eq_true, beq_iff_eq] at allowed
      rcases allowed with ((((letter | digit) | rfl) | rfl) | rfl)
      · exact isVisible_of_isLetter letter
      · exact isVisible_of_isDigit digit
      all_goals decide

/-- A URI reference is made up of visible characters. -/
theorem allVisible_of_isReference
    {text : String} (reference : IsReference text) :
    AllVisible text.toList := by
  have colon : IsVisible ':' := by decide
  have visible := Parts.areVisible_of_flaw_none reference
  rw [Parts.ofCharacters] at visible
  split at visible
  · rename_i scheme rest split
    split at visible
    · rename_i schemeFormed
      rw [eq_of_splitFirst? split]
      exact (allVisible_of_isScheme schemeFormed).append
        (.cons colon (Parts.allVisible_of_hierarchy visible))
    · exact Parts.allVisible_of_hierarchy visible
  · exact Parts.allVisible_of_hierarchy visible

end Uri

/-! ## Trimming -/

theorem Text.isTrimmed_of_no_blank
    {text : String} (noBlank : ∀ c ∈ text.toList, isBlank c = false) :
    IsTrimmed text := by
  have kept (characters : List Char)
      (none : ∀ c ∈ characters, isBlank c = false) :
      characters.dropWhile isBlank = characters := by
    cases characters with
    | nil => rfl
    | cons first rest =>
        simp [none first List.mem_cons_self]
  have reversed : ∀ c ∈ text.toList.reverse, isBlank c = false :=
    fun c member => noBlank c (List.mem_reverse.mp member)
  rw [IsTrimmed, trim, trimStart, kept _ noBlank, trimEnd,
    kept _ reversed, List.reverse_reverse, String.ofList_toList]

theorem Uri.isBlank_of_isVisible {c : Char} (visible : IsVisible c) :
    Text.isBlank c = false := by
  obtain ⟨lower, upper⟩ := visible
  simp only [Text.isBlank]
  simp
  omega

/-- Trimming leaves a URI reference as it is. -/
theorem Uri.isTrimmed_of_isReference
    {text : String} (reference : IsReference text) :
    Text.IsTrimmed text :=
  Text.isTrimmed_of_no_blank fun c member =>
    Uri.isBlank_of_isVisible (allVisible_of_isReference reference c member)

end WsTrust
