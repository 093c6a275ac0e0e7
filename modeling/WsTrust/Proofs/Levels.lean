import Mathlib.Algebra.Ring.Int.Defs
import WsTrust.Proofs.Content

/-!
# How deeply tokens are nested

Each start tag leads one level down and each end tag one level up.  A node leads
back to its own level and stays within as many levels as it is high.
-/

namespace WsTrust

namespace Token

/-- How many levels further down the tokens behind this one stand. -/
def descent : Token → Int
  | .startTag _ => 1
  | .endTag _ => -1
  | .text _ => 0

def level (tokens : List Token) : Int :=
  (tokens.map descent).sum

@[simp]
theorem level_nil : level [] = 0 := rfl

@[simp]
theorem level_cons (token : Token) (rest : List Token) :
    level (token :: rest) = token.descent + level rest := by
  simp [level]

@[simp]
theorem level_append (left right : List Token) :
    level (left ++ right) = level left + level right := by
  simp [level]

/-! ## Staying within a limit -/

/-- No start tag among the tokens opens an element below the limit. -/
def StaysWithin (limit : Int) (tokens : List Token) : Prop :=
  ∀ (earlier : List Token) (tag : StartTag) (later : List Token),
    tokens = earlier ++ .startTag tag :: later → level earlier + 1 ≤ limit

namespace StaysWithin

variable {limit : Int} {token : Token} {rest left right : List Token}

theorem nil : StaysWithin limit [] := by
  intro earlier tag later split
  have sizes := congrArg List.length split
  simp at sizes

theorem cons
    (first : ∀ tag, token = .startTag tag → 1 ≤ limit)
    (others : StaysWithin (limit - token.descent) rest) :
    StaysWithin limit (token :: rest) := by
  intro earlier tag later split
  cases earlier with
  | nil =>
      have opened := first tag (List.cons.inj split).1
      rw [level_nil]
      omega
  | cons head tail =>
      obtain ⟨rfl, restSplit⟩ := List.cons.inj split
      have within := others tail tag later restSplit
      rw [level_cons]
      omega

theorem tail (all : StaysWithin limit (token :: rest)) :
    StaysWithin (limit - token.descent) rest := by
  intro earlier tag later split
  have within := all (token :: earlier) tag later (by rw [split]; rfl)
  rw [level_cons] at within
  omega

theorem append
    (first : StaysWithin limit left)
    (second : StaysWithin (limit - level left) right) :
    StaysWithin limit (left ++ right) := by
  induction left generalizing limit with
  | nil =>
      rw [level_nil, Int.sub_zero] at second
      exact second
  | cons head tail inductionHypothesis =>
      have opened : ∀ tag, head = .startTag tag → 1 ≤ limit := by
        intro tag isTag
        have within := first [] tag tail (by rw [isTag]; rfl)
        rwa [level_nil] at within
      have same : limit - head.descent - level tail =
          limit - level (head :: tail) := by
        rw [level_cons]
        omega
      rw [← same] at second
      exact cons opened (inductionHypothesis first.tail second)

theorem startTag {tag : StartTag} (room : 1 ≤ limit) :
    StaysWithin limit [.startTag tag] :=
  cons (fun _ _ => room) nil

theorem endTag (name : QName) : StaysWithin limit [.endTag name] :=
  cons nofun nil

end StaysWithin

/-- The first start tag among the tokens that opens an element below the limit,
with the tokens before it and those that are left behind it. -/
structure FirstBelow
    (limit : Int) (tokens passed : List Token) (tag : StartTag)
    (left : List Token) : Prop where
  split : tokens = passed ++ .startTag tag :: left
  within : StaysWithin limit passed
  below : limit < level passed + 1

namespace FirstBelow

variable {limit : Int} {tokens passed left : List Token} {tag : StartTag}

theorem here (full : limit < 1) (left : List Token) :
    FirstBelow limit (.startTag tag :: left) [] tag left where
  split := rfl
  within := StaysWithin.nil
  below := full

theorem append
    (found : FirstBelow limit tokens passed tag left) (more : List Token) :
    FirstBelow limit (tokens ++ more) passed tag (left ++ more) where
  split := by
    rw [found.split, List.append_assoc]
    rfl
  within := found.within
  below := found.below

/-- Tokens that stay within the limit may stand in front. -/
theorem behind
    {before : List Token} (within : StaysWithin limit before)
    (found : FirstBelow (limit - level before) tokens passed tag left) :
    FirstBelow limit (before ++ tokens) (before ++ passed) tag left where
  split := by rw [found.split, List.append_assoc]
  within := within.append found.within
  below := by
    have below := found.below
    rw [level_append]
    omega

/-- A start tag that leads down to the limit or above it may stand in front. -/
theorem behind_startTag
    (outer : StartTag) (room : 1 ≤ limit)
    (found : FirstBelow (limit - 1) tokens passed tag left) :
    FirstBelow limit (.startTag outer :: tokens) (.startTag outer :: passed)
      tag left :=
  behind (StaysWithin.startTag room) found

end FirstBelow

end Token

/-! ## The levels of nodes -/

namespace Node

open Token

mutual

theorem level_tokens (node : Node) : level node.tokens = 0 := by
  cases node with
  | text content => rfl
  | element name attributes children =>
      have content := level_tokensOfAll children
      simp [tokens, descent, content]

theorem level_tokensOfAll (nodes : List Node) :
    level (tokensOfAll nodes) = 0 := by
  cases nodes with
  | nil => rfl
  | cons node rest =>
      have first := level_tokens node
      have others := level_tokensOfAll rest
      simp [tokensOfAll, first, others]

end

mutual

theorem staysWithin_tokens
    (node : Node) {limit : Int}
    (fits : node.height = 0 ∨ node.height ≤ limit) :
    StaysWithin limit node.tokens := by
  cases node with
  | text content => exact StaysWithin.cons nofun StaysWithin.nil
  | element name attributes children =>
      rw [height] at fits
      have content : StaysWithin (limit - 1) (tokensOfAll children) :=
        staysWithin_tokensOfAll children (by omega)
      apply StaysWithin.cons
      · intro tag _
        omega
      · exact content.append (StaysWithin.endTag name)

theorem staysWithin_tokensOfAll
    (nodes : List Node) {limit : Int}
    (fits : heightOfAll nodes = 0 ∨ heightOfAll nodes ≤ limit) :
    StaysWithin limit (tokensOfAll nodes) := by
  cases nodes with
  | nil => exact StaysWithin.nil
  | cons node rest =>
      rw [heightOfAll] at fits
      have first : StaysWithin limit node.tokens :=
        staysWithin_tokens node (by omega)
      have others : StaysWithin limit (tokensOfAll rest) :=
        staysWithin_tokensOfAll rest (by omega)
      apply first.append
      rw [level_tokens, Int.sub_zero]
      exact others

end

end Node

end WsTrust
