import WsTrust.Body
import WsTrust.Proofs.Repetition

/-!
# Bodies as folds

A body is read child by child.  Where the reader of every child consumes exactly
the tokens of that child, the record is the fold of what the children say, in
document order, and the reading ends behind the end tag of the body.
-/

namespace WsTrust.BodyGrammar

open Cursor

variable {Record Child : Type}

/-! ## Parts of a body -/

/-- Tokens that begin with a start tag and that the reader chosen for this tag
consumes exactly, always with the same meaning. -/
structure Block
    (grammar : BodyGrammar Record Child)
    (registry : Registry) (maxDepth : Nat) where
  opening : StartTag
  content : List Token
  child : Option Child
  reads :
    Reads (grammar.readChild registry maxDepth opening.name)
      (.startTag opening :: content) child

def Block.tokens
    {grammar : BodyGrammar Record Child}
    {registry : Registry} {maxDepth : Nat}
    (block : Block grammar registry maxDepth) : List Token :=
  .startTag block.opening :: block.content

inductive BodyPart
    (grammar : BodyGrammar Record Child)
    (registry : Registry) (maxDepth : Nat) where
  | text (content : String)
  | block (given : Block grammar registry maxDepth)

variable {grammar : BodyGrammar Record Child}
  {registry : Registry} {maxDepth : Nat}

namespace BodyPart

def tokens : BodyPart grammar registry maxDepth → List Token
  | .text content => [.text content]
  | .block given => given.tokens

def block? :
    BodyPart grammar registry maxDepth →
      Option (Block grammar registry maxDepth)
  | .text _ => none
  | .block given => some given

end BodyPart

def blocksOf (parts : List (BodyPart grammar registry maxDepth)) :
    List (Block grammar registry maxDepth) :=
  parts.filterMap BodyPart.block?

def addAll
    (grammar : BodyGrammar Record Child)
    (record : Record) (children : List (Option Child)) : Record :=
  children.foldl grammar.addOptional record

@[simp]
theorem addAll_nil (record : Record) :
    grammar.addAll record [] = record := rfl

@[simp]
theorem addAll_cons
    (record : Record) (child : Option Child)
    (children : List (Option Child)) :
    grammar.addAll record (child :: children) =
      grammar.addAll (grammar.addOptional record child) children := rfl

/-- What no child changes stays as it was. -/
theorem addAll_keeps
    (grammar : BodyGrammar Record Child) {Part : Type} (part : Record → Part)
    (kept : ∀ record child, part (grammar.add record child) = part record)
    (record : Record) (children : List (Option Child)) :
    part (grammar.addAll record children) = part record := by
  induction children generalizing record with
  | nil => rfl
  | cons head tail inductionHypothesis =>
      rw [addAll_cons, inductionHypothesis]
      cases head with
      | none => rfl
      | some child => exact kept record child

/-! ## One child -/

theorem readChild_reads_of_lookup
    {element : Element} {localPart : String}
    {reader : Nat → Cursor Child} {child : Child}
    (named : element.localName = localPart)
    (found : grammar.children.lookup localPart = some reader)
    (read : Reads (reader maxDepth) element.tokens child) :
    Reads (grammar.readChild registry maxDepth element.name) element.tokens
      (some child) := by
  rw [readChild, show element.name.localPart = localPart from named, found]
  exact read.map some

/-! ## One turn -/

def turn
    (grammar : BodyGrammar Record Child)
    (registry : Registry) (maxDepth : Nat)
    (record : Record) : Cursor (Turn Record Record) := do
  match ← peekBoundary with
  | some (.opening tag) =>
      let child ← grammar.readChild registry maxDepth tag.name
      return .again (grammar.addOptional record child)
  | some (.closing name) =>
      if name.localPart = grammar.elementName then
        let _ ← next
        return .done record
      else
        refuse (.unexpectedClose name.localPart)
  | none => return .done record

theorem readRest_eq_repeating :
    grammar.readRest registry maxDepth =
      repeating (grammar.turn registry maxDepth) := rfl

theorem turn_ignores (content : String) :
    Ignores (grammar.turn registry maxDepth) [.text content] :=
  fun _ left => (peekBoundary_of_text left content).bind _

/-- A turn before a start tag reads the child that the tag begins. -/
theorem turn_becomes
    (record : Record) (tag : StartTag) (tokens : List Token) :
    Becomes (grammar.turn registry maxDepth record)
      (.startTag tag :: tokens)
      (grammar.readChild registry maxDepth tag.name >>= fun child =>
        pure (.again (grammar.addOptional record child)))
      (.startTag tag :: tokens) :=
  peekBoundary_of_startTag tokens _ tag

theorem turn_reads
    {tag : StartTag} {tokens : List Token} {child : Option Child}
    (read :
      Reads (grammar.readChild registry maxDepth tag.name)
        (.startTag tag :: tokens) child)
    (record : Record) :
    Reads (grammar.turn registry maxDepth record) (.startTag tag :: tokens)
      (.again (grammar.addOptional record child)) :=
  (turn_becomes record tag tokens).reads <|
    read.bind_last (Reads.pure _)

theorem turn_closes
    {name : QName} (named : name.localPart = grammar.elementName)
    (record : Record) :
    Reads (grammar.turn registry maxDepth record) [.endTag name]
      (.done record) := by
  refine (peekBoundary_of_endTag [] _ name).reads ?_
  simp only [if_pos named]
  exact (next_reads (.endTag name)).bind_last (Reads.pure _)

/-! ## The fold -/

theorem takes_part (part : BodyPart grammar registry maxDepth) :
    Takes BodyPart.tokens (grammar.turn registry maxDepth)
      (fun record part =>
        grammar.addOptional record (part.block?.bind Block.child))
      part := by
  cases part with
  | text content => exact Or.inl ⟨turn_ignores content, fun _ => rfl⟩
  | block given =>
      exact Or.inr ⟨List.cons_ne_nil _ _, turn_reads given.reads⟩

theorem foldl_parts
    (parts : List (BodyPart grammar registry maxDepth)) (record : Record) :
    parts.foldl
        (fun record part =>
          grammar.addOptional record (part.block?.bind Block.child))
        record =
      grammar.addAll record ((blocksOf parts).map Block.child) := by
  induction parts generalizing record with
  | nil => rfl
  | cons head tail inductionHypothesis =>
      rw [List.foldl_cons, inductionHypothesis]
      cases head with
      | text content => rfl
      | block given => rfl

/-- What is left of a body after its start tag is read as the fold of its
blocks. -/
theorem readRest_reads
    (parts : List (BodyPart grammar registry maxDepth)) (record : Record)
    {name : QName} (named : name.localPart = grammar.elementName) :
    Reads (grammar.readRest registry maxDepth record)
      (parts.flatMap BodyPart.tokens ++ [.endTag name])
      (grammar.addAll record ((blocksOf parts).map Block.child)) := by
  rw [readRest_eq_repeating, ← foldl_parts]
  exact repeating_reads_parts
    (fun part _ => takes_part part) (turn_closes named _)

/-- A body is read as the fold of its blocks over the record that says only the
context. -/
theorem read_reads
    (root : StartTag) (parts : List (BodyPart grammar registry maxDepth))
    {name : QName} (named : name.localPart = grammar.elementName) :
    Reads (grammar.read registry maxDepth)
      (.startTag root :: (parts.flatMap BodyPart.tokens ++ [.endTag name]))
      (grammar.addAll (grammar.ofContext (contextOf root))
        ((blocksOf parts).map Block.child)) :=
  (nextStartTag_reads grammar.elementName root).bind
    (readRest_reads parts _ named)

end WsTrust.BodyGrammar
