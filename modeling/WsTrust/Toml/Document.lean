import WsTrust.Text.ByteOrderMark
import WsTrust.Toml.Value

/-!
# Configuration texts

A text is a sequence of lines: keys with values, and headers that open the
table to which the keys after them belong.
-/

namespace WsTrust.Toml

open Scan

inductive Statement where
  /-- A key with its value. -/
  | pair (path : List String) (key : String) (value : ConfigValue)
  /-- The header of a table. -/
  | header (path : List String) (key : String)
  /-- The header of one of several tables. -/
  | memberHeader (path : List String) (key : String)
  /-- Nothing but a comment. -/
  | blank
  deriving Repr

/-- Reads one line, from its first character that is not blank. -/
def statement : Scan Statement := do
  blanks
  let read ←
    (do
      acceptAll ['[', '[']
      let (path, key) ← keyPath
      acceptAll [']', ']']
      return Statement.memberHeader path key) <|>
    (do
      accept '['
      let (path, key) ← keyPath
      accept ']'
      return Statement.header path key) <|>
    (do
      let ((path, key), value) ← pairOf value
      return Statement.pair path key value) <|>
    return Statement.blank
  lineEnd
  return read

/-- The tables of a text, with the path of the one that is open. -/
structure Draft where
  whole : Table
  place : List String

namespace Draft

def start : Draft :=
  ⟨.empty, []⟩

/-- The draft after one more line. -/
def add? (draft : Draft) : Statement → Option Draft
  | .pair path key value => do
      let whole ←
        draft.whole.change? .implied draft.place (·.define? path key value)
      return { draft with whole }
  | .header path key => do
      return ⟨← draft.whole.openTable? path key, path ++ [key]⟩
  | .memberHeader path key => do
      return ⟨← draft.whole.openMember? path key, path ++ [key]⟩
  | .blank => some draft

end Draft

def statements : Scan (List Statement) := do
  let read ← repeated statement
  atEnd
  return read

/-- The table that a text writes, if it is well-formed. -/
def read? (text : String) : Option ConfigValue := do
  let (lines, _) ← statements (Text.dropByteOrderMark text.toList)
  let draft ← lines.foldlM Draft.add? Draft.start
  return draft.whole.toValue

end WsTrust.Toml
