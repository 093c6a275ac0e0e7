import WsTrust.Text.Ascii

/-!
# JSON values

The values that messages are rendered as, and their text over several lines.
The fields of an object keep the order in which they are given.
-/

namespace WsTrust

/-- A JSON value without numbers other than natural ones. -/
inductive Json where
  | boolean (value : Bool)
  | number (value : Nat)
  | string (value : String)
  | array (items : List Json)
  | object (fields : List (String × Json))
  deriving Repr, Inhabited

namespace Json

def optional (name : String) (value : Option Json) : List (String × Json) :=
  match value with
  | some value => [(name, value)]
  | none => []

/-! ## Text -/

/-- A character inside a quoted string.  Quotation marks, backslashes and
control characters are escaped, the usual ones by a letter. -/
def quotedChar (c : Char) : List Char :=
  if c = '\x22' then ['\\', '\x22']
  else if c = '\\' then ['\\', '\\']
  else if c = '\n' then ['\\', 'n']
  else if c = '\r' then ['\\', 'r']
  else if c = '\t' then ['\\', 't']
  else if c = '\x08' then ['\\', 'b']
  else if c = '\x0c' then ['\\', 'f']
  else if c.toNat < 0x20 then
    ['\\', 'u', '0', '0', Text.hexDigit (c.toNat / 16),
      Text.hexDigit (c.toNat % 16)]
  else
    [c]

def quoted (text : String) : String :=
  String.ofList (['\x22'] ++ text.toList.flatMap quotedChar ++ ['\x22'])

def newLine (level : Nat) : String :=
  "\n" ++ String.ofList (List.replicate (2 * level) ' ')

mutual

/-- The text of a value that stands at a level of nesting.  Each item and each
field has a line of its own, except that nothing stands between the brackets
of an empty value. -/
def pretty (level : Nat) : Json → String
  | .boolean value => if value then "true" else "false"
  | .number value => toString value
  | .string value => quoted value
  | .array [] => "[]"
  | .array (first :: rest) =>
      "[" ++ newLine (level + 1) ++ pretty (level + 1) first ++
        prettyItems (level + 1) rest ++ newLine level ++ "]"
  | .object [] => "\x7b\x7d"
  | .object ((name, value) :: rest) =>
      "\x7b" ++ newLine (level + 1) ++ quoted name ++ ": " ++
        pretty (level + 1) value ++ prettyFields (level + 1) rest ++
        newLine level ++ "\x7d"

def prettyItems (level : Nat) : List Json → String
  | [] => ""
  | item :: rest =>
      "," ++ newLine level ++ pretty level item ++ prettyItems level rest

def prettyFields (level : Nat) : List (String × Json) → String
  | [] => ""
  | (name, value) :: rest =>
      "," ++ newLine level ++ quoted name ++ ": " ++ pretty level value ++
        prettyFields level rest

end

def toText (value : Json) : String :=
  value.pretty 0

end Json

end WsTrust
