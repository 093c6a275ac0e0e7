import WsTrust.Toml.Moment
import WsTrust.Toml.Numeral
import WsTrust.Toml.Quoted
import WsTrust.Toml.Table

/-!
# Keys and values

A key is a path of names, bare or quoted.  A value is a scalar, a list, which
may extend over several lines, or a table within one line.  Neither keys nor
values may be nested without bound.
-/

namespace WsTrust.Toml

open Scan

/-- Paths have fewer names than this, and values are nested less deeply. -/
def nestingBound : Nat := 80

/-! ## Keys -/

def isBare (c : Char) : Bool :=
  c.isAlphanum || c == '-' || c == '_'

def bareName : Scan String := do
  let first ← satisfying isBare
  let others ← Scan.takeWhile isBare
  return String.ofList (first :: others)

def name : Scan String := do
  blanks
  let found ← lineQuoted <|> bareName
  blanks
  return found

/-- Reads a path of names: those before the last one, and the last one. -/
def keyPath : Scan (List String × String) := do
  let names ← separated '.' name
  if names.length < nestingBound then
    return (names.dropLast, names.getLastD "")
  else
    failure

/-! ## Values -/

def truth : Scan ConfigValue :=
  (do acceptAll "true".toList; return .boolean true) <|>
    (do acceptAll "false".toList; return .boolean false)

def scalar : Scan ConfigValue :=
  ConfigValue.text <$> quoted <|> truth <|> moment <|> float <|>
    specialFloat <|> integer

def listOf (value : Scan ConfigValue) : Scan ConfigValue := do
  accept '['
  let items ←
    attempt (separated ',' (do gap; let item ← value; gap; return item))
  if items.isSome then
    let _ ← attempt (accept ',')
  gap
  accept ']'
  return .list (items.getD [])

def pairOf (value : Scan ConfigValue) :
    Scan ((List String × String) × ConfigValue) := do
  let path ← keyPath
  accept '='
  blanks
  return (path, ← value)

def tableOf (value : Scan ConfigValue) : Scan ConfigValue := do
  accept '\x7b'
  let pairs ←
    attempt (separated ',' (do let pair ← pairOf value; blanks; return pair))
  blanks
  accept '\x7d'
  let table ← StateT.lift
    ((pairs.getD []).foldlM
      (fun (table : Table) ((path, key), value) =>
        table.define? path key value)
      Table.empty)
  return table.toValue

/-- Reads a value that is nested less deeply than `bound`. -/
def valueWithin : (bound : Nat) → Scan ConfigValue
  | 0 => failure
  | 1 => scalar
  | bound + 1 =>
      scalar <|> listOf (valueWithin bound) <|> tableOf (valueWithin bound)

def value : Scan ConfigValue :=
  valueWithin nestingBound

end WsTrust.Toml
