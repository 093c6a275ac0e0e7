import WsTrust.ConfigValue

/-!
# Tables

A table grows while a text is read: by headers, which open a table at a path,
and by keys, which define a value at a path inside an open table.  A table
that a path only passes through is implied, and can still be opened once; one
that a dotted key made can only be extended by further dotted keys.  Nothing
can be defined twice.
-/

namespace WsTrust.Toml

/-- How a table came to be. -/
inductive Origin where
  /-- By a header, or as the whole text. -/
  | opened
  /-- By the path of a header that leads through it. -/
  | implied
  /-- By a dotted key that leads through it. -/
  | dotted
  deriving DecidableEq, Repr, Inhabited

inductive Entry where
  /-- A value that cannot be extended. -/
  | closed (value : ConfigValue)
  | table (origin : Origin) (entries : List (String × Entry))
  /-- Tables opened under the same path, the last one first. -/
  | tables (newest : List (String × Entry))
      (earlier : List (List (String × Entry)))
  deriving Repr, Inhabited

structure Table where
  origin : Origin
  entries : List (String × Entry)
  deriving Repr, Inhabited

/-! ## Values -/

mutual

def Entry.toValue : Entry → ConfigValue
  | .closed value => value
  | .table _ entries => .table (fieldsOf entries)
  | .tables newest earlier =>
      .list ((tablesOf earlier).reverse ++ [.table (fieldsOf newest)])

def fieldsOf : List (String × Entry) → List (String × ConfigValue)
  | [] => []
  | (key, entry) :: rest => (key, entry.toValue) :: fieldsOf rest

def tablesOf : List (List (String × Entry)) → List ConfigValue
  | [] => []
  | entries :: rest => .table (fieldsOf entries) :: tablesOf rest

end

namespace Table

/-- The table without entries that is being opened. -/
def empty : Table :=
  ⟨.opened, []⟩

def toValue (table : Table) : ConfigValue :=
  .table (fieldsOf table.entries)

def entry? (table : Table) (key : String) : Option Entry :=
  table.entries.lookup key

def put (table : Table) (key : String) (entry : Entry) : Table :=
  { table with
    entries :=
      table.entries.filter (fun other => other.1 != key) ++ [(key, entry)] }

/-- Changes the table at a path, where tables that are missing are made as
`missing` says.  A dotted key may not lead through a table that was opened; a
path through tables of one name leads through the last of them. -/
def change? (missing : Origin) (path : List String)
    (change : Table → Option Table) (table : Table) : Option Table :=
  match path with
  | [] => change table
  | key :: rest =>
      match table.entry? key with
      | none => do
          let inner ← change? missing rest change ⟨missing, []⟩
          return table.put key (.table inner.origin inner.entries)
      | some (.closed _) => none
      | some (.table origin entries) =>
          if missing = .dotted ∧ origin = .opened then
            none
          else do
            let inner ← change? missing rest change ⟨origin, entries⟩
            return table.put key (.table inner.origin inner.entries)
      | some (.tables newest earlier) => do
          let inner ← change? missing rest change ⟨.opened, newest⟩
          return table.put key (.tables inner.entries earlier)

/-- Defines a value at a path of keys.  The table that it is defined in has to
be made by dotted keys, or to be the one that the path begins in. -/
def define? (path : List String) (key : String) (value : ConfigValue)
    (table : Table) : Option Table :=
  table.change? .dotted path fun inner =>
    if inner.origin = .dotted ↔ path = [] then
      none
    else if (inner.entry? key).isSome then
      none
    else
      some (inner.put key (.closed value))

/-- Opens the table at a path, which has not been opened before. -/
def openTable? (path : List String) (key : String) (table : Table) :
    Option Table :=
  table.change? .implied path fun outer =>
    match outer.entry? key with
    | none => some (outer.put key (.table .opened []))
    | some (.table .implied entries) =>
        some (outer.put key (.table .opened entries))
    | some _ => none

/-- Opens one more table at a path where there are only tables of this kind. -/
def openMember? (path : List String) (key : String) (table : Table) :
    Option Table :=
  table.change? .implied path fun outer =>
    match outer.entry? key with
    | none => some (outer.put key (.tables [] []))
    | some (.tables newest earlier) =>
        some (outer.put key (.tables [] (newest :: earlier)))
    | some _ => none

end Table

end WsTrust.Toml
