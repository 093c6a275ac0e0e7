import WsTrust.Text.Numeral

/-!
# Configuration values

What a configuration file says before its parts are taken for settings,
whichever format it is written in.
-/

namespace WsTrust

inductive ConfigValue where
  | boolean (value : Bool)
  | integer (value : Int)
  | text (value : String)
  | list (items : List ConfigValue)
  | table (fields : List (String × ConfigValue))
  /-- A date or a time. -/
  | moment
  /-- Any other value, of which no setting is made. -/
  | other
  deriving Repr, Inhabited

namespace ConfigValue

def boolean? : ConfigValue → Option Bool
  | .boolean value => some value
  | _ => none

/-- The number of at most 64 bits that a value is. -/
def word? : ConfigValue → Option Nat
  | .integer value =>
      if 0 ≤ value ∧ value < Text.wordBound then some value.toNat else none
  | _ => none

/-- Whether a value is a list or a table without content. -/
def isEmptyCollection : ConfigValue → Bool
  | .list items => items.isEmpty
  | .table fields => fields.isEmpty
  | _ => false

/-- What `read?` makes of the value under a name, or `default` if there is
none. -/
def field? {Setting : Type}
    (fields : List (String × ConfigValue))
    (name : String)
    (default : Setting)
    (read? : ConfigValue → Option Setting) : Option Setting :=
  match fields.lookup name with
  | some value => read? value
  | none => some default

/-- What `read?` makes of the item at a place, or `default` if the list is
shorter. -/
def item? {Setting : Type}
    (items : List ConfigValue)
    (place : Nat)
    (default : Setting)
    (read? : ConfigValue → Option Setting) : Option Setting :=
  match items[place]? with
  | some value => read? value
  | none => some default

end ConfigValue

end WsTrust
