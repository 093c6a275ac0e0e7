import WsTrust.ConfigValue
import WsTrust.Text.Numeral

/-!
# Reader settings

Whether text between elements is trimmed, and how deeply a fragment may be
nested.  A configuration may give either of the two.  Settings can be overridden
by variables of the environment; a variable that is unset or has no meaning
changes nothing.
-/

namespace WsTrust

structure Settings where
  /-- Whether text is trimmed outside fragments. -/
  trimText : Bool
  /-- The number of levels a fragment may have. -/
  maxDepth : Nat
  deriving DecidableEq, Repr

namespace Settings

def standard : Settings :=
  { trimText := true, maxDepth := 256 }

/-! ## Configured settings -/

/-- The settings that a table gives by name, or a list in order.  Names that are
no settings are ignored, and a date gives none.  A list that is too long is
accepted only where `allowsMore` says so. -/
def ofValue? (allowsMore : Bool) : ConfigValue → Option Settings
  | .table fields => do
      return {
        trimText :=
          ← ConfigValue.field? fields "trim_text" standard.trimText
            ConfigValue.boolean?
        maxDepth :=
          ← ConfigValue.field? fields "max_depth" standard.maxDepth
            ConfigValue.word? }
  | .list items =>
      if 2 < items.length ∧ !allowsMore then
        none
      else do
        return {
          trimText :=
            ← ConfigValue.item? items 0 standard.trimText
              ConfigValue.boolean?
          maxDepth :=
            ← ConfigValue.item? items 1 standard.maxDepth
              ConfigValue.word? }
  | .moment => some standard
  | _ => none

/-! ## Overridden settings -/

/-- The value of a text that is exactly `true` or `false`. -/
def readBool? (text : String) : Option Bool :=
  if text = "true" then some true
  else if text = "false" then some false
  else none

/-- The value of a text that is a positive number of at most 64 bits. -/
def readDepth? (text : String) : Option Nat :=
  match Text.readNatural Text.wordBound text.toList with
  | .ok depth => if depth = 0 then none else some depth
  | .error _ => none

def overriddenBy (settings : Settings) (valueOf? : String → Option String) :
    Settings :=
  { trimText :=
      ((valueOf? "KC_WSTRUST_TRIM_TEXT").bind readBool?).getD
        settings.trimText
    maxDepth :=
      ((valueOf? "KC_WSTRUST_MAX_DEPTH").bind readDepth?).getD
        settings.maxDepth }

end Settings

end WsTrust
