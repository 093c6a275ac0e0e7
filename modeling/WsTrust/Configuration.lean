import WsTrust.Settings
import WsTrust.Toml.Document

/-!
# Configurations

The configuration of the command line says how messages are read and how they
are shown.  Whatever it leaves out has a standard value, and names that it does
not know are ignored.
-/

namespace WsTrust

inductive OutputFormat where
  /-- One line for each record. -/
  | summary
  /-- The whole message as JSON. -/
  | json
  deriving DecidableEq, Repr

namespace OutputFormat

def ofName? (name : String) : Option OutputFormat :=
  if name = "summary" then some .summary
  else if name = "json" then some .json
  else none

/-- The format that a value names: by a text, or by the only key of a table
that has nothing under it. -/
def ofValue? : ConfigValue → Option OutputFormat
  | .text name => ofName? name
  | .table [(name, content)] =>
      if content.isEmptyCollection then ofName? name else none
  | _ => none

end OutputFormat

structure Configuration where
  settings : Settings
  outputFormat : OutputFormat
  deriving DecidableEq, Repr

namespace Configuration

def standard : Configuration :=
  { settings := .standard, outputFormat := .summary }

def ofValue? : ConfigValue → Option Configuration
  | .table fields => do
      return {
        settings :=
          ← ConfigValue.field? fields "parser" standard.settings
            (Settings.ofValue? true)
        outputFormat :=
          ← ConfigValue.field? fields "output_format" standard.outputFormat
            OutputFormat.ofValue? }
  | _ => none

def read? (text : String) : Option Configuration := do
  ofValue? (← Toml.read? text)

def overriddenBy (configuration : Configuration)
    (valueOf? : String → Option String) : Configuration :=
  { configuration with
    settings := configuration.settings.overriddenBy valueOf? }

end Configuration

end WsTrust
