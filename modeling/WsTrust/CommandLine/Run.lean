import WsTrust.CommandLine.Outcome

/-!
# Running the program

The program reads at most two files, the configuration first.  Everything that
it knows of the system it runs on is given, so that it can be run on any.
-/

namespace WsTrust.CommandLine

/-- What the program knows of the system that it runs on. -/
structure Surroundings (m : Type → Type) where
  /-- The home directory of the user. -/
  home : Option String
  /-- The value of a variable of the environment. -/
  valueOf? : String → Option String
  fileExists : String → m Bool
  contentOf : String → m FileContent

namespace Surroundings

variable {m : Type → Type} [Monad m]

def usualPath (home : String) : String :=
  home ++ (if home.endsWith "/" then "" else "/") ++ ".keycloak/wstrust.toml"

def loadFrom (surroundings : Surroundings m) (path : String) :
    m (Except ConfigurationFault Configuration) := do
  return readConfiguration path (← surroundings.contentOf path)

/-- The configuration in the file that is named, or else in the usual one, if
it exists, before variables override settings. -/
def loadUnchanged (surroundings : Surroundings m) (named : Option String) :
    m (Except ConfigurationFault Configuration) := do
  match named, surroundings.home with
  | some path, _ => surroundings.loadFrom path
  | none, none => return .error .noHome
  | none, some home =>
      if ← surroundings.fileExists (usualPath home) then
        surroundings.loadFrom (usualPath home)
      else
        return .ok .standard

def load (surroundings : Surroundings m) (named : Option String) :
    m (Except ConfigurationFault Configuration) := do
  return (← surroundings.loadUnchanged named).map
    (·.overriddenBy surroundings.valueOf?)

def carryOut (surroundings : Surroundings m) (invocation : Invocation) :
    m Outcome := do
  match ← surroundings.load invocation.configFile with
  | .error fault => return .ofConfigurationFault fault
  | .ok configuration =>
      match invocation.command with
      | .parse file format =>
          return .ofParse configuration format (← surroundings.contentOf file)
      | .supports namespaceUri => return .ofSupports namespaceUri

def run (surroundings : Surroundings m) (arguments : List String) :
    m Outcome := do
  match Invocation.read (surroundings.valueOf? "KC_WSTRUST_CONFIG") arguments with
  | .error stop => return .ofStop stop
  | .ok invocation => surroundings.carryOut invocation

end Surroundings

end WsTrust.CommandLine
