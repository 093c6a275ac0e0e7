import WsTrust.Failure

/-!
# Faults of a command

Why a command that was understood is not carried out.
-/

namespace WsTrust.CommandLine

inductive FileFault where
  /-- The system refuses the file, for the reason that it gives with a code. -/
  | refused (reason : String) (code : Nat)
  /-- The bytes are not the UTF-8 form of a text. -/
  | notText
  deriving DecidableEq, Repr

namespace FileFault

def notFound : FileFault :=
  .refused "No such file or directory" 2

def isDirectory : FileFault :=
  .refused "Is a directory" 21

def message : FileFault → String
  | .refused reason code => reason ++ " (os error " ++ toString code ++ ")"
  | .notText => "stream did not contain valid UTF-8"

end FileFault

inductive ConfigurationFault where
  /-- Nothing says where the usual configuration file would be. -/
  | noHome
  | unreadable (path : String) (fault : FileFault)
  /-- The content is malformed, or a setting has the wrong kind of value. -/
  | unparsed
  deriving DecidableEq, Repr

def ConfigurationFault.message : ConfigurationFault → String
  | .noHome => "could not determine home directory"
  | .unreadable path fault => "failed to read " ++ path ++ ": " ++ fault.message
  | .unparsed => "failed to parse config: not a table of known settings"

inductive CommandFault where
  | configuration (cause : ConfigurationFault)
  | file (cause : FileFault)
  | reading (cause : Failure)
  deriving DecidableEq, Repr

def CommandFault.message : CommandFault → String
  | .configuration cause => "configuration error: " ++ cause.message
  | .file cause => "IO error: " ++ cause.message
  | .reading cause => cause.family ++ ": " ++ cause.message

end WsTrust.CommandLine
