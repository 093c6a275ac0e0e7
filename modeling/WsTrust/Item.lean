import WsTrust.Text.Blank
import WsTrust.Token
import WsTrust.Xml.Fault

/-!
# Items of a stream

An item is what a stream holds before it is decided how text is reported: a
token that is delivered as it stands, characters that are trimmed and dropped as
the reader asks, or a fault in the place where it is met.
-/

namespace WsTrust

/-- A token, characters that are still subject to trimming, or a fault. -/
inductive Item where
  | token (delivered : Token)
  | characters (content : String)
  | fault (cause : Xml.DocumentFault)
  deriving DecidableEq, Repr

namespace Item

/-- What an item is reported as.  Characters are reported as a text, trimmed if
asked for, unless nothing is left of them. -/
def read? (trimming : Bool) : Item → Option (Except Xml.DocumentFault Token)
  | .token delivered => some (.ok delivered)
  | .characters content =>
      let reported := if trimming then Text.trim content else content
      if reported.isEmpty then none else some (.ok (.text reported))
  | .fault cause => some (.error cause)

end Item

end WsTrust
