import WsTrust.Xml.Document

/-!
# Token streams

A stream delivers tokens, one after another, from a prepared list or from an
XML document.  How the characters of a document are reported is decided only
when they are reached: trimmed, if the stream trims and is not told to report
text verbatim.
-/

namespace WsTrust

/-- Items still to be read, with the way characters are reported. -/
structure TokenStream where
  items : List Item
  trimText : Bool := false
  verbatim : Bool := false
  deriving DecidableEq, Repr

namespace TokenStream

/-- A stream over prepared tokens, which are delivered as they stand. -/
def ofTokens (tokens : List Token) : TokenStream :=
  { items := tokens.map Item.token }

def ofXml (trimText : Bool) (text : String) : TokenStream :=
  { items := Xml.documentItems text, trimText }

/-- The number of items still to be read. -/
def size (stream : TokenStream) : Nat :=
  stream.items.length

/-- Whether characters are trimmed at present. -/
def trimming (stream : TokenStream) : Bool :=
  stream.trimText && !stream.verbatim

/-- The tokens that items deliver up to the first fault. -/
def deliver (trimming : Bool) :
    List Item → Interrupted Token Xml.DocumentFault
  | [] => .done
  | item :: rest =>
      match item.read? trimming with
      | none => deliver trimming rest
      | some (.ok token) => (deliver trimming rest).cons token
      | some (.error fault) => .failed fault

/-- The tokens that the stream delivers up to the first fault, if the way
characters are reported does not change. -/
def tokens (stream : TokenStream) : Interrupted Token Xml.DocumentFault :=
  deliver stream.trimming stream.items

/-- A stream over prepared tokens delivers exactly these. -/
@[simp]
theorem tokens_ofTokens (prepared : List Token) :
    (ofTokens prepared).tokens = ⟨prepared, none⟩ := by
  induction prepared with
  | nil => rfl
  | cons token rest inductionHypothesis =>
      simp_all [tokens, ofTokens, deliver, Item.read?, trimming,
        Interrupted.cons]

@[simp]
theorem size_ofTokens (prepared : List Token) :
    (ofTokens prepared).size = prepared.length := by
  simp [size, ofTokens]

end TokenStream

end WsTrust
