/-!
# Bytes of a text

The UTF-8 form of a text as a list of bytes.  Every text is read back from its
bytes, while not all bytes are those of a text.
-/

namespace WsTrust.Text

def bytesOf (text : String) : List UInt8 :=
  text.toByteArray.data.toList

/-- The text that bytes are the form of, if they are. -/
def ofBytes? (bytes : List UInt8) : Option String :=
  String.fromUTF8? ⟨bytes.toArray⟩

/-- A text is read back from its bytes. -/
theorem ofBytes?_bytesOf (text : String) :
    ofBytes? (bytesOf text) = some text := by
  have bytes : (⟨(bytesOf text).toArray⟩ : ByteArray) = text.toByteArray := by
    simp [bytesOf]
  rw [ofBytes?, bytes, String.fromUTF8?, dif_pos text.isValidUTF8]
  rfl

end WsTrust.Text
