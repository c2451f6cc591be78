/-!
Text as bytes in UTF-8, and back. Reading fails on bytes that encode no text.
-/

set_option autoImplicit false

namespace DoubleEntry.Text

abbrev Bytes := List UInt8

def encode (text : String) : Bytes := text.toUTF8.data.toList

def decode? (bytes : Bytes) : Option String := String.fromUTF8? ⟨bytes.toArray⟩

theorem decode_encode (text : String) : decode? (encode text) = some text := by
  have same : (⟨text.toUTF8.data.toList.toArray⟩ : ByteArray) = text.toUTF8 := by simp
  calc decode? (encode text) = String.fromUTF8? text.toUTF8 := congrArg String.fromUTF8? same
    _ = some text := dif_pos text.isValidUTF8

end DoubleEntry.Text
