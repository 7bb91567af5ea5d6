/-!
# Texts as bytes

Every text has its bytes in UTF-8, and not every list of bytes is one of a text.
`isUtf8_iff` says that exactly the bytes of texts are recognised.
-/

namespace HomeControl.Text

def utf8 (text : List Char) : List UInt8 := text.flatMap String.utf8EncodeChar

def isUtf8 (bytes : List UInt8) : Bool := (String.fromUTF8? bytes.toByteArray).isSome

theorem toByteArray_utf8 (text : List Char) : (utf8 text).toByteArray = text.utf8Encode := rfl

theorem isUtf8_iff (bytes : List UInt8) : isUtf8 bytes = true ↔ ∃ text, bytes = utf8 text := by
  unfold isUtf8 String.fromUTF8?
  constructor
  · intro recognised
    split at recognised
    · next valid =>
      obtain ⟨text, same⟩ := valid
      refine ⟨text, ?_⟩
      rw [← toByteArray_utf8] at same
      have same := congrArg ByteArray.data same
      simpa [List.data_toByteArray] using same
    · contradiction
  · rintro ⟨text, rfl⟩
    rw [dif_pos ⟨text, toByteArray_utf8 text⟩]
    rfl

end HomeControl.Text
