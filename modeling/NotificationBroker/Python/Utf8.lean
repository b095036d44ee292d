import Mathlib.Init

/-!
# UTF-8

`str.encode("utf-8")` and `bytes.decode("utf-8")`, on lists of bytes.
-/

namespace Python

/-- `text.encode("utf-8")`. -/
def encodeUtf8 (text : String) : List UInt8 := text.toByteArray.data.toList

/-- `data.decode("utf-8")`; `none` is a `UnicodeDecodeError`. -/
def decodeUtf8 (data : List UInt8) : Option String := String.fromUTF8? ⟨data.toArray⟩

@[simp] theorem decodeUtf8_encodeUtf8 (text : String) :
    decodeUtf8 (encodeUtf8 text) = some text := by
  have h_bytes : (⟨(encodeUtf8 text).toArray⟩ : ByteArray) = text.toByteArray := by
    rw [encodeUtf8, Array.toArray_toList]
  rw [decodeUtf8, h_bytes, String.fromUTF8?, dif_pos text.isValidUTF8]
  rfl

theorem encodeUtf8_injective : Function.Injective encodeUtf8 := fun text text' h => by
  have h_decode := congrArg decodeUtf8 h
  rw [decodeUtf8_encodeUtf8, decodeUtf8_encodeUtf8] at h_decode
  exact Option.some.inj h_decode

end Python
