/-!
# Byte strings and text

Bodies, files and stored values are byte strings. Text is written to bytes as
UTF-8, and read back only when the bytes are well-formed UTF-8.
-/

set_option autoImplicit false

namespace AssetCache

/-- A finite string of bytes. -/
abbrev Bytes : Type := List UInt8

namespace Bytes

/-- Text as its UTF-8 bytes. -/
def ofText (text : String) : Bytes := text.toByteArray.data.toList

/-- The text that some bytes spell, if they are well-formed UTF-8. -/
def text? (bytes : Bytes) : Option String := String.fromUTF8? ⟨bytes.toArray⟩

/-- What is written is read back. -/
@[simp] theorem text?_ofText (text : String) : text? (ofText text) = some text := by
  have h : (⟨(ofText text).toArray⟩ : ByteArray) = text.toByteArray := by
    simp [ofText]
  simp only [text?, h, String.fromUTF8?, text.isValidUTF8, dite_true]
  rfl

/-- Bytes that read as a text are that text's bytes. -/
theorem eq_ofText_of_text? {bytes : Bytes} {text : String} (h : text? bytes = some text) :
    bytes = ofText text := by
  simp only [text?, String.fromUTF8?] at h
  split at h
  next =>
    cases h
    simp [ofText, String.fromUTF8]
  next => cases h

theorem ofText_injective {left right : String} (h : ofText left = ofText right) :
    left = right := by
  have := congrArg text? h
  simpa using this

end Bytes

end AssetCache
