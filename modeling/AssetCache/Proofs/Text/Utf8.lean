import AssetCache.Bytes

/-!
# Characters as bytes

The bytes of a text are the bytes of its characters, one after the other
(`ofText_ofList`). A character below U+0080 is one byte, its code point; every
byte of any other character is 128 or more (`le_of_mem_ofChar`). So a reader of
bytes that looks for ASCII marks alone never stops within a character.
-/

set_option autoImplicit false

namespace AssetCache.Bytes

/-- The bytes of some characters. -/
def ofChars (chars : List Char) : Bytes := chars.flatMap String.utf8EncodeChar

@[simp] theorem ofChars_nil : ofChars [] = [] := rfl

theorem ofChars_cons (c : Char) (chars : List Char) :
    ofChars (c :: chars) = String.utf8EncodeChar c ++ ofChars chars := rfl

@[simp] theorem ofChars_append (front behind : List Char) :
    ofChars (front ++ behind) = ofChars front ++ ofChars behind :=
  List.flatMap_append

/-- A text made of characters has the bytes of those characters. -/
theorem ofText_ofList (chars : List Char) : ofText (String.ofList chars) = ofChars chars := by
  simp [ofText, ofChars, String.ofList, List.utf8Encode]

theorem ofChars_toList (text : String) : ofChars text.toList = ofText text := by
  rw [← ofText_ofList, String.ofList_toList]

/-- A character of ASCII is one byte. -/
theorem ofChar_of_lt {c : Char} (h : c.toNat < 128) :
    String.utf8EncodeChar c = [UInt8.ofNat c.toNat] := by
  have hle : c.val.toNat ≤ 127 := Nat.le_of_lt_succ h
  simp only [String.utf8EncodeChar, hle, if_true]
  rfl

/-- A character of ASCII in front of others is one byte in front of theirs. -/
theorem ofChars_cons_of_lt {c : Char} (h : c.toNat < 128) (chars : List Char) :
    ofChars (c :: chars) = UInt8.ofNat c.toNat :: ofChars chars := by
  rw [ofChars_cons, ofChar_of_lt h]
  rfl

/-- Characters of ASCII are as many bytes as they are characters. -/
theorem length_ofChars_of_lt {chars : List Char} (h : ∀ c ∈ chars, c.toNat < 128) :
    (ofChars chars).length = chars.length := by
  induction chars with
  | nil => rfl
  | cons c chars ih =>
    rw [ofChars_cons_of_lt (h c List.mem_cons_self), List.length_cons, List.length_cons,
      ih fun d hd => h d (List.mem_cons_of_mem _ hd)]

theorem le_toNat_ofNat {n : Nat} (h : 128 ≤ n) (h' : n < 256) : 128 ≤ (UInt8.ofNat n).toNat := by
  rw [UInt8.toNat_ofNat', Nat.mod_eq_of_lt (by simpa using h')]
  exact h

/-- No byte of a character beyond ASCII is one of ASCII. -/
theorem le_of_mem_ofChar {c : Char} (h : 128 ≤ c.toNat) {b : UInt8}
    (hb : b ∈ String.utf8EncodeChar c) : 128 ≤ b.toNat := by
  have hgt : ¬ c.val.toNat ≤ 127 := Nat.not_le.mpr h
  simp only [String.utf8EncodeChar, hgt, if_false] at hb
  -- each byte is a six-bit number above 128, or a smaller one above 192
  split at hb
  · rcases List.mem_cons.mp hb with rfl | hb
    · exact le_toNat_ofNat (by omega) (by omega)
    · rw [List.mem_singleton.mp hb]
      exact le_toNat_ofNat (by omega) (by omega)
  · split at hb
    · simp only [List.mem_cons, List.not_mem_nil, or_false] at hb
      rcases hb with rfl | rfl | rfl <;> exact le_toNat_ofNat (by omega) (by omega)
    · simp only [List.mem_cons, List.not_mem_nil, or_false] at hb
      rcases hb with rfl | rfl | rfl | rfl <;> exact le_toNat_ofNat (by omega) (by omega)

end AssetCache.Bytes
