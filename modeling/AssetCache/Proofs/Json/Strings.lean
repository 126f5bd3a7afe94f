import AssetCache.Json.Reader
import AssetCache.Json.Value
import AssetCache.Proofs.Text.Utf8

/-!
# Written strings are read back

A text between quotation marks is read back as that text, whatever follows it
(`stringText_quoted`). The writer works on characters and the reader on bytes; the
two meet at one character, whose escaped bytes the reader takes as the bytes of the
character itself (`stringBytes_escape`).
-/

set_option autoImplicit false

namespace AssetCache.Json

/-! ## Bytes that stand for themselves -/

/-- A byte that a string holds as it is: no mark and no control character. -/
def IsPlain (b : UInt8) : Prop := b ≠ 0x22 ∧ b ≠ 0x5c ∧ ¬ b < 0x20

theorem stringBytes_plain {b : UInt8} (h : IsPlain b) (taken rest : Bytes) :
    stringBytes taken (b :: rest) = stringBytes (b :: taken) rest := by
  rw [stringBytes, if_neg h.1, if_neg h.2.1, if_neg h.2.2]

theorem stringBytes_append_plain {bytes : Bytes} (h : ∀ b ∈ bytes, IsPlain b) :
    ∀ taken rest : Bytes,
      stringBytes taken (bytes ++ rest) = stringBytes (bytes.reverse ++ taken) rest := by
  induction bytes with
  | nil => intro taken rest; rfl
  | cons b bytes ih =>
    intro taken rest
    rw [List.cons_append, stringBytes_plain (h b List.mem_cons_self),
      ih fun d hd => h d (List.mem_cons_of_mem _ hd)]
    simp

theorem isPlain_of_le {b : UInt8} (h : 128 ≤ b.toNat) : IsPlain b := by
  refine ⟨?_, ?_, ?_⟩
  · rintro rfl
    exact absurd h (by decide)
  · rintro rfl
    exact absurd h (by decide)
  · intro hlt
    have : b.toNat < 32 := hlt
    omega

/-- The bytes of a character that is not escaped stand for themselves. -/
theorem isPlain_of_mem_ofChar {c : Char} (hquote : c ≠ '"') (hslash : c ≠ '\\')
    (hcontrol : 32 ≤ c.toNat) {b : UInt8} (hb : b ∈ String.utf8EncodeChar c) : IsPlain b := by
  by_cases hc : c.toNat < 128
  · rw [Bytes.ofChar_of_lt hc] at hb
    obtain rfl := List.mem_singleton.mp hb
    have hn : (UInt8.ofNat c.toNat).toNat = c.toNat := by
      rw [UInt8.toNat_ofNat', Nat.mod_eq_of_lt (by omega)]
    refine ⟨fun h => hquote ?_, fun h => hslash ?_, fun h => ?_⟩
    · have := congrArg UInt8.toNat h
      rw [hn] at this
      rw [← Char.ofNat_toNat c, this]
      rfl
    · have := congrArg UInt8.toNat h
      rw [hn] at this
      rw [← Char.ofNat_toNat c, this]
      rfl
    · have : (UInt8.ofNat c.toNat).toNat < 32 := h
      omega
  · exact isPlain_of_le (Bytes.le_of_mem_ofChar (Nat.not_lt.mp hc) hb)

/-! ## Escapes -/

theorem stringBytes_backslash {input bytes rest : Bytes} (h : escaped input = .ok (bytes, rest))
    (taken : Bytes) :
    stringBytes taken (0x5c :: input) = stringBytes (bytes.reverse ++ taken) rest := by
  rw [stringBytes, if_neg (by decide), if_pos rfl]
  split
  next heq => rw [h] at heq; cases heq
  next heq =>
    rw [h] at heq
    cases heq
    rfl

/-- A letter behind a backslash that stands for one byte. -/
theorem stringBytes_letter {letter byte : UInt8} (h : escapedByte? letter = some byte)
    (taken rest : Bytes) :
    stringBytes taken (0x5c :: letter :: rest) = stringBytes (byte :: taken) rest := by
  have hread : escaped (letter :: rest) = .ok ([byte], rest) := by simp only [escaped, h]
  rw [stringBytes_backslash hread]
  rfl

theorem hexDigit_lt : ∀ n : Nat, n < 16 → (hexDigit n).toNat < 128 := by
  decide

theorem hexValue?_hexDigit : ∀ n : Nat, n < 16 →
    hexValue? (UInt8.ofNat (hexDigit n).toNat) = some n := by
  decide

/-- The number of a control character behind `\u`. -/
theorem escaped_control {n : Nat} (h : n < 32) (rest : Bytes) :
    escaped (0x75 :: 0x30 :: 0x30 :: UInt8.ofNat (hexDigit (n / 16)).toNat ::
      UInt8.ofNat (hexDigit (n % 16)).toNat :: rest) = .ok (codePoint n, rest) := by
  have hhigh := hexValue?_hexDigit (n / 16) (by omega)
  have hlow := hexValue?_hexDigit (n % 16) (by omega)
  have hzero : hexValue? 0x30 = some 0 := by decide
  have hn : ((0 * 16 + 0) * 16 + n / 16) * 16 + n % 16 = n := by omega
  have hletter : escapedByte? 0x75 = none := by decide
  have hunit : unit (0x30 :: 0x30 :: UInt8.ofNat (hexDigit (n / 16)).toNat ::
      UInt8.ofNat (hexDigit (n % 16)).toNat :: rest) = .ok (n, rest) := by
    simp only [unit, hzero, hhigh, hlow, hn]
  simp only [escaped, hletter, if_true, unicodeEscape, hunit]
  rw [if_neg (by omega), if_neg (by omega)]

/-- A character as it is written is read as its own bytes. -/
theorem stringBytes_escape (c : Char) (taken rest : Bytes) :
    stringBytes taken (Bytes.ofChars (escape c) ++ rest) =
      stringBytes ((String.utf8EncodeChar c).reverse ++ taken) rest := by
  unfold escape
  split
  next h => subst h; exact stringBytes_letter (by decide) taken rest
  split
  next h => subst h; exact stringBytes_letter (by decide) taken rest
  split
  next h => subst h; exact stringBytes_letter (by decide) taken rest
  split
  next h => subst h; exact stringBytes_letter (by decide) taken rest
  split
  next h => subst h; exact stringBytes_letter (by decide) taken rest
  split
  next h => subst h; exact stringBytes_letter (by decide) taken rest
  split
  next h => subst h; exact stringBytes_letter (by decide) taken rest
  split
  next hcontrol =>
    have hhigh := hexDigit_lt (c.toNat / 16) (by omega)
    have hlow := hexDigit_lt (c.toNat % 16) (by omega)
    have hbytes : Bytes.ofChars
        ['\\', 'u', '0', '0', hexDigit (c.toNat / 16), hexDigit (c.toNat % 16)] =
        0x5c :: 0x75 :: 0x30 :: 0x30 :: UInt8.ofNat (hexDigit (c.toNat / 16)).toNat ::
          UInt8.ofNat (hexDigit (c.toNat % 16)).toNat :: [] := by
      rw [Bytes.ofChars_cons_of_lt (by decide), Bytes.ofChars_cons_of_lt (by decide),
        Bytes.ofChars_cons_of_lt (by decide), Bytes.ofChars_cons_of_lt (by decide),
        Bytes.ofChars_cons_of_lt hhigh, Bytes.ofChars_cons_of_lt hlow, Bytes.ofChars_nil]
      rfl
    rw [hbytes]
    have hread := stringBytes_backslash (escaped_control hcontrol rest) taken
    rw [codePoint, Char.ofNat_toNat] at hread
    exact hread
  next hquote hslash _ _ _ _ _ hcontrol =>
    have hplain : ∀ b ∈ Bytes.ofChars [c], IsPlain b := by
      intro b hb
      rw [Bytes.ofChars_cons, Bytes.ofChars_nil, List.append_nil] at hb
      exact isPlain_of_mem_ofChar hquote hslash (Nat.not_lt.mp hcontrol) hb
    rw [stringBytes_append_plain hplain, Bytes.ofChars_cons, Bytes.ofChars_nil, List.append_nil]

/-! ## Whole strings -/

theorem stringBytes_flatMap_escape (chars : List Char) :
    ∀ taken rest : Bytes,
      stringBytes taken (Bytes.ofChars (chars.flatMap escape) ++ rest) =
        stringBytes ((Bytes.ofChars chars).reverse ++ taken) rest := by
  induction chars with
  | nil => intro taken rest; rfl
  | cons c chars ih =>
    intro taken rest
    rw [List.flatMap_cons, Bytes.ofChars_append, List.append_assoc, stringBytes_escape, ih,
      Bytes.ofChars_cons, List.reverse_append, List.append_assoc]

/-- What a quoted text is in bytes: the mark, the escaped characters and the mark. -/
theorem ofChars_quoted (text : String) :
    Bytes.ofChars (quoted text) =
      0x22 :: (Bytes.ofChars (text.toList.flatMap escape) ++ [0x22]) := by
  have hmark : Bytes.ofChars ['"'] = [0x22] := rfl
  rw [quoted, Bytes.ofChars_append, hmark, Bytes.ofChars_cons_of_lt (by decide)]
  rfl

/-- A quoted text, of which the opening mark has been taken, is read back. -/
theorem stringText_quoted (text : String) (rest : Bytes) :
    stringText (Bytes.ofChars (text.toList.flatMap escape) ++ 0x22 :: rest) =
      .ok (text, rest) := by
  have hbytes : stringBytes [] (Bytes.ofChars (text.toList.flatMap escape) ++ 0x22 :: rest) =
      .ok (Bytes.ofText text, rest) := by
    rw [stringBytes_flatMap_escape, List.append_nil, stringBytes, if_pos rfl,
      List.reverse_reverse, Bytes.ofChars_toList]
  simp only [stringText, hbytes, Bytes.text?_ofText]

end AssetCache.Json
