import AssetCache.Proofs.Json.Objects
import AssetCache.Text.Decimal

/-!
# Written numbers are read back

A natural number is written as its decimal digits, and those are read back as that
number as long as it fits a significand (`number_chars`). What follows it must not go
on with the numeral; within an object a comma or a bracket does.
-/

set_option autoImplicit false

namespace AssetCache.Json

open Text (Decimal.chars)

/-! ## Digits -/

theorem toNat_of_isDigit {c : Char} (h : c.isDigit = true) : 48 ≤ c.toNat ∧ c.toNat ≤ 57 := by
  simp only [Char.isDigit, Bool.and_eq_true, decide_eq_true_eq] at h
  exact ⟨h.1, h.2⟩

theorem lt_of_isDigit {c : Char} (h : c.isDigit = true) : c.toNat < 128 := by
  have := toNat_of_isDigit h
  omega

theorem toNat_ofNat_of_isDigit {c : Char} (h : c.isDigit = true) :
    (UInt8.ofNat c.toNat).toNat = c.toNat := by
  have := toNat_of_isDigit h
  rw [UInt8.toNat_ofNat', Nat.mod_eq_of_lt (by omega)]

theorem isDigit_ofNat {c : Char} (h : c.isDigit = true) : isDigit (UInt8.ofNat c.toNat) = true := by
  obtain ⟨hlow, hhigh⟩ := toNat_of_isDigit h
  have hn := toNat_ofNat_of_isDigit h
  simp only [isDigit, Bool.and_eq_true, decide_eq_true_eq]
  refine ⟨?_, ?_⟩
  · show 48 ≤ (UInt8.ofNat c.toNat).toNat
    omega
  · show (UInt8.ofNat c.toNat).toNat ≤ 57
    omega

/-- Digits are folded up to what is none. -/
theorem digits_ofChars {σ : Type} (push : σ → Nat → σ) {chars : List Char} {rest : Bytes}
    (hdigits : ∀ c ∈ chars, c.isDigit = true)
    (hrest : ∀ b more, rest = b :: more → isDigit b = false) :
    ∀ state : σ, digits push state (Bytes.ofChars chars ++ rest) =
      (chars.foldl (fun s c => push s (c.toNat - 48)) state, rest) := by
  induction chars with
  | nil =>
    intro state
    cases rest with
    | nil => rfl
    | cons b more =>
      show digits push state (b :: more) = (state, b :: more)
      rw [digits, hrest b more rfl]
      rfl
  | cons c chars ih =>
    intro state
    have hc := hdigits c List.mem_cons_self
    have hvalue : (UInt8.ofNat c.toNat).toNat - 0x30 = c.toNat - 48 := by
      rw [toNat_ofNat_of_isDigit hc]
    rw [Bytes.ofChars_cons_of_lt (lt_of_isDigit hc), List.cons_append, digits,
      if_pos (isDigit_ofNat hc), hvalue, ih fun d hd => hdigits d (List.mem_cons_of_mem _ hd)]
    rfl

/-! ## Significands -/

theorem le_ofDigitChars (chars : List Char) (n : Nat) : n ≤ Nat.ofDigitChars 10 chars n := by
  rw [Nat.ofDigitChars_eq_ofDigitChars_zero]
  have : 1 ≤ 10 ^ chars.length := Nat.one_le_pow _ _ (by decide)
  have := Nat.le_mul_of_pos_left n this
  omega

/-- Digits whose number fits are all gathered into the significand. -/
theorem foldl_pushWhole (chars : List Char) :
    ∀ n : Nat, Nat.ofDigitChars 10 chars n ≤ maxSignificand →
      chars.foldl (fun s c => Significand.pushWhole s (c.toNat - 48)) ⟨n, 0, true⟩ =
        ⟨Nat.ofDigitChars 10 chars n, 0, true⟩ := by
  induction chars with
  | nil => intro n _; rw [Nat.ofDigitChars_nil]; rfl
  | cons c chars ih =>
    intro n h
    rw [Nat.ofDigitChars_cons] at h
    have hstep : 10 * n + (c.toNat - '0'.toNat) = n * 10 + (c.toNat - 48) := by
      rw [Nat.mul_comm]
      rfl
    rw [hstep] at h
    have hfits : n * 10 + (c.toNat - 48) ≤ maxSignificand := Nat.le_trans (le_ofDigitChars _ _) h
    rw [List.foldl_cons, Nat.ofDigitChars_cons, hstep, ← ih _ h]
    simp only [Significand.pushWhole, hfits, true_and, if_true]

theorem digitChar_ne_zero : ∀ n : Nat, n < 10 → 0 < n → n.digitChar ≠ '0' := by
  decide

/-- The numeral of a number above zero does not begin with a zero. -/
theorem exists_head_chars {n : Nat} (h : 0 < n) :
    ∃ c rest, Decimal.chars n = c :: rest ∧ c ≠ '0' := by
  induction n using Nat.strongRecOn with
  | ind n ih =>
    by_cases hn : n < 10
    · exact ⟨n.digitChar, [], Nat.toDigits_of_lt_base hn, digitChar_ne_zero n hn h⟩
    · obtain ⟨c, rest, hchars, hc⟩ := ih (n / 10) (by omega) (by omega)
      have hbase := Nat.toDigits_of_base_le (b := 10) (n := n) (by decide) (by omega)
      refine ⟨c, rest ++ [(n % 10).digitChar], ?_, hc⟩
      rw [Decimal.chars] at hchars ⊢
      rw [hbase, hchars]
      rfl

/-! ## Numerals -/

/-- What does not go on with a numeral. -/
def EndsNumeral (rest : Bytes) : Prop :=
  ∀ b more, rest = b :: more → isDigit b = false ∧ b ≠ 0x2e ∧ b ≠ 0x65 ∧ b ≠ 0x45

theorem endsNumeral_of_delimited {rest : Bytes} (h : Delimited rest) : EndsNumeral rest := by
  obtain ⟨b, more, rfl, rfl | rfl⟩ := h
  · intro b' more' heq
    cases heq
    decide
  · intro b' more' heq
    cases heq
    decide

theorem afterWhole_of_ends {n : Nat} {rest : Bytes} (h : EndsNumeral rest) :
    afterWhole false ⟨n, 0, true⟩ rest = .ok (.whole n, rest) := by
  cases rest with
  | nil => rfl
  | cons b more =>
    obtain ⟨_, hpoint, hlower, hupper⟩ := h b more rfl
    simp only [afterWhole, hpoint, hlower, hupper, or_self, if_false]
    rfl

/-- A zero stands alone. -/
theorem unsignedNumber_zero {rest : Bytes} (h : EndsNumeral rest) :
    unsignedNumber false (0x30 :: rest) = .ok (.whole 0, rest) := by
  cases rest with
  | nil => rfl
  | cons b more =>
    simp only [unsignedNumber, (h b more rfl).1, if_true]
    exact afterWhole_of_ends (n := 0) h

theorem unsignedNumber_digit {b : UInt8} (hzero : b ≠ 0x30) (hdigit : isDigit b = true)
    (rest : Bytes) :
    unsignedNumber false (b :: rest) =
      afterWhole false (digits Significand.pushWhole ⟨b.toNat - 0x30, 0, true⟩ rest).1
        (digits Significand.pushWhole ⟨b.toNat - 0x30, 0, true⟩ rest).2 := by
  simp only [unsignedNumber, hzero, hdigit, if_true, if_false]

/-- A number that fits is read back from its decimal digits. -/
theorem number_chars {n : Nat} (hn : n ≤ maxSignificand) {rest : Bytes} (hrest : EndsNumeral rest) :
    number (Bytes.ofChars (Decimal.chars n) ++ rest) = .ok (.whole n, rest) := by
  have hdigit : ∀ c ∈ Decimal.chars n, c.isDigit = true := fun c hc =>
    Nat.isDigit_of_mem_toDigits (by decide) (by decide) hc
  rcases Nat.eq_zero_or_pos n with rfl | hpos
  · have hzero : Bytes.ofChars (Decimal.chars 0) = [0x30] := rfl
    rw [hzero, List.cons_append, List.nil_append, number, if_neg (by decide)]
    exact unsignedNumber_zero hrest
  · obtain ⟨c, chars, hchars, hc⟩ := exists_head_chars hpos
    have hvalue : Nat.ofDigitChars 10 (c :: chars) 0 = n := by
      rw [← hchars]
      exact Nat.ofDigitChars_ten_toDigits
    rw [hchars] at hdigit ⊢
    have hcd := hdigit c List.mem_cons_self
    have hfirst : UInt8.ofNat c.toNat ≠ 0x30 := by
      intro heq
      have := congrArg UInt8.toNat heq
      rw [toNat_ofNat_of_isDigit hcd] at this
      exact hc (by rw [← Char.ofNat_toNat c, this]; rfl)
    have hsign : UInt8.ofNat c.toNat ≠ 0x2d := by
      intro heq
      have := congrArg UInt8.toNat heq
      rw [toNat_ofNat_of_isDigit hcd] at this
      have := toNat_of_isDigit hcd
      have h2d : (0x2d : UInt8).toNat = 45 := rfl
      omega
    rw [Nat.ofDigitChars_cons] at hvalue
    have hstart : 10 * 0 + (c.toNat - '0'.toNat) = (UInt8.ofNat c.toNat).toNat - 0x30 := by
      rw [toNat_ofNat_of_isDigit hcd, Nat.mul_zero, Nat.zero_add]
      rfl
    rw [hstart] at hvalue
    rw [Bytes.ofChars_cons_of_lt (lt_of_isDigit hcd), List.cons_append, number, if_neg hsign,
      unsignedNumber_digit hfirst (isDigit_ofNat hcd)]
    have hread := digits_ofChars Significand.pushWhole
      (fun d hd => hdigit d (List.mem_cons_of_mem _ hd)) (fun b more h => (hrest b more h).1)
      ⟨(UInt8.ofNat c.toNat).toNat - 0x30, 0, true⟩
    rw [foldl_pushWhole _ _ (by rw [hvalue]; exact hn), hvalue] at hread
    rw [hread]
    exact afterWhole_of_ends hrest

/-! ## Numbers up to a bound -/

/-- The first byte of a numeral begins one. -/
theorem exists_ofChars_chars (n : Nat) : ∃ b more,
    Bytes.ofChars (Decimal.chars n) = b :: more ∧ isDigit b = true := by
  have hdigit : ∀ c ∈ Decimal.chars n, c.isDigit = true := fun c hc =>
    Nat.isDigit_of_mem_toDigits (by decide) (by decide) hc
  cases hchars : Decimal.chars n with
  | nil => exact absurd hchars Nat.toDigits_ne_nil
  | cons c chars =>
    have hc := hdigit c (hchars ▸ List.mem_cons_self)
    exact ⟨_, _, Bytes.ofChars_cons_of_lt (lt_of_isDigit hc) _, isDigit_ofNat hc⟩

theorem isBlank_of_isDigit {b : UInt8} (h : isDigit b = true) : isBlank b = false := by
  simp only [isDigit, Bool.and_eq_true, decide_eq_true_eq] at h
  have hlow : 48 ≤ b.toNat := h.1
  simp only [isBlank, Bool.or_eq_false_iff, beq_eq_false_iff_ne]
  refine ⟨⟨⟨?_, ?_⟩, ?_⟩, ?_⟩
  all_goals
    rintro rfl
    exact absurd hlow (by decide)

/-- A number within the bound is read back. -/
theorem Reader.read_natUpTo {n bound : Nat} (hn : n ≤ bound) (hbound : bound ≤ maxSignificand)
    {rest : Bytes} (hrest : Delimited rest) :
    (natUpTo bound).read (Bytes.ofChars (Json.nat n).chars ++ rest) = .ok (n, rest) := by
  have hchars : (Json.nat n).chars = Decimal.chars n := rfl
  obtain ⟨b, more, hb, hdigit⟩ := exists_ofChars_chars n
  have hbegins : beginsNumeral b = true := by simp only [beginsNumeral, hdigit, Bool.or_true]
  have hnumber : numeral.read (Bytes.ofChars (Decimal.chars n) ++ rest) =
      .ok (.whole n, rest) :=
    number_chars (Nat.le_trans hn hbound) (endsNumeral_of_delimited hrest)
  rw [hchars, natUpTo, hb, List.cons_append, read_peek (isBlank_of_isDigit hdigit),
    if_pos hbegins, ← List.cons_append, ← hb, read_bind hnumber]
  show (if n ≤ bound then Pure.pure n else fail Fault.mismatched : Reader Nat).read rest = _
  rw [if_pos hn]
  rfl

end AssetCache.Json
