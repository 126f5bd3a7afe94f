import AssetCache.Json.Reader
import AssetCache.Rounding

/-!
# Numbers in JSON text

A numeral is taken apart while it is read: its digits are gathered into a
significand of at most sixty-four bits, and what does not fit any more moves the
decimal exponent instead. A numeral without fraction and exponent whose
significand fits is a whole number; every other is a binary fraction of double
precision, of which only one thing matters here: a numeral too large for that
precision is malformed.
-/

set_option autoImplicit false

namespace AssetCache.Json

/-- What a numeral denotes. -/
inductive Number where
  /-- A whole number of sixty-four bits, signed below zero and unsigned above. -/
  | whole (value : Int)
  /-- Anything else: a fraction, an exponent, too many digits, or a negative zero. -/
  | fraction
  deriving DecidableEq, Repr

/-- The largest significand. -/
def maxSignificand : Nat := Nat.pow 2 64 - 1

/-- A numeral while it is read: significand, decimal exponent, and whether digits still fit. -/
structure Significand where
  value : Nat
  exponent : Int
  open_ : Bool

namespace Significand

/-- A digit before the point: one that does not fit makes the exponent larger. -/
def pushWhole (s : Significand) (d : Nat) : Significand :=
  if s.open_ ∧ s.value * 10 + d ≤ maxSignificand then { s with value := s.value * 10 + d }
  else { s with exponent := s.exponent + 1, open_ := false }

/-- A digit after the point: one that does not fit is dropped, with all that follow. -/
def pushFraction (s : Significand) (d : Nat) : Significand :=
  if s.open_ ∧ s.value * 10 + d ≤ maxSignificand then
    { s with value := s.value * 10 + d, exponent := s.exponent - 1 }
  else { s with open_ := false }

end Significand

/-! ## Double precision -/

/-- Whether a significand times a power of ten is too large for double precision. -/
def tooLarge (significand : Nat) (exponent : Int) : Bool :=
  significand ≠ 0 ∧
    (308 < exponent ∨
      0 ≤ exponent ∧
        Nat.pow 2 1024 - Nat.pow 2 970 ≤
          Rounding.toPrecision53 significand * Rounding.toPrecision53 (Nat.pow 10 exponent.toNat))

/-! ## Reading -/

/-- Fold the digits in front of the input, and say what is left. -/
def digits {σ : Type} (push : σ → Nat → σ) (state : σ) : Bytes → σ × Bytes
  | [] => (state, [])
  | b :: rest =>
    if isDigit b then digits push (push state (b.toNat - 0x30)) rest else (state, b :: rest)

theorem digits_le {σ : Type} (push : σ → Nat → σ) :
    ∀ (state : σ) (input : Bytes), (digits push state input).2.length ≤ input.length
  | _, [] => Nat.le_refl _
  | state, b :: rest => by
    unfold digits
    split
    · exact Nat.le_succ_of_le (digits_le push _ rest)
    · exact Nat.le_refl _

/-- A digit must stand here. -/
def needDigit : Bytes → Except Fault Unit
  | [] => .error .truncated
  | b :: _ => if isDigit b then .ok () else .error .malformed

/-- The exponent after its letter: its value and what is left. -/
def exponentPart (input : Bytes) : Except Fault (Int × Bytes) :=
  let signed := match input with
    | b :: rest => if b = 0x2b then (1, rest) else if b = 0x2d then (-1, rest) else (1, input)
    | [] => ((1 : Int), input)
  match needDigit signed.2 with
  | .error fault => .error fault
  | .ok () =>
    let (n, rest) := digits (fun n d => n * 10 + d) 0 signed.2
    .ok (signed.1 * (n : Nat), rest)

theorem exponentPart_le {input : Bytes} {e : Int} {rest : Bytes}
    (h : exponentPart input = .ok (e, rest)) : rest.length ≤ input.length := by
  unfold exponentPart at h
  simp only at h
  split at h
  · cases h
  · simp only [Except.ok.injEq, Prod.mk.injEq] at h
    obtain ⟨-, rfl⟩ := h
    refine Nat.le_trans (digits_le _ _ _) ?_
    split
    · split
      · simp
      · split <;> simp
    · simp

/-- A fraction, unless it is too large. -/
def checked (s : Significand) (exponent : Int) (rest : Bytes) : Except Fault (Number × Bytes) :=
  if tooLarge s.value (s.exponent + exponent) then .error .malformed else .ok (.fraction, rest)

/-- What may follow the digits of a fraction. -/
def afterFraction (s : Significand) (input : Bytes) : Except Fault (Number × Bytes) :=
  match input with
  | b :: rest =>
    if b = 0x65 ∨ b = 0x45 then
      match exponentPart rest with
      | .error fault => .error fault
      | .ok (e, rest) => checked s e rest
    else checked s 0 input
  | [] => checked s 0 input

/-- A whole number, unless digits were lost or a negative one leaves the signed range. -/
def wholeNumber (negative : Bool) (s : Significand) (input : Bytes) :
    Except Fault (Number × Bytes) :=
  if ¬ s.open_ then checked s 0 input
  else if ¬ negative then .ok (.whole s.value, input)
  else if s.value = 0 ∨ Nat.pow 2 63 < s.value then .ok (.fraction, input)
  else .ok (.whole (-s.value), input)

/-- What may follow the digits before the point. -/
def afterWhole (negative : Bool) (s : Significand) (input : Bytes) :
    Except Fault (Number × Bytes) :=
  match input with
  | b :: rest =>
    if b = 0x2e then
      match needDigit rest with
      | .error fault => .error fault
      | .ok () =>
        let (s, rest) := digits Significand.pushFraction { s with open_ := true } rest
        afterFraction s rest
    else if b = 0x65 ∨ b = 0x45 then afterFraction s input
    else wholeNumber negative s input
  | [] => wholeNumber negative s input

/-- A numeral after its sign. A zero in front must stand alone. -/
def unsignedNumber (negative : Bool) : Bytes → Except Fault (Number × Bytes)
  | [] => .error .truncated
  | b :: rest =>
    if b = 0x30 then
      match rest with
      | d :: _ => if isDigit d then .error .malformed else afterWhole negative ⟨0, 0, true⟩ rest
      | [] => afterWhole negative ⟨0, 0, true⟩ rest
    else if isDigit b then
      let (s, rest) := digits Significand.pushWhole ⟨b.toNat - 0x30, 0, true⟩ rest
      afterWhole negative s rest
    else .error .malformed

/-- A numeral, of which the first byte is a digit or a minus sign. -/
def number : Bytes → Except Fault (Number × Bytes)
  | [] => .error .truncated
  | b :: rest => if b = 0x2d then unsignedNumber true rest else unsignedNumber false (b :: rest)

/-! ## Reading a numeral leaves no more than it found -/

theorem checked_rest {s : Significand} {e : Int} {input rest : Bytes} {n : Number}
    (h : checked s e input = .ok (n, rest)) : rest = input := by
  unfold checked at h
  split at h <;> cases h
  rfl

theorem afterFraction_le {s : Significand} {input rest : Bytes} {n : Number}
    (h : afterFraction s input = .ok (n, rest)) : rest.length ≤ input.length := by
  unfold afterFraction at h
  split at h
  · split at h
    · split at h
      · cases h
      next heq =>
        rw [checked_rest h]
        exact Nat.le_succ_of_le (exponentPart_le heq)
    · exact Nat.le_of_eq (congrArg List.length (checked_rest h))
  · exact Nat.le_of_eq (congrArg List.length (checked_rest h))

theorem wholeNumber_rest {negative : Bool} {s : Significand} {input rest : Bytes} {n : Number}
    (h : wholeNumber negative s input = .ok (n, rest)) : rest = input := by
  unfold wholeNumber at h
  split at h
  · exact checked_rest h
  · split at h
    · cases h; rfl
    · split at h <;> cases h <;> rfl

theorem afterWhole_le {negative : Bool} {s : Significand} {input rest : Bytes} {n : Number}
    (h : afterWhole negative s input = .ok (n, rest)) : rest.length ≤ input.length := by
  unfold afterWhole at h
  split at h
  · split at h
    · split at h
      · cases h
      · exact Nat.le_succ_of_le (Nat.le_trans (afterFraction_le h) (digits_le _ _ _))
    · split at h
      · exact afterFraction_le h
      · exact Nat.le_of_eq (congrArg List.length (wholeNumber_rest h))
  · exact Nat.le_of_eq (congrArg List.length (wholeNumber_rest h))

theorem unsignedNumber_le {negative : Bool} {input rest : Bytes} {n : Number}
    (h : unsignedNumber negative input = .ok (n, rest)) : rest.length ≤ input.length := by
  unfold unsignedNumber at h
  split at h
  · cases h
  · split at h
    · split at h
      · split at h
        · cases h
        · exact Nat.le_succ_of_le (afterWhole_le h)
      · exact Nat.le_succ_of_le (afterWhole_le h)
    · split at h
      · exact Nat.le_succ_of_le (Nat.le_trans (afterWhole_le h) (digits_le _ _ _))
      · cases h

theorem number_le {input rest : Bytes} {n : Number}
    (h : number input = .ok (n, rest)) : rest.length ≤ input.length := by
  unfold number at h
  split at h
  · cases h
  · split at h
    · exact Nat.le_succ_of_le (unsignedNumber_le h)
    · exact unsignedNumber_le h

end AssetCache.Json
