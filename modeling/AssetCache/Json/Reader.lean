import AssetCache.Bytes

/-!
# Reading JSON bytes from the front

A `Reader` takes a value off the front of a byte string and leaves the rest. It
decodes while it reads, so the first fault that is met in the text decides the
outcome, whatever stands further on. A fault is of one of three kinds: the text
is malformed, or it is well formed so far but not of the wanted shape, or it ends
too early.

Every reader carries the proof that it leaves no more than it was given; the
loops over members and elements end because of it.
-/

set_option autoImplicit false

namespace AssetCache.Json

/-- Why a text cannot be read as a value of a wanted shape. -/
inductive Fault where
  /-- The text is not JSON. -/
  | malformed
  /-- The text is JSON so far, but of another shape. -/
  | mismatched
  /-- The text ends within the value. -/
  | truncated
  deriving DecidableEq, Repr

/-- How a fault shows in a message: its wording and place are no part of what is promised. -/
def Fault.message (_ : Fault) : String := "<json>"

/-- Takes a value off the front of the input and leaves no more than it found. -/
structure Reader (α : Type) where
  read : Bytes → Except Fault (α × Bytes)
  rest_le : ∀ {input : Bytes} {value : α} {rest : Bytes},
    read input = .ok (value, rest) → rest.length ≤ input.length

namespace Reader

variable {α β : Type}

/-- Take nothing. -/
def pure (value : α) : Reader α where
  read input := .ok (value, input)
  rest_le h := by cases h; exact Nat.le_refl _

/-- Read one value, then go on as that value says. -/
def bind (reader : Reader α) (next : α → Reader β) : Reader β where
  read input :=
    match reader.read input with
    | .error fault => .error fault
    | .ok (value, rest) => (next value).read rest
  rest_le h := by
    split at h
    next => cases h
    next heq => exact Nat.le_trans ((next _).rest_le h) (reader.rest_le heq)

instance : Monad Reader where
  pure := pure
  bind := bind

/-- Find a fault. -/
def fail (fault : Fault) : Reader α where
  read _ := .error fault
  rest_le h := by cases h

end Reader

/-! ## Blanks and single bytes -/

/-- Blank, line feed, carriage return and tab may stand between tokens. -/
def isBlank (b : UInt8) : Bool := b == 0x20 || b == 0x0a || b == 0x0d || b == 0x09

/-- What is left after the blanks in front. -/
def skipBlanks (input : Bytes) : Bytes := input.dropWhile isBlank

theorem skipBlanks_le (input : Bytes) : (skipBlanks input).length ≤ input.length :=
  (List.dropWhile_sublist _).length_le

/-- A decimal digit. -/
def isDigit (b : UInt8) : Bool := 0x30 ≤ b && b ≤ 0x39

/-- Take the letters of a word, of which the first has been seen. -/
def word (letters : Bytes) : Bytes → Except Fault Bytes :=
  match letters with
  | [] => .ok
  | letter :: letters => fun input =>
    match input with
    | [] => .error .truncated
    | b :: rest => if b = letter then word letters rest else .error .malformed

theorem word_le : ∀ {letters input rest : Bytes},
    word letters input = .ok rest → rest.length ≤ input.length
  | [], _, _, h => by simp only [word] at h; cases h; exact Nat.le_refl _
  | _ :: _, [], _, h => by simp only [word] at h; cases h
  | letter :: letters, b :: input, rest, h => by
    simp only [word] at h
    split at h
    next => exact Nat.le_succ_of_le (word_le h)
    next => cases h

/-! ## Strings -/

/-- The number of a hexadecimal digit of either case. -/
def hexValue? (b : UInt8) : Option Nat :=
  if 0x30 ≤ b ∧ b ≤ 0x39 then some (b.toNat - 0x30)
  else if 0x41 ≤ b ∧ b ≤ 0x46 then some (b.toNat - 0x37)
  else if 0x61 ≤ b ∧ b ≤ 0x66 then some (b.toNat - 0x57)
  else none

/-- The sixteen-bit unit of four hexadecimal digits. -/
def unit : Bytes → Except Fault (Nat × Bytes)
  | a :: b :: c :: d :: rest =>
    match hexValue? a, hexValue? b, hexValue? c, hexValue? d with
    | some a, some b, some c, some d => .ok (((a * 16 + b) * 16 + c) * 16 + d, rest)
    | _, _, _, _ => .error .malformed
  | _ => .error .truncated

theorem unit_lt {input : Bytes} {n : Nat} {rest : Bytes} (h : unit input = .ok (n, rest)) :
    rest.length < input.length := by
  unfold unit at h
  split at h
  next =>
    split at h
    next => cases h; simp only [List.length_cons]; omega
    next => cases h
  next => cases h

/-- The UTF-8 bytes of a code point. -/
def codePoint (n : Nat) : Bytes := String.utf8EncodeChar (Char.ofNat n)

/-- The character of a leading surrogate and of the trailing one that must follow it. -/
def surrogatePair (leading : Nat) : Bytes → Except Fault (Bytes × Bytes)
  | [] => .error .truncated
  | [b] => if b = 0x5c then .error .truncated else .error .malformed
  | b :: c :: rest =>
    if b ≠ 0x5c then .error .malformed
    else if c ≠ 0x75 then .error .malformed
    else match unit rest with
      | .error fault => .error fault
      | .ok (trailing, rest) =>
        if 0xdc00 ≤ trailing ∧ trailing ≤ 0xdfff then
          .ok (codePoint ((leading - 0xd800) * 1024 + (trailing - 0xdc00) + 0x10000), rest)
        else .error .malformed

theorem surrogatePair_lt {leading : Nat} {input bytes rest : Bytes}
    (h : surrogatePair leading input = .ok (bytes, rest)) : rest.length < input.length := by
  unfold surrogatePair at h
  split at h
  · cases h
  · split at h <;> cases h
  · split at h
    · cases h
    · split at h
      · cases h
      · split at h
        · cases h
        next heq =>
          split at h
          · simp only [Except.ok.injEq, Prod.mk.injEq] at h
            obtain ⟨-, rfl⟩ := h
            have := unit_lt heq
            simp only [List.length_cons]; omega
          · cases h

/-- The bytes of the character that four hexadecimal digits begin. -/
def unicodeEscape (input : Bytes) : Except Fault (Bytes × Bytes) :=
  match unit input with
  | .error fault => .error fault
  | .ok (n, rest) =>
    if 0xdc00 ≤ n ∧ n ≤ 0xdfff then .error .malformed
    else if 0xd800 ≤ n ∧ n ≤ 0xdbff then surrogatePair n rest
    else .ok (codePoint n, rest)

theorem unicodeEscape_lt {input bytes rest : Bytes}
    (h : unicodeEscape input = .ok (bytes, rest)) : rest.length < input.length := by
  unfold unicodeEscape at h
  split at h
  · cases h
  next heq =>
    have hu := unit_lt heq
    split at h
    · cases h
    · split at h
      · exact Nat.lt_trans (surrogatePair_lt h) hu
      · cases h; exact hu

/-- The byte that a single letter after a backslash stands for. -/
def escapedByte? (b : UInt8) : Option UInt8 :=
  if b = 0x22 ∨ b = 0x5c ∨ b = 0x2f then some b
  else if b = 0x62 then some 0x08
  else if b = 0x66 then some 0x0c
  else if b = 0x6e then some 0x0a
  else if b = 0x72 then some 0x0d
  else if b = 0x74 then some 0x09
  else none

/-- The bytes that the letters after a backslash stand for. -/
def escaped : Bytes → Except Fault (Bytes × Bytes)
  | [] => .error .truncated
  | b :: rest =>
    match escapedByte? b with
    | some byte => .ok ([byte], rest)
    | none => if b = 0x75 then unicodeEscape rest else .error .malformed

theorem escaped_lt {input bytes rest : Bytes} (h : escaped input = .ok (bytes, rest)) :
    rest.length < input.length := by
  unfold escaped at h
  split at h
  · cases h
  · split at h
    · cases h; simp
    · split at h
      · exact Nat.lt_succ_of_lt (unicodeEscape_lt h)
      · cases h

/-- The bytes of a string up to its closing quotation mark, onto those already taken. -/
def stringBytes (taken : Bytes) (input : Bytes) : Except Fault (Bytes × Bytes) :=
  match input with
  | [] => .error .truncated
  | b :: rest =>
    if b = 0x22 then .ok (taken.reverse, rest)
    else if b = 0x5c then
      match h : escaped rest with
      | .error fault => .error fault
      | .ok (bytes, rest') =>
        have := escaped_lt h
        stringBytes (bytes.reverse ++ taken) rest'
    else if b < 0x20 then .error .malformed
    else stringBytes (b :: taken) rest
termination_by input.length
decreasing_by all_goals (simp only [List.length_cons]; omega)

theorem stringBytes_lt (taken input : Bytes) {bytes rest : Bytes}
    (h : stringBytes taken input = .ok (bytes, rest)) : rest.length < input.length := by
  fun_induction stringBytes taken input with
  | case1 => cases h
  | case2 => cases h; simp
  | case3 => cases h
  | case4 =>
    rename_i heq hlt ih
    have := ih h
    simp only [List.length_cons]; omega
  | case5 => cases h
  | case6 =>
    rename_i ih
    have := ih h
    simp only [List.length_cons]; omega

/-- The text of a string whose opening quotation mark has been taken. -/
def stringText (input : Bytes) : Except Fault (String × Bytes) :=
  match stringBytes [] input with
  | .error fault => .error fault
  | .ok (bytes, rest) =>
    match Bytes.text? bytes with
    | some text => .ok (text, rest)
    | none => .error .malformed

theorem stringText_lt {input : Bytes} {text : String} {rest : Bytes}
    (h : stringText input = .ok (text, rest)) : rest.length < input.length := by
  unfold stringText at h
  split at h
  · cases h
  next heq =>
    split at h
    · cases h; exact stringBytes_lt _ _ heq
    · cases h

end AssetCache.Json
