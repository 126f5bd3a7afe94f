import AssetCache.Json.Reader

/-!
# Passing over a value

The value of an unknown member is not decoded, only passed over. The passage
checks less than a reading does: a numeral may have any size, an escaped
surrogate may stand alone, and the bytes of a string need not be UTF-8. Brackets
may nest to any depth, since the open ones are kept on a list.
-/

set_option autoImplicit false

namespace AssetCache.Json

/-- What is left after the digits in front. -/
def skipDigits (input : Bytes) : Bytes := input.dropWhile isDigit

theorem skipDigits_le (input : Bytes) : (skipDigits input).length ≤ input.length :=
  (List.dropWhile_sublist _).length_le

/-- Pass over one digit and those that follow it; an end of the text counts as a foreign byte. -/
def skipSomeDigits : Bytes → Except Fault Bytes
  | [] => .error .malformed
  | b :: rest => if isDigit b then .ok (skipDigits rest) else .error .malformed

theorem skipSomeDigits_lt {input rest : Bytes} (h : skipSomeDigits input = .ok rest) :
    rest.length < input.length := by
  unfold skipSomeDigits at h
  split at h
  · cases h
  · split at h
    · cases h; exact Nat.lt_succ_of_le (skipDigits_le _)
    · cases h

/-- Pass over an exponent, if one stands here. -/
def skipExponent : Bytes → Except Fault Bytes
  | [] => .ok []
  | b :: rest =>
    if b = 0x65 ∨ b = 0x45 then
      match rest with
      | s :: more => if s = 0x2b ∨ s = 0x2d then skipSomeDigits more else skipSomeDigits rest
      | [] => .error .malformed
    else .ok (b :: rest)

theorem skipExponent_le {input rest : Bytes} (h : skipExponent input = .ok rest) :
    rest.length ≤ input.length := by
  unfold skipExponent at h
  split at h
  · cases h; exact Nat.le_refl _
  · split at h
    · split at h
      · split at h
        · have := skipSomeDigits_lt h
          simp only [List.length_cons]; omega
        · have := skipSomeDigits_lt h
          simp only [List.length_cons] at *; omega
      · cases h
    · cases h; exact Nat.le_refl _

/-- Pass over what may follow the digits before the point. -/
def skipFraction : Bytes → Except Fault Bytes
  | [] => .ok []
  | b :: rest =>
    if b = 0x2e then
      match skipSomeDigits rest with
      | .error fault => .error fault
      | .ok rest => skipExponent rest
    else skipExponent (b :: rest)

theorem skipFraction_le {input rest : Bytes} (h : skipFraction input = .ok rest) :
    rest.length ≤ input.length := by
  unfold skipFraction at h
  split at h
  · cases h; exact Nat.le_refl _
  · split at h
    · split at h
      · cases h
      next heq =>
        have := skipSomeDigits_lt heq
        have := skipExponent_le h
        simp only [List.length_cons]; omega
    · exact skipExponent_le h

/-- Pass over a numeral after its sign. A zero in front must stand alone. -/
def skipNumeral : Bytes → Except Fault Bytes
  | [] => .error .malformed
  | b :: rest =>
    if b = 0x30 then
      match rest with
      | d :: _ => if isDigit d then .error .malformed else skipFraction rest
      | [] => .ok []
    else if isDigit b then skipFraction (skipDigits rest)
    else .error .malformed

theorem skipNumeral_lt {input rest : Bytes} (h : skipNumeral input = .ok rest) :
    rest.length < input.length := by
  unfold skipNumeral at h
  split at h
  · cases h
  · split at h
    · split at h
      · split at h
        · cases h
        · exact Nat.lt_succ_of_le (skipFraction_le h)
      · cases h; simp
    · split at h
      · exact Nat.lt_succ_of_le (Nat.le_trans (skipFraction_le h) (skipDigits_le _))
      · cases h

/-- Pass over the letters after a backslash. -/
def skipEscape : Bytes → Except Fault Bytes
  | [] => .error .truncated
  | b :: rest =>
    match escapedByte? b with
    | some _ => .ok rest
    | none =>
      if b = 0x75 then
        match unit rest with
        | .error fault => .error fault
        | .ok (_, rest) => .ok rest
      else .error .malformed

theorem skipEscape_lt {input rest : Bytes} (h : skipEscape input = .ok rest) :
    rest.length < input.length := by
  unfold skipEscape at h
  split at h
  · cases h
  · split at h
    · cases h; simp
    · split at h
      · split at h
        · cases h
        next heq =>
          cases h
          exact Nat.lt_succ_of_lt (unit_lt heq)
      · cases h

/-- Pass over a string whose opening quotation mark has been taken. -/
def skipString (input : Bytes) : Except Fault Bytes :=
  match input with
  | [] => .error .truncated
  | b :: rest =>
    if b = 0x22 then .ok rest
    else if b = 0x5c then
      match h : skipEscape rest with
      | .error fault => .error fault
      | .ok rest' =>
        have := skipEscape_lt h
        skipString rest'
    else if b < 0x20 then .error .malformed
    else skipString rest
termination_by input.length
decreasing_by all_goals (simp only [List.length_cons]; omega)

theorem skipString_lt (input : Bytes) {rest : Bytes} (h : skipString input = .ok rest) :
    rest.length < input.length := by
  fun_induction skipString input with
  | case1 => cases h
  | case2 => cases h; simp
  | case3 => cases h
  | case4 =>
    rename_i heq hlt ih
    have := ih h
    simp only [List.length_cons]; omega
  | case5 => cases h
  | case6 =>
    rename_i ih
    have := ih h
    simp only [List.length_cons]; omega

/-- The colon after a name, with what follows it. -/
def takeColon (input : Bytes) : Except Fault Bytes :=
  match skipBlanks input with
  | [] => .error .truncated
  | b :: rest => if b = 0x3a then .ok rest else .error .malformed

theorem takeColon_lt {input rest : Bytes} (h : takeColon input = .ok rest) :
    rest.length < input.length := by
  unfold takeColon at h
  have hle := skipBlanks_le input
  split at h
  · cases h
  next heq =>
    rw [heq] at hle
    simp only [List.length_cons] at hle
    split at h
    · cases h; omega
    · cases h

/-- Pass over a member's name and its colon. -/
def skipName (input : Bytes) : Except Fault Bytes :=
  match skipBlanks input with
  | [] => .error .truncated
  | b :: rest =>
    if b = 0x22 then
      match skipString rest with
      | .error fault => .error fault
      | .ok rest => takeColon rest
    else .error .malformed

theorem skipName_lt {input rest : Bytes} (h : skipName input = .ok rest) :
    rest.length < input.length := by
  unfold skipName at h
  have hle := skipBlanks_le input
  split at h
  · cases h
  next heq =>
    rw [heq] at hle
    simp only [List.length_cons] at hle
    split at h
    · split at h
      · cases h
      next heq' =>
        have := skipString_lt _ heq'
        have := takeColon_lt h
        omega
    · cases h

/-- The kind of bracket that is open. -/
inductive Bracket where
  | square
  | curly
  deriving DecidableEq, Repr

/-- The byte that closes a bracket. -/
def Bracket.closing : Bracket → UInt8
  | .square => 0x5d
  | .curly => 0x7d

/-- Pass over what precedes an element inside a bracket: a name and its colon in a curly one. -/
def Bracket.skipLabel : Bracket → Bytes → Except Fault Bytes
  | .square, input => .ok input
  | .curly, input => skipName input

theorem Bracket.skipLabel_le {bracket : Bracket} {input rest : Bytes}
    (h : bracket.skipLabel input = .ok rest) : rest.length ≤ input.length := by
  cases bracket with
  | square => cases h; exact Nat.le_refl _
  | curly => exact Nat.le_of_lt (skipName_lt h)

/-- Pass over a value without parts. -/
def skipScalar : Bytes → Except Fault Bytes
  | [] => .error .truncated
  | b :: rest =>
    if b = 0x22 then skipString rest
    else if b = 0x2d then skipNumeral rest
    else if isDigit b then skipNumeral (b :: rest)
    else if b = 0x6e then word [0x75, 0x6c, 0x6c] rest
    else if b = 0x74 then word [0x72, 0x75, 0x65] rest
    else if b = 0x66 then word [0x61, 0x6c, 0x73, 0x65] rest
    else .error .malformed

theorem skipScalar_lt {input rest : Bytes} (h : skipScalar input = .ok rest) :
    rest.length < input.length := by
  unfold skipScalar at h
  split at h
  · cases h
  · split at h
    · exact Nat.lt_succ_of_lt (skipString_lt _ h)
    · split at h
      · exact Nat.lt_succ_of_lt (skipNumeral_lt h)
      · split at h
        · exact skipNumeral_lt h
        · split at h
          · exact Nat.lt_succ_of_le (word_le h)
          · split at h
            · exact Nat.lt_succ_of_le (word_le h)
            · split at h
              · exact Nat.lt_succ_of_le (word_le h)
              · cases h

mutual

/-- Pass over a value and then over all that the open brackets still await. -/
def skipValue (brackets : List Bracket) (input : Bytes) : Except Fault Bytes :=
  match hb : skipBlanks input with
  | [] => .error .truncated
  | b :: rest =>
    have hle := skipBlanks_le input
    have : rest.length < input.length := by rw [hb] at hle; exact hle
    if b = 0x5b then skipFirst .square brackets rest
    else if b = 0x7b then skipFirst .curly brackets rest
    else
      match h : skipScalar (b :: rest) with
      | .error fault => .error fault
      | .ok rest' =>
        have : rest'.length < input.length := by
          have := skipScalar_lt h
          simp only [List.length_cons] at this
          omega
        skipAfter brackets rest'
termination_by 2 * input.length
decreasing_by all_goals omega

/-- After a bracket has been opened: it may be closed at once. -/
def skipFirst (bracket : Bracket) (outer : List Bracket) (input : Bytes) :
    Except Fault Bytes :=
  match hb : skipBlanks input with
  | [] => .error .truncated
  | b :: rest =>
    have hle := skipBlanks_le input
    have : rest.length < input.length := by rw [hb] at hle; exact hle
    if b = bracket.closing then skipAfter outer rest
    else
      match h : bracket.skipLabel (b :: rest) with
      | .error fault => .error fault
      | .ok rest' =>
        have : rest'.length ≤ input.length := by
          have := Bracket.skipLabel_le h
          simp only [List.length_cons] at this
          omega
        skipValue (bracket :: outer) rest'
termination_by 2 * input.length + 1
decreasing_by all_goals omega

/-- After a value: a comma and another, or the closing bracket. -/
def skipAfter (brackets : List Bracket) (input : Bytes) : Except Fault Bytes :=
  match brackets with
  | [] => .ok input
  | bracket :: outer =>
    match hb : skipBlanks input with
    | [] => .error .truncated
    | b :: rest =>
      have hle := skipBlanks_le input
      have : rest.length < input.length := by rw [hb] at hle; exact hle
      if b = 0x2c then
        match h : bracket.skipLabel rest with
        | .error fault => .error fault
        | .ok rest' =>
          have : rest'.length < input.length := by
            have := Bracket.skipLabel_le h
            omega
          skipValue (bracket :: outer) rest'
      else if b = bracket.closing then skipAfter outer rest
      else .error .malformed
termination_by 2 * input.length
decreasing_by all_goals omega

end

mutual

theorem skipValue_le (brackets : List Bracket) (input : Bytes) {out : Bytes}
    (h : skipValue brackets input = .ok out) : out.length ≤ input.length := by
  unfold skipValue at h
  have hle := skipBlanks_le input
  split at h
  · cases h
  next b rest hb =>
    have hlt : rest.length < input.length := by rw [hb] at hle; exact hle
    simp only at h
    split at h
    · exact Nat.le_trans (skipFirst_le .square brackets rest h) (Nat.le_of_lt hlt)
    · split at h
      · exact Nat.le_trans (skipFirst_le .curly brackets rest h) (Nat.le_of_lt hlt)
      · split at h
        · cases h
        next rest' hs =>
          have hs' : rest'.length < rest.length + 1 := skipScalar_lt hs
          have := skipAfter_le brackets rest' h
          omega
termination_by 2 * input.length

theorem skipFirst_le (bracket : Bracket) (outer : List Bracket) (input : Bytes) {out : Bytes}
    (h : skipFirst bracket outer input = .ok out) : out.length ≤ input.length := by
  unfold skipFirst at h
  have hle := skipBlanks_le input
  split at h
  · cases h
  next b rest hb =>
    have hlt : rest.length < input.length := by rw [hb] at hle; exact hle
    simp only at h
    split at h
    · exact Nat.le_trans (skipAfter_le outer rest h) (Nat.le_of_lt hlt)
    · split at h
      · cases h
      next rest' hs =>
        have hs' : rest'.length ≤ rest.length + 1 := Bracket.skipLabel_le hs
        have := skipValue_le (bracket :: outer) rest' h
        omega
termination_by 2 * input.length + 1

theorem skipAfter_le (brackets : List Bracket) (input : Bytes) {out : Bytes}
    (h : skipAfter brackets input = .ok out) : out.length ≤ input.length := by
  unfold skipAfter at h
  split at h
  · cases h; exact Nat.le_refl _
  next bracket outer =>
    have hle := skipBlanks_le input
    split at h
    · cases h
    next b rest hb =>
      have hlt : rest.length < input.length := by rw [hb] at hle; exact hle
      simp only at h
      split at h
      · split at h
        · cases h
        next rest' hs =>
          have hs' := Bracket.skipLabel_le hs
          have := skipValue_le (bracket :: outer) rest' h
          omega
      · split at h
        · exact Nat.le_trans (skipAfter_le outer rest h) (Nat.le_of_lt hlt)
        · cases h
termination_by 2 * input.length

end

end AssetCache.Json
