import AssetCache.Unicode.CombiningClass
import AssetCache.Unicode.Composition

/-!
# The composed normal form

A text may spell one letter in several ways: as one character, or as a letter
with marks behind it in several orders. The composed normal form takes every
character apart, brings the marks of each letter into the order of their
combining classes, and composes what can be composed.
-/

set_option autoImplicit false

namespace AssetCache.Unicode

/-! ## Taking apart -/

/-- The two parts of a composed character, by a table of composed characters. -/
def parts? (n : Nat) : Option (Nat × Nat) :=
  match compositions.find? fun run => run.first == n with
  | some ⟨_, _, [a, b]⟩ => some (a, b)
  | _ => none

/-- Whether a code point is a syllable of Hangul. -/
def isSyllable (n : Nat) : Bool := 0xac00 ≤ n && n < 0xd7a4

/-- The letters of a syllable of Hangul. -/
def syllableLetters (n : Nat) : List Nat :=
  let i := n - 0xac00
  let final := i % 28
  [0x1100 + i / 588, 0x1161 + i % 588 / 28] ++ if final = 0 then [] else [0x11a7 + final]

/-- A code point with its composed parts taken apart. -/
def decompose (n : Nat) : List Nat :=
  if isSyllable n then syllableLetters n
  else
    match parts? n with
    | some (a, b) => if a < n then decompose a ++ [b] else [a, b]
    | none => [n]
termination_by n

/-! ## Order of marks -/

/-- The combining class of a code point. -/
def classOf (n : Nat) : Nat := combiningClass (Char.ofNat n)

/-- Put a mark in front of those marks before it, nearest first, that have a higher class. -/
def placeMark (mark : Nat) : List Nat → List Nat
  | [] => [mark]
  | n :: before =>
    if classOf mark < classOf n then n :: placeMark mark before else mark :: n :: before

/-- Bring the marks of each letter into the order of their classes. -/
def orderMarks (before : List Nat) : List Nat → List Nat
  | [] => before.reverse
  | n :: rest =>
    if classOf n = 0 then orderMarks (n :: before) rest else orderMarks (placeMark n before) rest

/-! ## Composing -/

/-- The character composed of two, if there is one. -/
def composite? (a b : Nat) : Option Nat :=
  if 0x1100 ≤ a ∧ a < 0x1113 ∧ 0x1161 ≤ b ∧ b < 0x1176 then
    some (0xac00 + ((a - 0x1100) * 21 + (b - 0x1161)) * 28)
  else if isSyllable a ∧ (a - 0xac00) % 28 = 0 ∧ 0x11a7 < b ∧ b < 0x11c3 then
    some (a + (b - 0x11a7))
  else (compositions.find? fun run => run.values == [a, b]).map Run.first

/-- Compose onto a letter: the marks passed over, nearest first, are of ascending class. -/
def composeFrom (letter : Nat) (passed : List Nat) : List Nat → List Nat
  | [] => letter :: passed.reverse
  | n :: rest =>
    let blocked := match passed with
      | [] => false
      | mark :: _ => decide (classOf n ≤ classOf mark)
    match if blocked then none else composite? letter n with
    | some composed => composeFrom composed passed rest
    | none =>
      if classOf n = 0 then letter :: passed.reverse ++ composeFrom n [] rest
      else composeFrom letter (n :: passed) rest

/-- Compose what can be composed. -/
def compose : List Nat → List Nat
  | [] => []
  | n :: rest => if classOf n = 0 then composeFrom n [] rest else n :: compose rest

/-- The composed normal form of a text. -/
def normalForm (text : List Char) : List Char :=
  (compose (orderMarks [] (text.flatMap fun c => decompose c.toNat))).map Char.ofNat

end AssetCache.Unicode
