import AssetCache.Rounding

/-!
# Decimal numerals

Whole numbers are written in decimal with no leading zero and, below zero, a
minus sign in front. A fixed number of places is written by first rounding the
exact quotient to the nearest multiple of the last place, a half going to the
even neighbour.
-/

set_option autoImplicit false

namespace AssetCache.Text.Decimal

/-- The decimal digits of a number. -/
def chars (n : Nat) : List Char := Nat.toDigits 10 n

/-- The decimal numeral of a number. -/
def ofNat (n : Nat) : String := String.ofList (chars n)

/-- The decimal digits of a whole number, with a minus sign below zero. -/
def intChars : Int → List Char
  | .ofNat n => chars n
  | .negSucc n => '-' :: chars (n + 1)

/-- The number a digit stands for. -/
def digit? (c : Char) : Option Nat :=
  if 48 ≤ c.toNat ∧ c.toNat ≤ 57 then some (c.toNat - 48) else none

/-- Read digits onto a number already read. -/
def foldDigits? (acc : Nat) : List Char → Option Nat
  | [] => some acc
  | c :: rest => (digit? c).bind fun d => foldDigits? (acc * 10 + d) rest

/-- The number some digits stand for; none if there is no digit or a foreign character. -/
def toNat? (text : String) : Option Nat :=
  if text.toList.isEmpty then none else foldDigits? 0 text.toList

/-- A quotient in decimal with two places. -/
def hundredths (num den : Nat) : String :=
  let n := Rounding.roundDiv (num * 100) den
  String.ofList (chars (n / 100) ++ '.' :: chars (n / 10 % 10) ++ chars (n % 10))

end AssetCache.Text.Decimal
