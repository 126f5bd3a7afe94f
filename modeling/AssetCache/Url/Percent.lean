import AssetCache.Bytes

/-!
# Percent-encoding

A byte that may not stand in a part of a URL is written as a percent sign and two
upper-case hexadecimal digits. Which bytes those are differs between the parts;
bytes of control characters and beyond ASCII are always among them.
-/

set_option autoImplicit false

namespace AssetCache.Url.Percent

/-- An upper-case hexadecimal digit. -/
def hexDigit (n : Nat) : Char := if n < 10 then Char.ofNat (n + 48) else Char.ofNat (n + 55)

/-- The number of a hexadecimal digit of either case. -/
def hexValue? (c : Char) : Option Nat :=
  let n := c.toNat
  if 48 ≤ n ∧ n ≤ 57 then some (n - 48)
  else if 65 ≤ n ∧ n ≤ 70 then some (n - 55)
  else if 97 ≤ n ∧ n ≤ 102 then some (n - 87)
  else none

/-- Encode the bytes of a character unless it may stand as it is. -/
def encodeChar (escaped : List Char) (c : Char) : List Char :=
  if c.toNat < 32 ∨ 126 < c.toNat ∨ escaped.contains c then
    (String.utf8EncodeChar c).flatMap fun b =>
      ['%', hexDigit (b.toNat / 16), hexDigit (b.toNat % 16)]
  else [c]

/-- Encode a text of which some characters may not stand as they are. -/
def encode (escaped : List Char) (text : List Char) : List Char :=
  text.flatMap (encodeChar escaped)

/-- The bytes of a text in which percent signs before two digits are decoded. -/
def decode : List Char → Bytes
  | [] => []
  | '%' :: a :: b :: rest =>
    match hexValue? a, hexValue? b with
    | some x, some y => UInt8.ofNat (x * 16 + y) :: decode rest
    | _, _ => 0x25 :: decode (a :: b :: rest)
  | c :: rest => String.utf8EncodeChar c ++ decode rest

/-- What a path may not hold. -/
def pathSet : List Char := [' ', '"', '<', '>', '\x60', '#', '?', '\x7b', '\x7d']

/-- What the query of a web address may not hold. -/
def querySet : List Char := [' ', '"', '#', '<', '>', Char.ofNat 39]

/-- What a fragment may not hold. -/
def fragmentSet : List Char := [' ', '"', '<', '>', '\x60']

end AssetCache.Url.Percent
