import AssetCache.Text.Decimal
import AssetCache.Url.DomainName
import AssetCache.Url.Percent

/-!
# Hosts

A host is an IPv6 address in square brackets, an IPv4 address or a domain name. A
name whose last label is a number is an IPv4 address or nothing. IPv4 addresses
may have fewer than four parts, of which the last fills the rest, and parts may
be octal or hexadecimal. All are brought into one written form.

The host of a scheme that is not known to have web-like hosts is opaque: its
characters are only checked.
-/

set_option autoImplicit false

namespace AssetCache.Url

open Text (Decimal.digit? Decimal.chars)

/-- Why a text is not a URL. -/
inductive AddressError where
  | relative
  | emptyHost
  | domainName
  | domainCharacter
  | ipv4
  | ipv6
  | port
  deriving DecidableEq, Repr

namespace AddressError

/-- The wording of an error. -/
def message : AddressError → String
  | relative => "relative URL without a base"
  | emptyHost => "empty host"
  | domainName => "invalid international domain name"
  | domainCharacter => "invalid domain character"
  | ipv4 => "invalid IPv4 address"
  | ipv6 => "invalid IPv6 address"
  | port => "invalid port number"

end AddressError

namespace Host

/-! ## IPv4 -/

/-- Read digits of a base. -/
def digits? (base : Nat) (acc : Nat) : List Char → Option Nat
  | [] => some acc
  | c :: rest =>
    match Percent.hexValue? c with
    | some d => if d < base then digits? base (acc * base + d) rest else none
    | none => none

/-- The number of one part: hexadecimal behind `0x`, octal behind `0`; no digits are zero. -/
def ipv4Number? (part : List Char) : Option Nat :=
  match part with
  | [] => none
  | '0' :: 'x' :: digits => digits? 16 0 digits
  | '0' :: 'X' :: digits => digits? 16 0 digits
  | '0' :: c :: digits => digits? 8 0 (c :: digits)
  | digits => digits? 10 0 digits

/-- The labels of a name, without an empty one at the end. -/
def parts (name : List Char) : List (List Char) :=
  let labels := DomainName.labels name
  if labels.getLast? = some [] then labels.dropLast else labels

/-- Whether a name can only be an IPv4 address. -/
def endsInNumber (name : List Char) : Bool :=
  match (parts name).getLast? with
  | none => false
  | some last =>
    !last.isEmpty && last.all Char.isDigit ||
      (ipv4Number? last).isSome

/-- The address of some numbers, of which the last fills all places that are left. -/
def ipv4OfNumbers? (numbers : List Nat) : Option Nat :=
  match numbers.getLast? with
  | none => none
  | some last =>
    let leading := numbers.dropLast
    if 4 < numbers.length ∨ leading.any (255 < ·) ∨ Nat.pow 256 (4 - leading.length) ≤ last then none
    else some (leading.foldl (fun n d => n * 256 + d) 0 * Nat.pow 256 (4 - leading.length) + last)

/-- The IPv4 address that a name stands for. -/
def ipv4? (name : List Char) : Option Nat := do
  ipv4OfNumbers? (← (parts name).mapM ipv4Number?)

/-- An IPv4 address in four decimal parts. -/
def ipv4Chars (n : Nat) : List Char :=
  Decimal.chars (n / 16777216) ++ '.' :: Decimal.chars (n / 65536 % 256) ++
    '.' :: Decimal.chars (n / 256 % 256) ++ '.' :: Decimal.chars (n % 256)

/-! ## IPv6 -/

/-- Cut a text at its colons. -/
def pieces : List Char → List (List Char)
  | [] => [[]]
  | c :: rest =>
    match pieces rest with
    | [] => [[c]]
    | piece :: more => if c == ':' then [] :: piece :: more else (c :: piece) :: more

/-- A piece of one to four hexadecimal digits. -/
def hexPiece? (piece : List Char) : Option Nat :=
  if piece.isEmpty ∨ 4 < piece.length then none else digits? 16 0 piece

/-- A decimal number up to 255 without leading zeros. -/
def octet? (part : List Char) : Option Nat :=
  match part with
  | [] => none
  | '0' :: _ :: _ => none
  | _ => if 3 < part.length then none else (digits? 10 0 part).filter (· ≤ 255)

/-- The last piece: it may be an IPv4 address of four parts, which counts as two. -/
def lastPieces? (piece : List Char) : Option (List Nat) :=
  match (DomainName.labels piece).mapM octet? with
  | some [a, b, c, d] => some [a * 256 + b, c * 256 + d]
  | _ => (hexPiece? piece).map ([·])

/-- The numbers of the pieces of a text, which may be empty if that is said. -/
def numbers? (mayBeEmpty : Bool) (text : List Char) : Option (List Nat) :=
  if text.isEmpty then if mayBeEmpty then some [] else none
  else
    let all := pieces text
    match all.getLast? with
    | none => none
    | some last => do
      let leading ← all.dropLast.mapM hexPiece?
      return leading ++ (← lastPieces? last)

/-- The text before and behind the first double colon. -/
def cutDouble? : List Char → Option (List Char × List Char)
  | [] => none
  | ':' :: ':' :: rest => some ([], rest)
  | c :: rest => (cutDouble? rest).map fun (before, behind) => (c :: before, behind)

/-- The eight numbers of an IPv6 address. -/
def ipv6? (text : List Char) : Option (List Nat) :=
  match cutDouble? text with
  | none => do
    let numbers ← numbers? false text
    if numbers.length = 8 then some numbers else none
  | some (before, behind) => do
    let leading ← if before.isEmpty then some [] else (pieces before).mapM hexPiece?
    let trailing ← numbers? true behind
    if leading.length + trailing.length ≤ 7 then
      some (leading ++ List.replicate (8 - leading.length - trailing.length) 0 ++ trailing)
    else none

/-- A number in hexadecimal. -/
def hexChars (n : Nat) : List Char := Nat.toDigits 16 n

/-- How many zeros stand in front. -/
def zeros : List Nat → Nat
  | 0 :: rest => zeros rest + 1
  | _ => 0

/-- The length of the longest run of zeros. -/
def longestZeros : List Nat → Nat
  | [] => 0
  | n :: rest => max (zeros (n :: rest)) (longestZeros rest)

/-- Numbers in hexadecimal with colons between them. -/
def hexPieces (numbers : List Nat) : List Char := List.intercalate [':'] (numbers.map hexChars)

/-- The numbers before the first run of so many zeros, and those behind it. -/
def cutZeros (count : Nat) : List Nat → List Nat × List Nat
  | [] => ([], [])
  | n :: rest =>
    if zeros (n :: rest) = count then ([], (n :: rest).drop count)
    else
      let (before, behind) := cutZeros count rest
      (n :: before, behind)

/-- An IPv6 address: the first of the longest runs of two zeros or more becomes a double colon. -/
def ipv6Chars (numbers : List Nat) : List Char :=
  let count := longestZeros numbers
  if count < 2 then hexPieces numbers
  else
    let (before, behind) := cutZeros count numbers
    hexPieces before ++ ':' :: ':' :: hexPieces behind

/-! ## Hosts -/

/-- The text between square brackets, if a text ends in one. -/
def unbracket? (text : List Char) : Option (List Char) :=
  if text.getLast? = some ']' then some text.dropLast else none

/-- The written form of the host behind an opening bracket. -/
def bracketed (text : List Char) : Except AddressError (List Char) :=
  match (unbracket? text).bind ipv6? with
  | some numbers => .ok ('[' :: ipv6Chars numbers ++ [']'])
  | none => .error .ipv6

/-- The written form of a host that is a domain name or an IPv4 address. -/
def named (text : List Char) : Except AddressError (List Char) :=
  match (Bytes.text? (Percent.decode text)).bind fun name => DomainName.toAscii? name.toList with
  | none => .error .domainName
  | some name =>
    if name.isEmpty then .error .emptyHost
    else if endsInNumber name then
      match ipv4? name with
      | some n => .ok (ipv4Chars n)
      | none => .error .ipv4
    else .ok name

/-- The written form of a host. -/
def normalize : List Char → Except AddressError (List Char)
  | '[' :: text => bracketed text
  | text => named text

/-- What an opaque host may not hold. -/
def opaqueForbidden : List Char :=
  [Char.ofNat 0, ' ', '#', '/', ':', '<', '>', '?', '@', '[', '\\', ']', '^', '|']

/-- Check an opaque host. -/
def checkOpaque : List Char → Except AddressError Unit
  | '[' :: text => (bracketed text).map fun _ => ()
  | text => if text.any opaqueForbidden.contains then .error .domainCharacter else .ok ()

end Host

end AssetCache.Url
