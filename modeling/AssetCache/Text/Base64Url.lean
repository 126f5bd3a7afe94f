import AssetCache.Bytes

/-!
# URL-safe base64 without padding

Every three bytes become four digits of an alphabet that is legal in file names
and in URLs; one or two bytes at the end become two or three digits. Reading is
strict: no padding, no foreign character, and the unused low bits of the last
digit must be zero, so each byte string has exactly one written form.
-/

set_option autoImplicit false

namespace AssetCache.Text.Base64Url

open AssetCache

/-- The digit of a six-bit number. -/
def digit (n : Nat) : Char :=
  if n < 26 then Char.ofNat (n + 65)
  else if n < 52 then Char.ofNat (n + 71)
  else if n < 62 then Char.ofNat (n - 4)
  else if n = 62 then '-'
  else '_'

/-- The six-bit number of a digit. -/
def value? (c : Char) : Option Nat :=
  if 65 ≤ c.toNat ∧ c.toNat ≤ 90 then some (c.toNat - 65)
  else if 97 ≤ c.toNat ∧ c.toNat ≤ 122 then some (c.toNat - 71)
  else if 48 ≤ c.toNat ∧ c.toNat ≤ 57 then some (c.toNat + 4)
  else if c = '-' then some 62
  else if c = '_' then some 63
  else none

/-- The digits of a byte string. -/
def digits : Bytes → List Char
  | a :: b :: c :: rest =>
    let n := a.toNat * 65536 + b.toNat * 256 + c.toNat
    digit (n / 262144) :: digit (n / 4096 % 64) :: digit (n / 64 % 64) :: digit (n % 64) ::
      digits rest
  | [a, b] =>
    let n := a.toNat * 256 + b.toNat
    [digit (n / 1024), digit (n / 16 % 64), digit (n % 16 * 4)]
  | [a] => [digit (a.toNat / 4), digit (a.toNat % 4 * 16)]
  | [] => []

/-- The byte string of some digits, if they are the digits of one. -/
def bytes? : List Char → Option Bytes
  | a :: b :: c :: d :: rest => do
    let n := (← value? a) * 262144 + (← value? b) * 4096 + (← value? c) * 64 + (← value? d)
    return UInt8.ofNat (n / 65536) :: UInt8.ofNat (n / 256) :: UInt8.ofNat n :: (← bytes? rest)
  | [a, b, c] => do
    let n := (← value? a) * 4096 + (← value? b) * 64 + (← value? c)
    if n % 4 = 0 then return [UInt8.ofNat (n / 1024), UInt8.ofNat (n / 4)] else none
  | [a, b] => do
    let n := (← value? a) * 64 + (← value? b)
    if n % 16 = 0 then return [UInt8.ofNat (n / 16)] else none
  | [_] => none
  | [] => some []

/-- A text as the digits of its UTF-8 bytes. -/
def encode (text : String) : String := String.ofList (digits (Bytes.ofText text))

/-- The text that some digits stand for, if they are the digits of one. -/
def decode? (written : String) : Option String := (bytes? written.toList).bind Bytes.text?

/-! ## Reading back -/

theorem value?_digit : ∀ n : Nat, n < 64 → value? (digit n) = some n := by
  decide

theorem bytes?_digits : ∀ bytes : Bytes, bytes? (digits bytes) = some bytes
  | [] => rfl
  | [a] => by
    have ha := a.toNat_lt
    have h1 : a.toNat / 4 < 64 := by omega
    have h2 : a.toNat % 4 * 16 < 64 := by omega
    have hn : (a.toNat / 4 * 64 + a.toNat % 4 * 16) % 16 = 0 := by omega
    have hv : (a.toNat / 4 * 64 + a.toNat % 4 * 16) / 16 = a.toNat := by omega
    simp only [digits, bytes?, value?_digit _ h1, value?_digit _ h2, Option.bind_eq_bind,
      Option.bind_some, hn, hv, if_true, UInt8.ofNat_toNat]
    rfl
  | [a, b] => by
    have ha := a.toNat_lt
    have hb := b.toNat_lt
    obtain ⟨n, hn⟩ : ∃ n, n = a.toNat * 256 + b.toNat := ⟨_, rfl⟩
    have h1 : n / 1024 < 64 := by omega
    have h2 : n / 16 % 64 < 64 := by omega
    have h3 : n % 16 * 4 < 64 := by omega
    have hm : (n / 1024 * 4096 + n / 16 % 64 * 64 + n % 16 * 4) % 4 = 0 := by omega
    have hx : (n / 1024 * 4096 + n / 16 % 64 * 64 + n % 16 * 4) / 1024 = a.toNat := by omega
    have hy : (n / 1024 * 4096 + n / 16 % 64 * 64 + n % 16 * 4) / 4 = n := by omega
    have hz : UInt8.ofNat n = b := by
      apply UInt8.toNat_inj.mp
      simp only [UInt8.toNat_ofNat']
      omega
    simp only [digits, bytes?, ← hn, value?_digit _ h1, value?_digit _ h2, value?_digit _ h3,
      Option.bind_eq_bind, Option.bind_some, hm, hx, hy, hz, if_true, UInt8.ofNat_toNat]
    rfl
  | a :: b :: c :: rest => by
    have ha := a.toNat_lt
    have hb := b.toNat_lt
    have hc := c.toNat_lt
    obtain ⟨n, hn⟩ : ∃ n, n = a.toNat * 65536 + b.toNat * 256 + c.toNat := ⟨_, rfl⟩
    have h1 : n / 262144 < 64 := by omega
    have h2 : n / 4096 % 64 < 64 := by omega
    have h3 : n / 64 % 64 < 64 := by omega
    have h4 : n % 64 < 64 := by omega
    have hm : n / 262144 * 262144 + n / 4096 % 64 * 4096 + n / 64 % 64 * 64 + n % 64 = n := by
      omega
    have hx : n / 65536 = a.toNat := by omega
    have hy : UInt8.ofNat (n / 256) = b := by
      apply UInt8.toNat_inj.mp
      simp only [UInt8.toNat_ofNat']
      omega
    have hz : UInt8.ofNat n = c := by
      apply UInt8.toNat_inj.mp
      simp only [UInt8.toNat_ofNat']
      omega
    simp only [digits, bytes?, ← hn, value?_digit _ h1, value?_digit _ h2, value?_digit _ h3,
      value?_digit _ h4, Option.bind_eq_bind, Option.bind_some, hm, hx, hy, hz,
      UInt8.ofNat_toNat, bytes?_digits rest]
    rfl

/-- A written text is read back. -/
@[simp] theorem decode?_encode (text : String) : decode? (encode text) = some text := by
  simp [decode?, encode, bytes?_digits]

theorem encode_injective {left right : String} (h : encode left = encode right) :
    left = right := by
  have := congrArg decode? h
  simpa using this

end AssetCache.Text.Base64Url
