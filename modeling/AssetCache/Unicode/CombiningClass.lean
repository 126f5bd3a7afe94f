import AssetCache.Unicode.Run

/-!
# Combining classes

Marks of different combining classes may be reordered without a change of
meaning; a character of class zero starts a new combination.
-/

set_option autoImplicit false

namespace AssetCache.Unicode

/-- The combining classes of characters. -/
def combiningClasses : List Run :=
  Run.table [
    "0C0 o0C76 lC78 1C6s 4C78 1C6o 1C6s 5C6a 2C6s 4C6a 2C6s bC1 5C6s 4C76 aC6s 3C76 3C6s 3C76",
    "3C6s 4C76 1C78 1C6s 2C76 1C79 1C7a 2C79 1C7a 2C79 1C76 eC0 8iC76 5C0 89C6s 1C76 4C6s 1C76",
    "3C6u 1C6s 1C76 6C6s 6C76 2C6s 1C76 2C6u 1C74 1C76 1Ca 1Cb 1Cc 1Cd 1Ce 1Cf 1Cg 1Ch 1Ci 1Cj",
    "2Ck 1Cl 1Cm 1C0 1Cn 1C0 1Co 1Cp 1C0 1C76 1C6s 1C0 1Ci 9C0 20C76 8Cu 1Cv 1C10 1C0 1gCr 1Cs",
    "1Ct 1Cu 1Cv 1C10 1C11 1C12 1C76 2C6s 2C76 5C6s 1C76 2C6s 1C0 gC13 1C0 35C76 8C0 1C76 4C6s",
    "1C76 1C0 2C76 2C0 1C6s 1C76 2C6s 1C0 13C14 1C0 uC76 1C6s 1C76 2C6s 1C76 2C6s 3C76 1C6s 2C76",
    "1C6s 1C76 3C6s 1C76 1C6s 1C76 1C6s 1C76 1C6s 1C76 4C0 4uC76 7C6s 1C76 1C0 9C6s 1C0 oC76 4C0",
    "1C76 9C0 1C76 3C0 1C76 7C0 19C6s 5C0 1qC76 1C6s 3C76 4C0 1aC76 5C6s 5C76 fC6s 1C76 2C6s 1C76",
    "2C6s 1C76 3C6s 3Cr 1Cs 1Ct 1C76 3C6s 1C76 2C6s 2C76 5C0 1sC7 1C0 gC9 1C0 3C76 1C6s 1C76 2C0",
    "37C7 1C0 gC9 1C0 1gC76 3C0 1rC7 2C0 fC9 4C0 3bC7 1C0 gC9 3C0 3cC7 1C0 gC9 8C0 3oC9 3C0 3cC7",
    "1C0 gC9 8C2k 1C2r 2C0 34C7 1C0 gC9 8C0 36C9 2C0 gC9 1C0 3sC9 5C0 39C37 2C9 5C0 9C3b 4C0",
    "3cC3m 2C9 1C0 dC3q 4C0 2cC6s 2C0 rC6s 1C0 1C6s 1C0 1C6o 1C0 1nC41 1C42 2C44 6C42 4C0 2C42",
    "2C76 2C9 1C0 1C76 2C0 1uC6s 1C0 3gC7 1C0 1C9 2C0 2iC6s 1C0 mfC76 3C0 tkC9 bC0 lC9 1C0 4tC9",
    "1C0 aC76 3C0 69C74 1C0 4fC6u 1C76 1C6s 5C0 6nC76 1C6s 1C0 27C9 1C0 kC76 aC6s 1C0 1gC76 5C6s",
    "6C76 2C6s 1C0 1C6s 2C76 2C6s 2C76 5C6s 1C76 4C0 35C7 1C0 fC9 1C0 16C76 1C6s 1C76 7C0 1mC9",
    "2C0 1qC7 1C0 bC9 aC0 1rC7 4C0 4lC76 3C0 1C1 1C6s 5C76 2C6s 4C76 1C0 1C1 7C0 4C6s 1C0 6C76",
    "1C0 3C76 2C0 66C76 2C6s 1C76 7C6s 1C76 2C7a 1C6m 1C6s 1C6a 1C76 15C78 1C74 2C6s 1C6q 1C76",
    "1C79 1C6s 1C76 1C6s 2C0 mfC76 2C1 2C76 4C1 3C76 2C0 4C76 1C0 3C1 2C76 1C6s 1C76 1C1 2C6s",
    "4C76 kC0 2vbC76 4C0 4cC9 1C0 30C76 10C0 haC6q 1C74 1C78 1C6u 1C70 2C0 39C8 4C0 teiC76 1C0",
    "4C76 aC0 10C76 2C0 2gC76 2C0 8kC9 1C0 15C9 4C0 4kC9 1C0 rC76 iC0 1pC6s 3C0 15C9 cC0 2kC7 1C0",
    "cC9 1C0 7fC76 1C0 1C76 2C6s 1C0 2C76 2C0 5C76 2C0 1C76 1C0 1kC9 bC0 7cC9 3C0 jpeCq 4kC0",
    "jeC76 7C6s 7C76 nC0 toC6s 43C0 30C6s 1C0 4lC76 aC0 1kdC6s 1C0 1C76 1C0 18C76 1C1 1C6s 5C9",
    "1C0 55C76 1C6s 5C0 hpC76 cC0 brC76 2C0 2gC6s 3C0 26C6s 2C76 3C6s 1C76 1C6s 4C0 1hC76 1C6s",
    "1C76 1C6s 1C0 60C9 1C0 19C9 1C0 eC9 1C0 1pC9 1C7 1C0 25C76 3C0 1gC9 3C0 1tC7 1C0 2cC9 1C0",
    "9C7 1C0 3aC9 1C7 1C0 5iC7 1C9 6C0 2bC7 2C0 gC9 3C0 mC76 qC0 62C9 1C0 3C7 1C0 nC76 1C0 33C9",
    "1C7 1C0 7rC9 1C7 1C0 3uC9 1C0 3mC9 1C7 1C0 3jC9 5C0 89C9 1C7 1C0 82C9 2C0 4C7 1C0 4sC9 1C0",
    "2jC9 1C0 iC9 9C0 29C9 1C0 d5C9 1C0 82C7 1C0 1C9 2C0 2hC9 1C0 d9C9 2C0 itdC1 5C0 1rC76 7C0",
    "15pC6 2C0 j5cC1 1C0 566C6o 2C1 3C0 3C72 1C6o dC6s 8C0 2C76 5C6s 2C0 uC76 4C0 4kC76 3C0",
    "3drC76 80C0 1gC76 7C0 bnC76 iC0 1cC76 4C0 fsC78 2C6s 1C76 1C0 v0C6s 2iC0 12C76 6C7 1C0"]

/-- The combining class of a character. -/
def combiningClass (c : Char) : Nat :=
  match Run.find? c.toNat combiningClasses with
  | some run => run.values.headD 0
  | none => 0

end AssetCache.Unicode
