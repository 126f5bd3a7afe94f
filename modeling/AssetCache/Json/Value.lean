import AssetCache.Table
import AssetCache.Text.Decimal

/-!
# JSON values and their two written forms

A value keeps the members of an object in the order in which they are written,
and may hold one name twice: a log line does. The compact form has no blanks. The
wide form puts every element on a line of its own, two blanks deeper than its
bracket; an empty array or object stays closed up.

In a string the quotation mark, the backslash and the control characters below
U+0020 are escaped; every other character stands for itself.
-/

set_option autoImplicit false

namespace AssetCache

/-- A JSON value whose numbers are whole. -/
inductive Json where
  | null
  | bool (value : Bool)
  | num (value : Int)
  | str (value : String)
  | arr (items : List Json)
  | obj (members : List (String × Json))

namespace Json

instance : Inhabited Json := ⟨null⟩

/-- A list of texts. -/
def strings (texts : List String) : Json := .arr (texts.map .str)

/-- A natural number. -/
def nat (n : Nat) : Json := .num n

/-- The members of a table, in its order. -/
def ofTable (table : Table Json) : Json := .obj table.entries

/-! ## Strings -/

/-- The lower-case hexadecimal digit of a number below sixteen. -/
def hexDigit (n : Nat) : Char :=
  if n < 10 then Char.ofNat (n + 48) else Char.ofNat (n + 87)

/-- A character as it is written inside a string. -/
def escape (c : Char) : List Char :=
  if c = '"' then ['\\', '"']
  else if c = '\\' then ['\\', '\\']
  else if c = '\x08' then ['\\', 'b']
  else if c = '\x0c' then ['\\', 'f']
  else if c = '\n' then ['\\', 'n']
  else if c = '\r' then ['\\', 'r']
  else if c = '\t' then ['\\', 't']
  else if c.toNat < 32 then
    ['\\', 'u', '0', '0', hexDigit (c.toNat / 16), hexDigit (c.toNat % 16)]
  else [c]

/-- A text between quotation marks. -/
def quoted (text : String) : List Char := '"' :: text.toList.flatMap escape ++ ['"']

/-! ## The compact form -/

mutual

/-- A value without blanks. -/
def chars : Json → List Char
  | .null => ['n', 'u', 'l', 'l']
  | .bool true => ['t', 'r', 'u', 'e']
  | .bool false => ['f', 'a', 'l', 's', 'e']
  | .num n => Text.Decimal.intChars n
  | .str s => quoted s
  | .arr items => '[' :: itemChars items ++ [']']
  | .obj members => '\x7b' :: memberChars members ++ ['\x7d']

/-- Array items with commas between them. -/
def itemChars : List Json → List Char
  | [] => []
  | [item] => item.chars
  | item :: rest => item.chars ++ ',' :: itemChars rest

/-- Object members with commas between them. -/
def memberChars : List (String × Json) → List Char
  | [] => []
  | [(name, value)] => quoted name ++ ':' :: value.chars
  | (name, value) :: rest => quoted name ++ ':' :: value.chars ++ ',' :: memberChars rest

end

/-- The compact form as text. -/
def compact (value : Json) : String := String.ofList value.chars

/-! ## The wide form -/

/-- A line break and the blanks of a depth. -/
def lineBreak (depth : Nat) : List Char := '\n' :: List.replicate (2 * depth) ' '

mutual

/-- A value whose elements stand on lines of their own. -/
def wideChars (depth : Nat) : Json → List Char
  | .arr (item :: rest) => '[' :: wideItems (depth + 1) (item :: rest) ++ lineBreak depth ++ [']']
  | .obj (member :: rest) =>
    '\x7b' :: wideMembers (depth + 1) (member :: rest) ++ lineBreak depth ++ ['\x7d']
  | .arr [] => ['[', ']']
  | .obj [] => ['\x7b', '\x7d']
  | .null => chars .null
  | .bool b => chars (.bool b)
  | .num n => chars (.num n)
  | .str s => chars (.str s)

/-- Array items, each on its line, with commas at the ends of lines. -/
def wideItems (depth : Nat) : List Json → List Char
  | [] => []
  | [item] => lineBreak depth ++ item.wideChars depth
  | item :: rest => lineBreak depth ++ item.wideChars depth ++ ',' :: wideItems depth rest

/-- Object members, each on its line, with commas at the ends of lines. -/
def wideMembers (depth : Nat) : List (String × Json) → List Char
  | [] => []
  | [(name, value)] => lineBreak depth ++ quoted name ++ ':' :: ' ' :: value.wideChars depth
  | (name, value) :: rest =>
    lineBreak depth ++ quoted name ++ ':' :: ' ' :: value.wideChars depth ++
      ',' :: wideMembers depth rest

end

/-- The wide form as text. -/
def wide (value : Json) : String := String.ofList (value.wideChars 0)

end Json

end AssetCache
