import AssetCache.Text.Decimal

/-!
# Words of TOML

Blanks, comments, strings, keys and scalars, each read off the front of a list of
characters: what was read and what is left, or nothing if it is not there.

Strings have four forms. Between quotation marks a backslash begins an escape;
between apostrophes every character stands for itself. Three marks on each side
let a string go over several lines: a line break right behind the opening marks
does not count, and a backslash at the end of a line takes away all blanks and
breaks that follow it.
-/

set_option autoImplicit false

namespace AssetCache.Toml

/-- Reads something off the front of a text. -/
abbrev Scan (α : Type) : Type := List Char → Option (α × List Char)

/-! ## Blanks and comments -/

/-- A blank within a line. -/
def isBlank (c : Char) : Bool := c == ' ' || c == '\t'

/-- What is left after the blanks in front. -/
def skipBlanks (text : List Char) : List Char := text.dropWhile isBlank

/-- Whether a character may stand in comments and strings as it is. -/
def isPlain (c : Char) : Bool := c == '\t' || (32 ≤ c.toNat && c.toNat != 127)

/-- A line break. -/
def lineBreak? : List Char → Option (List Char)
  | '\n' :: rest => some rest
  | '\r' :: '\n' :: rest => some rest
  | _ => none

/-- What is left after a comment, if there is one. -/
def skipComment : List Char → List Char
  | '#' :: rest => rest.dropWhile isPlain
  | text => text

/-- The end of a line: blanks, a comment, and a break or the end of the text. -/
def lineEnd? (text : List Char) : Option (List Char) :=
  match skipComment (skipBlanks text) with
  | [] => some []
  | rest => lineBreak? rest

/-- What is left after blanks, comments and breaks; a comment must end in a break. -/
def skipLines : Nat → List Char → Option (List Char)
  | 0, text => some text
  | fuel + 1, text =>
    match skipBlanks text with
    | '#' :: rest =>
      match lineBreak? (rest.dropWhile isPlain) with
      | some rest => skipLines fuel rest
      | none => none
    | rest =>
      match lineBreak? rest with
      | some rest => skipLines fuel rest
      | none => some rest

/-- Skip all blanks, comments and breaks in front. -/
def skipSpace (text : List Char) : Option (List Char) := skipLines (text.length + 1) text

/-! ## Strings -/

/-- The character of some hexadecimal digits, unless it is a surrogate or beyond the last one. -/
def codePoint? (digits : List Char) : Option Char :=
  let value? := fun (c : Char) =>
    let n := c.toNat
    if 48 ≤ n ∧ n ≤ 57 then some (n - 48)
    else if 65 ≤ n ∧ n ≤ 70 then some (n - 55)
    else if 97 ≤ n ∧ n ≤ 102 then some (n - 87)
    else none
  match digits.foldl (fun n c => n.bind fun n => (value? c).map (n * 16 + ·)) (some 0) with
  | some n => if n < 0xd800 ∨ 0xdfff < n ∧ n < 0x110000 then some (Char.ofNat n) else none
  | none => none

/-- The character that a letter after a backslash stands for. -/
def escape? : Char → Option Char
  | 'b' => some '\x08'
  | 't' => some '\t'
  | 'n' => some '\n'
  | 'f' => some '\x0c'
  | 'r' => some '\r'
  | '"' => some '"'
  | '\\' => some '\\'
  | _ => none

/-- Put a character in front of what is read. -/
def push (c : Char) : Option (List Char × List Char) → Option (List Char × List Char)
  | some (taken, rest) => some (c :: taken, rest)
  | none => none

/-- Put a character, if there is one, in front of what is read. -/
def push? (c : Option Char) (read : Option (List Char × List Char)) :
    Option (List Char × List Char) :=
  match c with
  | some c => push c read
  | none => none

/-- A string up to its closing quotation mark. -/
def basicRest : List Char → Option (List Char × List Char)
  | [] => none
  | '"' :: rest => some ([], rest)
  | '\\' :: 'u' :: a :: b :: c :: d :: rest => push? (codePoint? [a, b, c, d]) (basicRest rest)
  | '\\' :: 'U' :: a :: b :: c :: d :: e :: f :: g :: h :: rest =>
    push? (codePoint? [a, b, c, d, e, f, g, h]) (basicRest rest)
  | '\\' :: c :: rest => push? (escape? c) (basicRest rest)
  | c :: rest => if isPlain c && c != '\\' then push c (basicRest rest) else none

/-- A string up to its closing apostrophe. -/
def literalRest : List Char → Option (List Char × List Char)
  | [] => none
  | '\'' :: rest => some ([], rest)
  | c :: rest => if isPlain c then push c (literalRest rest) else none

/-- Up to two more marks before what follows the closing three belong to the string. -/
def closing (mark : Char) : List Char → List Char × List Char
  | a :: b :: rest =>
    if a = mark then if b = mark then ([mark, mark], rest) else ([mark], b :: rest)
    else ([], a :: b :: rest)
  | [a] => if a = mark then ([mark], []) else ([], [a])
  | [] => ([], [])

/-- Whether only blanks come before the next line break. -/
def endsLine (text : List Char) : Bool := (lineBreak? (skipBlanks text)).isSome

/-- A string of several lines up to its closing marks; blanks may be on their way out. -/
def longBasicRest (trimming : Bool) : List Char → Option (List Char × List Char)
  | [] => none
  | '"' :: '"' :: '"' :: rest => some (closing '"' rest)
  | '\\' :: 'u' :: a :: b :: c :: d :: rest =>
    push? (codePoint? [a, b, c, d]) (longBasicRest false rest)
  | '\\' :: 'U' :: a :: b :: c :: d :: e :: f :: g :: h :: rest =>
    push? (codePoint? [a, b, c, d, e, f, g, h]) (longBasicRest false rest)
  | '\\' :: c :: rest =>
    if endsLine (c :: rest) then longBasicRest true (c :: rest)
    else push? (escape? c) (longBasicRest false rest)
  | '\r' :: '\n' :: rest =>
    if trimming then longBasicRest true rest else push '\n' (longBasicRest false rest)
  | c :: rest =>
    if trimming && (isBlank c || c == '\n') then longBasicRest true rest
    else if c == '\n' || (isPlain c && c != '\\') then push c (longBasicRest false rest)
    else none

/-- A string of several lines up to its closing apostrophes. -/
def longLiteralRest : List Char → Option (List Char × List Char)
  | [] => none
  | '\'' :: '\'' :: '\'' :: rest => some (closing '\'' rest)
  | '\r' :: '\n' :: rest => push '\n' (longLiteralRest rest)
  | c :: rest => if c == '\n' || isPlain c then push c (longLiteralRest rest) else none

/-- What is left after a line break in front, if there is one. -/
def dropBreak (text : List Char) : List Char := (lineBreak? text).getD text

/-- A text that was read, as a string. -/
def toText : Option (List Char × List Char) → Option (String × List Char)
  | some (taken, rest) => some (String.ofList taken, rest)
  | none => none

/-- A string in any of its forms. -/
def string? : Scan String
  | '"' :: '"' :: '"' :: rest => toText (longBasicRest false (dropBreak rest))
  | '"' :: rest => toText (basicRest rest)
  | '\'' :: '\'' :: '\'' :: rest => toText (longLiteralRest (dropBreak rest))
  | '\'' :: rest => toText (literalRest rest)
  | _ => none

/-! ## Keys -/

/-- Whether a character may stand in a key without marks around it. -/
def isBare (c : Char) : Bool := c.isAlphanum || c == '_' || c == '-'

/-- One key. -/
def simpleKey? : Scan String
  | '"' :: rest => toText (basicRest rest)
  | '\'' :: rest => toText (literalRest rest)
  | text =>
    match text.takeWhile isBare with
    | [] => none
    | name => some (String.ofList name, text.dropWhile isBare)

/-- Keys with dots between them. -/
def dottedKey? : Nat → Scan (List String)
  | 0, _ => none
  | fuel + 1, text =>
    match simpleKey? (skipBlanks text) with
    | none => none
    | some (key, rest) =>
      match skipBlanks rest with
      | '.' :: rest => (dottedKey? fuel rest).map fun (keys, rest) => (key :: keys, rest)
      | rest => some ([key], rest)

/-- How deep keys and values may be nested. -/
def maxDepth : Nat := 80

/-- A key, which may be dotted. -/
def key? : Scan (List String) := dottedKey? (maxDepth - 1)

/-! ## Scalars -/

/-- Whether digits stand alone or with single underscores between them. -/
def isDigits (digit : Char → Bool) : List Char → Bool
  | [] => false
  | [c] => digit c
  | c :: '_' :: rest => digit c && isDigits digit rest
  | c :: rest => digit c && isDigits digit rest

/-- A text without its sign. -/
def dropSign : List Char → List Char
  | '+' :: rest => rest
  | '-' :: rest => rest
  | text => text

/-- Whether some digits are a decimal number without leading zeros. -/
def isDecimal (text : List Char) : Bool :=
  isDigits Char.isDigit text && (text.head? != some '0' || text.length == 1)

/-- The number of digits with underscores between them. -/
def numberOf (base : Nat) (text : List Char) : Nat :=
  text.foldl (fun n c =>
    if c = '_' then n
    else n * base + (if c.isDigit then c.toNat - 48 else c.toLower.toNat - 87)) 0

/-- Whether a character is a hexadecimal digit. -/
def isHex (c : Char) : Bool :=
  c.isDigit || ('a' ≤ c && c ≤ 'f') || ('A' ≤ c && c ≤ 'F')

/-- Whether a text is a whole number of sixty-four bits. -/
def isInteger (text : List Char) : Bool :=
  match text with
  | '0' :: 'x' :: digits => isDigits isHex digits && numberOf 16 digits < Nat.pow 2 63
  | '0' :: 'o' :: digits =>
    isDigits (fun c => '0' ≤ c && c ≤ '7') digits && numberOf 8 digits < Nat.pow 2 63
  | '0' :: 'b' :: digits =>
    isDigits (fun c => c == '0' || c == '1') digits && numberOf 2 digits < Nat.pow 2 63
  | '-' :: digits => isDecimal digits && numberOf 10 digits ≤ Nat.pow 2 63
  | _ => isDecimal (dropSign text) && numberOf 10 (dropSign text) < Nat.pow 2 63

/-- Whether a number in scientific form is too large for double precision. -/
def isHuge (digits : Nat) (exponent : Int) : Bool :=
  if digits = 0 then false
  else
    let size : Int := Nat.log2 digits + exponent * 33219 / 10000
    if size < 1000 then false
    else if 1100 < size then true
    else if 0 ≤ exponent then Nat.pow 2 1024 - Nat.pow 2 970 ≤ digits * Nat.pow 10 exponent.toNat
    else (Nat.pow 2 1024 - Nat.pow 2 970) * Nat.pow 10 (-exponent).toNat ≤ digits

/-- Whether an exponent stands behind its letter, and which. -/
def exponent? (text : List Char) : Option Int :=
  if isDigits Char.isDigit (dropSign text) then
    let n : Int := numberOf 10 (dropSign text)
    some (if text.head? = some '-' then -n else n)
  else none

/-- Whether a text is a number with a fraction or an exponent that is not too large. -/
def isFloat (text : List Char) : Bool :=
  let body := dropSign text
  if body = ['i', 'n', 'f'] ∨ body = ['n', 'a', 'n'] then true
  else
    let isMark := fun c => c == '.' || c == 'e' || c == 'E'
    let whole := body.takeWhile fun c => !isMark c
    let behind := body.dropWhile fun c => !isMark c
    let fraction := match behind with
      | '.' :: rest => rest.takeWhile fun c => !isMark c
      | _ => []
    let tail := match behind with
      | '.' :: rest => rest.dropWhile fun c => !isMark c
      | rest => rest
    let hasFraction := behind.head? = some '.'
    let scale? := match tail with
      | [] => if hasFraction then some 0 else none
      | mark :: rest => if mark == '.' then none else exponent? rest
    match scale? with
    | none => false
    | some scale =>
      isDecimal whole && (!hasFraction || isDigits Char.isDigit fraction) &&
        (text.head? = some '-' ||
          !isHuge (numberOf 10 (whole ++ fraction))
            (scale - (fraction.filter Char.isDigit).length))

/-- A number of so many digits. -/
def fixed? (count : Nat) (text : List Char) : Option (Nat × List Char) :=
  let digits := text.take count
  if digits.length = count ∧ digits.all Char.isDigit then
    some (numberOf 10 digits, text.drop count)
  else none

/-- What is left after a certain character. -/
def mark? (c : Char) : List Char → Option (List Char)
  | [] => none
  | d :: rest => if d = c then some rest else none

/-- How many days a month has. -/
def daysIn (year month : Nat) : Nat :=
  if month = 2 then
    if year % 4 = 0 ∧ (year % 100 ≠ 0 ∨ year % 400 = 0) then 29 else 28
  else if month = 4 ∨ month = 6 ∨ month = 9 ∨ month = 11 then 30
  else 31

/-- What is left after a date. -/
def date? (text : List Char) : Option (List Char) := do
  let (year, rest) ← fixed? 4 text
  let (month, rest) ← fixed? 2 (← mark? '-' rest)
  let (day, rest) ← fixed? 2 (← mark? '-' rest)
  if 1 ≤ month ∧ month ≤ 12 ∧ 1 ≤ day ∧ day ≤ daysIn year month then return rest else none

/-- What is left after a time of day. -/
def time? (text : List Char) : Option (List Char) := do
  let (hour, rest) ← fixed? 2 text
  let (minute, rest) ← fixed? 2 (← mark? ':' rest)
  let (second, rest) ← fixed? 2 (← mark? ':' rest)
  if hour ≤ 23 ∧ minute ≤ 59 ∧ second ≤ 60 then
    match rest with
    | '.' :: digits =>
      if digits.head?.any Char.isDigit then return digits.dropWhile Char.isDigit else none
    | rest => return rest
  else none

/-- Whether a text is an offset from universal time. -/
def isOffset (text : List Char) : Bool :=
  match text with
  | [c] => c == 'Z' || c == 'z'
  | sign :: rest =>
    (sign == '+' || sign == '-') &&
      match fixed? 2 rest with
      | some (hour, rest) =>
        match (mark? ':' rest).bind (fixed? 2) with
        | some (minute, rest) => hour ≤ 23 && minute ≤ 59 && rest.isEmpty
        | none => false
      | none => false
  | [] => false

/-- Whether a text is a time of day alone. -/
def isTime (text : List Char) : Bool :=
  match time? text with
  | some rest => rest.isEmpty
  | none => false

/-- Whether a text is a date, with or without a time of day and its offset. -/
def isDate (text : List Char) : Bool :=
  match date? text with
  | none => false
  | some [] => true
  | some (mark :: rest) =>
    (mark == 'T' || mark == 't' || mark == ' ') &&
      match time? rest with
      | none => false
      | some rest => rest.isEmpty || isOffset rest

/-- Whether a text is a scalar. -/
def isScalar (text : List Char) : Bool :=
  text == ['t', 'r', 'u', 'e'] || text == ['f', 'a', 'l', 's', 'e'] ||
    isInteger text || isFloat text || isDate text || isTime text

/-- Whether a character may stand in a scalar. -/
def isScalarChar (c : Char) : Bool :=
  c.isAlphanum || c == '+' || c == '-' || c == '_' || c == '.' || c == ':'

/-- What is left after a scalar; a date may have its time of day behind a blank. -/
def scalar? (text : List Char) : Option (List Char) :=
  let word := text.takeWhile isScalarChar
  let rest := text.dropWhile isScalarChar
  let long := match rest with
    | ' ' :: c :: _ => isDate word && c.isDigit
    | _ => false
  if long then
    let more := (rest.drop 1).takeWhile isScalarChar
    if isDate (word ++ ' ' :: more) then some ((rest.drop 1).dropWhile isScalarChar) else none
  else if isScalar word then some rest
  else none

end AssetCache.Toml
