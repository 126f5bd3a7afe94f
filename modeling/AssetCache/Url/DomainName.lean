import AssetCache.Unicode.BidiClass
import AssetCache.Unicode.HostMapping
import AssetCache.Unicode.JoiningType
import AssetCache.Unicode.Mark
import AssetCache.Unicode.Normal
import AssetCache.Url.Punycode

/-!
# International domain names

A domain name is brought into one ASCII form. Its characters are mapped and the
result is brought into the composed normal form; then each label between dots is
checked, and a label beyond ASCII is written in Punycode behind `xn--`. A label
that comes in Punycode already is decoded and must stand the same checks.

A label must not begin with a combining mark, may hold joiners only where the
script needs them, and where any label runs from right to left every label must
be unambiguous in its direction. Hyphens and the lengths of labels are free.
-/

set_option autoImplicit false

namespace AssetCache.Url.DomainName

open AssetCache.Unicode

/-- ASCII characters that may not stand in a domain name. -/
def isForbidden (c : Char) : Bool :=
  c.toNat ≤ 32 || c.toNat == 127 || "%#/:<>?@[\\]^|".toList.contains c

/-! ## Joiners -/

/-- The non-joiner, U+200C. -/
def nonJoiner : Char := Char.ofNat 0x200c

/-- The joiner, U+200D. -/
def joiner : Char := Char.ofNat 0x200d

/-- Whether the nearest character that is not passed through joins on a given side. -/
def joinsOn (side : Char) (nearestFirst : List Char) : Bool :=
  match nearestFirst.dropWhile fun c => joiningType c == 'T' with
  | [] => false
  | c :: _ => joiningType c == side || joiningType c == 'D'

/-- Whether the character before is one that suppresses a vowel. -/
def followsVirama : List Char → Bool
  | [] => false
  | c :: _ => combiningClass c == 9

/-- Whether each joiner stands where the script needs it; what comes before is nearest first. -/
def joinersFit (before : List Char) : List Char → Bool
  | [] => true
  | c :: rest =>
    (if c == joiner then followsVirama before
      else if c == nonJoiner then
        followsVirama before || (joinsOn 'L' before && joinsOn 'R' rest)
      else true) && joinersFit (c :: before) rest

/-! ## Direction -/

/-- Whether a character makes its domain name one that runs from right to left. -/
def isRightToLeft (c : Char) : Bool := "RAN".toList.contains (bidiClass c)

/-- Whether the last character that is no mark is of one of some classes. -/
def endsIn (classes : List Char) (label : List Char) : Bool :=
  match label.reverse.dropWhile fun c => bidiClass c == 'M' with
  | [] => false
  | c :: _ => classes.contains (bidiClass c)

/-- Whether a label is unambiguous in its direction. -/
def directionFits (label : List Char) : Bool :=
  match label with
  | [] => true
  | first :: _ =>
    let classes := label.map bidiClass
    if bidiClass first == 'R' || bidiClass first == 'A' then
      classes.all "RANESCTOBM".toList.contains && endsIn ['R', 'A', 'E', 'N'] label &&
        !(classes.contains 'E' && classes.contains 'N')
    else if bidiClass first == 'L' then
      classes.all "LESCTOBM".toList.contains && endsIn ['L', 'E'] label
    else false

/-! ## Labels -/

/-- What must hold of every label, whatever the direction of its domain name. -/
def isValidLabel (label : List Char) : Bool :=
  (match label with
    | [] => true
    | first :: _ => !isMark first) && joinersFit [] label

/-- Whether a label claims to be Punycode. -/
def isEncoded (label : List Char) : Bool := "xn--".toList.isPrefixOf label

/-- Whether characters are in the form that mapping and composing leave alone. -/
def isSettled (label : List Char) : Bool :=
  label.all (fun c => mapHostChar? c == some [c]) && normalForm label == label

/-- The characters that a label stands for, if it may stand in a domain name. -/
def labelText? (label : List Char) : Option (List Char) :=
  if isEncoded label then
    if label.all Punycode.isBasic then
      match Punycode.decode? (label.drop 4) with
      | none => none
      | some text =>
        if !text.all Punycode.isBasic && isSettled text && isValidLabel text then some text
        else none
    else none
  else if isValidLabel label then some label
  else none

/-- A label in ASCII. -/
def labelAscii (label : List Char) : List Char :=
  if label.all Punycode.isBasic then label else "xn--".toList ++ Punycode.encode label

/-- Cut a name at its dots. -/
def labels : List Char → List (List Char)
  | [] => [[]]
  | c :: rest =>
    match labels rest with
    | [] => [[c]]
    | label :: more => if c == '.' then [] :: label :: more else (c :: label) :: more

/-- Put dots between labels. -/
def join (labels : List (List Char)) : List Char := List.intercalate ['.'] labels

/-- Map the characters of a name and compose them. -/
def settle? (name : List Char) : Option (List Char) := do
  let mapped ← name.mapM mapHostChar?
  return if mapped.flatten.all Punycode.isBasic then mapped.flatten else normalForm mapped.flatten

/-- The ASCII form of a domain name, if it is one. -/
def toAscii? (name : List Char) : Option (List Char) := do
  let settled ← settle? name
  if settled.any isForbidden then none
  let parts := labels settled
  let texts ← parts.mapM labelText?
  if texts.any (·.any isRightToLeft) && !texts.all directionFits then none
  return join (parts.map labelAscii)

end AssetCache.Url.DomainName
