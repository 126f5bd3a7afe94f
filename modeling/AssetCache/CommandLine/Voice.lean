import AssetCache.CommandLine.Action
import AssetCache.Text.Decimal

/-!
# How a command speaks

A command speaks to people, in lines that begin with a mark for what kind of line
it is, or to programs, in JSON. To programs it prints one value at the end; of all
other lines only the error is left, as an object. Some lines are for those who
want to hear more.
-/

set_option autoImplicit false

namespace AssetCache.CommandLine

/-- To whom a command speaks. -/
structure Voice where
  /-- To those who want to hear more. -/
  verbose : Bool
  /-- To programs. -/
  json : Bool
  deriving DecidableEq, Repr

namespace Voice

/-- The least level of what is logged. -/
def leastLevel (voice : Voice) : Log.Level := if voice.verbose then .debug else .info

/-- The format of what is logged. -/
def logFormat (voice : Voice) : Log.Format := if voice.json then .json else .human

/-- Log a note, unless its level is too low. -/
def log (voice : Voice) (note : Log.Note) : Routine Unit :=
  if note.level.rank < voice.leastLevel.rank then .done () else act (.log voice.logFormat note)

/-- Print a line to the standard output. -/
def line (text : String) : Routine Unit := act (.print (text ++ "\n"))

/-- Print a line to the standard error output. -/
def errorLine (text : String) : Routine Unit := act (.complain (text ++ "\n"))

/-- Say something to people only. -/
def toPeople (voice : Voice) (say : Routine Unit) : Routine Unit :=
  if voice.json then .done () else say

/-- A line for information. -/
def info (voice : Voice) (text : String) : Routine Unit :=
  voice.toPeople (line ("ℹ " ++ text))

/-- A line on what was achieved. -/
def success (voice : Voice) (text : String) : Routine Unit :=
  voice.toPeople (line ("✓ " ++ text))

/-- A warning. -/
def warn (voice : Voice) (text : String) : Routine Unit :=
  voice.toPeople (errorLine ("⚠ " ++ text))

/-- A line for those who want to hear more. -/
def detail (voice : Voice) (text : String) : Routine Unit :=
  voice.toPeople (if voice.verbose then errorLine ("→ " ++ text) else .done ())

/-- A heading. -/
def heading (voice : Voice) (text : String) : Routine Unit :=
  voice.toPeople (line ("\n" ++ text))

/-- The beginning of one of several stages. -/
def stage (voice : Voice) (number total : Nat) (text : String) : Routine Unit :=
  voice.toPeople
    (line ("[" ++ Text.Decimal.ofNat number ++ "/" ++ Text.Decimal.ofNat total ++ "] " ++ text))

/-- A value under a name. -/
def value (voice : Voice) (name text : String) : Routine Unit :=
  voice.toPeople (line ("  " ++ name ++ ": " ++ text))

/-- A number under a name. -/
def number (voice : Voice) (name : String) (n : Nat) : Routine Unit :=
  voice.value name (Text.Decimal.ofNat n)

/-- An item of a list. -/
def item (voice : Voice) (text : String) : Routine Unit :=
  voice.toPeople (line ("  • " ++ text))

/-- A text with blanks behind it up to a width. -/
def padded (width : Nat) (text : String) : String :=
  text ++ String.ofList (List.replicate (width - text.length) ' ')

/-- A row of a table whose columns have widths. -/
def row (voice : Voice) (columns : List (String × Nat)) : Routine Unit :=
  voice.toPeople
    (line ("  " ++ "  ".intercalate (columns.map fun column => padded column.2 column.1)))

/-- A value for programs. -/
def result (voice : Voice) (json : Json) : Routine Unit :=
  if voice.json then line json.wide else .done ()

/-- What went wrong, with all its causes. -/
def failure (voice : Voice) (causes : Causes) : Routine Unit :=
  let text := ": ".intercalate causes
  if voice.json then errorLine (Json.obj [("error", .str text)]).compact
  else errorLine ("✗ " ++ text)

end Voice

/-! ## Sizes -/

/-- A number of bytes in the largest unit of which there is at least one. -/
def sizeText (bytes : Nat) : String :=
  let scaled := Text.Decimal.hundredths (Rounding.toPrecision53 bytes)
  if Nat.pow 1024 3 ≤ bytes then scaled (Nat.pow 1024 3) ++ " GB"
  else if Nat.pow 1024 2 ≤ bytes then scaled (Nat.pow 1024 2) ++ " MB"
  else if 1024 ≤ bytes then scaled 1024 ++ " KB"
  else Text.Decimal.ofNat bytes ++ " B"

end AssetCache.CommandLine
