/-!
# TOML values and tables

A value is a text, a scalar of another kind, an array or a table. Of numbers,
truth values and dates nothing is kept: only where texts and tables stand is of
interest here.

A document builds its tables bit by bit, and how a table came to be decides what
may still be added to it. `Members.assign` and the two functions for headers
follow those rules: nothing is defined twice, a table written out in one value is
closed, and dotted keys only reach into tables that dotted keys or longer headers
have made.
-/

set_option autoImplicit false

namespace AssetCache.Toml

/-- How a table came to be. -/
inductive Origin where
  /-- By a header of its own. -/
  | header
  /-- On the way to a longer header. -/
  | implied
  /-- By dotted keys. -/
  | dotted
  /-- Written out as a value. -/
  | inline
  deriving DecidableEq, Repr

/-- A TOML value. -/
inductive Value where
  | text (text : String)
  /-- A number, a truth value, a date or a time. -/
  | scalar
  | array (items : List Value)
  | table (origin : Origin) (members : List (String × Value))
  /-- The tables of one header in double brackets, the last one first. -/
  | tables (last : List (String × Value)) (before : List (List (String × Value)))

instance : Inhabited Value := ⟨.scalar⟩

/-- The members of a table, in the order in which they were given. -/
abbrev Members : Type := List (String × Value)

namespace Members

/-- The value under a key. -/
def find? (members : Members) (key : String) : Option Value :=
  match members with
  | [] => none
  | (name, value) :: rest => if name = key then some value else find? rest key

/-- Give a key a value, in place of any it had. -/
def set (members : Members) (key : String) (value : Value) : Members :=
  match members with
  | [] => [(key, value)]
  | (name, old) :: rest =>
    if name = key then (key, value) :: rest else (name, old) :: set rest key value

/-- Give a key a value; it must have none. -/
def add? (members : Members) (key : String) (value : Value) : Option Members :=
  match find? members key with
  | none => some (set members key value)
  | some _ => none

/-- A table together with how it came to be. -/
abbrev Place : Type := Origin × Members

/-- Whether the way to a deeper table may lead through one that is there. -/
def isOpen (byDots : Bool) (origin : Origin) : Bool :=
  match origin with
  | .inline => false
  | .header => !byDots
  | _ => true

/-- Change the table that a path of keys leads to; tables on the way are made. -/
def change? (byDots : Bool) (change : Place → Option Place) : List String → Place → Option Place
  | [], place => change place
  | key :: path, (origin, members) =>
    match find? members key with
    | none =>
      (change? byDots change path (if byDots then .dotted else .implied, [])).map fun deeper =>
        (origin, set members key (.table deeper.1 deeper.2))
    | some (.table inner deeper) =>
      if isOpen byDots inner then
        (change? byDots change path (inner, deeper)).map fun deeper =>
          (origin, set members key (.table deeper.1 deeper.2))
      else none
    | some (.tables last before) =>
      (change? byDots change path (.header, last)).map fun deeper =>
        (origin, set members key (.tables deeper.2 before))
    | some _ => none

/-- Give a key its value in the table that dots led to: only dots may have made that table. -/
def addAt (byDots : Bool) (key : String) (value : Value) (place : Place) : Option Place :=
  if byDots && place.1 != .dotted then none
  else (add? place.2 key value).map (place.1, ·)

/-- Give a dotted key its value below a table. -/
def assign (place : Place) (dots : List String) (key : String) (value : Value) :
    Option Place :=
  change? true (addAt (!dots.isEmpty) key value) dots place

/-- Begin the table of a header. -/
def openTable (key : String) (place : Place) : Option Place :=
  match find? place.2 key with
  | none => some (place.1, set place.2 key (.table .header []))
  | some (.table .implied members) => some (place.1, set place.2 key (.table .header members))
  | some _ => none

/-- Begin a further table of a header in double brackets. -/
def openFurther (key : String) (place : Place) : Option Place :=
  match find? place.2 key with
  | none => some (place.1, set place.2 key (.tables [] []))
  | some (.tables last before) => some (place.1, set place.2 key (.tables [] (last :: before)))
  | some _ => none

end Members

end AssetCache.Toml
