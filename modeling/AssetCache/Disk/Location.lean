import AssetCache.Disk.Call

/-!
# Locations

A location is a path as it is written: names with slashes between them. A leading
slash makes it absolute; any other is taken from a directory. Nothing is resolved
that needs the disk: `..` stays, and so does what was written twice. Only when a
parent is taken do empty names and `.` at the end not count.
-/

set_option autoImplicit false

namespace AssetCache.Disk.Location

/-- The parts of a text between slashes. -/
def split : List Char → List (List Char)
  | [] => [[]]
  | c :: rest =>
    if c = '/' then [] :: split rest
    else
      match split rest with
      | first :: others => (c :: first) :: others
      | [] => [[c]]

/-- Parts with slashes between them. -/
def glue : List (List Char) → List Char
  | [] => []
  | [part] => part
  | part :: rest => part ++ '/' :: glue rest

theorem split_ne_nil : ∀ text : List Char, split text ≠ []
  | [] => by simp [split]
  | c :: rest => by
    unfold split
    split
    · simp
    · split <;> simp

@[simp] theorem glue_split : ∀ text : List Char, glue (split text) = text
  | [] => rfl
  | c :: rest => by
    have ih := glue_split rest
    unfold split
    split
    next h =>
      cases hs : split rest with
      | nil => exact absurd hs (split_ne_nil rest)
      | cons part parts => rw [hs] at ih; simp [glue, ih, h]
    next h =>
      cases hs : split rest with
      | nil => exact absurd hs (split_ne_nil rest)
      | cons part parts =>
        rw [hs] at ih
        cases parts with
        | nil => simpa [glue] using ih
        | cons next more => simpa [glue] using ih

/-- The path of an absolute location. -/
def names (location : String) : Path := (split location.toList).map String.ofList

/-- The location of a path. -/
def ofPath (path : Path) : String := String.ofList ('/' :: glue (path.map String.toList))

/-- Whether a location begins at the root. -/
def isAbsolute (location : String) : Bool := location.toList.head? == some '/'

/-- A location as seen from a directory. -/
def join (directory location : String) : String :=
  if isAbsolute location || directory.isEmpty then location
  else if directory.toList.getLast? == some '/' then directory ++ location
  else directory ++ "/" ++ location

/-- Parts without those at the end that lead nowhere. -/
def trimEnd (parts : List (List Char)) : List (List Char) :=
  (parts.reverse.dropWhile fun part => part == [] || part == ['.']).reverse

/-- The location of what contains another; the root is in nothing. -/
def parent? (location : String) : Option String :=
  match split location.toList with
  | [] => none
  | first :: rest =>
    match trimEnd rest with
    | [] => if first.isEmpty then none else some ""
    | more =>
      match trimEnd more.dropLast with
      | [] => some (if first.isEmpty then "/" else String.ofList first)
      | above => some (String.ofList (glue (first :: above)))

/-- A location and all that contain it, up to a number of steps. -/
def upward : Nat → String → List String
  | 0, location => [location]
  | steps + 1, location =>
    match parent? location with
    | some above => location :: upward steps above
    | none => [location]

/-- A location and all that contain it, innermost first. -/
def ancestors (location : String) : List String := upward location.length location

end AssetCache.Disk.Location
