/-!
# Properties of code points by runs

A property of code points is written as a list of runs in ascending order: a run
says where it begins and what holds from there up to the next. The written form
of a run is the distance from the run before it, an upper-case letter, and
numbers with commas between them, all in base thirty-two with the digits
`0`–`9` and `a`–`v`; blanks stand between runs.
-/

set_option autoImplicit false

namespace AssetCache.Unicode

/-- What holds from a code point on. -/
structure Run where
  first : Nat
  kind : Char
  values : List Nat
  deriving DecidableEq, Repr

namespace Run

/-- The value of a digit in base thirty-two. -/
def digit (c : Char) : Nat :=
  if c.toNat < 58 then c.toNat - 48 else c.toNat - 87

/-- The number that some digits stand for. -/
def number (digits : List Char) : Nat := digits.foldl (fun n c => n * 32 + digit c) 0

/-- Cut a list at every element that equals a separator. -/
def splitAt (separator : Char) : List Char → List (List Char)
  | [] => [[]]
  | c :: rest =>
    match splitAt separator rest with
    | [] => [[c]]
    | part :: parts => if c = separator then [] :: part :: parts else (c :: part) :: parts

/-- A run in its written form, behind one that begins at a given place. -/
def ofChars (before : Nat) (written : List Char) : Run :=
  let gap := written.takeWhile fun c => !c.isUpper
  match written.dropWhile fun c => !c.isUpper with
  | [] => ⟨before + number gap, 'X', []⟩
  | kind :: values =>
    ⟨before + number gap, kind,
      if values.isEmpty then [] else (splitAt ',' values).map number⟩

/-- Runs in their written forms, in order. -/
def ofWritten (before : Nat) : List (List Char) → List Run
  | [] => []
  | written :: rest =>
    let run := ofChars before written
    run :: ofWritten run.first rest

/-- The runs of a property, written on several lines. -/
def table (lines : List String) : List Run :=
  ofWritten 0 (lines.flatMap fun line => splitAt ' ' line.toList)

/-- The run in which a code point lies. -/
def find? (n : Nat) : List Run → Option Run
  | [] => none
  | run :: rest => if n < run.first then none else (find? n rest).or (some run)

/-- The kind of the run in which a code point lies. -/
def kindAt (runs : List Run) (c : Char) : Char :=
  match find? c.toNat runs with
  | some run => run.kind
  | none => 'X'

theorem find?_first_le {n : Nat} {run : Run} :
    ∀ {runs : List Run}, find? n runs = some run → run.first ≤ n
  | [], h => by cases h
  | head :: rest, h => by
    unfold find? at h
    split at h
    · cases h
    next hge =>
      cases hr : find? n rest with
      | some found =>
        rw [hr] at h
        cases h
        exact find?_first_le hr
      | none =>
        rw [hr] at h
        cases h
        exact Nat.not_lt.mp hge

end Run

end AssetCache.Unicode
