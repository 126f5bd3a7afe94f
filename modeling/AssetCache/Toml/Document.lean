import AssetCache.Toml.Lexical
import AssetCache.Toml.Value

/-!
# TOML documents

A document is a list of lines: a key with its value, the header of a table, or
nothing but a comment. `Document.parse?` reads all of it or nothing.
-/

set_option autoImplicit false

namespace AssetCache.Toml

/-! ## Values -/

/-- Read what stands between commas up to a closing bracket, blanks and lines between. -/
def arrayItems (item : Scan Value) : Nat → Scan (List Value)
  | 0, _ => none
  | fuel + 1, text =>
    match skipSpace text with
    | none => none
    | some (']' :: rest) => some ([], rest)
    | some text =>
      match item text with
      | none => none
      | some (value, rest) =>
        match skipSpace rest with
        | some (',' :: rest) =>
          (arrayItems item fuel rest).map fun (values, rest) => (value :: values, rest)
        | some (']' :: rest) => some ([value], rest)
        | _ => none

/-- A key with its value, given how values are read. -/
def keyValue? (item : Scan Value) (text : List Char) :
    Option ((List String × String × Value) × List Char) :=
  match key? text with
  | none => none
  | some (keys, rest) =>
    match keys.getLast?, skipBlanks rest with
    | some key, '=' :: rest =>
      (item (skipBlanks rest)).map fun (value, rest) => ((keys.dropLast, key, value), rest)
    | _, _ => none

/-- The members of a table written out as a value, up to its closing bracket. -/
def inlineMembers (item : Scan Value) (members : Members) : Nat → Scan Members
  | 0, _ => none
  | fuel + 1, text =>
    match keyValue? item text with
    | none => none
    | some ((dots, key, value), rest) =>
      match Members.assign (.inline, members) dots key value with
      | none => none
      | some (_, members) =>
        match skipBlanks rest with
        | ',' :: rest => inlineMembers item members fuel rest
        | '\x7d' :: rest => some (members, rest)
        | _ => none

/-- A value that holds others no deeper than so many levels. -/
def value? : Nat → Scan Value
  | depth, text =>
    match text with
    | '"' :: _ => (string? text).map fun (s, rest) => (.text s, rest)
    | '\'' :: _ => (string? text).map fun (s, rest) => (.text s, rest)
    | '[' :: rest =>
      match depth with
      | 0 => none
      | depth + 1 =>
        (arrayItems (value? depth) (rest.length + 1) rest).map fun (items, rest) =>
          (.array items, rest)
    | '\x7b' :: rest =>
      match depth with
      | 0 => none
      | depth + 1 =>
        match skipBlanks rest with
        | '\x7d' :: rest => some (.table .inline [], rest)
        | rest =>
          (inlineMembers (value? depth) [] (rest.length + 1) rest).map fun (members, rest) =>
            (.table .inline members, rest)
    | _ => (scalar? text).map (.scalar, ·)

/-! ## Lines -/

/-- A document that has been read so far: its tables, and the header it is under. -/
structure Document where
  root : Members
  header : List String

namespace Document

/-- The document without lines. -/
def blank : Document := ⟨[], []⟩

/-- Change the table at the end of a path of headers. -/
def changeRoot (document : Document) (path : List String)
    (change : Members.Place → Option Members.Place) : Option Members :=
  (Members.change? false change path (.header, document.root)).map Prod.snd

/-- Take a key with its value, under the header. -/
def assign? (document : Document) (dots : List String) (key : String) (value : Value) :
    Option Document :=
  (document.changeRoot document.header fun place =>
    Members.assign place dots key value).map fun root => { document with root }

/-- Take a header: its last key begins a table, in single or double brackets. -/
def open? (document : Document) (further : Bool) (path : List String) : Option Document :=
  match path.getLast? with
  | none => none
  | some key =>
    (document.changeRoot path.dropLast
      (if further then Members.openFurther key else Members.openTable key)).map fun root =>
        ⟨root, path⟩

/-- Take what follows the opening bracket of a header, up to the end of its line. -/
def header? (document : Document) (further : Bool) (text : List Char) :
    Option (Document × List Char) :=
  match key? text with
  | none => none
  | some (path, rest) =>
    let rest := match skipBlanks rest, further with
      | ']' :: ']' :: rest, true => some rest
      | ']' :: rest, false => some rest
      | _, _ => none
    match rest.bind lineEnd?, document.open? further path with
    | some rest, some document => some (document, rest)
    | _, _ => none

/-- Take a line. -/
def line? (document : Document) (text : List Char) : Option (Document × List Char) :=
  match skipBlanks text with
  | [] => some (document, [])
  | '[' :: '[' :: rest => document.header? true rest
  | '[' :: rest => document.header? false rest
  | text =>
    match lineEnd? text with
    | some rest => some (document, rest)
    | none =>
      match keyValue? (value? (maxDepth - 1)) text with
      | none => none
      | some ((dots, key, value), rest) =>
        match lineEnd? rest, document.assign? dots key value with
        | some rest, some document => some (document, rest)
        | _, _ => none

/-- Take all lines. -/
def lines? : Nat → Document → List Char → Option Document
  | _, document, [] => some document
  | 0, _, _ => none
  | fuel + 1, document, text =>
    match document.line? text with
    | some (document, rest) => lines? fuel document rest
    | none => none

/-- The members of a document. A byte order mark in front does not count. -/
def parse? (text : String) : Option Members :=
  let chars := match text.toList with
    | c :: rest => if c.toNat = 0xfeff then rest else c :: rest
    | [] => []
  (lines? (chars.length + 1) blank chars).map Document.root

end Document

end AssetCache.Toml
