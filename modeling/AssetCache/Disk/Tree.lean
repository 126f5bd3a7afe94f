import AssetCache.Disk.Call

/-!
# File trees

A `Tree` is a disk as a value: files and directories under the paths that lead to
them from the root, which is always a directory. `Tree.answer` says what each
call answers and what it leaves behind.

A path is walked name by name. Every name but the last must be that of a
directory, and no name is longer than 255 bytes. A directory that is created
stays, even if the call fails further on.
-/

set_option autoImplicit false

namespace AssetCache.Disk

/-- What stands under a path. -/
inductive Node where
  | file (bytes : Bytes)
  | directory
  deriving DecidableEq, Repr

/-- Files and directories under their paths, each path once. -/
structure Tree where
  nodes : List (Path × Node)
  unique : (nodes.map Prod.fst).Nodup

namespace Tree

/-- The disk on which there is nothing. -/
def empty : Tree := ⟨[], .nil⟩

instance : Inhabited Tree := ⟨empty⟩

/-- What stands under a path; the root is a directory. -/
def node? (tree : Tree) (path : Path) : Option Node :=
  if path.isEmpty then some .directory
  else (tree.nodes.find? fun entry => entry.1 == path).map Prod.snd

theorem nodup_filter {nodes : List (Path × Node)} (keep : Path × Node → Bool)
    (unique : (nodes.map Prod.fst).Nodup) : ((nodes.filter keep).map Prod.fst).Nodup :=
  unique.sublist (List.filter_sublist.map Prod.fst)

/-- Keep what stands under some paths. -/
def filter (tree : Tree) (keep : Path → Bool) : Tree :=
  ⟨tree.nodes.filter fun entry => keep entry.1, nodup_filter _ tree.unique⟩

/-- Put something under a path, in place of what stood there. -/
def insert (tree : Tree) (path : Path) (node : Node) : Tree where
  nodes := (path, node) :: (tree.filter (· != path)).nodes
  unique := by
    refine List.nodup_cons.mpr ⟨fun h => ?_, (tree.filter (· != path)).unique⟩
    obtain ⟨entry, hentry, heq⟩ := List.mem_map.mp h
    have := (List.mem_filter.mp hentry).2
    simp [heq] at this

/-- Take away what stands under a path. -/
def erase (tree : Tree) (path : Path) : Tree := tree.filter (· != path)

/-- Whether a name leaves a path where it is. -/
def staysPut (name : String) : Bool := name == "" || name == "."

/-- The longest name, in bytes. -/
def maxName : Nat := 255

/-- Where some names lead from a directory; nothing needs to stand there. -/
def walkFrom (tree : Tree) (here : Path) : Path → Except Error Path
  | [] => .ok here
  | name :: rest =>
    match tree.node? here with
    | none => .error .notFound
    | some (.file _) => .error .notDirectory
    | some .directory =>
      if staysPut name then tree.walkFrom here rest
      else if name = ".." then tree.walkFrom here.dropLast rest
      else if maxName < name.utf8ByteSize then .error .nameTooLong
      else tree.walkFrom (here ++ [name]) rest

/-- Where a path leads. -/
def walk (tree : Tree) (path : Path) : Except Error Path := tree.walkFrom [] path

/-- Create the directories that are missing on the way along some names. -/
def createFrom (tree : Tree) (here : Path) : Path → Except Error Unit × Tree
  | [] => (.ok (), tree)
  | name :: rest =>
    if staysPut name then tree.createFrom here rest
    else if name = ".." then tree.createFrom here.dropLast rest
    else if maxName < name.utf8ByteSize then (.error .nameTooLong, tree)
    else
      match tree.node? (here ++ [name]) with
      | some .directory => tree.createFrom (here ++ [name]) rest
      | some (.file _) => (.error (if rest.isEmpty then .exists_ else .notDirectory), tree)
      | none => (tree.insert (here ++ [name]) .directory).createFrom (here ++ [name]) rest

/-- The entries of the directory under a path. -/
def children (tree : Tree) (path : Path) : List Listed :=
  tree.nodes.filterMap fun entry =>
    match entry.1.getLast? with
    | some name => if entry.1.dropLast = path then some ⟨name, entry.2 = .directory⟩ else none
    | none => none

/-- Whether a path leads through another. -/
def isUnder (above path : Path) : Bool := above.isPrefixOf path

/-- The node to which a path leads, with its place. -/
def find (tree : Tree) (path : Path) : Except Error (Path × Node) := do
  let place ← tree.walk path
  match tree.node? place with
  | some node => return (place, node)
  | none => throw .notFound

/-- The file to which a path leads, with its place. -/
def findFile (tree : Tree) (path : Path) : Except Error (Path × Bytes) := do
  match ← tree.find path with
  | (place, .file bytes) => return (place, bytes)
  | (_, .directory) => throw .isDirectory

/-- The place of the directory to which a path leads. -/
def findDirectory (tree : Tree) (path : Path) : Except Error Path := do
  match ← tree.find path with
  | (place, .directory) => return place
  | (_, .file _) => throw .notDirectory

/-- Whether a path ends in a slash behind a name. -/
def endsInSlash (path : Path) : Bool :=
  match path.reverse with
  | "" :: before =>
    match before.dropWhile (· == "") with
    | name :: _ => name != "." && name != ".."
    | [] => false
  | _ => false

/-- A path without the slashes at its end. -/
def dropSlashes (path : Path) : Path := (path.reverse.dropWhile (· == "")).reverse

/-- The place to which a path leads, unless a directory is there or is asked for. -/
def placeForFile (tree : Tree) (path : Path) : Except Error Path := do
  if endsInSlash path then
    let _ ← tree.findDirectory (dropSlashes path).dropLast
    throw .isDirectory
  let place ← tree.walk path
  if tree.node? place = some .directory then throw .isDirectory
  return place

/-- The path of a node as one text. -/
def pathText (path : Path) : String := "/".intercalate path

/-- What stands below a path, under the paths from there, in ascending order. -/
def below (tree : Tree) (path : Path) : List (String × Option Bytes) :=
  let inside := tree.nodes.filterMap fun (place, node) =>
    if isUnder path place && place != path then
      some (pathText (place.drop path.length),
        match node with
        | .file bytes => some bytes
        | .directory => none)
    else none
  inside.mergeSort fun a b => decide (a.1 ≤ b.1)

/-- A new tree, or the old one and the reason why there is no new one. -/
def settle (tree : Tree) (result : Except Error Tree) : Except Error Unit × Tree :=
  match result with
  | .ok changed => (.ok (), changed)
  | .error error => (.error error, tree)

/-- The answer to a call, and the disk after it. -/
def answer : (call : Call) → Tree → Reply call × Tree
  | .createDirectories path, tree => tree.createFrom [] path
  | .inspect path, tree => ((tree.find path).map fun found => found.2 = .directory, tree)
  | .removeTree path, tree =>
    tree.settle do
      let place ← tree.findDirectory path
      return tree.filter fun other => !isUnder place other
  | .list path, tree => ((tree.findDirectory path).map tree.children, tree)
  | .read path, tree => ((tree.findFile path).map Prod.snd, tree)
  | .write path bytes, tree =>
    tree.settle do return tree.insert (← tree.placeForFile path) (.file bytes)
  | .rename source target, tree =>
    tree.settle do
      let (old, bytes) ← tree.findFile source
      let new ← tree.placeForFile target
      return (tree.erase old).insert new (.file bytes)
  | .removeFile path, tree =>
    tree.settle do return tree.erase (← tree.findFile path).1

end Tree

end AssetCache.Disk
