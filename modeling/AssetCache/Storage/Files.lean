import AssetCache.Disk.Call
import AssetCache.Storage.Call
import AssetCache.Storage.Listing
import AssetCache.Text.Base64Url

/-!
# Storage on a disk

A storage may live in a directory: each region is a directory below it, and each
entry of a region two files, the metadata in `<key>.json` and the body in
`<key>.body`. Names and keys are written in URL-safe base64, so that any of them
makes a file name. An entry exists exactly when its metadata does; they are
written last, to a file aside that is then renamed.

Every call is a program over a disk.
-/

set_option autoImplicit false

namespace AssetCache.Storage.Files

open Disk (Path)
open Text.Base64Url (encode decode?)

/-- The ending of metadata files. -/
def metadataEnding : String := ".json"

/-- The ending of body files. -/
def bodyEnding : String := ".body"

/-- The directory of a region. -/
def regionPath (root : Path) (region : String) : Path := root ++ [encode region]

/-- The file that holds the metadata of an entry. -/
def metadataPath (root : Path) (region key : String) : Path :=
  regionPath root region ++ [encode key ++ metadataEnding]

/-- The file that holds the body of an entry. -/
def bodyPath (root : Path) (region key : String) : Path :=
  regionPath root region ++ [encode key ++ bodyEnding]

/-- The name of the file in which metadata are staged: a name that is all ending keeps it. -/
def stagedName (key : String) : String :=
  (if encode key = "" then metadataEnding else encode key) ++ ".json.tmp"

/-- The file in which the metadata of an entry are staged. -/
def stagedPath (root : Path) (region key : String) : Path :=
  regionPath root region ++ [stagedName key]

/-- A text without its ending. -/
def dropEnding? (ending text : String) : Option String :=
  if ending.toList.isSuffixOf text.toList then
    some (String.ofList (text.toList.take (text.toList.length - ending.toList.length)))
  else none

/-- The key whose metadata a file holds, going by its name. -/
def keyOfName? (name : String) : Option String :=
  (dropEnding? metadataEnding name).bind decode?

/-- An attempt on the disk of which some errors are the business of a storage. -/
abbrev Step (α : Type) : Type := Attempt Disk.signature StorageError α

/-- Make a disk call; its failure is a failure of the storage. -/
def disk (call : Disk.Call) : Step call.Value := Attempt.mapFailure .disk (Disk.ask call)

/-- Make a disk call, with another value if what it is about is not there. -/
def diskOr (call : Disk.Call) (absent : Step call.Value) : Step call.Value := do
  match ← (Attempt.outcome (Disk.ask call) : Step _) with
  | .ok value => return value
  | .error .notFound => absent
  | .error error => throw (.disk error)

/-- Whether the directory of a region is there. -/
def hasRegion (root : Path) (region : String) : Step Bool :=
  diskOr (.inspect (regionPath root region)) (return false)

/-- Remove a file, and say whether it was there. -/
def removeFile (path : Path) : Step Bool := do
  match ← (Attempt.outcome (Disk.ask (.removeFile path)) : Step _) with
  | .ok () => return true
  | .error .notFound => return false
  | .error error => throw (.disk error)

/-- Delete the directory of a region, and say whether it was there. -/
def deleteRegion (root : Path) (region : String) : Step Bool := do
  match ← (Attempt.outcome (Disk.ask (.removeTree (regionPath root region))) : Step _) with
  | .ok () => return true
  | .error .notFound => return false
  | .error error => throw (.disk error)

/-- The bytes of a file, if it is there. -/
def readFile? (path : Path) : Step (Option Bytes) := do
  match ← (Attempt.outcome (Disk.ask (.read path)) : Step _) with
  | .ok bytes => return some bytes
  | .error .notFound => return none
  | .error error => throw (.disk error)

/-- Read an entry back. -/
def find (root : Path) (region key : String) : Step (Option Response) := do
  match ← readFile? (metadataPath root region key) with
  | none => return none
  | some bytes =>
    match Response.ofMetadata bytes with
    | .error fault => throw (.corrupt region key fault.message)
    | .ok response =>
      match ← readFile? (bodyPath root region key) with
      | none => throw (.corrupt region key "body file missing")
      | some body => return some { response with body }

/-- Write an entry: the body, then the metadata aside, then their name. -/
def put (root : Path) (region key : String) (response : Response) : Step Unit := do
  if ← hasRegion root region then
    disk (.write (bodyPath root region key) response.body)
    disk (.write (stagedPath root region key) response.metadataBytes)
    disk (.rename (stagedPath root region key) (metadataPath root region key))
  else throw (.regionMissing region)

/-- Remove an entry: the metadata first. -/
def remove (root : Path) (region key : String) : Step Bool := do
  let existed ← removeFile (metadataPath root region key)
  let _ ← removeFile (bodyPath root region key)
  return existed

/-- The keys of a region, by the names of its metadata files. -/
def keys (root : Path) (region : String) : Step (List String) := do
  let listed ← diskOr (.list (regionPath root region)) (return [])
  return Listing.ascending (listed.filterMap fun entry => keyOfName? entry.name)

/-- The regions, by the names of the directories. -/
def regions (root : Path) : Step (List String) := do
  let listed ← diskOr (.list root) (return [])
  return Listing.ascending (listed.filterMap fun entry =>
    if entry.isDirectory then decode? entry.name else none)

/-- What a storage in a directory does on each call. -/
def meaning (root : Path) : (call : Call) → Program Disk.signature (Reply call)
  | .create region => (disk (.createDirectories (regionPath root region))).run
  | .has region => (hasRegion root region).run
  | .delete region => (deleteRegion root region).run
  | .regions => (regions root).run
  | .find region key => (find root region key).run
  | .put region key response => (put root region key response).run
  | .remove region key => (remove root region key).run
  | .keys region => (keys root region).run

end AssetCache.Storage.Files
