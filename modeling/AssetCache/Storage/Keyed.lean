import AssetCache.KeyValue.Call
import AssetCache.Storage.Call
import AssetCache.Storage.Listing
import AssetCache.Text.Base64Url

/-!
# Storage in a key-value store

All regions share one flat space of names. A region is there when its marker
`region:<r>` is; the entry of a key has its metadata under `meta:<r>:<k>` and its
body under `body:<r>:<k>`. Region names and keys are written in URL-safe base64,
so that no colon occurs within one.

A body is written before its metadata and removed after them, so that no failure
between two calls leaves metadata without a body.
-/

set_option autoImplicit false

namespace AssetCache.Storage.Keyed

open Text.Base64Url (encode decode?)

/-- The name of a region's marker. -/
def markerName (region : String) : String := "region:" ++ encode region

/-- What the names of a region's metadata begin with. -/
def metadataStart (region : String) : String := "meta:" ++ encode region ++ ":"

/-- The name of an entry's metadata. -/
def metadataName (region key : String) : String := metadataStart region ++ encode key

/-- The name of an entry's body. -/
def bodyName (region key : String) : String := "body:" ++ encode region ++ ":" ++ encode key

/-- What is encoded behind the start of a name. -/
def decodedBehind? (start name : String) : Option String :=
  (start.toList.isPrefixOf? name.toList).bind fun rest => decode? (String.ofList rest)

/-- An attempt on the host whose failures are failures of the storage. -/
abbrev Step (α : Type) : Type := Attempt KeyValue.signature StorageError α

/-- Make a call to the host. -/
def host (call : KeyValue.Call) : Step call.Value :=
  Attempt.mapFailure .callFailed (KeyValue.ask call)

/-- Create a region's marker unless it is there. -/
def create (region : String) : Step Unit := do
  unless ← host (.exists_ (markerName region)) do
    host (.set (markerName region) [0x31])

/-- The keys of a region, by the names of their metadata. -/
def keys (region : String) : Step (List String) := do
  let names ← host .names
  return Listing.ascending (names.filterMap (decodedBehind? (metadataStart region)))

/-- Remove an entry: the metadata first. -/
def erase (region key : String) : Step Unit := do
  host (.delete (metadataName region key))
  host (.delete (bodyName region key))

/-- Delete a region: all entries, then the marker. -/
def delete (region : String) : Step Bool := do
  let existed ← host (.exists_ (markerName region))
  let entries ← keys region
  entries.forM (erase region)
  host (.delete (markerName region))
  return existed

/-- The regions, by their markers. -/
def regions : Step (List String) := do
  let names ← host .names
  return Listing.ascending (names.filterMap (decodedBehind? "region:"))

/-- Read an entry back. -/
def find (region key : String) : Step (Option Response) := do
  match ← host (.get (metadataName region key)) with
  | none => return none
  | some bytes =>
    match Response.ofMetadata bytes with
    | .error fault => throw (.unreadable fault)
    | .ok response =>
      match ← host (.get (bodyName region key)) with
      | none => throw (.corrupt region key "body missing")
      | some body => return some { response with body }

/-- Write an entry: the body first. -/
def put (region key : String) (response : Response) : Step Unit := do
  if ← host (.exists_ (markerName region)) then
    host (.set (bodyName region key) response.body)
    host (.set (metadataName region key) response.metadataBytes)
  else throw (.regionMissing region)

/-- Remove an entry, and say whether it was there. -/
def remove (region key : String) : Step Bool := do
  let existed ← host (.exists_ (metadataName region key))
  erase region key
  return existed

/-- What a storage in a key-value store does on each call. -/
def meaning : (call : Call) → Program KeyValue.signature (Reply call)
  | .create region => (create region).run
  | .has region => (host (.exists_ (markerName region))).run
  | .delete region => (delete region).run
  | .regions => regions.run
  | .find region key => (find region key).run
  | .put region key response => (put region key response).run
  | .remove region key => (remove region key).run
  | .keys region => (keys region).run

end AssetCache.Storage.Keyed
