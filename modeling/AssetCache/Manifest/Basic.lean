import AssetCache.Bytes
import AssetCache.Json.Value
import AssetCache.Json.Shape

/-!
# Resource manifests

A manifest gives every resource key the hash of its content. It is recorded as one
flat JSON object. A `ManifestDiff` sorts the keys of two manifests into added,
removed, changed and unchanged ones.
-/

set_option autoImplicit false

namespace AssetCache

/-- Resource keys with the hashes of their contents. -/
abbrev Manifest : Type := Table String

namespace Manifest

/-- The hash of a key's content. -/
def hash? (manifest : Manifest) (key : String) : Option String := manifest.get? key

/-- Whether a key is listed with the same hash as in an earlier manifest. -/
def isUnchangedSince (current previous : Manifest) (key : String) : Bool :=
  match hash? current key, hash? previous key with
  | some new, some old => new == old
  | _, _ => false

/-- A manifest as JSON. -/
def toJson (manifest : Manifest) : Json :=
  .obj (manifest.entries.map fun e => (e.1, .str e.2))

/-- The bytes that are recorded. -/
def toBytes (manifest : Manifest) : Bytes := Bytes.ofText (toJson manifest).compact

/-- The manifest that some bytes record. -/
def ofBytes (bytes : Bytes) : Except Json.Fault Manifest :=
  Json.Reader.decode Json.Reader.textTable bytes

end Manifest

/-- The keys of two manifests, sorted by what became of them. -/
structure ManifestDiff where
  /-- Keys of the current manifest alone. -/
  added : List String
  /-- Keys of the previous manifest alone. -/
  removed : List String
  /-- Keys of both with different hashes. -/
  changed : List String
  /-- Keys of both with one hash. -/
  unchanged : List String
  deriving DecidableEq, Repr

namespace ManifestDiff

/-- Sort a key of the current manifest in, by its hash there and the one it had before. -/
def sortIn (previous : Manifest) (diff : ManifestDiff) (entry : String × String) : ManifestDiff :=
  match Manifest.hash? previous entry.1 with
  | none => { diff with added := diff.added ++ [entry.1] }
  | some old =>
    if old == entry.2 then { diff with unchanged := diff.unchanged ++ [entry.1] }
    else { diff with changed := diff.changed ++ [entry.1] }

/-- What became of the keys of a manifest: those of the current one are sorted in one after
another, and those that it lacks were removed. -/
def between (previous current : Manifest) : ManifestDiff :=
  { current.entries.foldl (sortIn previous) ⟨[], [], [], []⟩ with
    removed := previous.keys.filter fun key => !current.contains key }

/-- Whether nothing was added, removed or changed. -/
def isEmpty (diff : ManifestDiff) : Bool :=
  diff.added.isEmpty && diff.removed.isEmpty && diff.changed.isEmpty

/-- The four lists as JSON. -/
def toJson (diff : ManifestDiff) : Json :=
  .obj [("added", .strings diff.added), ("removed", .strings diff.removed),
    ("changed", .strings diff.changed), ("unchanged", .strings diff.unchanged)]

end ManifestDiff

end AssetCache
