import AssetCache.Manifest.Basic

/-!
# Build manifests

A build emits its resource manifest together with the core shell: the keys, in
order, that must be cached before a version of the application is ready. A build
is acceptable when no hash is empty and the core shell lists only keys of the
manifest; a missing hash is reported before an unknown key.
-/

set_option autoImplicit false

namespace AssetCache

/-- What a build emits. -/
structure Build where
  resources : Manifest
  core : List String
  deriving DecidableEq

/-- Why a build is not accepted. -/
inductive BuildError where
  | json (fault : Json.Fault)
  | unknownCoreKey (key : String)
  | emptyHash (key : String)
  deriving DecidableEq, Repr

namespace BuildError

/-- The wording of an error. -/
def message : BuildError → String
  | json fault => "Invalid manifest JSON: " ++ fault.message
  | unknownCoreKey key =>
    "Core shell entry '" ++ key ++ "' is not listed in the resource manifest"
  | emptyHash key => "Resource '" ++ key ++ "' has an empty content hash"

end BuildError

namespace Build

/-- The first key, in the order of keys, whose hash is empty. -/
def emptyHash? (build : Build) : Option String :=
  (build.resources.entries.find? fun e => e.2.isEmpty).map Prod.fst

/-- The first key of the core shell that is not listed. -/
def unknownCoreKey? (build : Build) : Option String :=
  build.core.find? fun key => !build.resources.contains key

/-- Accept a build or say what is wrong with it. -/
def validate (build : Build) : Except BuildError Unit :=
  match build.emptyHash? with
  | some key => .error (.emptyHash key)
  | none =>
    match build.unknownCoreKey? with
    | some key => .error (.unknownCoreKey key)
    | none => .ok ()

open Json Json.Reader in
/-- The reader of a build: the core shell may be missing. -/
def reader : Reader Build := do
  let (resources, core) ← record (σ := Option Manifest × Option (List String))
    [⟨"resources", fun s => s.1.isSome, fun s => return (some (← textTable), s.2)⟩,
     ⟨"core", fun s => s.2.isSome, fun s => return (s.1, some (← texts))⟩]
    (none, none)
  return ⟨← required resources, core.getD []⟩

/-- Read a build and accept it. -/
def ofBytes (bytes : Bytes) : Except BuildError Build := do
  let build ← (Json.Reader.decode reader bytes).mapError .json
  build.validate
  return build

end Build

end AssetCache
