import AssetCache.Config
import AssetCache.Toml.Shape

/-!
# Settings

The command line works by settings: the configuration of the worker, the place of
the build manifest, and the directory of the storage. They are read from a file
in JSON or TOML; whatever is missing there has a default. Only an origin must be
given where a worker is.
-/

set_option autoImplicit false

namespace AssetCache

/-- What the command line works by; locations are as they are written. -/
structure Settings where
  worker : Config
  /-- The location of the build manifest. -/
  manifest : String
  /-- The location of the storage. -/
  storage : String
  deriving DecidableEq, Repr

namespace Settings

/-- The origin where none is given. -/
def defaultOrigin : String := "http://localhost:8080"

/-- The location of the build manifest where none is given. -/
def defaultManifest : String := "build/asset-manifest.json"

/-- The location of the storage where none is given. -/
def defaultStorage : String := ".sw-cache"

/-- The settings where there is no file. -/
def default : Settings := ⟨.ofOrigin defaultOrigin, defaultManifest, defaultStorage⟩

/-- Settings as JSON. -/
def toJson (settings : Settings) : Json :=
  .obj [("worker", settings.worker.toJson),
    ("bundle", .obj [("manifest", .str settings.manifest)]),
    ("storage", .obj [("dir", .str settings.storage)])]

/-! ## From JSON -/

open Json Json.Reader in
/-- The reader of a record with one text, which may be missing. -/
def locationReader (name default : String) : Reader String := do
  let location ← record (σ := Option String)
    [⟨name, Option.isSome, fun _ => return some (← text)⟩] none
  return location.getD default

open Json Json.Reader in
/-- The reader of settings. -/
def reader : Reader Settings := do
  let (worker, manifest, storage) ←
    record (σ := Option Config × Option String × Option String)
      [⟨"worker", fun s => s.1.isSome, fun s => return (some (← Config.reader), s.2)⟩,
       ⟨"bundle", fun s => s.2.1.isSome, fun s =>
          return (s.1, some (← locationReader "manifest" defaultManifest), s.2.2)⟩,
       ⟨"storage", fun s => s.2.2.isSome, fun s =>
          return (s.1, s.2.1, some (← locationReader "dir" defaultStorage))⟩]
      (none, none, none)
  return ⟨worker.getD default.worker, manifest.getD defaultManifest,
    storage.getD defaultStorage⟩

/-- Settings as a text in JSON gives them. -/
def ofJson (text : String) : Except Json.Fault Settings :=
  Json.Reader.decode reader (Bytes.ofText text)

/-! ## From TOML -/

open Toml

/-- The names of regions that a value gives. -/
def regionsOfToml? (value : Value) : Option RegionNames := do
  let field ← value.fields? ["content", "temp", "manifest"]
  return ⟨← Value.textOr RegionNames.default.content (field "content"),
    ← Value.textOr RegionNames.default.temp (field "temp"),
    ← Value.textOr RegionNames.default.manifest (field "manifest")⟩

/-- The configuration that a value gives. -/
def configOfToml? (value : Value) : Option Config := do
  let field ← value.fields? ["origin", "regions"]
  let origin ← Value.text? (field "origin")
  match field "regions" with
  | none => return .ofOrigin origin
  | some regions => return ⟨origin, ← regionsOfToml? regions⟩

/-- The location that a value gives under a name. -/
def locationOfToml? (name default : String) : Option Value → Option String
  | none => some default
  | some value => do Value.textOr default ((← value.fields? [name]) name)

/-- The settings that the members of a document give. -/
def ofMembers? (members : Members) : Option Settings := do
  let worker ← match members.find? "worker" with
    | none => some default.worker
    | some value => configOfToml? value
  return ⟨worker,
    ← locationOfToml? "manifest" defaultManifest (members.find? "bundle"),
    ← locationOfToml? "dir" defaultStorage (members.find? "storage")⟩

/-- Settings as a text in TOML gives them. -/
def ofToml? (text : String) : Option Settings := do ofMembers? (← Document.parse? text)

end Settings

end AssetCache
