import AssetCache.Json.Shape
import AssetCache.Json.Value
import AssetCache.Key
import AssetCache.Url.Address

/-!
# Configuration

A worker serves the resources of one origin out of three regions of a storage:
the content that is served, the content staged for the next version, and the
record of the manifest that was activated last. A configuration is valid when its
origin is a web address without path, query and fragment and the three names are
there and distinct; validation brings the origin into its written form.
-/

set_option autoImplicit false

namespace AssetCache

/-- The regions of a storage that a worker uses. -/
structure RegionNames where
  content : String
  temp : String
  manifest : String
  deriving DecidableEq, Repr

namespace RegionNames

/-- The names where none are given. -/
def default : RegionNames := ⟨"app-cache", "app-temp-cache", "app-manifest"⟩

instance : Inhabited RegionNames := ⟨default⟩

/-- The three names in the order in which they are cleared. -/
def all (names : RegionNames) : List String := [names.content, names.temp, names.manifest]

/-- Whether the names are there and distinct. -/
def isValid (names : RegionNames) : Bool :=
  !names.content.isEmpty && !names.temp.isEmpty && !names.manifest.isEmpty &&
    names.content != names.temp && names.content != names.manifest &&
    names.temp != names.manifest

/-- The names as JSON. -/
def toJson (names : RegionNames) : Json :=
  .obj [("content", .str names.content), ("temp", .str names.temp),
    ("manifest", .str names.manifest)]

open Json Json.Reader in
/-- The reader of names: each may be missing. -/
def reader : Reader RegionNames := do
  let (content, temp, manifest) ←
    record (σ := Option String × Option String × Option String)
      [⟨"content", fun s => s.1.isSome, fun s => return (some (← text), s.2.1, s.2.2)⟩,
       ⟨"temp", fun s => s.2.1.isSome, fun s => return (s.1, some (← text), s.2.2)⟩,
       ⟨"manifest", fun s => s.2.2.isSome, fun s => return (s.1, s.2.1, some (← text))⟩]
      (none, none, none)
  return ⟨content.getD default.content, temp.getD default.temp,
    manifest.getD default.manifest⟩

end RegionNames

/-- What a worker is configured with. -/
structure Config where
  origin : String
  regions : RegionNames
  deriving DecidableEq, Repr

/-- Why a configuration is not valid. -/
inductive ConfigError where
  | invalidOrigin (origin reason : String)
  | invalidRegions
  deriving DecidableEq, Repr

namespace ConfigError

/-- The wording of an error. -/
def message : ConfigError → String
  | invalidOrigin origin reason => "Invalid origin '" ++ origin ++ "': " ++ reason
  | invalidRegions => "Region names must be distinct and non-empty"

end ConfigError

namespace Config

/-- The configuration of an origin with the default names. -/
def ofOrigin (origin : String) : Config := ⟨origin, .default⟩

/-- The written form of an origin, or the reason why it is none. -/
def checkOrigin (origin : String) : Except String String :=
  match Url.Address.parse origin with
  | .error error => .error error.message
  | .ok (.foreign _) => .error "scheme must be http or https"
  | .ok (.web address) =>
    if address.path = ['/'] ∧ address.query = none ∧ address.fragment = none then
      .ok address.origin
    else .error "origin must not carry a path, query or fragment"

/-- A valid configuration with its origin in its written form. -/
def validate (config : Config) : Except ConfigError Config :=
  match checkOrigin config.origin with
  | .error reason => .error (.invalidOrigin config.origin reason)
  | .ok origin =>
    if config.regions.isValid then .ok { config with origin } else .error .invalidRegions

/-- The URL of a resource. -/
def urlFor (config : Config) (key : String) : String := Key.urlFor config.origin key

/-- A configuration as JSON. -/
def toJson (config : Config) : Json :=
  .obj [("origin", .str config.origin), ("regions", config.regions.toJson)]

open Json Json.Reader in
/-- The reader of a configuration: the names may be missing. -/
def reader : Reader Config := do
  let (origin, regions) ← record (σ := Option String × Option RegionNames)
    [⟨"origin", fun s => s.1.isSome, fun s => return (some (← text), s.2)⟩,
     ⟨"regions", fun s => s.2.isSome, fun s => return (s.1, some (← RegionNames.reader))⟩]
    (none, none)
  return ⟨← required origin, regions.getD .default⟩

/-- Read a configuration. -/
def ofBytes (bytes : Bytes) : Except Json.Fault Config :=
  Json.Reader.decode reader bytes

end Config

end AssetCache
