import AssetCache.CommandLine.Session

/-!
# Status of a cache

The status compares three things: the regions of the storage, the build that the
last activation recorded, and the current build. It says how many resources of
the current build are cached, and which cached ones the next activation will
evict.
-/

set_option autoImplicit false

namespace AssetCache.CommandLine

/-- What is known of a region: the role it plays, its name, and its entries if it is there. -/
structure RegionStatus where
  role : String
  name : String
  entries : Option Nat
  deriving DecidableEq, Repr

/-- The status of a cache. -/
structure Status where
  regions : List RegionStatus
  /-- The keys of the URLs in the content region. -/
  cached : List String
  /-- The resources of the current build. -/
  current : Manifest
  /-- The resources of the build that was activated last. -/
  recorded : Option Manifest

namespace Status

/-- How many resources of the current build are cached. -/
def cachedCount (status : Status) : Nat :=
  (status.current.keys.filter fun key => status.cached.contains key).length

/-- How the recorded build became the current one. -/
def diff? (status : Status) : Option ManifestDiff :=
  status.recorded.map fun recorded => .between recorded status.current

/-- The changed and removed keys that are cached. -/
def evictionsOf (diff : ManifestDiff) (cached : List String) : List String :=
  (diff.changed ++ diff.removed).filter fun key => cached.contains key

/-- The cached keys that the next activation will evict. -/
def pendingEvictions (status : Status) : List String :=
  match status.diff? with
  | some diff => evictionsOf diff status.cached
  | none => []

/-! ## Gathering -/

/-- What there is to know of a region. -/
def gatherRegion (session : Session) (role name : String) : Step RegionStatus := do
  if ← session.store (.has name) then
    let keys ← session.store (.keys name)
    return ⟨role, name, some keys.length⟩
  else return ⟨role, name, none⟩

/-- The status of the cache of a worker. -/
def gather (session : Session) (worker : Worker) : Step Status := do
  let content ← gatherRegion session "content" worker.content
  let temp ← gatherRegion session "temp" worker.temp
  let records ← gatherRegion session "manifest" worker.records
  let urls ← session.store (.keys worker.content)
  let recorded ← session.work worker.recordedManifest
  return {
    regions := [content, temp, records]
    cached := urls.filterMap worker.contentKey?
    current := worker.build.resources
    recorded := recorded }

/-! ## Telling -/

/-- What is known of a region as JSON. -/
def regionJson (region : RegionStatus) : Json :=
  .obj [("role", .str region.role), ("name", .str region.name),
    ("present", .bool region.entries.isSome), ("entries", .nat (region.entries.getD 0))]

/-- The status as JSON, with the origin of the worker and the location of the storage. -/
def toJson (status : Status) (origin storage : String) : Json :=
  .obj ([("origin", .str origin), ("storage", .str storage),
    ("regions", .arr (status.regions.map regionJson)),
    ("manifest_resources", .nat status.current.size),
    ("cached_resources", .nat status.cachedCount)] ++
    match status.diff? with
    | some diff => [("diff", diff.toJson)]
    | none => [])

/-- A row of the table of regions. -/
def tellRow (voice : Voice) (role name entries : String) : Routine Unit :=
  voice.row [(role, 10), (name, 20), (entries, 8)]

/-- Tell about regions. -/
def tellRegions (voice : Voice) : List RegionStatus → Routine Unit
  | [] => return ()
  | region :: rest => do
    let entries := match region.entries with
      | some n => Text.Decimal.ofNat n
      | none => "-"
    tellRow voice region.role region.name entries
    tellRegions voice rest

/-- Tell some lines. -/
def tellEvictions (voice : Voice) : List String → Routine Unit
  | [] => return ()
  | key :: rest => do
    voice.item ("evict on activation: " ++ key)
    tellEvictions voice rest

/-- Tell how the recorded build and the current one compare. -/
def tellBuild (status : Status) (voice : Voice) : Routine Unit := do
  voice.heading "Build"
  match status.diff? with
  | none => voice.info "No build recorded yet; the next activation starts fresh"
  | some diff =>
    if diff.isEmpty then voice.success "Recorded build matches the current manifest"
    else
      voice.warn "Current manifest differs from the recorded build"
      voice.number "added" diff.added.length
      voice.number "changed" diff.changed.length
      voice.number "removed" diff.removed.length
      voice.number "unchanged" diff.unchanged.length
      if voice.verbose then tellEvictions voice status.pendingEvictions

/-- Tell a status. -/
def tell (status : Status) (voice : Voice) (origin storage : String) : Routine Unit := do
  if voice.json then voice.result (status.toJson origin storage)
  else
    voice.heading "Asset cache status"
    voice.value "origin" origin
    voice.value "storage" storage
    voice.value "cached" (Text.Decimal.ofNat status.cachedCount ++ "/" ++
      Text.Decimal.ofNat status.current.size ++ " manifest resources")
    voice.heading "Regions"
    tellRow voice "ROLE" "NAME" "ENTRIES"
    tellRegions voice status.regions
    status.tellBuild voice

end Status

end AssetCache.CommandLine
