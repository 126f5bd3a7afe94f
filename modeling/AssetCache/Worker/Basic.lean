import AssetCache.Config
import AssetCache.Manifest.Build
import AssetCache.Worker.Action

/-!
# Workers

A worker serves one build under one configuration. It keeps nothing itself: the
content, what is staged and the record of the manifest are all in its storage.
-/

set_option autoImplicit false

namespace AssetCache

/-- A worker of one deployed build. -/
structure Worker where
  config : Config
  build : Build
  deriving DecidableEq

namespace Worker

/-- The region of what is served. -/
def content (worker : Worker) : String := worker.config.regions.content

/-- The region of what is staged. -/
def temp (worker : Worker) : String := worker.config.regions.temp

/-- The region of the record. -/
def records (worker : Worker) : String := worker.config.regions.manifest

/-- The URL of a resource. -/
def urlFor (worker : Worker) (key : String) : String := worker.config.urlFor key

/-- The URL under which the manifest is recorded. -/
def recordUrl (worker : Worker) : String := worker.urlFor "manifest"

/-- The key of a stored URL. -/
def contentKey? (worker : Worker) (url : String) : Option String :=
  Key.contentKey? worker.config.origin url

/-- The manifest that is recorded, if there is a record. -/
def readRecord (worker : Worker) : Step (Option Manifest) := do
  match ← store (.find worker.records worker.recordUrl) with
  | none => return none
  | some response =>
    match Manifest.ofBytes response.body with
    | .ok manifest => return some manifest
    | .error fault => throw (.record fault)

/-- Record the manifest of this build. -/
def writeRecord (worker : Worker) : Step Unit :=
  store (.put worker.records worker.recordUrl (.json worker.build.resources.toBytes))

/-- The manifest that the last activation recorded, if any did. -/
def recordedManifest (worker : Worker) : Step (Option Manifest) := do
  if ← store (.has worker.records) then
    store (.create worker.records)
    worker.readRecord
  else return none

end Worker

end AssetCache
