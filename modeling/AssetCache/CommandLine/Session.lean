import AssetCache.CommandLine.Voice
import AssetCache.Settings.Search
import AssetCache.Storage.Files

/-!
# Sessions

A session is what all commands start from: the working directory, the settings in
effect with the file they are from, and how to speak. Relative locations in the
settings are taken from the directory of that file, or from the working directory
if there is no file. A worker runs in a session with its storage on the disk.
-/

set_option autoImplicit false

namespace AssetCache.CommandLine

open Disk (Location.join Location.names Location.parent?)

/-- What commands start from. -/
structure Session where
  /-- The location of the working directory, an absolute one. -/
  directory : String
  settings : Settings
  /-- The file of the settings, as it was given or found. -/
  file : Option String
  voice : Voice

namespace Session

/-- Start from a file of settings, or from what a search for one finds. -/
def start (directory : String) (file : Option String) (voice : Voice) :
    Attempt Disk.signature Settings.LoadError Session := do
  match file with
  | some file => return ⟨directory, ← Settings.load directory file, some file, voice⟩
  | none =>
    match ← ExceptT.lift (Settings.find directory) with
    | some (settings, file) => return ⟨directory, settings, some file, voice⟩
    | none => return ⟨directory, .default, none, voice⟩

/-- A location as seen from the working directory. -/
def resolve (session : Session) (location : String) : String :=
  Location.join session.directory location

/-- The directory from which locations in the settings are taken. -/
def base (session : Session) : String :=
  match session.file.bind Location.parent? with
  | some parent => if parent.isEmpty then session.directory else session.resolve parent
  | none => session.directory

/-- The location of the storage. -/
def storage (session : Session) : String :=
  Location.join session.base session.settings.storage

/-- The directory of the storage. -/
def storageRoot (session : Session) : Disk.Path := Location.names session.storage

/-- The location of the build manifest. -/
def manifest (session : Session) : String :=
  Location.join session.base session.settings.manifest

/-- The configuration of the worker, which must be valid. -/
def config (session : Session) : Step Config :=
  match session.settings.worker.validate with
  | .ok config => return config
  | .error error => throw [error.message]

/-- The build that the manifest lists. -/
def build (session : Session) : Step Build := do
  match ← ExceptT.lift (act (.disk (.read (Location.names session.manifest)))) with
  | .error error =>
    throw ["Failed to read build manifest: " ++ session.manifest, error.message]
  | .ok bytes =>
    match Build.ofBytes bytes with
    | .error error => throw (("Invalid build manifest: " ++ session.manifest) :: buildCauses error)
    | .ok build => return build

/-- The worker of the session. -/
def worker (session : Session) : Step Worker := do
  let config ← session.config
  return ⟨config, ← session.build⟩

/-! ## Parts that run within a session -/

/-- What a call to the storage does. -/
def storageMeaning (session : Session) (call : Storage.Call) : Routine (Storage.Reply call) :=
  onDisk (Storage.Files.meaning session.storageRoot call)

/-- What an action of a worker does; there is no host to be told of versions and clients. -/
def workerMeaning (session : Session) : (action : Worker.Action) → Routine action.Reply
  | .storage call => session.storageMeaning call
  | .fetch request => act (.fetch request)
  | .fetchAll requests => act (.fetchAll requests)
  | .log note => session.voice.log note
  | .skipWaiting => .done ()
  | .claimClients => .done ()
  | .beginActivation => .done ()
  | .endActivation => .done ()

/-- Make a call to the storage. -/
def store (session : Session) (call : Storage.Call) : Step call.Value :=
  Attempt.mapFailure storageCauses (ExceptT.mk (session.storageMeaning call))

/-- Run a program of a worker that cannot fail. -/
def workRoutine {α : Type} (session : Session) (program : Worker.Routine α) : Routine α :=
  program.lower session.workerMeaning

/-- Run a program of a worker. -/
def work {α : Type} (session : Session) (step : Worker.Step α) : Step α :=
  Attempt.mapFailure workerCauses (ExceptT.mk (session.workRoutine step.run))

end Session

end AssetCache.CommandLine
