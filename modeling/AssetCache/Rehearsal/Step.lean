import AssetCache.Rehearsal.World
import AssetCache.Worker.Activate
import AssetCache.Worker.Offline
import AssetCache.Worker.Serve

/-!
# Steps of a rehearsal

A rehearsal is a list of steps: calls to the storage that was opened last, changes
to what is behind it or to the network, and operations of deployed workers. Every
step ends in a value or in a failure, and with it goes what the workers did.
-/

set_option autoImplicit false

namespace AssetCache.Rehearsal

/-- A step of a rehearsal. -/
inductive Step where
  | storage (call : Storage.Call)
  /-- Copy a region into another, both opened first. -/
  | copy (source target : String)
  /-- Remove an entry of a region that is opened first. -/
  | removeFrom (region key : String)
  /-- Everything that the storage holds, past all faults. -/
  | dump
  /-- A new storage over what is behind the old one. -/
  | reopen
  | fault (fault : Storage.Fault)
  /-- No more faults, and no more failing calls of the host. -/
  | heal
  | writeFile (path : Disk.Path) (bytes : Bytes)
  | makeDirectory (path : Disk.Path)
  | deleteFile (path : Disk.Path)
  | listFiles
  | setValue (name : String) (value : Bytes)
  | deleteValue (name : String)
  | listValues
  | openLabel (label : String)
  | failCalls (kinds : List KeyValue.Kind)
  | serve (url : String) (route : Route)
  | unserve (url : String)
  | deploy (build : Build) (detached : Bool)
  /-- Deploy a build as it is emitted. -/
  | deployBytes (bytes : Bytes) (detached : Bool)
  | install (worker : Option Nat)
  | activate (worker : Option Nat)
  | activateRepeatedly (worker : Option Nat) (times : Nat)
  | fetch (worker : Option Nat) (request : Request)
  | message (worker : Option Nat) (payload : String)
  | downloadOffline (worker : Option Nat)
  | recordedManifest (worker : Option Nat)

/-- An entry of a dump: the response, or why it cannot be read. -/
abbrev DumpedEntry : Type := String × Except StorageError (Option Response)

/-- What a step ends in when it does not fail. -/
inductive Value where
  | nothing
  | flag (value : Bool)
  | texts (texts : List String)
  | text (text : Option String)
  | response (response : Option Response)
  | copied (region : String) (keys : List String)
  | dumped (regions : List (String × List DumpedEntry))
  | files (nodes : List (String × Option Bytes))
  | values (entries : List (String × Bytes))
  | sizes (resources core : Nat)
  | activation (outcome : Activation)
  | activations (outcomes : List Activation)
  | served (served : Option Served)

/-- Why a step fails. -/
inductive Failure where
  | storage (error : StorageError)
  | worker (error : WorkerError)
  | build (error : BuildError)
  /-- The step names a worker that has not been deployed. -/
  | noWorker

/-- What a step ends in. -/
abbrev Answer : Type := Except Failure Value

namespace World

/-- The value of a storage call. -/
def callValue : (call : Storage.Call) → call.Value → Value
  | .create _, () => .nothing
  | .has _, flag => .flag flag
  | .delete _, flag => .flag flag
  | .regions, texts => .texts texts
  | .find _ _, response => .response response
  | .put _ _ _, () => .nothing
  | .remove _ _, flag => .flag flag
  | .keys _, texts => .texts texts

/-- Run a program over the storage and take its value. -/
def stepStorage {α : Type} (world : World) (value : α → Value)
    (program : Attempt Storage.signature StorageError α) : Answer × World :=
  let (result, world) := world.runStorage program
  ((result.map value).mapError .storage, world)

/-- Everything that some keys of a region lead to. -/
def dumpEntries (world : World) (region : String) : List String → List DumpedEntry × World
  | [] => ([], world)
  | key :: rest =>
    let (entry, world) := world.answerBare world.current (.find region key)
    let (entries, world) := world.dumpEntries region rest
    ((key, entry) :: entries, world)

/-- Everything that some regions hold; keys that cannot be listed count as none. -/
def dumpRegions (world : World) : List String → List (String × List DumpedEntry) × World
  | [] => ([], world)
  | region :: rest =>
    let (keys, world) := world.answerBare world.current (.keys region)
    let (entries, world) := world.dumpEntries region (keys.toOption.getD [])
    let (regions, world) := world.dumpRegions rest
    ((region, entries) :: regions, world)

/-- Everything that the storage holds. -/
def dump (world : World) : Answer × World :=
  let (regions, world) := world.answerBare world.current .regions
  match regions with
  | .error error => (.error (.storage error), world)
  | .ok regions =>
    let (dumped, world) := world.dumpRegions regions
    (.ok (.dumped dumped), world)

/-- Open a new storage over what is behind the old one. -/
def reopen (world : World) : Answer × World :=
  match world.kind with
  | .keyed =>
    match world.backing.host.openStore KeyValue.Host.defaultLabel with
    | .error reason => (.error (.storage (.openFailed reason)), world)
    | .ok () => (.ok .nothing, { world with storages := world.storages.push ⟨[], .empty⟩ })
  | _ => (.ok .nothing, { world with storages := world.storages.push ⟨[], .empty⟩ })

/-- Change the faults of the storage that was opened last. -/
def withFaults (world : World) (change : List Storage.Fault → List Storage.Fault) : World :=
  { world with
    storages := world.storages.modify world.current fun opened =>
      { opened with faults := change opened.faults } }

/-- Make a call to the disk, below the directory of the storage. -/
def stepDisk (world : World) (call : Disk.Call) (value : call.Value → Value) : Answer × World :=
  let (result, disk) := Disk.Tree.answer call world.backing.disk
  ((result.map value).mapError fun error => .storage (.disk error),
    { world with backing.disk := disk })

/-- Make sure that a directory is there. -/
def withDirectory (world : World) (path : Disk.Path) : World :=
  { world with backing.disk := (Disk.Tree.answer (.createDirectories path) world.backing.disk).2 }

/-- The files and directories below the directory of the storage, by their paths. -/
def listFiles (world : World) : List (String × Option Bytes) :=
  world.backing.disk.below storageRoot

/-- The worker that a step is about: the one of a number, else the last. -/
def worker? (world : World) : Option Nat → Option Deployed
  | some number => world.workers[number]?
  | none => world.workers.back?

/-- Let a worker run a program that may fail. -/
def stepWorker {α : Type} (world : World) (number : Option Nat)
    (program : Worker → Worker.Step α) (value : α → Value) : Answer × World :=
  match world.worker? number with
  | none => (.error .noWorker, world)
  | some deployed =>
    let (result, world) := world.runWorker deployed (program deployed.worker).run
    ((result.map value).mapError .worker, world)

/-- Activate a worker so many times. -/
def activateTimes (world : World) (deployed : Deployed) : Nat → List Activation × World
  | 0 => ([], world)
  | times + 1 =>
    let (outcome, world) := world.runWorker deployed deployed.worker.activate
    let (outcomes, world) := world.activateTimes deployed times
    (outcome :: outcomes, world)

/-- Deploy a build over the storage that was opened last. -/
def deploy (world : World) (build : Build) (detached : Bool) : Answer × World :=
  (.ok (.sizes build.resources.size build.core.length),
    { world with workers := world.workers.push ⟨⟨world.config, build⟩, world.current, detached⟩ })

/-- What a step does. -/
def step (world : World) : Step → Answer × World
  | .storage call => world.stepStorage (callValue call) (Storage.ask call)
  | .copy source target =>
    world.stepStorage (.copied target) do
      Storage.ask (.create target)
      Storage.ask (.create source)
      Storage.copyInto target source
  | .removeFrom region key =>
    world.stepStorage .flag do
      Storage.ask (.create region)
      Storage.ask (.remove region key)
  | .dump => world.dump
  | .reopen => world.reopen
  | .fault fault => (.ok .nothing, world.withFaults (· ++ [fault]))
  | .heal =>
    (.ok .nothing, { world.withFaults fun _ => [] with backing.host.failing := [] })
  | .writeFile path bytes =>
    (world.withDirectory (storageRoot ++ (Disk.Tree.dropSlashes path).dropLast)).stepDisk
      (.write (storageRoot ++ path) bytes) fun _ => .nothing
  | .makeDirectory path =>
    world.stepDisk (.createDirectories (storageRoot ++ path)) fun _ => .nothing
  | .deleteFile path =>
    let (result, disk) := Disk.Tree.answer (.removeFile (storageRoot ++ path)) world.backing.disk
    (.ok (.flag result.isOk), { world with backing.disk := disk })
  | .listFiles => (.ok (.files world.listFiles), world)
  | .setValue name value =>
    (.ok .nothing,
      { world with backing.host.entries := world.backing.host.entries.insert name value })
  | .deleteValue name =>
    (.ok (.flag (world.backing.host.entries.contains name)),
      { world with backing.host.entries := world.backing.host.entries.erase name })
  | .listValues => (.ok (.values world.backing.host.entries.entries), world)
  | .openLabel label =>
    match world.backing.host.openStore label with
    | .ok () => (.ok .nothing, world)
    | .error reason => (.error (.storage (.openFailed reason)), world)
  | .failCalls kinds => (.ok .nothing, { world with backing.host.failing := kinds })
  | .serve url route => (.ok .nothing, { world with network := world.network.insert url route })
  | .unserve url =>
    (.ok (.flag (world.network.contains url)), { world with network := world.network.erase url })
  | .deploy build detached => world.deploy build detached
  | .deployBytes bytes detached =>
    match Build.ofBytes bytes with
    | .ok build => world.deploy build detached
    | .error error => (.error (.build error), world)
  | .install number => world.stepWorker number Worker.install .texts
  | .activate number =>
    world.stepWorker number (fun worker => ExceptT.lift worker.activate) .activation
  | .activateRepeatedly number times =>
    match world.worker? number with
    | none => (.error .noWorker, world)
    | some deployed =>
      let (outcomes, world) := world.activateTimes deployed times
      (.ok (.activations outcomes), world)
  | .fetch number request =>
    world.stepWorker number (fun worker => worker.handleFetch request) .served
  | .message number payload =>
    world.stepWorker number (fun worker => worker.handleMessage payload) fun message =>
      .text (message.map Message.text)
  | .downloadOffline number => world.stepWorker number Worker.downloadOffline .texts
  | .recordedManifest number =>
    world.stepWorker number Worker.recordedManifest fun manifest =>
      .text (manifest.map fun m => (Manifest.toJson m).compact)

/-- Take a step from a clear record. -/
def rehearse (world : World) (step : Step) : Answer × World :=
  { world with record := .empty }.step step

end World

/-- What each of some steps ends in, with what the workers did in it. -/
def rehearseAll (world : World) : List Step → List (Answer × Record)
  | [] => []
  | step :: rest =>
    let (answer, world) := world.rehearse step
    (answer, world.record) :: rehearseAll world rest

end AssetCache.Rehearsal
