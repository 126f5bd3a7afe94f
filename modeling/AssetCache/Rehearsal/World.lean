import AssetCache.Disk.Tree
import AssetCache.KeyValue.Host
import AssetCache.Storage.Fault
import AssetCache.Storage.Files
import AssetCache.Storage.Keyed
import AssetCache.Storage.Memory
import AssetCache.Worker.Basic

/-!
# A world for workers

A rehearsal runs workers in a world that is a value: a network that answers by a
table of routes, storages of one of three kinds with faults in front of them, and
a record of what the workers said and asked for. `World.answer` says what each
action of a worker does there.

Storages on the disk or in the key-value store share what is behind them; a
storage in memory has its regions to itself. A worker keeps the storage over
which it was deployed.
-/

set_option autoImplicit false

namespace AssetCache.Rehearsal

/-! ## Network -/

/-- What the network makes of a request. -/
inductive Reception where
  | respond (response : Response)
  /-- Nothing arrives, for a reason. -/
  | fail (reason : String)
  /-- The request cannot be made. -/
  | refuse

/-- How requests for a URL are received, and how many rounds that takes in a batch. -/
structure Route where
  delay : Nat
  reception : Reception

/-- The routes of a network by URL. -/
abbrev Network : Type := Table Route

namespace Network

/-- What a request ends in. -/
def arrival (network : Network) (request : Request) : Fetch.Arrival :=
  match network.get? request.url with
  | none => ⟨0, .error (.request request.url "connection refused")⟩
  | some ⟨delay, .respond response⟩ => ⟨delay, .ok response⟩
  | some ⟨delay, .fail reason⟩ => ⟨delay, .error (.request request.url reason)⟩
  | some ⟨delay, .refuse⟩ => ⟨delay, .error (.invalidUrl request.url)⟩

/-- What each request of a batch ends in. -/
def arrivals (network : Network) (requests : List Request) : Worker.Arrivals requests :=
  ⟨requests.map network.arrival, List.length_map _⟩

end Network

/-! ## Storages -/

/-- The kinds of storages. -/
inductive Kind where
  | memory
  | files
  | keyed
  deriving DecidableEq, Repr

/-- A storage that has been opened. -/
structure Opened where
  faults : List Storage.Fault
  /-- The regions, if the storage is one in memory. -/
  memory : Storage.Memory

/-- What is behind the storages that outlive their opening. -/
structure Backing where
  disk : Disk.Tree
  host : KeyValue.Host

/-- The directory in which a storage on the disk lives. -/
def storageRoot : Disk.Path := ["storage"]

/-- The answer of a storage of some kind to a call. -/
def answerKind (kind : Kind) (call : Storage.Call) (state : Storage.Memory × Backing) :
    Storage.Reply call × (Storage.Memory × Backing) :=
  match kind with
  | .memory =>
    let (reply, memory) := Storage.Memory.answer call state.1
    (reply, (memory, state.2))
  | .files =>
    let (reply, disk) :=
      (Storage.Files.meaning storageRoot call).run Disk.Tree.answer state.2.disk
    (reply, (state.1, { state.2 with disk }))
  | .keyed =>
    let (reply, host) := (Storage.Keyed.meaning call).run KeyValue.Host.answer state.2.host
    (reply, (state.1, { state.2 with host }))

/-! ## The world -/

/-- A worker that has been deployed. -/
structure Deployed where
  worker : Worker
  /-- The number of the storage over which it was deployed. -/
  storage : Nat
  /-- Whether no host counts its requests. -/
  detached : Bool

/-- What workers did since the record was last cleared. -/
structure Record where
  /-- The requests that were issued, last first. -/
  requests : List Request
  skips : Nat
  claims : Nat
  /-- The lines that were logged, last first. -/
  lines : List (Log.Level × String)

/-- The record of nothing. -/
def Record.empty : Record := ⟨[], 0, 0, []⟩

/-- The world of a rehearsal. -/
structure World where
  config : Config
  kind : Kind
  /-- The storages that have been opened, in order. -/
  storages : Array Opened
  backing : Backing
  network : Network
  /-- The workers that have been deployed, in order. -/
  workers : Array Deployed
  /-- How lines are logged. -/
  format : Log.Format
  record : Record

namespace World

/-- A world with one storage in which nothing has happened. -/
def start (config : Config) (kind : Kind) (format : Log.Format) : World where
  config := config
  kind := kind
  storages := #[⟨[], .empty⟩]
  backing := ⟨.empty, .empty⟩
  network := .empty
  workers := #[]
  format := format
  record := .empty

/-- The number of the storage that was opened last. -/
def current (world : World) : Nat := world.storages.size - 1

/-- The answer of a storage to a call. -/
def answerStorage (number : Nat) (call : Storage.Call) (world : World) :
    Storage.Reply call × World :=
  let opened := world.storages.getD number ⟨[], .empty⟩
  let (reply, (faults, (memory, backing))) :=
    Storage.Fault.answer (answerKind world.kind) call
      (opened.faults, (opened.memory, world.backing))
  (reply, { world with
    storages := world.storages.setIfInBounds number ⟨faults, memory⟩
    backing := backing })

/-- The answer of a storage whose faults are passed by. -/
def answerBare (number : Nat) (call : Storage.Call) (world : World) :
    Storage.Reply call × World :=
  let opened := world.storages.getD number ⟨[], .empty⟩
  let (reply, (memory, backing)) := answerKind world.kind call (opened.memory, world.backing)
  (reply, { world with
    storages := world.storages.setIfInBounds number ⟨opened.faults, memory⟩
    backing := backing })

/-- Record that requests were issued. -/
def issue (world : World) (requests : List Request) : World :=
  { world with record.requests := requests.reverse ++ world.record.requests }

/-- Record a line, if there is one. -/
def logLine (world : World) (level : Log.Level) : Option String → World
  | some line => { world with record.lines := (level, line) :: world.record.lines }
  | none => world

/-- The serial number that stands for any. -/
def anySerial : String := "#"

/-- What an action of a worker does. -/
def answer (deployed : Deployed) :
    (action : Worker.Action) → World → action.Reply × World
  | .storage call, world => world.answerStorage deployed.storage call
  | .fetch request, world => ((world.network.arrival request).result, world.issue [request])
  | .fetchAll requests, world =>
    let arrivals := world.network.arrivals requests
    (arrivals, world.issue (Fetch.Batch.issued requests arrivals.1))
  | .skipWaiting, world =>
    ((), if deployed.detached then world
      else { world with record.skips := world.record.skips + 1 })
  | .claimClients, world =>
    ((), if deployed.detached then world
      else { world with record.claims := world.record.claims + 1 })
  | .log note, world =>
    ((), world.logLine note.level (note.line world.format anySerial 0))
  | .beginActivation, world => ((), world)
  | .endActivation, world => ((), world)

/-- Run a program of a worker. -/
def runWorker {α : Type} (world : World) (deployed : Deployed) (program : Worker.Routine α) :
    α × World :=
  program.run (answer deployed) world

/-- Run a program over the storage that was opened last. -/
def runStorage {α : Type} (world : World)
    (program : Attempt Storage.signature StorageError α) : Except StorageError α × World :=
  program.run.run (answerStorage world.current) world

end World

end AssetCache.Rehearsal
