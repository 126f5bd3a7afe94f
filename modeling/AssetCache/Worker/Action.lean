import AssetCache.Fetch.Batch
import AssetCache.Log.Logger
import AssetCache.Storage.Call
import AssetCache.Worker.Outcome

/-!
# What a worker does to its surroundings

A worker is a set of programs over these actions: calls to its storage, fetches,
words to the host that runs it, and notes for the log. It also says where an
activation begins and ends, for activations of one worker take turns.

A batch of fetches is one action. Its answer says for each request when and how
it would arrive; what the batch ends in follows from that (`Fetch.Batch`).
-/

set_option autoImplicit false

namespace AssetCache

namespace Log

/-- What is to be logged, before it has an identifier, a time and a form. -/
structure Note where
  event : Event
  key : Option String
  level : Level
  message : String
  fields : Fields

/-- The line of a note, unless it is dropped. -/
def Note.line (note : Note) (format : Format) (serial : String) (elapsed : Nat) :
    Option String :=
  let logger := { Logger.ofEvent note.event serial format with key := note.key }
  logger.render elapsed note.level note.message note.fields

end Log

namespace Worker

/-- What a worker may do. -/
inductive Action where
  | storage (call : Storage.Call)
  | fetch (request : Request)
  | fetchAll (requests : List Request)
  /-- Ask the host to let this version take over without waiting. -/
  | skipWaiting
  /-- Take control of the clients that are open. -/
  | claimClients
  | log (note : Log.Note)
  /-- Wait for the activation before this one to end. -/
  | beginActivation
  | endActivation

/-- An arrival for each of some requests. -/
abbrev Arrivals (requests : List Request) : Type :=
  { arrivals : List Fetch.Arrival // arrivals.length = requests.length }

/-- The answer to an action. -/
abbrev Action.Reply : Action → Type
  | storage call => Storage.Reply call
  | fetch _ => Fetch.Result
  | fetchAll requests => Arrivals requests
  | _ => Unit

/-- The signature of a worker's programs. -/
def signature : Signature := ⟨Action, Action.Reply⟩

/-- A program of a worker that cannot fail. -/
abbrev Routine (α : Type) : Type := Program signature α

/-- A program of a worker that may fail. -/
abbrev Step (α : Type) : Type := Attempt signature WorkerError α

/-- Do one thing. -/
def act (action : Action) : Routine action.Reply := Program.perform (S := signature) action

/-- Do one thing within a program that may fail. -/
def stepAct (action : Action) : Step action.Reply := ExceptT.lift (act action)

/-- Run a program over storage calls on the worker's storage. -/
def onStorage {α : Type} (attempt : Attempt Storage.signature StorageError α) : Step α :=
  Attempt.mapFailure .storage (ExceptT.mk (attempt.run.lower fun call => act (.storage call)))

/-- Make a call to the worker's storage. -/
def store (call : Storage.Call) : Step call.Value := onStorage (Storage.ask call)

/-- Fetch all of some requests, or end in the first failure. -/
def fetchBatch (requests : List Request) :
    Step (Except FetchError (List (Request × Response))) := do
  let arrivals ← stepAct (.fetchAll requests)
  return Fetch.Batch.outcome requests arrivals.1

/-- Make a note of an event. -/
def note (event : Event) (level : Log.Level) (message : String)
    (fields : Log.Fields := .empty) (key : Option String := none) : Routine Unit :=
  act (.log ⟨event, key, level, message, fields⟩)

/-- Make a note of an event within a program that may fail. -/
def stepNote (event : Event) (level : Log.Level) (message : String)
    (fields : Log.Fields := .empty) (key : Option String := none) : Step Unit :=
  ExceptT.lift (note event level message fields key)

end Worker

end AssetCache
