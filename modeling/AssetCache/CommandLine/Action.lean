import AssetCache.Disk.Call
import AssetCache.Worker.Basic

/-!
# What the command line does to its surroundings

A command is a program over these actions: calls to the disk, fetches, lines
printed and logged, and questions asked.

A command fails with a chain of causes, each explained by the one after it. The
chain is that of the errors themselves: an error that holds another repeats it.
-/

set_option autoImplicit false

namespace AssetCache.CommandLine

/-- What a command may do. -/
inductive Action where
  | disk (call : Disk.Call)
  | fetch (request : Request)
  | fetchAll (requests : List Request)
  /-- Print to the standard output. -/
  | print (text : String)
  /-- Print to the standard error output. -/
  | complain (text : String)
  /-- Ask a question to be answered with yes or no. -/
  | confirm (question : String)
  /-- Log a note in a format. -/
  | log (format : Log.Format) (note : Log.Note)

/-- The answer to an action; who cannot be asked has said why. -/
abbrev Action.Reply : Action → Type
  | disk call => Disk.Reply call
  | fetch _ => Fetch.Result
  | fetchAll requests => Worker.Arrivals requests
  | confirm _ => Except String Bool
  | _ => Unit

/-- The signature of commands. -/
def signature : Signature := ⟨Action, Action.Reply⟩

/-- A part of a command that cannot fail. -/
abbrev Routine (α : Type) : Type := Program signature α

/-- What went wrong, and then what each was caused by. -/
abbrev Causes : Type := List String

/-- A part of a command that may fail. -/
abbrev Step (α : Type) : Type := Attempt signature Causes α

/-- Do one thing. -/
def act (action : Action) : Routine action.Reply := Program.perform (S := signature) action

/-! ## Causes -/

/-- The causes of an error of the storage. -/
def storageCauses (error : StorageError) : Causes :=
  error.message ::
    match error with
    | .disk inner => [inner.message]
    | .unreadable fault => [fault.message]
    | _ => []

/-- The causes of an error of the worker. -/
def workerCauses (error : WorkerError) : Causes :=
  error.message ::
    match error with
    | .fetch inner => [inner.message]
    | .storage inner => storageCauses inner
    | .record fault => ["Invalid manifest JSON: " ++ fault.message, fault.message]

/-- The causes of a build that is not accepted. -/
def buildCauses (error : BuildError) : Causes :=
  error.message ::
    match error with
    | .json fault => [fault.message]
    | _ => []

/-- Fail in the course of something else. -/
def during {α : Type} (context : String) (step : Step α) : Step α :=
  Attempt.mapFailure (context :: ·) step

/-- Run a program over the disk. -/
def onDisk {α : Type} (program : Program Disk.signature α) : Routine α :=
  program.lower fun call => act (.disk call)

end AssetCache.CommandLine
