import AssetCache.CommandLine.Run
import AssetCache.Fetch.Client

/-!
# The program on a real machine

Every action of a run is carried out on the disk and at the terminal at hand. No
carrier of requests is linked in, so every request counts as one that could not be
sent, and what is served comes out of the storage.
-/

set_option autoImplicit false

namespace AssetCache.Machine

/-- The error of a disk, by its number. -/
def diskError : IO.Error → Disk.Error
  | .noFileOrDirectory .. => .notFound
  | .alreadyExists .. => .exists_
  | .inappropriateType _ code details => ofCode code details
  | .invalidArgument _ code details => ofCode code details
  | .resourceVanished code details => ofCode code details
  | .otherError code details => ofCode code details
  | error => .other (toString error)
where
  ofCode (code : UInt32) (details : String) : Disk.Error :=
    if code = 20 then .notDirectory
    else if code = 21 then .isDirectory
    else if code = 36 then .nameTooLong
    else .other details

/-- Do something on the disk and keep its error. -/
def attempt {α : Type} (action : IO α) : IO (Except Disk.Error α) := do
  try return .ok (← action)
  catch error => return .error (diskError error)

/-- Carry out a call to the disk. -/
def callDisk : (call : Disk.Call) → IO (Disk.Reply call)
  | .createDirectories path => attempt (IO.FS.createDirAll (Disk.Location.ofPath path))
  | .inspect path => attempt do
      let place ← IO.FS.realPath (Disk.Location.ofPath path)
      return (← place.metadata).type == .dir
  | .removeTree path => attempt (IO.FS.removeDirAll (Disk.Location.ofPath path))
  | .list path => attempt do
      let place ← IO.FS.realPath (Disk.Location.ofPath path)
      let entries ← place.readDir
      entries.toList.mapM fun entry => do
        return (⟨entry.fileName, (← entry.path.metadata).type == .dir⟩ : Disk.Listed)
  | .read path => attempt do
      return (← IO.FS.readBinFile (Disk.Location.ofPath path)).data.toList
  | .write path bytes =>
    attempt (IO.FS.writeBinFile (Disk.Location.ofPath path) ⟨bytes.toArray⟩)
  | .rename source target =>
    attempt (IO.FS.rename (Disk.Location.ofPath source) (Disk.Location.ofPath target))
  | .removeFile path => attempt (IO.FS.removeFile (Disk.Location.ofPath path))

/-- The transport where nothing carries requests. -/
def transport : Fetch.Outbound.Sent → Except Fetch.Client.Failure Fetch.Incoming :=
  fun _ => .error .unsent

/-- Ask a question, if there is someone to be asked. -/
def ask (question : String) : IO (Except String Bool) := do
  let input ← IO.getStdin
  if ← input.isTty then
    IO.eprint (question ++ " [y/N] ")
    let answer ← input.getLine
    return .ok (Text.Ascii.lower answer.trimAscii.toString == "y")
  else return .error "not a terminal"

/-- Log a note, under the number of the process for an event of its own. -/
def log (format : Log.Format) (note : Log.Note) : IO Unit := do
  match note.line format "1" 0 with
  | some line => IO.eprintln line
  | none => return ()

/-- Carry out an action. -/
def carryOut : (action : CommandLine.Action) → IO action.Reply
  | .disk call => callDisk call
  | .fetch request => return Fetch.Client.fetch transport request
  | .fetchAll requests =>
    return ⟨requests.map (Fetch.Client.arrival transport), List.length_map _⟩
  | .print text => IO.print text
  | .complain text => IO.eprint text
  | .confirm question => ask question
  | .log format note => log format note

/-- Carry out a run. -/
def perform {α : Type} : CommandLine.Routine α → IO α
  | .done value => return value
  | .call action next => do perform (next (← carryOut action))

end AssetCache.Machine

/-- Run the program in the working directory. -/
def main (arguments : List String) : IO UInt32 := do
  let directory ← IO.currentDir
  let status ← AssetCache.Machine.perform
    (AssetCache.CommandLine.run directory.toString arguments)
  return status.toUInt32
