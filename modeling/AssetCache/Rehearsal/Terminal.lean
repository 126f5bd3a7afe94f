import AssetCache.CommandLine.Run
import AssetCache.Disk.Tree
import AssetCache.Fetch.Client

/-!
# A terminal for commands

A rehearsal runs commands at a terminal that is a value: a disk, what has been
printed, and a transport for requests. Nobody sits there to be asked, and nothing
is kept of what is logged.
-/

set_option autoImplicit false

namespace AssetCache.Rehearsal

/-- The disk that commands find, and what they have printed. -/
structure Terminal where
  disk : Disk.Tree
  /-- What went to the standard output. -/
  output : String
  /-- What went to the standard error output. -/
  errors : String

/-- What carries the requests of commands. -/
abbrev Transport : Type := Fetch.Outbound.Sent → Except Fetch.Client.Failure Fetch.Incoming

/-- The transport that carries nothing. -/
def Transport.none : Transport := fun _ => .error .unsent

namespace Terminal

/-- A terminal at which nothing has been printed. -/
def ofDisk (disk : Disk.Tree) : Terminal := ⟨disk, "", ""⟩

/-- What an action of a command does at a terminal. -/
def answer (transport : Transport) :
    (action : CommandLine.Action) → Terminal → action.Reply × Terminal
  | .disk call, terminal =>
    let (reply, disk) := Disk.Tree.answer call terminal.disk
    (reply, { terminal with disk })
  | .fetch request, terminal => (Fetch.Client.fetch transport request, terminal)
  | .fetchAll requests, terminal =>
    (⟨requests.map (Fetch.Client.arrival transport), List.length_map _⟩, terminal)
  | .print text, terminal => ((), { terminal with output := terminal.output ++ text })
  | .complain text, terminal => ((), { terminal with errors := terminal.errors ++ text })
  | .confirm _, terminal => (.error "not a terminal", terminal)
  | .log _ _, terminal => ((), terminal)

/-- Run a part of a command. -/
def run {α : Type} (transport : Transport) (terminal : Terminal)
    (routine : CommandLine.Routine α) : α × Terminal :=
  Program.run (answer transport) routine terminal

end Terminal

end AssetCache.Rehearsal
