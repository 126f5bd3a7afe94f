import AssetCache.CommandLine.Help

/-!
# A run of the program

The program reads its arguments, starts a session in the working directory and
carries its command out. It answers with an exit status: zero for success, one for
a failure, and two for arguments that are not those of a command.
-/

set_option autoImplicit false

namespace AssetCache.CommandLine

/-- What is said when there are no settings to start from. -/
def startFailure (error : Settings.LoadError) : String :=
  "Error: " ++ error.context ++ "\n\nCaused by:\n    " ++ error.cause ++ "\n"

/-- Start a session in a directory and carry a command out. -/
def Invocation.run (directory : String) (invocation : Invocation) : Routine Nat := do
  match ← onDisk (Session.start directory invocation.file invocation.voice).run with
  | .ok session => invocation.command.execute session
  | .error error =>
    act (.complain (startFailure error))
    return 1

/-- Answer arguments that are not those of a command. -/
def Stop.run : Stop → Routine Nat
  | .usage => do
    act (.complain (Place.program.usage ++ "\n"))
    return 2
  | .version place => do
    act (.print (versionLine place))
    return 0
  | .help place => do
    act (.print place.help)
    return 0

/-- A run with some arguments in a directory. -/
def run (directory : String) (arguments : List String) : Routine Nat :=
  match Invocation.parse arguments with
  | .ok invocation => invocation.run directory
  | .error stop => stop.run

end AssetCache.CommandLine
