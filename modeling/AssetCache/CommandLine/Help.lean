import AssetCache.CommandLine.Arguments

/-!
# Help

What the command line says of itself: its version, and for every place in a
command what the words, texts and switches there mean. The switches known
everywhere stand among those of the place: first each first one, then each second
one, and so on, and of one rank those first whose name comes first.
-/

set_option autoImplicit false

namespace AssetCache.CommandLine

/-- The version of the command line. -/
def version : String := "0.1.0"

/-- The line that tells the version. -/
def versionLine (place : Place) : String := "-".intercalate place.path ++ " " ++ version ++ "\n"

namespace Place

/-- What a command is for. -/
def about : Place → String
  | program => "CLI driver for the shellcache asset worker"
  | install => "Fetch the core shell into the staging region"
  | activate => "Promote the staged shell and evict stale entries"
  | update => "Install and activate the current build"
  | fetch => "Serve a request through the worker"
  | offline => "Cache every manifest resource for offline use"
  | message => "Post a message to the worker"
  | status => "Show cache status"
  | purge => "Delete all cache regions"
  | config => "Manage configuration"
  | configShow => "Show current configuration"
  | configInit => "Initialize a new config file"

/-- What the text of a command is. -/
def operandAbout : Place → String
  | fetch => "Path under the origin (e.g. \x60/\x60, \x60main.js?v=3\x60) or an absolute URL"
  | _ => "Message payload (\x60skipWaiting\x60 or \x60downloadOffline\x60)"

/-- The switches known at a place in the order in which they are told. -/
def told : Place → List Switch
  | update => [.offline, .verbose, .json, .config, .help, .version]
  | fetch => [.verbose, .method, .json, .output, .config, .help, .version]
  | purge => [.verbose, .yes, .json, .config, .help, .version]
  | configInit => [.origin, .verbose, .force, .json, .config, .help, .version]
  | _ => [.verbose, .json, .config, .help, .version]

end Place

namespace Switch

/-- What a switch does. -/
def about : Switch → String
  | verbose => "Enable verbose output"
  | json => "Use JSON output format"
  | config => "Config file path"
  | offline => "Also fetch every resource missing from the cache"
  | method => "HTTP method [default: GET]"
  | output => "Write the response body to a file"
  | yes => "Skip confirmation prompt"
  | origin => "Origin the worker serves [default: " ++ Settings.defaultOrigin ++ "]"
  | force => "Force overwrite existing config"
  | help => "Print help"
  | version => "Print version"

/-- A switch as it is written. -/
def spelled (switch : Switch) : String :=
  (match switch.short? with
    | some c => String.ofList ['-', c, ',', ' ']
    | none => "    ") ++
  "--" ++ switch.long ++
  if switch.hasValue then " <" ++ Text.Ascii.upper switch.long ++ ">" else ""

end Switch

/-- Lines of two columns under a heading. -/
def helpSection (title : String) (rows : List (String × String)) : String :=
  let width := (rows.map fun row => row.1.length).foldl max 0
  "\n" ++ title ++ ":\n" ++
    String.join (rows.map fun row => "  " ++ Voice.padded width row.1 ++ "  " ++ row.2 ++ "\n")

namespace Place

/-- How a command is written. -/
def usage (place : Place) : String :=
  "Usage: " ++ " ".intercalate place.path ++ " [OPTIONS]" ++
  (match place.operand? with
    | some name => " <" ++ name ++ ">"
    | none => "") ++
  if place.words.isEmpty then "" else " <COMMAND>"

/-- The help for a place. -/
def help (place : Place) : String :=
  place.about ++ "\n\n" ++ place.usage ++ "\n" ++
  (if place.words.isEmpty then ""
    else helpSection "Commands" (place.words.map (fun word => (word.1, word.2.about)) ++
      [("help", "Print this message or the help of the given subcommand(s)")])) ++
  (match place.operand? with
    | some name => helpSection "Arguments" [("<" ++ name ++ ">", place.operandAbout)]
    | none => "") ++
  helpSection "Options" (place.told.map fun switch => (switch.spelled, switch.about))

/-- Every switch that is known at a place is told there, and no other. -/
theorem mem_told_iff (place : Place) (switch : Switch) :
    switch ∈ place.told ↔ switch ∈ place.switches := by
  cases place <;> cases switch <;> decide

end Place

end AssetCache.CommandLine
