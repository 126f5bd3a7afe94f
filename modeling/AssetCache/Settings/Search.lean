import AssetCache.Disk.Location
import AssetCache.Settings.Basic
import AssetCache.Settings.Template

/-!
# Finding and writing settings

Settings are read from the file that is named, or from the first file of a usual
name that can be read as one, in the working directory and then in those above
it. A file that is there but cannot be read is passed over in that search, not
when it is named.

Locations are resolved against the directory of the file that was read, or the
working directory if there is none.
-/

set_option autoImplicit false

namespace AssetCache.Settings

open Disk (Location.join Location.names)

/-- Why settings cannot be loaded from a file; the file is named as it was given. -/
inductive LoadError where
  | unreadable (file : String) (error : Disk.Error)
  | invalidJson (file : String) (fault : Json.Fault)
  | invalidToml (file : String)
  deriving DecidableEq, Repr

namespace LoadError

/-- What was being done. -/
def context : LoadError → String
  | unreadable file _ => "Failed to read config file: " ++ file
  | invalidJson file _ => "Failed to parse JSON config: " ++ file
  | invalidToml file => "Failed to parse TOML config: " ++ file

/-- What went wrong there. -/
def cause : LoadError → String
  | unreadable _ error => error.message
  | invalidJson _ fault => fault.message
  | invalidToml _ => "<toml>"

end LoadError

/-- The names under which settings are looked for in a directory, in order. -/
def usualNames : List String := ["sw.toml", ".sw.toml", "sw.json"]

/-- Settings as the text of a file gives them: JSON by the ending of its name, else TOML. -/
def ofText (file text : String) : Except LoadError Settings :=
  if ".json".toList.isSuffixOf file.toList then (ofJson text).mapError (.invalidJson file)
  else
    match ofToml? text with
    | some settings => .ok settings
    | none => .error (.invalidToml file)

/-- Read the file at a location as seen from a directory; nothing is at the empty location. -/
def readLocation (directory location : String) : Attempt Disk.signature Disk.Error Bytes :=
  if location.isEmpty then throw .notFound
  else Disk.ask (.read (Location.names (Location.join directory location)))

/-- Load settings from a file as seen from a directory. -/
def load (directory file : String) : Attempt Disk.signature LoadError Settings := do
  let bytes ← Attempt.mapFailure (.unreadable file) (readLocation directory file)
  match Bytes.text? bytes with
  | none => throw (.unreadable file .notText)
  | some text => ofText file text

/-- Whether something is at a location. -/
def isThere (location : String) : Program Disk.signature Bool := do
  return (← Disk.attempt (.inspect (Location.names location))).isOk

/-- The first of some files that is there and can be loaded. -/
def firstOf (directory : String) : List String → Program Disk.signature (Option (Settings × String))
  | [] => return none
  | file :: rest => do
    if ← isThere file then
      match ← (load directory file).run with
      | .ok settings => return some (settings, file)
      | .error _ => firstOf directory rest
    else firstOf directory rest

/-- The files that are looked for from a directory, in order. -/
def candidates (directory : String) : List String :=
  (Disk.Location.ancestors directory).flatMap fun place =>
    usualNames.map (Location.join place)

/-- The settings in effect in a directory, with the file they are from. -/
def find (directory : String) : Program Disk.signature (Option (Settings × String)) :=
  firstOf directory (candidates directory)

/-! ## Writing -/

/-- Why no file of settings is written. -/
inductive WriteError where
  | alreadyThere (file : String)
  | invalidOrigin (error : ConfigError)
  | unwritable (file : String) (error : Disk.Error)
  deriving DecidableEq, Repr

/-- Write a file of settings into a directory; `force` lets it replace another. -/
def create (directory origin : String) (force : Bool) :
    Attempt Disk.signature WriteError String := do
  let file := Location.join directory "sw.toml"
  let there ← ExceptT.lift (isThere file)
  if there && !force then throw (.alreadyThere file)
  match (Config.ofOrigin origin).validate with
  | .error error => throw (.invalidOrigin error)
  | .ok _ =>
    Attempt.mapFailure (.unwritable file)
      (Disk.ask (.write (Location.names file) (Bytes.ofText (template origin))))
    return file

end AssetCache.Settings
