import AssetCache.Bytes
import AssetCache.Disk.Error
import AssetCache.Program

/-!
# Disk calls

The calls on files and directories that a program may make. A path is a list of
names, walked from the root of the disk; the empty name and `.` stay where they
are and `..` goes up.
-/

set_option autoImplicit false

namespace AssetCache.Disk

/-- The names on the way to a file or directory. -/
abbrev Path : Type := List String

/-- An entry of a directory: its name, and whether it is a directory. -/
structure Listed where
  name : String
  isDirectory : Bool
  deriving DecidableEq, Repr

/-- What a disk can be asked. -/
inductive Call where
  /-- Create a directory and those on the way to it, as far as they are missing. -/
  | createDirectories (path : Path)
  /-- Whether something is there, and then whether it is a directory. -/
  | inspect (path : Path)
  /-- Remove a directory with all that is in it. -/
  | removeTree (path : Path)
  /-- The entries of a directory, in no order. -/
  | list (path : Path)
  | read (path : Path)
  | write (path : Path) (bytes : Bytes)
  /-- Give a file another name, in place of any file of that name. -/
  | rename (source target : Path)
  | removeFile (path : Path)
  deriving DecidableEq, Repr

/-- What a call yields when it does not fail. -/
abbrev Call.Value : Call → Type
  | createDirectories _ => Unit
  | inspect _ => Bool
  | removeTree _ => Unit
  | list _ => List Listed
  | read _ => Bytes
  | write _ _ => Unit
  | rename _ _ => Unit
  | removeFile _ => Unit

/-- The answer to a call. -/
abbrev Reply (call : Call) : Type := Except Error call.Value

/-- The signature of programs that use a disk. -/
def signature : Signature := ⟨Call, Reply⟩

/-- Make a call and go on with what it yields. -/
def ask (call : Call) : Attempt signature Error call.Value :=
  ExceptT.mk (Program.perform (S := signature) call)

/-- Make a call and go on with its answer, whatever it is. -/
def attempt (call : Call) : Program signature (Reply call) :=
  Program.perform (S := signature) call

end AssetCache.Disk
