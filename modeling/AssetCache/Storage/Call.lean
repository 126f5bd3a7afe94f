import AssetCache.Disk.Error
import AssetCache.Http.Response
import AssetCache.Program

/-!
# Storage calls

A storage holds named regions, and a region holds responses under keys. Eight
calls are all there is to a storage. A region that does not exist reads like one
without entries; only writing to it fails, until it has been opened. Names and
keys are listed in ascending order.

What a call does is for a storage to say: `Memory` answers from a value, and the
other storages answer by programs over a disk or a host's key-value store.
-/

set_option autoImplicit false

namespace AssetCache

/-- Why a storage refuses a call. -/
inductive StorageError where
  | openFailed (reason : String)
  /-- A write to a region that is not there. -/
  | regionMissing (region : String)
  /-- Metadata that cannot be read. -/
  | unreadable (fault : Json.Fault)
  | callFailed (reason : String)
  | disk (error : Disk.Error)
  /-- An entry of which a part is missing or unreadable. -/
  | corrupt (region key reason : String)
  deriving DecidableEq, Repr

namespace StorageError

/-- The wording of an error. -/
def message : StorageError → String
  | openFailed reason => "Failed to open store: " ++ reason
  | regionMissing region => "Cache region '" ++ region ++ "' does not exist"
  | unreadable fault => "Serialization error: " ++ fault.message
  | callFailed reason => "Store operation failed: " ++ reason
  | disk error => "I/O error: " ++ error.message
  | corrupt region key reason =>
    "Corrupt entry '" ++ key ++ "' in region '" ++ region ++ "': " ++ reason

end StorageError

namespace Storage

/-- What a storage can be asked. -/
inductive Call where
  /-- Create a region unless it is there. -/
  | create (region : String)
  /-- Whether a region is there. -/
  | has (region : String)
  /-- Delete a region with its entries, and say whether it was there. -/
  | delete (region : String)
  /-- The names of all regions. -/
  | regions
  /-- The response stored under a key. -/
  | find (region key : String)
  /-- Store a response in place of any other under its key. -/
  | put (region key : String) (response : Response)
  /-- Remove an entry, and say whether it was there. -/
  | remove (region key : String)
  /-- The keys of a region. -/
  | keys (region : String)
  deriving DecidableEq

namespace Call

/-- What a call yields when it does not fail. -/
abbrev Value : Call → Type
  | create _ => Unit
  | has _ => Bool
  | delete _ => Bool
  | regions => List String
  | find _ _ => Option Response
  | put _ _ _ => Unit
  | remove _ _ => Bool
  | keys _ => List String

/-- The region that a call is about. -/
def region? : Call → Option String
  | create region => some region
  | has region => some region
  | delete region => some region
  | regions => none
  | find region _ => some region
  | put region _ _ => some region
  | remove region _ => some region
  | keys region => some region

/-- The key that a call is about. -/
def key? : Call → Option String
  | find _ key => some key
  | put _ key _ => some key
  | remove _ key => some key
  | _ => none

end Call

/-- The answer to a call. -/
abbrev Reply (call : Call) : Type := Except StorageError call.Value

/-- The signature of programs that use a storage. -/
def signature : Signature := ⟨Call, Reply⟩

/-- Make a call and go on with what it yields. -/
def ask (call : Call) : Attempt signature StorageError call.Value :=
  ExceptT.mk (Program.perform (S := signature) call)

/-- Copy every entry of one region into another, and say which keys were copied. -/
def copyInto (target source : String) : Attempt signature StorageError (List String) := do
  let keys ← ask (.keys source)
  let copied ← keys.mapM fun key => do
    match ← ask (.find source key) with
    | some response =>
      ask (.put target key response)
      return some key
    | none => return none
  return copied.filterMap id

end Storage

end AssetCache
