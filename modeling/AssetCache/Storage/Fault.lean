import AssetCache.Storage.Call

/-!
# Faults in front of a storage

A `Fault` makes calls of one kind fail before they reach a storage: those on one
region or on any, under one key or any, after a number of them has passed. Faults
are tried in order; one that still lets calls pass counts the call down and leaves
it to the faults behind it.
-/

set_option autoImplicit false

namespace AssetCache.Storage

/-- The name of a call in what is said of its failure; a listing of regions never fails so. -/
def Call.name? : Call → Option String
  | create _ => some "open"
  | has _ => some "has"
  | delete _ => some "delete"
  | regions => none
  | find _ _ => some "match"
  | put _ _ _ => some "put"
  | remove _ _ => some "remove"
  | keys _ => some "keys"

/-- Calls that are to fail. -/
structure Fault where
  call : String
  /-- The region, if it must be a certain one. -/
  region : Option String
  /-- The key, if it must be a certain one. -/
  key : Option String
  /-- How many calls still pass. -/
  passing : Nat
  deriving DecidableEq, Repr

namespace Fault

/-- Whether a fault is about a call. -/
def covers (fault : Fault) (call : Call) : Bool :=
  call.name? == some fault.call &&
    (fault.region.isNone || fault.region == call.region?) &&
    (fault.key.isNone || fault.key == call.key?)

/-- Whether a call fails, and the faults after it. -/
def strike (call : Call) : List Fault → Bool × List Fault
  | [] => (false, [])
  | fault :: rest =>
    if fault.covers call then
      if fault.passing = 0 then (true, fault :: rest)
      else
        let (struck, rest) := strike call rest
        (struck, { fault with passing := fault.passing - 1 } :: rest)
    else
      let (struck, rest) := strike call rest
      (struck, fault :: rest)

/-- What is said of a call that fails. -/
def refusal (call : Call) : StorageError :=
  .callFailed (call.name?.getD "" ++ " refused in " ++ call.region?.getD "")

/-- The answer to a call behind faults. -/
def answer {σ : Type} (behind : (call : Call) → σ → Reply call × σ) (call : Call)
    (state : List Fault × σ) : Reply call × (List Fault × σ) :=
  let (struck, faults) := strike call state.1
  if struck then (.error (refusal call), (faults, state.2))
  else
    let (reply, after) := behind call state.2
    (reply, (faults, after))

end Fault

end AssetCache.Storage
