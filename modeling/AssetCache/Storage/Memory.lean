import AssetCache.Storage.Call

/-!
# Storage in memory

The plainest storage is a table of tables. No call of it fails but a write to a
region that is not there.
-/

set_option autoImplicit false

namespace AssetCache.Storage

/-- Regions with their entries. -/
abbrev Memory : Type := Table (Table Response)

namespace Memory

/-- The entries of a region; none if it is not there. -/
def entries (memory : Memory) (region : String) : Table Response :=
  (memory.get? region).getD .empty

/-- The answer to a call, and the storage after it. -/
def answer : (call : Call) → Memory → Reply call × Memory
  | .create region, memory =>
    (.ok (), if memory.contains region then memory else memory.insert region .empty)
  | .has region, memory => (.ok (memory.contains region), memory)
  | .delete region, memory => (.ok (memory.contains region), memory.erase region)
  | .regions, memory => (.ok memory.keys, memory)
  | .find region key, memory => (.ok ((entries memory region).get? key), memory)
  | .put region key response, memory =>
    match memory.get? region with
    | some old => (.ok (), memory.insert region (old.insert key response))
    | none => (.error (.regionMissing region), memory)
  | .remove region key, memory =>
    match memory.get? region with
    | some old => (.ok (old.contains key), memory.insert region (old.erase key))
    | none => (.ok false, memory)
  | .keys region, memory => (.ok (entries memory region).keys, memory)

end Memory

end AssetCache.Storage
