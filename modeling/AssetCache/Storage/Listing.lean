/-!
# Listings

Names and keys are listed in ascending order of code points.
-/

set_option autoImplicit false

namespace AssetCache.Storage.Listing

/-- Names in ascending order; a name that comes twice is listed twice. -/
def ascending (names : List String) : List String :=
  names.mergeSort fun a b => decide (a ≤ b)

theorem mem_ascending {name : String} {names : List String} :
    name ∈ ascending names ↔ name ∈ names :=
  List.mem_mergeSort

end AssetCache.Storage.Listing
