import AssetCache.Unicode.Run

/-!
# Joining of characters

How the character of a cursive script joins its neighbours, in one letter: `D` on
both sides, `L` and `R` on one side, `T` is passed through, `U` not at all.
-/

set_option autoImplicit false

namespace AssetCache.Unicode

/-- The joining types of characters. -/
def joiningTypes : List Run :=
  Run.table [
    "0U o0T 3hU 8iT 8U 86T 1dU 1T 1U 1T 2U 1T 2U 1T 9U 20T bU 5D 1U 1R 4D 1R 1D 1R 1D 5R 4D dU 1D",
    "7R 1D 2T lU eD 2T 1R 3U 5D fR iD 16R 1D 2R 9D 1R 1D 1R 1D 2R 2U 1R 1T 8U 1T 6U 2T 2U 1T 4R",
    "2U aD 3U 2D 1U gR 1T 1D 3R 5D 4R 1D 9R 1D 1R 1D 1R 1D 2R 1T tR 1D bR 3D fR 2D 4R 1D 1R 2D 3R",
    "2D 6U 16T bU pD 11T 9U 9T 1U oT 4U 1T 9U 1T 3U 1T 7U gR 1D 5R 2D 1R 1D aR 1D 1R 3T 5U 2D 1U",
    "1D 4U 1R 1D 1R qU 3D 1U 2D 5R 1U 9T 8D aR 3U 1R 1D 2R 2D 6R 1D fU 1T 1pU 1nT 1U 1T 1U 4T 8U",
    "4T 1U 3T fU 2T 2U tT 1U 1qT 1U 4T 6U 6T 1U kT 4U oT 5U 1pT 2U 3T rU kT 2U 3T 1U bT 2U 1pT 1U",
    "4T 8U 4T 3U iT 4U kT 8U 1qT 1U 2T 1U 1T 6U 6T aU bT 4U sT 1U 1tT 1U cT 3U 1gT 1U 3T 1U 1nT",
    "1U 1T 3U 5T iU aT 4U rT 1U 1qT 1U 2T 1U 6T 1U 5T 9U dT 4U qT 2U 1pT 2U 4T 5U 7T 1U kT 4U rT",
    "1U 28T 5U 3T 6U 2pT 1U 2T bU 8T 8U 32T 1U 2T 9U bT 8U 28T 2U rT 1U 1T 1U 1T 1U 1nT eU 1T 5U",
    "1T 2U 5T 1hU 8T 1U 36T 4U 1T 6U 1T 2U 2T 2U pT 2U 4T 3U gT 4U dT 1U 2T 2U 6T 1U fT 1U lvT 3U",
    "tiT 3U tT 2U uT eU iT eU 1nT 7U 8T 1U 2T bU 9T 3U 17D 1U oD 30U 5T 2D 12T 1D 6U 3gT 3U 4T 2U",
    "9T 1U 6T 7U 6nT 2U 2T 3U 1oT 1U 1T 9U 1T 1U 2T 8U 6T dU 1gT vU 1hT 4U 1gT 1U 1T 5U 1T 1U 5T",
    "1U 18T 9U cT 2U 10T 4U 2T 2U 1T 3U 1oT 1U 1T 2U 3T 1U 1T 3U 1qT 8U 2T 5U 4lT 3U 1T dU 1T 7U",
    "4T 1U 6T 1U 3T 2U 66T 21U mfT 1kU 2vbT 4U 4cT 1U 30T 10U haT 4U 3bT 4U teiT 4U 1T aU 10T 2U",
    "2gT 2U 8gT 1U 3T 1U 4T 1U pT 2U 5T 4U gD 1iL 1U 2hT aU iT iU dT 1U 16T 8U pT bU 1eT 3U 1gT",
    "1U 2T 4U 2T 2U 17T 1U 23T 6U 2T 2U 2T bU 3T 1U 8T 1U 1fT 1U 1jT 1U 1T 3U 2T 2U 5T 2U 1T 1U",
    "1aT 2U 8T bU 74T 1U 2T 1U 4T 3U jpeT 4kU jeT 15U toT 43U 30T 1U 4lT aU 1k1T fU 18T 8U 40D 5R",
    "1U 1R 1U 1R 2U 2L 1R 5D 4L 1D 5R 1D 3R 1U 2R 1T 6D 4R 1U 4gD 1R 1D 1R 3D 3R 1D 2R 1D 1R 2D",
    "1R 8U gR 4D 2U ahL 1D 11R 1D 1T cU brT 2U 2gT 3U 1gD 3R 1D hU 1T bD 3R 1U rD 4R 2D cT 4U 1aD",
    "1U 1D 2R 3U 1D 1R 2D 2R 1D 2U 1D 1R 2D 1U 4R 1D 1L lU 11T 1U 1mT fU 19T 1U 2T 2U aT 3U 1hT",
    "4U 2T 2U 7T eU 1gT 3U 14T 5U 1T 9U 1tT 1U cT 2U 1kT 9U aT 4U 2T 1U 2vT 3U 2T 1U 1T 2U 6T 1U",
    "2T 1vU 2vT 1U 3T dU gT 2U 1pT 2U 3T 1U 15T qU 5oT 8U 2T 3U 1T 1U nT 1U 2kT 6U 1T 1U 4T 2U 1T",
    "2U 7eT 6U 4T 2U 1T 2U rT 14U 1jT 8U 2T 1U 1T 2U 3aT 1U 1T 1U 2T 6U 1T 1U 35T 3U 2T 4U 1T 9U",
    "7vT 9U 1T 2U 80T 2U 1T 1U 4T 1U 4gT 8U 4T 1U 10T aU 18T 6U 2T 4U 8T 9U 1T 6U 2T 3U 1eT dU 1T",
    "2U cmT eU 1T 1U 2iT nU 1T 7U 1T 2U 1T 2bU 1hT lU 1T 9U 20T 3U 2T 1U 1T 1U arT 2U bT 2U 1kT",
    "8U 2T 1U 1T 1U 57tT 1U 6T pU dkgT 5U 1rT 7U 10oT 1U 1vT 4U 2hT cU j5dT 2U 4j1T 2gU gnT 3U hT",
    "8U 2T 7U uT 4U 4kT 3U 1trT 1nU 4T 1iU 8T 1U eT 1U mT 135U 80T 80U 1gT 7U bnT iU 1cT 4U fsT",
    "4U v0T 2iD 12T cU"]

/-- The joining type of a character. -/
def joiningType (c : Char) : Char := Run.kindAt joiningTypes c

end AssetCache.Unicode
