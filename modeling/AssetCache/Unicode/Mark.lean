import AssetCache.Unicode.Run

/-!
# Combining marks

Runs of kind `M` are characters that combine with the one before them.
-/

set_option autoImplicit false

namespace AssetCache.Unicode

/-- Where combining marks begin and end. -/
def marks : List Run :=
  Run.table [
    "0U o0M 3hU 8iM 8U 86M 1dU 1M 1U 1M 2U 1M 2U 1M 9U 20M bU 1gM lU gM 1U 35M 8U 1M 6U 2M 2U 1M",
    "4U 13M 1U uM tU 2pM bU 1qM 9U 9M 1U oM 4U 1M 9U 1M 3U 1M 7U 19M 5U 1qM 8U 1aM 1qU 1mM 3U 1M",
    "iU 1M fU 2M 2U tM 4U 1nM 1U 1M gU 9M 9U 2M 4U oM 7U 1nM 10U kM 2U 3M 1U bM 4U 1nM 1U 1M iU",
    "iM 4U kM bU 1nM 1U 1M 11U 3M 4U sM 1U 1rM iU 7M fU qM 5U 1nM 1U 1M qU aM 4U rM 3U 1oM 1U 1M",
    "uU 6M 4U dM hU 1nM 2U 1M gU 9M 1U aM 4U rM 4U 25M sU cM 2U 1tM 1U 2M bU 8M 8U 32M 1U 2M 9U",
    "bM 8U 28M 2U rM 1U 1M 1U 1M 1U 4M 2U 1hM kU 1M 2U 5M 1hU 8M 1U 34M kU nM 4U 4M 3U 1M 3U 2M",
    "7U 3M 4U dM cU 1M 1U aM 4U lvM 3U tiM dU jM 3U tM eU iM eU 1mM uU 9M 3U 55M 2U 12M 1U 3mM",
    "10U 6nM 7U 1nM 1bU 1gM vU 1hM 5U 1fM hU 16M 9U cM 3U uM dU 1oM mU 18M nU 4lM 3U 1M lU 4M 1U",
    "6M 1U 2M 3U 66M 21U mfM 1kU 2vbM 4U 4cM 1U 30M 10U haM 6U 39M 4U teiM 4U 1M aU 10M 2U 2gM 2U",
    "8gM 1U 3M 1U 4M 1U nM 5U 4M 4U 2gM 2U 1iM qU iM iU dM 1U 16M 8U pM oU 11M 4U 1fM eU 14M 1U",
    "23M nU 3M 1U 8M 4U 1bM 3U 1iM 1U 1M 3U 2M 2U 5M 2U 1M 1U 19M 5U 5M cU 72M 8U 1M 4U jpeM 4kU",
    "jeM 15U toM 43U 30M 1U 4lM aU 1k1M fU 18M 8U 55M 6U hpM cU brM 2U 2gM 3U 26M bU 1hM 4U 3qM",
    "3U 1lM fU 19M 1U 2M 2U aM 4U 1dM bU 7M eU 1gM 3U 14M fU fM 2U 1cM 1U cM 3U 1gM eU 8M 4U 1M",
    "2U 2sM cU 6M 1U 2M 1vU 2vM hU gM 5U 1mM 2U 1M iU 7M 6U 5M uU 5lM iU nM 1U 2hM kU 7bM iU rM",
    "14U 1gM hU 3aM dU 35M jU 7sM fU 7lM fU 1M 1U 1M 2U 4dM gU 3M sU 1M aU 18M 7U 1M 4U 8M 9U 1M",
    "bU 1eM gU clM hU 2iM 3eU 1hM lU 1M 9U 1qM eU arM 4U 9M 2U 1M 1U 1gM fU 57tM 1U 6M pU dkgM 5U",
    "1rM 7U 10oM 1U 1M 22U 2hM eU j5bM 2U 4j1M 2gU glM 5U 3M mU 2M 7U uM 4U 4kM 3U 1trM 1nU 4M",
    "1iU 8M 1U eM 1U mM 135U 80M 80U 1gM 7U bnM iU 1cM 4U fsM 4U v0M 2iU 12M 7U"]

/-- Whether a character combines with the one before it. -/
def isMark (c : Char) : Bool := Run.kindAt marks c == 'M'

end AssetCache.Unicode
