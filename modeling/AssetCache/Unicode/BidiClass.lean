import AssetCache.Unicode.Run

/-!
# Directions of characters

The direction class of each character that may stand in a host name, in one
letter: `L` for left to right, `R` and `A` for right to left, `E` and `N` for
European and Arabic digits, `S`, `T` and `C` for separators, terminators and
common separators of numbers, `M` for marks, `O` for other neutrals and `B` for
boundary neutrals.
-/

set_option autoImplicit false

namespace AssetCache.Unicode

/-- The direction classes of characters. -/
def bidiClasses : List Run :=
  Run.table [
    "0B 9X 5B eX 5O 2T 3O 5S 1C 1S 1C 2E aC 1O 16L qO 4B 12O 1T 4O aT 6O 19L oO 1L e1O 2L 7O eL",
    "2O sL 1O hM 3hL 4O 2L 3vO 2L 4bM 8L 7vO 5T 2M 1dR 1M 1R 1M 2R 1M 2R 1M 9R 1mO 2A 1T 2A 1C 1A",
    "1O 2M bA 1gM lN aT 1N 2A 3M 1A 35M 8O 1M 6A 2M 2O 1M 4A 2E aA nM 1A uM tA 2pM bA fR 1bM 9R",
    "2O 4R 3M 1R oM 4R 1M 9R 1M 3R 1M 7R 19M 5R 2A 1oM 8A 1aM 1pL 1nM 1L 1M 1L 4M 8L 4M 1L 3M fL",
    "2M 2L tM 1L 1qM 1L 4M 6L 6M 1L kM 4L cT 2L 7T 1L 2M 5L 1pM 2L 3M rL kM 2L 3M 1L bM 2L 1pM 1L",
    "4M 8L 4M 3L iM 4L bT 8L 1M 8L 1qM 1L 2M 1L 1M 6L 6M aL bM 4L sM 1L 1tM 1L cM 3L 13O 6T 1O 6M",
    "1L 3M 1L 1nM 1L 1M 3L 5M iL aM 4L iO 7L 2M 1L 1qM 1L fM 9L dM 4L qM 2L 1pM 2L 4M 5L 7M 1L kM",
    "4L rM 1L 28M 5L 3M 6L 2pM 1L 2M bT 1L 7M 8L 32M 1L 2M 9L bM 8L 28M 2L rM 1L 1M 1L 1M 1O 4L",
    "1jM eL 1M 5L 1M 2L 5M 1hL 8M 1L 36M 4L 1M 6L 1M 2L 2M 2L pM 2L 4M 3L gM 4L dM 1L 2M 2L 6M 1L",
    "fM 1L lvM 3L 1gO gL 30O 1L kqO 5L 3iM 3L tM 2L uM eL iM eL 1nM 7L 8M 1L 2M bL 7T 1L 1M 3L gO",
    "10L 3lM 2L 12M 1L 3mM 3L 4M 2L 9M 1L 6M 7O 6L 4oO 12L nM 2L 2M 3L 1oM 1L 1M 9L 1M 1L 2M 8L",
    "6M dL 1gM vL 1hM 4L 1gM 1L 1M 5L 1M 1L 5M 1L 18M 9L cM 2L 10M 4L 2M 2L 1M 3L 1oM 1L 1M 2L 3M",
    "1L 1M 3L 1qM 8L 2M 5L 4lM 3L 1M dL 1M 7L 4M 1L 6M 1L 3M 2L 66M 21L gbB 4O 10T 5O fC 1O 2rT",
    "1gM 1kO 1aT cO kL 1sO 48S 1T 1O 92L 25O qL 1O 4hL pO jcL 1O ajL 80O kmL 1O 4pL 5lO 7L 3M 4L",
    "6O 7L 3vM 1L 30M 10O g5L 3O pL 9M 4L 2O 1L 6O 4L 2O 4L 2oM 4L 3O 1L 2qO 1L 64O 14L 6usO 20L",
    "lkgO 20L 9tO 3L 2vM 4O 1M aO 3L tM 2L 2gM 2L eO 13L 35O 1L 3pM 1L 3M 1L 4M 1L pM 2L 1O 4M 4L",
    "8T 8L 1kO cL 24M aL iM iL dM 1L 16M 8L pM bL 1eM 3L 1gM 1L 2M 4L 2M 2L 17M 1L 23M 6L 2M 2L",
    "2M bL 3M 1L 8M 1L 1fM 1L 1jM 1L 1M 3L 2M 2L 5M 2L 1M 1L 1aM 2L 8M bL 39O 2mL 15M 1L 2M 1L 4M",
    "3L jpeM 4kA ccO 2iA 1vO 2hM 15O 1eA cdL 81O 1L 1uO 2dL 3O 20L 1dM 43L 30M 1E vL 3mM aL 140R",
    "8vO 1R 71M fR 18M 8R 55M 6R 2eO 7R e0A 14M cN gR 90N 10R 1bM 2R lA 1rM 3R 1gA mM bA vR iM 4R",
    "3qL 1M 1L 1mM fL bO kL aM 1L 2M 2L aM 3L 1hM 4L 2M 2L 7M eL 1gM 3L 14M 5L 1M 9L 1tM 1L cM 2L",
    "1kM 9L aM 4L 2M 1L 2vM 3L 2M 1L 1M 2L 6M 1L 2M 1vL 2vM 1L 3M dL gM 2L 1pM 2L 3M 1L 15M qL",
    "5oM 8L 2M 3L 1M 1L nM 1L 2kM 6L 1M 1L 4M 2L 1M 2L 7eM 6L 4M 2L 1M 2L rM 14L 1jM 8L 2M 1L 1M",
    "2L vO 10L 1bM 1L 1M 1L 2M 6L 1M 1L 35M 3L 2M 4L 1M 9L 7vM 9L 1M 2L 80M 2L 1M 1L 4M 1L 4gM 8L",
    "4M 1L 10M 6L 2M 2L 18M 6L 2M 4L 8M 9L 1M 6L 2M 3L 1eM dL 1M 2L cmM eL 2kM nL 1M 7L 1M 2L 1M",
    "2bL 1hM lL 1M 9L 20M 3L 2M 1L 1M 1L arM 2L bM 2L 1kM 8L 2M 1L 1M 1L 4iO 8T 4O uL 521M 1L 6M",
    "pL dkgM 5L 1rM 7L 10oM 1L 1vM 4L 2fO 1L 1M cL j5dM 2L 4j1M 2gL gnM 3L hM 8L 2M 7L uM 4L 1rO",
    "2pM 3O 3rL 20O 30L 1l0M 1nL 4M 1iL 8M 1L eM 1L mM 135L 80M 80L 1gM 7L bnM iL 1cM 4L fT ehL",
    "sM 4L ogR 6gM 2iR 12M 7R p6A jvO j0L tO 3L 1tO 1pL 3qO 13oL 4O 4rL 4O 9nL 2eO akL cO 19L 7O",
    "1eL 1O 7L 8O eL 4O 9L 7O 6rL"]

/-- The direction class of a character. -/
def bidiClass (c : Char) : Char := Run.kindAt bidiClasses c

end AssetCache.Unicode
