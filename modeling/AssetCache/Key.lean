/-!
# Resource keys and URLs

A resource is named by its key: the path of its URL below the origin, without the
first slash. The origin itself, with or without a slash, is the entry document
and has the key `/`.

`contentKey?` names the resource of a stored URL and `requestKey?` that of a URL
asked for. The two differ in that a URL asked for may carry a version query for
cache busting, which is dropped, and in that a fragment directly below the origin
still means the entry document. `urlFor` goes the other way.

Slashes at the end of an origin never count.
-/

set_option autoImplicit false

namespace AssetCache.Key

/-- The key of the entry document. -/
def root : String := "/"

/-- Whether a key is that of the entry document. -/
def isRoot (key : String) : Bool := key == root

/-- An origin without slashes at its end. -/
def trimOrigin (origin : String) : List Char :=
  (origin.toList.reverse.dropWhile (· == '/')).reverse

/-- What a URL has after the origin: nothing, or something that begins with a slash. -/
def afterOrigin? (origin url : String) : Option (List Char) :=
  match (trimOrigin origin).isPrefixOf? url.toList with
  | some [] => some []
  | some ('/' :: rest) => some ('/' :: rest)
  | _ => none

/-- A path without its first slash. -/
def dropSlash : List Char → List Char
  | '/' :: rest => rest
  | path => path

/-- A path up to the first version query `?v=`. -/
def dropVersion : List Char → List Char
  | [] => []
  | c :: rest =>
    if ['?', 'v', '='].isPrefixOf (c :: rest) then [] else c :: dropVersion rest

/-- The key of a path below the origin. -/
def ofPath (path : List Char) : String := if path.isEmpty then root else String.ofList path

/-- The key under which a stored URL belongs; none outside the origin. -/
def contentKey? (origin url : String) : Option String :=
  (afterOrigin? origin url).map fun rest => ofPath (dropSlash rest)

/-- The key that a URL asks for; none outside the origin. -/
def requestKey? (origin url : String) : Option String :=
  (afterOrigin? origin url).map fun rest =>
    if ['/', '#'].isPrefixOf rest then root else ofPath (dropVersion (dropSlash rest))

/-- The URL of a key: slashes in front of a key do not count. -/
def urlFor (origin key : String) : String :=
  String.ofList (trimOrigin origin ++ '/' :: key.toList.dropWhile (· == '/'))

end AssetCache.Key
