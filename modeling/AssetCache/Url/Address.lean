import AssetCache.Url.Host

/-!
# Addresses

An absolute URL is read into one written form: schemes and hosts in lower case,
default ports left out, dot segments of the path resolved, and characters that
may not stand in a part percent-encoded. Control characters and blanks around a
URL do not count, and neither do tabs and line breaks within it.

Only addresses of the schemes `http` and `https` are kept in full; a URL of any
other scheme is checked and known by its scheme alone. A user name and a password
in front of the host are passed over.
-/

set_option autoImplicit false

namespace AssetCache.Url

/-- An address of the web, each part in its written form. -/
structure WebAddress where
  secure : Bool
  host : List Char
  /-- The port, unless it is the default one of the scheme. -/
  port : Option Nat
  path : List Char
  query : Option (List Char)
  fragment : Option (List Char)
  deriving DecidableEq, Repr

/-- An absolute URL. -/
inductive Address where
  | web (address : WebAddress)
  | foreign (scheme : String)
  deriving DecidableEq, Repr

namespace WebAddress

/-- The scheme, the host and a port other than the default. -/
def originChars (address : WebAddress) : List Char :=
  (if address.secure then "https://" else "http://").toList ++ address.host ++
    match address.port with
    | some port => ':' :: Text.Decimal.chars port
    | none => []

/-- The origin of an address. -/
def origin (address : WebAddress) : String := String.ofList address.originChars

/-- A part behind a mark, if it is there. -/
def marked (mark : Char) : Option (List Char) → List Char
  | some part => mark :: part
  | none => []

/-- The whole address. -/
def text (address : WebAddress) : String :=
  String.ofList (address.originChars ++ address.path ++ marked '?' address.query ++
    marked '#' address.fragment)

end WebAddress

namespace Address

/-! ## Scheme -/

/-- Whether a character does not count within a URL. -/
def isSkipped (c : Char) : Bool := c == '\t' || c == '\n' || c == '\r'

/-- What counts of a text. -/
def relevant (text : List Char) : List Char :=
  let inner := text.dropWhile (·.toNat ≤ 32)
  ((inner.reverse.dropWhile (·.toNat ≤ 32)).reverse).filter fun c => !isSkipped c

/-- Whether a character may stand in a scheme. -/
def isSchemeChar (c : Char) : Bool := c.isAlphanum || c == '+' || c == '-' || c == '.'

/-- The scheme in lower case, and what is behind its colon. -/
def cutScheme? (text : List Char) : Option (List Char × List Char) :=
  match text.dropWhile isSchemeChar with
  | ':' :: rest =>
    if text.head?.any Char.isAlpha then
      some ((text.takeWhile isSchemeChar).map Char.toLower, rest)
    else none
  | _ => none

/-! ## Authority -/

/-- Whether a character ends the authority. -/
def endsAuthority (special : Bool) (c : Char) : Bool :=
  c == '/' || c == '?' || c == '#' || (special && c == '\\')

/-- The authority and what follows it. -/
def splitAuthority (special : Bool) (text : List Char) : List Char × List Char :=
  text.span fun c => !endsAuthority special c

/-- What is before and behind the last at-sign of an authority. -/
def cutUser? (authority : List Char) : Option (List Char × List Char) :=
  if authority.contains '@' then
    let behind := (authority.reverse.takeWhile (· != '@')).reverse
    some (authority.take (authority.length - behind.length - 1), behind)
  else none

/-- The host, up to the first colon that is not in brackets, and what follows it. -/
def cutHost (bracketed : Bool) : List Char → List Char × List Char
  | [] => ([], [])
  | c :: rest =>
    if c == ':' && !bracketed then ([], c :: rest)
    else
      let inside := if c == '[' then true else if c == ']' then false else bracketed
      let (host, behind) := cutHost inside rest
      (c :: host, behind)

/-- Read a port, none if there are no digits. -/
def port? (text : List Char) : Except AddressError (Option Nat) :=
  if text.all Char.isDigit then
    let n := text.foldl (fun n c => n * 10 + (c.toNat - 48)) 0
    if 65535 < n then .error .port else .ok (if text.isEmpty then none else some n)
  else .error .port

/-- The parts of an authority. -/
structure Authority where
  /-- Whether a user name or password is there. -/
  hasUser : Bool
  host : List Char
  /-- What stands behind the host: nothing, or a colon and a port. -/
  behind : List Char

/-- Take an authority apart. -/
def cutAuthority (authority : List Char) (followed : Bool) : Except AddressError Authority :=
  match cutUser? authority with
  | none =>
    let (host, behind) := cutHost false authority
    .ok ⟨false, host, behind⟩
  | some (user, rest) =>
    if user.isEmpty && rest.isEmpty && followed then .error .emptyHost
    else
      let (host, behind) := cutHost false rest
      .ok ⟨!user.isEmpty && user != [':'], host, behind⟩

/-! ## Path -/

/-- Cut a path at its slashes of either direction. -/
def segments : List Char → List (List Char)
  | [] => [[]]
  | c :: rest =>
    match segments rest with
    | [] => [[c]]
    | part :: more => if c == '/' || c == '\\' then [] :: part :: more else (c :: part) :: more

/-- A segment with its encoded dots decoded. -/
def plainDots : List Char → List Char
  | '%' :: '2' :: 'e' :: rest => '.' :: plainDots rest
  | '%' :: '2' :: 'E' :: rest => '.' :: plainDots rest
  | c :: rest => c :: plainDots rest
  | [] => []

/-- Whether a segment leads up. -/
def isUp (segment : List Char) : Bool := plainDots segment == ['.', '.']

/-- Whether a segment stays where it is. -/
def isHere (segment : List Char) : Bool := plainDots segment == ['.']

/-- Whether a segment is a drive letter, which is never taken back. -/
def isDrive : List Char → Bool
  | [letter, mark] => letter.isAlpha && (mark == ':' || mark == '|')
  | _ => false

/-- Take back the last segment. -/
def dropLast : List (List Char) → List (List Char)
  | [] => []
  | last :: before => if isDrive last then last :: before else before

/-- Resolve the dot segments; what comes before is given last first. -/
def resolve (before : List (List Char)) : List (List Char) → List (List Char)
  | [] => before.reverse
  | [last] =>
    if isUp last then ([] :: dropLast before).reverse
    else if isHere last then ([] :: before).reverse
    else (last :: before).reverse
  | segment :: rest =>
    if isUp segment then resolve (dropLast before) rest
    else if isHere segment then resolve before rest
    else resolve (segment :: before) rest

/-- A path in its written form. -/
def path (text : List Char) : List Char :=
  let text := match text with
    | '/' :: rest => rest
    | '\\' :: rest => rest
    | text => text
  '/' :: List.intercalate ['/']
    (resolve [] ((segments text).map (Percent.encode Percent.pathSet)))

/-- What is before and behind a mark. -/
def cutAt (mark : Char) (text : List Char) : List Char × Option (List Char) :=
  match text.dropWhile (· != mark) with
  | [] => (text, none)
  | _ :: rest => (text.takeWhile (· != mark), some rest)

/-! ## Addresses -/

/-- An address of the web from what is behind its scheme. -/
def webAddress (secure : Bool) (text : List Char) : Except AddressError WebAddress := do
  let (front, behind) := splitAuthority true (text.dropWhile fun c => c == '/' || c == '\\')
  let authority ← cutAuthority front !behind.isEmpty
  if authority.host.isEmpty then throw .emptyHost
  let host ← Host.normalize authority.host
  let port ← port? (authority.behind.drop 1)
  let (resource, fragment) := cutAt '#' behind
  let (place, query) := cutAt '?' resource
  return { secure, host
           port := port.filter (· != if secure then 443 else 80)
           path := path place
           query := query.map (Percent.encode Percent.querySet)
           fragment := fragment.map (Percent.encode Percent.fragmentSet) }

/-- Check the authority of another scheme whose hosts are those of the web. -/
def checkSpecial (text : List Char) : Except AddressError Unit := do
  let _ ← webAddress false text

/-- Check the authority of a scheme with opaque hosts. -/
def checkAuthority (text : List Char) : Except AddressError Unit := do
  let (front, behind) := splitAuthority false text
  let authority ← cutAuthority front !behind.isEmpty
  Host.checkOpaque authority.host
  if authority.host.isEmpty && (authority.hasUser || !authority.behind.isEmpty) then
    throw .emptyHost
  let _ ← port? ((authority.behind.drop 1).takeWhile (· != '\\'))

/-- Check the host of a file address: it may be missing. -/
def checkFile (text : List Char) : Except AddressError Unit :=
  let isSlash := fun c => c == '/' || c == '\\'
  match text with
  | a :: b :: rest =>
    if isSlash a && isSlash b then
      let host := (splitAuthority true rest).1
      if host.isEmpty || isDrive host then .ok ()
      else (Host.normalize host).map fun _ => ()
    else .ok ()
  | _ => .ok ()

/-- Check what is behind a scheme other than those of the web. -/
def checkForeign (scheme : String) (text : List Char) : Except AddressError Unit :=
  if scheme = "ws" ∨ scheme = "wss" ∨ scheme = "ftp" then checkSpecial text
  else if scheme = "file" then checkFile text
  else match text with
    | '/' :: '/' :: rest => checkAuthority rest
    | _ => .ok ()

/-- Read an absolute URL. -/
def parse (text : String) : Except AddressError Address :=
  match cutScheme? (relevant text.toList) with
  | none => .error .relative
  | some (scheme, rest) =>
    let scheme := String.ofList scheme
    if scheme = "http" then (webAddress false rest).map .web
    else if scheme = "https" then (webAddress true rest).map .web
    else (checkForeign scheme rest).map fun _ => .foreign scheme

end Address

end AssetCache.Url
