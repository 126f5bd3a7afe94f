import AssetCache.Table
import AssetCache.Text.Ascii

/-!
# Requests

A request has a method, an absolute URL, headers in the order of their names, and
a cache mode that says whether caches on the way may answer it.
-/

set_option autoImplicit false

namespace AssetCache

/-- The methods a request may have. -/
inductive Method where
  | get
  | post
  | put
  | patch
  | delete
  | head
  | options
  deriving DecidableEq, Repr

namespace Method

/-- The name of a method, in upper case. -/
def name : Method → String
  | get => "GET"
  | post => "POST"
  | put => "PUT"
  | patch => "PATCH"
  | delete => "DELETE"
  | head => "HEAD"
  | options => "OPTIONS"

/-- Every method. -/
def all : List Method := [get, post, put, patch, delete, head, options]

/-- The method of exactly this name. -/
def ofName? (text : String) : Option Method := all.find? fun m => m.name == text

/-- The method of this name in any mixture of cases. -/
def parse? (text : String) : Option Method := ofName? (Text.Ascii.upper text)

end Method

/-- Whether caches on the way may answer a request. -/
inductive CacheMode where
  /-- They may. -/
  | default
  /-- They are passed by and refreshed. -/
  | reload
  deriving DecidableEq, Repr

namespace CacheMode

/-- The name of a cache mode. -/
def name : CacheMode → String
  | default => "default"
  | reload => "reload"

/-- The cache mode of exactly this name. -/
def ofName? (text : String) : Option CacheMode :=
  if text = "default" then some default
  else if text = "reload" then some reload
  else none

end CacheMode

/-- A request for a resource. -/
structure Request where
  method : Method
  url : String
  headers : Table String
  mode : CacheMode
  deriving DecidableEq

namespace Request

/-- A request without headers that caches may answer. -/
def plain (method : Method) (url : String) : Request := ⟨method, url, .empty, .default⟩

/-- Ask for a resource. -/
def get (url : String) : Request := plain .get url

/-- Whether a request asks for a resource. -/
def isGet (request : Request) : Bool := request.method = .get

end Request

end AssetCache
