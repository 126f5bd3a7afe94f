import AssetCache.Fetch.Error
import AssetCache.Json.Value
import AssetCache.Storage.Call

/-!
# What a worker reports

How a fetch was served, what an activation did to the content, which message a
client sent, and why an operation failed.
-/

set_option autoImplicit false

namespace AssetCache

/-- Where a response came from, and whether it was stored. -/
inductive Provenance where
  /-- Out of the content region. -/
  | hit
  /-- From the network, and stored. -/
  | miss
  /-- From the network, not stored for not being one of success. -/
  | bypass
  /-- The entry document, fresh from the network. -/
  | network
  /-- The entry document out of the content region, for want of the network. -/
  | fallback
  deriving DecidableEq, Repr

namespace Provenance

/-- The name in lower case. -/
def name : Provenance → String
  | hit => "hit"
  | miss => "miss"
  | bypass => "bypass"
  | network => "network"
  | fallback => "fallback"

/-- The name as it is displayed. -/
def label : Provenance → String
  | hit => "HIT"
  | miss => "MISS"
  | bypass => "BYPASS"
  | network => "NETWORK"
  | fallback => "FALLBACK"

/-- Whether a response came out of the content region. -/
def fromCache : Provenance → Bool
  | hit => true
  | fallback => true
  | _ => false

end Provenance

/-- A request served. -/
structure Served where
  key : String
  response : Response
  provenance : Provenance
  deriving DecidableEq

/-- What an activation did; the lists hold URLs of the content region. -/
inductive Activation where
  /-- No manifest was recorded: the content is what was staged. -/
  | fresh (copied : List String)
  /-- The content was brought up to date from a recorded manifest. -/
  | upgraded (evicted retained copied : List String)
  /-- Something failed, and the regions were deleted. -/
  | reset (reason : String)
  deriving DecidableEq, Repr

namespace Activation

/-- Whether the content is up to date. -/
def isSuccess : Activation → Bool
  | reset _ => false
  | _ => true

/-- The outcome as JSON. -/
def toJson : Activation → Json
  | fresh copied => .obj [("kind", .str "fresh"), ("copied", .strings copied)]
  | upgraded evicted retained copied =>
    .obj [("kind", .str "upgraded"), ("evicted", .strings evicted),
      ("retained", .strings retained), ("copied", .strings copied)]
  | reset reason => .obj [("kind", .str "reset"), ("reason", .str reason)]

end Activation

/-- What a client may ask of a worker. -/
inductive Message where
  /-- Take over without waiting. -/
  | skipWaiting
  /-- Fetch all resources that are missing. -/
  | downloadOffline
  deriving DecidableEq, Repr

namespace Message

/-- The text of a message. -/
def text : Message → String
  | skipWaiting => "skipWaiting"
  | downloadOffline => "downloadOffline"

/-- The message of exactly this text. -/
def parse? (payload : String) : Option Message :=
  if payload = skipWaiting.text then some skipWaiting
  else if payload = downloadOffline.text then some downloadOffline
  else none

end Message

/-- Why an operation of a worker failed. -/
inductive WorkerError where
  | fetch (error : FetchError)
  | storage (error : StorageError)
  /-- The recorded manifest cannot be read. -/
  | record (fault : Json.Fault)
  deriving DecidableEq, Repr

namespace WorkerError

/-- The wording of an error. -/
def message : WorkerError → String
  | fetch error => "Fetch failed: " ++ error.message
  | storage error => "Cache error: " ++ error.message
  | record fault => "Manifest record unreadable: Invalid manifest JSON: " ++ fault.message

end WorkerError

end AssetCache
