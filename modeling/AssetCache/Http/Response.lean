import AssetCache.Bytes
import AssetCache.Json.Value
import AssetCache.Json.Shape
import AssetCache.Text.Ascii

/-!
# Responses

A response has a status, headers in the order of their names, and a body. What is
stored beside a body is its metadata, a JSON object of status and headers.
Header names compare without regard to letter case: of several that agree, the
first in the order of names counts.
-/

set_option autoImplicit false

namespace AssetCache

/-- A response as it is received and stored. -/
structure Response where
  status : UInt16
  headers : Table String
  body : Bytes
  deriving DecidableEq

namespace Response

/-- A response of status 200 that says its body is JSON. -/
def json (body : Bytes) : Response :=
  ⟨200, Table.empty.insert "content-type" "application/json", body⟩

/-- Set a header. -/
def withHeader (response : Response) (name value : String) : Response :=
  { response with headers := response.headers.insert name value }

/-- Whether the status is one of success. -/
def isSuccess (response : Response) : Bool := 200 ≤ response.status && response.status < 300

/-- The value of a header. -/
def header? (response : Response) (name : String) : Option String :=
  (response.headers.entries.find? fun entry => Text.Ascii.same entry.1 name).map Prod.snd

/-- The type of the body. -/
def contentType? (response : Response) : Option String := response.header? "Content-Type"

/-! ## Metadata -/

/-- Status and headers as JSON. -/
def metadata (response : Response) : Json :=
  .obj [("status", .nat response.status.toNat),
    ("headers", .obj (response.headers.entries.map fun e => (e.1, .str e.2)))]

/-- The bytes of the metadata. -/
def metadataBytes (response : Response) : Bytes := Bytes.ofText response.metadata.compact

open Json Json.Reader in
/-- The reader of metadata: the headers may be missing. -/
def metadataReader : Reader Response := do
  let (status, headers) ← record (σ := Option Nat × Option (Table String))
    [⟨"status", fun s => s.1.isSome, fun s => return (some (← natUpTo 65535), s.2)⟩,
     ⟨"headers", fun s => s.2.isSome, fun s => return (s.1, some (← textTable))⟩]
    (none, none)
  return ⟨UInt16.ofNat (← required status), headers.getD .empty, []⟩

/-- Read metadata as a response without body. -/
def ofMetadata (bytes : Bytes) : Except Json.Fault Response :=
  Json.Reader.decode metadataReader bytes

end Response

end AssetCache
