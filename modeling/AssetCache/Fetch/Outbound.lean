import AssetCache.Bytes
import AssetCache.Fetch.Error
import AssetCache.Unicode.LetterCase

/-!
# Outgoing requests

How a request is handed to whatever carries it, and how the reply is taken. A
request that passes caches by says so in two headers. Names of headers are handed
over in lower case, of one name the last value.

A carrier of requests is either the host that the worker runs in or a client of
its own (`Client`); the two differ in what they make of the reply's headers.
-/

set_option autoImplicit false

namespace AssetCache.Fetch

/-- A reply as it is received: headers in order, with bytes for values. -/
structure Incoming where
  status : UInt16
  headers : List (String × Bytes)
  body : Bytes
  deriving DecidableEq, Repr

/-- The headers of a request as they are handed over. -/
def outgoingHeaders (request : Request) : Table String :=
  let own := Table.ofList (request.headers.entries.map fun e => (Unicode.lower e.1, e.2))
  match request.mode with
  | .default => own
  | .reload => (own.insert "cache-control" "no-cache").insert "pragma" "no-cache"

namespace Outbound

/-- A request as it is handed to the host. -/
structure Sent where
  method : Method
  url : String
  headers : Table String
  deriving DecidableEq

/-- What the host is handed for a request. -/
def send (request : Request) : Sent := ⟨request.method, request.url, outgoingHeaders request⟩

/-- Headers of which the values are text; of one name the last such value. -/
def textHeaders (headers : List (String × Bytes)) : Table String :=
  Table.ofList (headers.filterMap fun (name, value) => (Bytes.text? value).map (name, ·))

/-- What a fetch through the host ends in. -/
def receive (request : Request) : Except String Incoming → Result
  | .error reason => .error (.request request.url reason)
  | .ok reply => .ok ⟨reply.status, textHeaders reply.headers, reply.body⟩

end Outbound

end AssetCache.Fetch
