import AssetCache.Fetch.Batch
import AssetCache.Fetch.Outbound
import AssetCache.Url.Address

/-!
# A client of its own

The command line carries its requests itself. A request can be made only if its
URL is a web address and its headers can be written on a line: names are tokens,
and values hold no control characters but tabs. What then does not arrive is a
failure of the request, in the client's words.

Of a reply's headers those are kept whose values are plain: visible ASCII, blanks
and tabs.
-/

set_option autoImplicit false

namespace AssetCache.Fetch.Client

/-- Why a request that was made has no reply. -/
inductive Failure where
  /-- It could not be sent, or nothing answered. -/
  | unsent
  /-- The reply broke off. -/
  | broken
  deriving DecidableEq, Repr

/-- The wording of a failure, for the address asked. -/
def Failure.message (address : Url.WebAddress) : Failure → String
  | .unsent => "error sending request for url (" ++ address.text ++ ")"
  | .broken => "error decoding response body"

/-- Whether a character may stand in the name of a header. -/
def isNameChar (c : Char) : Bool :=
  c.isAlphanum || "!#$%&'*+-.^_|~".toList.contains c || c == '\x60'

/-- Whether a text can be the name of a header. -/
def isName (text : String) : Bool := !text.isEmpty && text.toList.all isNameChar

/-- Whether a text can be the value of a header. -/
def isValue (text : String) : Bool :=
  text.toList.all fun c => c == '\t' || (32 ≤ c.toNat && c.toNat != 127)

/-- The address of a request that can be made. -/
def address? (request : Request) : Option Url.WebAddress :=
  match Url.Address.parse request.url with
  | .ok (.web address) =>
    if request.headers.entries.all fun e => isName e.1 && isValue e.2 then some address else none
  | _ => none

/-- Whether a byte is plain in the value of a header. -/
def isPlain (b : UInt8) : Bool := b == 9 || (32 ≤ b && b < 127)

/-- The headers of a reply that are kept, under their names in lower case. -/
def plainHeaders (headers : List (String × Bytes)) : Table String :=
  Table.ofList (headers.filterMap fun (name, value) =>
    if value.all isPlain then (Bytes.text? value).map (Text.Ascii.lower name, ·) else none)

/-- What a fetch ends in, given what comes of a request that is made. -/
def receive (request : Request) (address : Url.WebAddress) :
    Except Failure Incoming → Result
  | .error failure => .error (.request request.url (failure.message address))
  | .ok reply => .ok ⟨reply.status, plainHeaders reply.headers, reply.body⟩

/-- Fetch by a transport. -/
def fetch (transport : Outbound.Sent → Except Failure Incoming) (request : Request) : Result :=
  match address? request with
  | none => .error (.invalidUrl request.url)
  | some address =>
    receive request address
      (transport ⟨request.method, address.text, outgoingHeaders request⟩)

/-- The arrival of a fetch in a batch: one that cannot be made fails at once. -/
def arrival (transport : Outbound.Sent → Except Failure Incoming) (request : Request) :
    Arrival where
  round := if (address? request).isSome then 1 else 0
  result := fetch transport request

end AssetCache.Fetch.Client
