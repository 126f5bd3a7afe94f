import AssetCache.Http.Request
import AssetCache.Http.Response
import AssetCache.Text.Decimal

/-!
# Fetching

A fetch ends in a response of whatever status, or in a failure to get one. Where a
response must be one of success, any other counts as a failure too.
-/

set_option autoImplicit false

namespace AssetCache

/-- Why a fetch gives no response that can be used. -/
inductive FetchError where
  /-- No response arrived. -/
  | request (url reason : String)
  /-- A response arrived, but not one of success. -/
  | status (status : UInt16) (url : String)
  /-- The request could not be made. -/
  | invalidUrl (url : String)
  deriving DecidableEq, Repr

namespace FetchError

/-- The wording of an error. -/
def message : FetchError → String
  | request url reason => "Request to " ++ url ++ " failed: " ++ reason
  | status code url => "HTTP error: " ++ Text.Decimal.ofNat code.toNat ++ " for " ++ url
  | invalidUrl url => "Invalid URL: " ++ url

end FetchError

namespace Fetch

/-- What a fetch ends in. -/
abbrev Result : Type := Except FetchError Response

/-- Take a response only if it is one of success. -/
def requireSuccess (request : Request) : Result → Result
  | .ok response =>
    if response.isSuccess then .ok response else .error (.status response.status request.url)
  | .error error => .error error

end Fetch

end AssetCache
