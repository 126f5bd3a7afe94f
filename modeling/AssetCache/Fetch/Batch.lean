import AssetCache.Fetch.Error

/-!
# Batches of fetches

A batch fetches several requests at once and is done when all of them are, each
with a response of success, or when the first one fails. Its requests are issued
in order and it then works in rounds: in every round the fetches that arrive are
taken in order. So the first failure is the one of the earliest round, and within
a round the one of the earliest request.

A failure in round zero is met while requests are still being issued: those after
it are not issued at all.

Assumed is that every fetch is looked at once a round, in the order of the requests. That is
how `try_join_all` goes about at most thirty futures. Of more than thirty it looks only in the
first round at all of them in order, and later at those that were woken; so of a longer
batch this holds where all fetches arrive in round zero.
-/

set_option autoImplicit false

namespace AssetCache.Fetch

/-- How a fetch of a batch ends, and in which round. -/
structure Arrival where
  round : Nat
  result : Result

namespace Batch

variable {α : Type}

/-- A request with what comes of it, of which only a response of success counts. -/
abbrev Settled : Type := Request × Nat × Result

/-- Each request with its arrival. -/
def settled (requests : List Request) (arrivals : List Arrival) : List Settled :=
  (requests.zip arrivals).map fun (request, arrival) =>
    (request, arrival.round, requireSuccess request arrival.result)

/-- The failure of a fetch with the round in which it shows. -/
def failure? : Settled → Option (Nat × FetchError)
  | (_, round, .error error) => some (round, error)
  | (_, _, .ok _) => none

/-- The failure of the earliest round, and within it the one that stands first. -/
def earliest : List (Nat × FetchError) → Option (Nat × FetchError)
  | [] => none
  | failure :: rest =>
    match earliest rest with
    | none => some failure
    | some other => if other.1 < failure.1 then some other else some failure

/-- The requests with their responses, if there are responses to all. -/
def responses : List Settled → List (Request × Response)
  | [] => []
  | (request, _, .ok response) :: rest => (request, response) :: responses rest
  | (_, _, .error _) :: rest => responses rest

/-- What a batch ends in: every request with its response, or the first failure. -/
def outcome (requests : List Request) (arrivals : List Arrival) :
    Except FetchError (List (Request × Response)) :=
  match earliest ((settled requests arrivals).filterMap failure?) with
  | some (_, error) => .error error
  | none => .ok (responses (settled requests arrivals))

/-- Whether a fetch fails while requests are still being issued. -/
def failsAtOnce (fetch : Settled) : Bool :=
  match failure? fetch with
  | some (round, _) => round == 0
  | none => false

/-- The requests of some fetches up to the first that fails at once. -/
def issuedOf : List Settled → List Request
  | [] => []
  | fetch :: rest => if failsAtOnce fetch then [fetch.1] else fetch.1 :: issuedOf rest

/-- The requests that are issued. -/
def issued (requests : List Request) (arrivals : List Arrival) : List Request :=
  issuedOf (settled requests arrivals)

end Batch

end AssetCache.Fetch
