import AssetCache.Worker.Basic

/-!
# Installing

To install a build is to stage its core shell: what was staged before is dropped,
every resource of the shell is fetched past all caches, and all are stored or
none. The host is asked first to let this version take over.
-/

set_option autoImplicit false

namespace AssetCache.Worker

/-- The requests for the core shell, in its order. -/
def shellRequests (worker : Worker) : List Request :=
  worker.build.core.map fun key => { Request.get (worker.urlFor key) with mode := .reload }

/-- Store fetched responses in a region under the URLs asked for. -/
def storeAll (region : String) : List (Request × Response) → Step Unit
  | [] => return ()
  | (request, response) :: rest => do
    store (.put region request.url response)
    storeAll region rest

/-- Stage the core shell, and say under which URLs. -/
def install (worker : Worker) : Step (List String) := do
  stepNote .install .debug "staging core shell"
    (Log.Fields.number .empty "count" worker.build.core.length)
  stepAct .skipWaiting
  let _ ← store (.delete worker.temp)
  store (.create worker.temp)
  match ← fetchBatch worker.shellRequests with
  | .error error =>
    stepNote .install .error "core shell fetch failed"
      (Log.Fields.text .empty "error" error.message)
    throw (.fetch error)
  | .ok fetched =>
    storeAll worker.temp fetched
    let staged := fetched.map fun entry => entry.1.url
    stepNote .install .info "core shell staged"
      (Log.Fields.number .empty "count" staged.length)
    return staged

end AssetCache.Worker
