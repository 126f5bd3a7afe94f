import AssetCache.Worker.Install

/-!
# Filling the content for use without a network

Every resource of the manifest that the content lacks is fetched, and all of them
are stored or none. A client asks for this by a message, or for this version to
take over; other messages are ignored.
-/

set_option autoImplicit false

namespace AssetCache.Worker

/-- The keys of the manifest that have no entry among some URLs. -/
def missingKeys (worker : Worker) (urls : List String) : List String :=
  let present := urls.filterMap worker.contentKey?
  worker.build.resources.keys.filter fun key => !present.contains key

/-- Fetch and store all that is missing, and say which keys that were. -/
def downloadOffline (worker : Worker) : Step (List String) := do
  store (.create worker.content)
  let missing := worker.missingKeys (← store (.keys worker.content))
  if missing.isEmpty then
    stepNote .message .debug "offline fill: nothing missing"
    return missing
  match ← fetchBatch (missing.map fun key => Request.get (worker.urlFor key)) with
  | .error error =>
    stepNote .message .warn "offline fill aborted"
      (Log.Fields.text (Log.Fields.number .empty "requested" missing.length)
        "error" error.message)
    throw (.fetch error)
  | .ok fetched =>
    storeAll worker.content fetched
    stepNote .message .info "offline fill complete"
      (Log.Fields.number .empty "added" missing.length)
    return missing

/-- Do what a message asks, and say which message it was. -/
def handleMessage (worker : Worker) (payload : String) : Step (Option Message) := do
  match Message.parse? payload with
  | none =>
    stepNote .message .debug "ignored message" (Log.Fields.text .empty "payload" payload)
    return none
  | some .skipWaiting =>
    stepAct .skipWaiting
    return some .skipWaiting
  | some .downloadOffline =>
    let _ ← worker.downloadOffline
    return some .downloadOffline

end AssetCache.Worker
