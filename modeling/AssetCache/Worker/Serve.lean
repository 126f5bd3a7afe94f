import AssetCache.Worker.Basic

/-!
# Serving requests

A worker intercepts the requests that ask for a resource of its manifest. The
entry document comes from the network and, when that fails, out of the content.
Every other resource comes out of the content and, when it is not there, from the
network; a response of success is then stored.

That a response cannot be stored is no reason not to serve it.
-/

set_option autoImplicit false

namespace AssetCache.Worker

/-- The key that a request asks for, if it is one to be intercepted. -/
def interceptedKey? (worker : Worker) (request : Request) : Option String :=
  if request.isGet then
    match Key.requestKey? worker.config.origin request.url with
    | some key => if worker.build.resources.contains key then some key else none
    | none => none
  else none

/-- Store a response; if that fails, make a note of it. -/
def fill (worker : Worker) (key url : String) (response : Response) (complaint : String) :
    Step Unit := do
  match ← stepAct (.storage (.put worker.content url response)) with
  | .ok () => return ()
  | .error error =>
    stepNote .fetch .warn complaint (Log.Fields.text .empty "error" error.message) (some key)

/-- Serve a resource out of the content, else from the network. -/
def cacheFirst (worker : Worker) (request : Request) (key url : String) : Step Served := do
  store (.create worker.content)
  match ← store (.find worker.content url) with
  | some cached => return ⟨key, cached, .hit⟩
  | none =>
    match ← stepAct (.fetch request) with
    | .error error => throw (.fetch error)
    | .ok response =>
      if response.isSuccess then
        worker.fill key url response "lazy cache fill failed"
        return ⟨key, response, .miss⟩
      else return ⟨key, response, .bypass⟩

/-- Serve the entry document from the network, else out of the content. -/
def networkFirst (worker : Worker) (request : Request) (key url : String) : Step Served := do
  store (.create worker.content)
  match ← stepAct (.fetch request) with
  | .ok response =>
    worker.fill key url response "entry document cache update failed"
    return ⟨key, response, .network⟩
  | .error error =>
    match ← store (.find worker.content url) with
    | some cached =>
      stepNote .fetch .warn "network unavailable, serving cached entry document"
        (Log.Fields.text .empty "error" error.message) (some key)
      return ⟨key, cached, .fallback⟩
    | none => throw (.fetch error)

/-- Serve a request, unless it is not one to be intercepted. -/
def handleFetch (worker : Worker) (request : Request) : Step (Option Served) := do
  match worker.interceptedKey? request with
  | none => return none
  | some key =>
    let url := worker.urlFor key
    let served ←
      if Key.isRoot key then worker.networkFirst request key url
      else worker.cacheFirst request key url
    stepNote .fetch .debug "served"
      (Log.Fields.number (Log.Fields.text .empty "status" served.provenance.label)
        "http_status" served.response.status.toNat) (some key)
    return some served

end AssetCache.Worker
