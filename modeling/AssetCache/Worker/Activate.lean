import AssetCache.Worker.Basic

/-!
# Activating

An activation makes what is staged the content. Without a recorded manifest the
content is rebuilt from the staged shell alone. With one, an entry of the content
is retained if its key has the hash that was recorded and is evicted otherwise;
then the staged entries are copied over. Last of all the manifest of this build is
recorded and the clients are claimed.

If any of this fails, the three regions are deleted, so that the next activation
starts from nothing.
-/

set_option autoImplicit false

namespace AssetCache.Worker

/-- Whether a content entry is still good, given the manifest recorded before. -/
def isReusable (worker : Worker) (previous : Manifest) (url : String) : Bool :=
  match worker.contentKey? url with
  | some key => worker.build.resources.isUnchangedSince previous key
  | none => false

/-- Remove the entries that are no longer good; returned are those removed and those kept. -/
def evict (worker : Worker) (previous : Manifest) :
    List String → Step (List String × List String)
  | [] => return ([], [])
  | url :: rest => do
    if worker.isReusable previous url then
      let (evicted, retained) ← worker.evict previous rest
      return (evicted, url :: retained)
    else
      let _ ← store (.remove worker.content url)
      let (evicted, retained) ← worker.evict previous rest
      return (url :: evicted, retained)

/-- Copy what is staged into the content and make the new version official. -/
def promote (worker : Worker) : Step (List String) := do
  let copied ← onStorage (Storage.copyInto worker.content worker.temp)
  let _ ← store (.delete worker.temp)
  worker.writeRecord
  stepAct .claimClients
  return copied

/-- Bring the content up to date. -/
def reconcile (worker : Worker) : Step Activation := do
  store (.create worker.content)
  store (.create worker.temp)
  store (.create worker.records)
  match ← worker.readRecord with
  | none =>
    let _ ← store (.delete worker.content)
    store (.create worker.content)
    return .fresh (← worker.promote)
  | some previous =>
    let urls ← store (.keys worker.content)
    let (evicted, retained) ← worker.evict previous urls
    return .upgraded evicted retained (← worker.promote)

/-- Delete regions, whatever becomes of each. -/
def clear : List String → Routine Unit
  | [] => return ()
  | region :: rest => do
    match ← act (.storage (.delete region)) with
    | .ok _ => pure ()
    | .error error =>
      note .activate .error "failed to delete cache region"
        (Log.Fields.text (Log.Fields.text .empty "region" region) "error" error.message)
    clear rest

/-- Make a note of an activation that did not fail. -/
def noteActivation : Activation → Routine Unit
  | .fresh copied =>
    note .activate .info "content rebuilt from staged shell"
      (Log.Fields.number .empty "copied" copied.length)
  | .upgraded evicted retained copied =>
    note .activate .info "content reconciled"
      (Log.Fields.number
        (Log.Fields.number
          (Log.Fields.number .empty "evicted" evicted.length)
          "retained" retained.length)
        "copied" copied.length)
  | .reset _ => return ()

/-- Make the staged shell the content; a failure clears all three regions. -/
def activate (worker : Worker) : Routine Activation := do
  act .beginActivation
  let outcome ← do
    match ← worker.reconcile.run with
    | .ok outcome =>
      noteActivation outcome
      pure outcome
    | .error error =>
      note .activate .error "Failed to upgrade asset cache"
        (Log.Fields.text .empty "error" error.message)
      clear worker.config.regions.all
      pure (.reset error.message)
  act .endActivation
  return outcome

end AssetCache.Worker
