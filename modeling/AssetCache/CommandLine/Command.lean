import AssetCache.CommandLine.Status
import AssetCache.Worker.Activate
import AssetCache.Worker.Offline
import AssetCache.Worker.Serve

/-!
# Commands

What the commands do within a session. Each checks the configuration before it
reads the build manifest, and both before it looks at its own arguments.
-/

set_option autoImplicit false

namespace AssetCache.CommandLine

/-- What the command line can be told to do. -/
inductive Command where
  /-- Stage the core shell. -/
  | install
  /-- Make the staged shell the content. -/
  | activate
  /-- Install and activate, and then fetch what is missing if asked to. -/
  | update (offline : Bool)
  /-- Serve one request; the body may go into a file. -/
  | fetch (path method : String) (output : Option String)
  /-- Fetch all resources that are missing. -/
  | offline
  | message (payload : String)
  | status
  /-- Delete the regions, without asking if told so. -/
  | purge (yes : Bool)
  | showConfig
  /-- Write a file of settings, in place of another if told so. -/
  | createConfig (origin : String) (force : Bool)
  deriving DecidableEq, Repr

namespace Command

open Voice

/-- Say something within a part that may fail. -/
def say (routine : Routine Unit) : Step Unit := ExceptT.lift routine

/-- Say several things. -/
def sayAll : List (Routine Unit) → Routine Unit
  | [] => return ()
  | first :: rest => do
    first
    sayAll rest

/-! ## Staging, activating, filling -/

/-- Stage the core shell and tell how much that was. -/
def stageShell (session : Session) (worker : Worker) : Step (List String) := do
  let staged ← during "Install failed; nothing was staged" (session.work worker.install)
  say (session.voice.success ("Staged " ++ Text.Decimal.ofNat staged.length ++
    " core resources in '" ++ worker.temp ++ "'"))
  say (sayAll (staged.map session.voice.detail))
  return staged

/-- Tell the outcome of an activation; one that was reset is a failure. -/
def tellActivation (voice : Voice) (outcome : Activation) : Step Unit := do
  say (voice.result outcome.toJson)
  match outcome with
  | .fresh copied =>
    say (voice.success ("Content rebuilt from staged shell (" ++
      Text.Decimal.ofNat copied.length ++ " entries)"))
  | .upgraded evicted retained copied =>
    say (voice.success "Content reconciled with the previous build")
    say (voice.number "retained" retained.length)
    say (voice.number "evicted" evicted.length)
    say (voice.number "copied" copied.length)
    if voice.verbose then say (sayAll (evicted.map fun url => voice.item ("evicted " ++ url)))
  | .reset reason =>
    throw ["Activation failed and every cache region was reset: " ++ reason]

/-- Activate the build and tell the outcome. -/
def activateAndTell (session : Session) (worker : Worker) : Step Unit := do
  let outcome ← ExceptT.lift (session.workRoutine worker.activate)
  tellActivation session.voice outcome

/-- Fetch what is missing. -/
def fill (session : Session) (worker : Worker) : Step (List String) :=
  during "Offline fill failed; nothing was added" (session.work worker.downloadOffline)

/-- Stage the core shell. -/
def runInstall (session : Session) : Step Unit := do
  let worker ← session.worker
  say (session.voice.heading "Install")
  let staged ← stageShell session worker
  say (session.voice.result (.obj [("staged", .strings staged)]))

/-- Make the staged shell the content. -/
def runActivate (session : Session) : Step Unit := do
  let worker ← session.worker
  say (session.voice.heading "Activate")
  activateAndTell session worker

/-- Install, activate and perhaps fill. -/
def runUpdate (session : Session) (offline : Bool) : Step Unit := do
  let worker ← session.worker
  let voice := session.voice
  let total := if offline then 3 else 2
  say (voice.heading "Update")
  say (voice.stage 1 total "Staging core shell")
  let _ ← stageShell session worker
  say (voice.stage 2 total "Activating")
  activateAndTell session worker
  if offline then
    say (voice.stage 3 total "Filling cache for offline use")
    let added ← fill session worker
    say (voice.success ("Added " ++ Text.Decimal.ofNat added.length ++ " resources"))

/-- Fill the cache for use without a network. -/
def runOffline (session : Session) : Step Unit := do
  let worker ← session.worker
  let voice := session.voice
  say (voice.heading "Offline fill")
  let added ← fill session worker
  if voice.json then say (voice.result (.obj [("added", .strings added)]))
  else if added.isEmpty then say (voice.info "Every manifest resource is already cached")
  else
    say (voice.success ("Added " ++ Text.Decimal.ofNat added.length ++ " resources"))
    say (sayAll (added.map voice.item))

/-! ## Serving -/

/-- Whether a path is a whole URL. -/
def isUrl (path : String) : Bool :=
  "http://".toList.isPrefixOf path.toList || "https://".toList.isPrefixOf path.toList

/-- A request that was served as JSON, or one that the worker leaves alone. -/
def servedJson (url : String) : Option Served → Json
  | none => .obj [("url", .str url), ("intercepted", .bool false)]
  | some served =>
    .obj [("url", .str url), ("intercepted", .bool true), ("key", .str served.key),
      ("status", .nat served.response.status.toNat),
      ("cache", .str served.provenance.label),
      ("bytes", .nat served.response.body.length)]

/-- Tell how a request was served. -/
def tellServed (voice : Voice) (url : String) (served : Served) : Routine Unit := do
  voice.success (Text.Decimal.ofNat served.response.status.toNat ++ " " ++ url ++ " [" ++
    served.provenance.label ++ "]")
  voice.value "key" served.key
  voice.value "size" (sizeText served.response.body.length)
  match served.response.contentType? with
  | some type => voice.value "content-type" type
  | none => return ()

/-- Write a body into a file. -/
def writeBody (session : Session) (output : String) (body : Bytes) : Step Unit := do
  let file := session.resolve output
  match ← ExceptT.lift (act (.disk (.write (Disk.Location.names file) body))) with
  | .ok () => say (session.voice.detail ("Body written to " ++ file))
  | .error error => throw ["Failed to write " ++ file, error.message]

/-- Serve one request. -/
def runFetch (session : Session) (path method : String) (output : Option String) :
    Step Unit := do
  let worker ← session.worker
  let voice := session.voice
  match Method.parse? method with
  | none => throw ["Unknown HTTP method '" ++ method ++ "'"]
  | some method =>
    let url := if isUrl path then path else worker.urlFor path
    let served ← during ("Fetch of " ++ url ++ " failed")
      (session.work (worker.handleFetch (.plain method url)))
    match served with
    | none =>
      say (voice.result (servedJson url none))
      say (voice.warn (method.name ++ " " ++ url ++ " is not handled by the worker"))
    | some served =>
      match output with
      | some output => writeBody session output served.response.body
      | none => pure ()
      if voice.json then say (voice.result (servedJson url (some served)))
      else say (tellServed voice url served)

/-- Pass a message on to the worker. -/
def runMessage (session : Session) (payload : String) : Step Unit := do
  let worker ← session.worker
  let voice := session.voice
  let handled ← during ("Message '" ++ payload ++ "' failed")
    (session.work (worker.handleMessage payload))
  if voice.json then
    let text := match handled with
      | some known => Json.str known.text
      | none => .null
    say (voice.result (.obj [("handled", text), ("payload", .str payload)]))
  else
    match handled with
    | some known => say (voice.success ("Handled '" ++ known.text ++ "'"))
    | none => say (voice.warn ("Ignored unrecognized message '" ++ payload ++ "'"))

/-! ## Looking and clearing up -/

/-- Tell the status of the cache. -/
def runStatus (session : Session) : Step Unit := do
  let worker ← session.worker
  let status ← Status.gather session worker
  say (status.tell session.voice worker.config.origin session.storage)

/-- Delete regions, and say which of them were there. -/
def deleteRegions (session : Session) : List String → Step (List String)
  | [] => return []
  | region :: rest => do
    let deleted ← session.store (.delete region)
    let others ← deleteRegions session rest
    return if deleted then region :: others else others

/-- Ask whether the regions are to be deleted. -/
def confirmPurge (session : Session) (config : Config) : Step Bool := do
  say (session.voice.warn ("This deletes the regions " ++
    ", ".intercalate config.regions.all ++ " under " ++ session.storage))
  match ← ExceptT.lift (act (.confirm "Purge the asset cache?")) with
  | .ok answer => return answer
  | .error reason => throw ["IO error: " ++ reason, reason]

/-- Delete the regions of the worker. -/
def runPurge (session : Session) (yes : Bool) : Step Unit := do
  let config ← session.config
  let voice := session.voice
  let confirmed ← if yes then pure true else confirmPurge session config
  if confirmed then
    let deleted ← deleteRegions session config.regions.all
    if voice.json then say (voice.result (.obj [("deleted", .strings deleted)]))
    else if deleted.isEmpty then say (voice.info "Nothing to purge")
    else
      say (voice.success ("Deleted " ++ Text.Decimal.ofNat deleted.length ++ " regions: " ++
        ", ".intercalate deleted))
  else say (voice.warn "Purge cancelled")

/-! ## Settings -/

/-- Tell the settings in effect, and what is wrong with them. -/
def runShowConfig (session : Session) : Routine Unit := do
  let voice := session.voice
  let settings := session.settings
  if voice.json then voice.result settings.toJson
  else
    voice.heading "Current Configuration"
    voice.value "file" (session.file.getD "(defaults)")
    voice.info "[worker]"
    voice.value "origin" settings.worker.origin
    voice.value "regions.content" settings.worker.regions.content
    voice.value "regions.temp" settings.worker.regions.temp
    voice.value "regions.manifest" settings.worker.regions.manifest
    voice.info "[bundle]"
    voice.value "manifest" settings.manifest
    voice.info "[storage]"
    voice.value "dir" session.storage
    match settings.worker.validate with
    | .ok _ => return ()
    | .error error => voice.warn error.message

/-- The causes of a file of settings not being written. -/
def writeCauses : Settings.WriteError → Causes
  | .alreadyThere file => [file ++ " already exists. Use --force to overwrite."]
  | .invalidOrigin error => ["Refusing to write an invalid origin", error.message]
  | .unwritable file error => ["Failed to write " ++ file, error.message]

/-- Write a file of settings into the working directory. -/
def runCreateConfig (session : Session) (origin : String) (force : Bool) : Step Unit := do
  let file ← Attempt.mapFailure writeCauses
    (ExceptT.mk (onDisk (Settings.create session.directory origin force).run))
  say (session.voice.success ("Created " ++ file))

/-! ## All of them -/

/-- Do what a command says. -/
def run (session : Session) : Command → Step Unit
  | install => runInstall session
  | activate => runActivate session
  | update fillToo => runUpdate session fillToo
  | fetch path method output => runFetch session path method output
  | offline => runOffline session
  | message payload => runMessage session payload
  | status => runStatus session
  | purge yes => runPurge session yes
  | showConfig => ExceptT.lift (runShowConfig session)
  | createConfig origin force => runCreateConfig session origin force

/-- Carry a command out and tell its failure; the answer is the exit status. -/
def execute (session : Session) (command : Command) : Routine Nat := do
  match ← (command.run session).run with
  | .ok () => return 0
  | .error causes =>
    session.voice.failure causes
    return 1

end Command

end AssetCache.CommandLine
