import AssetCache.Proofs.Worker.Serving

/-!
# The entry document comes from the network

A request for the entry document goes to the network first, and only if that fails the content
is looked into. Here it is served where storage calls may be refused, and everything that may
come of it is listed (`entryResult`): a response of the network is served whatever becomes of
storing it; without one the stored response is served, or else the failure of the request.

Two refusals come in between (`entry_document_network_first`). If the content cannot be opened,
the request is not sent at all; and if the content cannot be looked into after the request has
failed, it is the refusal that is reported.
-/

set_option autoImplicit false

namespace AssetCache.Worker

open Storage (Memory)

variable {worker : Worker} {around : Surroundings} {request : Request} {scene : Scene}

/-! ## Deeds that do not concern the network -/

theorem Scene.exchanges_after_storage (scene : Scene) (call : Storage.Call)
    (reply : Storage.Reply call) (memory : Memory) :
    (scene.after (.storage call) reply memory).exchanges = scene.exchanges :=
  (scene.exchanges_after ..).trans (List.append_nil _)

theorem Scene.exchanges_after_log (scene : Scene) (note : Log.Note) (memory : Memory) :
    (scene.after (.log note) () memory).exchanges = scene.exchanges :=
  (scene.exchanges_after ..).trans (List.append_nil _)

/-! ## Serving the entry document -/

/-- What serving the entry document ends in: from the refusal to open the content, the reply of
the network, the refusal to look into the content, and the response that is stored there. -/
def entryResult : Option StorageError → Fetch.Result → Option StorageError → Option Response →
    Except WorkerError Served
  | some refusal, _, _, _ => .error (.storage refusal)
  | none, .ok response, _, _ => .ok ⟨Key.root, response, .network⟩
  | none, .error _, some refusal, _ => .error (.storage refusal)
  | none, .error _, none, some cached => .ok ⟨Key.root, cached, .fallback⟩
  | none, .error failure, none, none => .error (.fetch failure)

/-- A response of the network is served, whatever becomes of storing it. -/
theorem accounts_answered (worker : Worker) (around : Surroundings) (response : Response)
    (complaint : String) (served : Served) (before : Memory) :
    Accounts around (do
      worker.fill Key.root (worker.urlFor Key.root) response complaint
      return served) (worker.withContent before) fun result sent _ =>
        result = .ok served ∧ sent = [] := by
  refine .bind ((accounts_fill worker Key.root complaint response before).mono ?_)
  rintro result sent after ⟨rfl, rfl, -⟩
  exact .pure ⟨rfl, rfl⟩

/-- Once the content is open, the request is sent. -/
theorem perform_open_fetch (worker : Worker) (request : Request)
    {reply : Fetch.Result} (h : around.refuse scene.deeds.length (.create worker.content) = none)
    (hreply : around.respond (scene.deeds.length + 1) request = reply)
    (next : Fetch.Result → Step Served) :
    ∃ asked : Scene, asked.deeds.length = scene.deeds.length + 2 ∧
      asked.memory = worker.withContent scene.memory ∧
      asked.exchanges = scene.exchanges ++ [(request, reply)] ∧
      around.perform (do
        store (.create worker.content)
        next (← stepAct (.fetch request))) scene = around.perform (next reply) asked := by
  let opened := scene.after (.storage (.create worker.content)) (.ok ())
    (worker.withContent scene.memory)
  have hmoment : opened.deeds.length = scene.deeds.length + 1 := List.length_append
  refine ⟨opened.after (.fetch request) reply opened.memory,
    List.length_append.trans (congrArg (· + 1) hmoment), rfl, ?_, ?_⟩
  · rw [Scene.exchanges_after, Scene.exchanges_after_storage]
    rfl
  · rw [Surroundings.perform_store_bind_of_answered h (Memory.answer_create ..),
      Surroundings.perform_stepAct_bind, Surroundings.answer, Surroundings.reply, hmoment,
      hreply]

/-- The content is opened, the request is sent, and after a failure the content is looked into. -/
theorem perform_networkFirst (worker : Worker) (around : Surroundings) (request : Request)
    (scene : Scene) :
    let run := around.perform (worker.networkFirst request Key.root (worker.urlFor Key.root)) scene
    let moment := scene.deeds.length
    let opening := around.refuse moment (.create worker.content)
    let reply := around.respond (moment + 1) request
    let lookup := around.refuse (moment + 2) (.find worker.content (worker.urlFor Key.root))
    let stored := (Memory.entries scene.memory worker.content).get? (worker.urlFor Key.root)
    run.1 = entryResult opening reply lookup stored ∧
      run.2.exchanges = scene.exchanges ++ if opening.isSome then [] else [(request, reply)] := by
  intro run moment opening reply lookup stored
  cases hopening : opening with
  | some refusal =>
    have hrun : run = _ := Surroundings.perform_store_bind_of_refused hopening _
    rw [hrun]
    exact ⟨rfl, Scene.exchanges_after ..⟩
  | none =>
    obtain ⟨asked, hmoment, hmemory, hasked, hrun⟩ :=
      perform_open_fetch worker request hopening (show _ = reply from rfl) _
    change run = _ at hrun
    rw [hrun, Option.isSome_none, if_neg Bool.false_ne_true, ← hasked]
    cases hreply : reply with
    | ok response =>
      obtain ⟨sent, hsent, hresult, rfl⟩ := accounts_answered worker around response
        "entry document cache update failed" ⟨Key.root, response, .network⟩ scene.memory asked.deeds
      rw [← hmemory] at hsent hresult
      exact ⟨hresult, hsent.trans (List.append_nil _)⟩
    | error failure =>
      have hlooked : around.refuse asked.deeds.length
          (.find worker.content (worker.urlFor Key.root)) = lookup := by rw [hmoment]
      dsimp only
      cases hlookup : lookup with
      | some refusal =>
        rw [Surroundings.perform_store_bind_of_refused (hlooked.trans hlookup)]
        exact ⟨rfl, Scene.exchanges_after_storage ..⟩
      | none =>
        have hfound : Memory.answer (.find worker.content (worker.urlFor Key.root)) asked.memory =
            (.ok stored, asked.memory) := by
          rw [Memory.answer, hmemory, Memory.entries_opened]
        rw [Surroundings.perform_store_bind_of_answered (hlooked.trans hlookup) hfound]
        cases stored with
        | none => exact ⟨rfl, Scene.exchanges_after_storage ..⟩
        | some cached =>
          exact ⟨rfl, (Scene.exchanges_after_log ..).trans (Scene.exchanges_after_storage ..)⟩

/-- A request for the entry document is served from the network first, and only a note of it
follows. -/
theorem perform_handleFetch_root (around : Surroundings) (scene : Scene)
    (h : worker.interceptedKey? request = some Key.root)
    {first : Except WorkerError Served × Scene}
    (hfirst : around.perform
      (worker.networkFirst request Key.root (worker.urlFor Key.root)) scene = first) :
    (around.perform (worker.handleFetch request) scene).1 = first.1.map some ∧
      (around.perform (worker.handleFetch request) scene).2.exchanges = first.2.exchanges := by
  rw [handleFetch, h]
  dsimp only
  rw [if_pos (show Key.isRoot Key.root = true from rfl), Surroundings.perform_bind, hfirst]
  cases first.1 with
  | error error => exact ⟨rfl, rfl⟩
  | ok served => exact ⟨rfl, Scene.exchanges_after_log ..⟩

/-- What serving a request for the entry document ends in, and what is sent. -/
theorem perform_handleFetch_entry (worker : Worker) (around : Surroundings) (memory : Memory)
    (h : worker.interceptedKey? request = some Key.root) :
    let run := around.perform (worker.handleFetch request) (Scene.start memory)
    let opening := around.refuse 0 (.create worker.content)
    let reply := around.respond 1 request
    run.1 = (entryResult opening reply
        (around.refuse 2 (.find worker.content (worker.urlFor Key.root)))
        ((Memory.entries memory worker.content).get? (worker.urlFor Key.root))).map some ∧
      run.2.exchanges = if opening.isSome then [] else [(request, reply)] := by
  intro run opening reply
  obtain ⟨hresult, hsent⟩ := perform_handleFetch_root around (Scene.start memory) h rfl
  obtain ⟨hfirst, hasked⟩ := perform_networkFirst worker around request (Scene.start memory)
  exact ⟨hresult.trans (congrArg (Except.map some) hfirst), hsent.trans hasked⟩

/-- What is served of the entry document, and whether the network is asked for it, hangs on the
opening of the content, the reply of the network, and what can be read of the content. -/
theorem entry_document_network_first (worker : Worker) (around : Surroundings) (memory : Memory)
    {request : Request} (hget : request.method = .get)
    (hroot : Key.requestKey? worker.config.origin request.url = some Key.root)
    (hlisted : worker.build.resources.contains Key.root = true) :
    let run := around.perform (worker.handleFetch request) (Scene.start memory)
    let opening := around.refuse 0 (.create worker.content)
    let reply := around.respond 1 request
    let lookup := around.refuse 2 (.find worker.content (worker.urlFor Key.root))
    let stored := (Memory.entries memory worker.content).get? (worker.urlFor Key.root)
    match opening, reply, lookup, stored with
    | some refusal, _, _, _ =>
      run.1 = .error (.storage refusal) ∧ run.2.exchanges = []
    | none, .ok response, _, _ =>
      run.1 = .ok (some ⟨Key.root, response, .network⟩) ∧ run.2.exchanges = [(request, reply)]
    | none, .error _, some refusal, _ =>
      run.1 = .error (.storage refusal) ∧ run.2.exchanges = [(request, reply)]
    | none, .error _, none, some cached =>
      run.1 = .ok (some ⟨Key.root, cached, .fallback⟩) ∧ run.2.exchanges = [(request, reply)]
    | none, .error failure, none, none =>
      run.1 = .error (.fetch failure) ∧ run.2.exchanges = [(request, reply)] := by
  intro run opening reply lookup stored
  have hkey := interceptedKey?_eq_some_iff.mpr ⟨hget, hroot, hlisted⟩
  obtain ⟨hresult, hexchanges⟩ : run.1 = (entryResult opening reply lookup stored).map some ∧
      run.2.exchanges = if opening.isSome then [] else [(request, reply)] :=
    perform_handleFetch_entry worker around memory hkey
  rw [hresult, hexchanges]
  cases opening with
  | some refusal => exact ⟨rfl, rfl⟩
  | none =>
    cases reply with
    | ok response => exact ⟨rfl, rfl⟩
    | error failure =>
      cases lookup with
      | some refusal => exact ⟨rfl, rfl⟩
      | none => cases stored <;> exact ⟨rfl, rfl⟩

/-- The network answers, and the entry document is served though it cannot be stored. -/
theorem entry_document_network_first_of_unstored :
    let worker : Worker := ⟨.ofOrigin "http://[::1]", ⟨Table.empty.insert "/" "1", []⟩⟩
    let request := Request.get "http://[::1]/?v=2"
    let full : Surroundings := { Surroundings.serving (.json [0]) with
      refuse := fun _ call => match call with
        | .put _ _ _ => some (.callFailed "full")
        | _ => none }
    let run := full.perform (worker.handleFetch request) (Scene.start .empty)
    request.method = .get ∧
      Key.requestKey? worker.config.origin request.url = some Key.root ∧
      worker.build.resources.contains Key.root = true ∧
      run.1 = .ok (some ⟨"/", .json [0], .network⟩) ∧
      run.2.exchanges = [(request, .ok (.json [0]))] := by
  intro worker request full run
  have hget : request.method = .get := rfl
  have hroot : Key.requestKey? worker.config.origin request.url = some Key.root := by decide
  have hlisted : worker.build.resources.contains Key.root = true := by decide
  exact ⟨hget, hroot, hlisted,
    entry_document_network_first worker full .empty hget hroot hlisted⟩

/-- The network answers, but is not asked, for the content cannot be opened; and the network
fails, but it is the storage that is complained of, for the content cannot be looked into. -/
theorem refused_content_hides_network :
    let worker : Worker := ⟨.ofOrigin "http://[::1]", ⟨Table.empty.insert "/" "1", []⟩⟩
    let request := Request.get "http://[::1]/"
    let refusal := StorageError.callFailed "busy"
    let closed : Surroundings := { Surroundings.serving (.json [0]) with
      refuse := fun _ call => match call with
        | .create _ => some refusal
        | _ => none }
    let opened : Surroundings := { Surroundings.offline none with
      refuse := fun _ call => match call with
        | .find _ _ => some refusal
        | _ => none }
    let unasked := closed.perform (worker.handleFetch request) (Scene.start .empty)
    let unanswered := opened.perform (worker.handleFetch request) (Scene.start .empty)
    request.method = .get ∧
      Key.requestKey? worker.config.origin request.url = some Key.root ∧
      worker.build.resources.contains Key.root = true ∧
      (∀ count, closed.respond count request = .ok (.json [0])) ∧
      unasked.2.exchanges = [] ∧ unasked.1 = .error (.storage refusal) ∧
      unasked.1 ≠ .ok (some ⟨Key.root, .json [0], .network⟩) ∧
      unanswered.2.exchanges = [(request, .error (.request request.url "offline"))] ∧
      unanswered.1 = .error (.storage refusal) ∧
      unanswered.1 ≠ .error (.fetch (.request request.url "offline")) := by
  intro worker request refusal closed opened unasked unanswered
  have hroot : Key.requestKey? worker.config.origin request.url = some Key.root := by decide
  have hlisted : worker.build.resources.contains Key.root = true := by decide
  have hkey := interceptedKey?_eq_some_iff.mpr ⟨rfl, hroot, hlisted⟩
  obtain ⟨hunasked, hunsent⟩ := perform_handleFetch_entry worker closed .empty hkey
  obtain ⟨hunanswered, hsent⟩ := perform_handleFetch_entry worker opened .empty hkey
  refine ⟨rfl, hroot, hlisted, fun _ => rfl, hunsent, hunasked, ?_, hsent, hunanswered, ?_⟩
  · exact fun heq => nomatch hunasked.symm.trans heq
  · exact fun heq => nomatch hunanswered.symm.trans heq

end AssetCache.Worker
