import AssetCache.Proofs.Key
import AssetCache.Proofs.Worker.Content

/-!
# How a request is served

A request that is not one to be intercepted is declined before anything is done. Any
other is served in one of four courses (`Course`): the content could not be opened,
nothing was found, the response came out of the content, or the network answered. In
each the network is asked at most once, with the request as it came, and whatever it
answers is served, also if it cannot be stored.

An `Accounts` judgement adds to `Ensures` what passed between a worker and the network.
The contract in terms of the request alone is `handleFetch_contract`.
-/

set_option autoImplicit false

namespace AssetCache

theorem Provenance.fromCache_eq_true_iff (provenance : Provenance) :
    provenance.fromCache = true ↔ provenance = .hit ∨ provenance = .fallback := by
  cases provenance <;> decide

namespace Worker

open Storage (Memory)

variable {α β : Type}

/-! ## Exchanges with the network -/

/-- A request with what the network made of it. -/
abbrev Exchange : Type := Request × Fetch.Result

/-- What the requests of a batch and their arrivals amount to, in order. -/
def batchExchanges (requests : List Request) (arrivals : List Fetch.Arrival) : List Exchange :=
  requests.zip (arrivals.map Fetch.Arrival.result)

/-- The responses of a batch that succeeds are what passed between the worker and the network. -/
theorem mem_batchExchanges {requests : List Request} {arrivals : List Fetch.Arrival}
    {fetched : List (Request × Response)}
    (h : Fetch.Batch.outcome requests arrivals = .ok fetched) {pair : Request × Response}
    (hpair : pair ∈ fetched) : (pair.1, .ok pair.2) ∈ batchExchanges requests arrivals := by
  obtain ⟨arrival, hzip, hresult, _⟩ := Fetch.Batch.mem_of_outcome h hpair
  rw [batchExchanges, List.zip_map_right, ← hresult]
  exact List.mem_map.mpr ⟨_, hzip, rfl⟩

/-- What passed between a worker and the network in a deed. -/
def Deed.exchanges : Deed → List Exchange
  | ⟨.fetch request, result⟩ => [(request, result)]
  | ⟨.fetchAll requests, arrivals⟩ => batchExchanges requests arrivals.1
  | _ => []

/-- What passed between a worker and the network so far. -/
def Scene.exchanges (scene : Scene) : List Exchange := scene.deeds.flatMap Deed.exchanges

theorem Scene.exchanges_after (scene : Scene) (action : Action) (reply : action.Reply)
    (memory : Memory) :
    (scene.after action reply memory).exchanges =
      scene.exchanges ++ Deed.exchanges ⟨action, reply⟩ := by
  show (scene.deeds ++ [(⟨action, reply⟩ : Deed)]).flatMap Deed.exchanges = _
  rw [List.flatMap_append, List.flatMap_singleton]
  rfl

/-- What holds of every end of a program from a storage, and of its exchanges until then. -/
def Accounts (around : Surroundings) (step : Step α) (before : Memory)
    (post : Except WorkerError α → List Exchange → Memory → Prop) : Prop :=
  ∀ past, ∃ sent,
    (around.perform step ⟨before, past⟩).2.exchanges = past.flatMap Deed.exchanges ++ sent ∧
      post (around.perform step ⟨before, past⟩).1 sent
        (around.perform step ⟨before, past⟩).2.memory

namespace Accounts

variable {around : Surroundings} {before : Memory}
  {post : Except WorkerError α → List Exchange → Memory → Prop}

theorem pure {value : α} (h : post (.ok value) [] before) :
    Accounts around (Pure.pure value) before post :=
  fun _ => ⟨[], (List.append_nil _).symm, h⟩

theorem throw {error : WorkerError} (h : post (.error error) [] before) :
    Accounts around (MonadExcept.throw error) before post :=
  fun _ => ⟨[], (List.append_nil _).symm, h⟩

theorem mono {step : Step α} {post' : Except WorkerError α → List Exchange → Memory → Prop}
    (h : Accounts around step before post)
    (himp : ∀ result sent after, post result sent after → post' result sent after) :
    Accounts around step before post' := by
  intro past
  obtain ⟨sent, hsent, hpost⟩ := h past
  exact ⟨sent, hsent, himp _ _ _ hpost⟩

/-- One program after another: the exchanges of the second follow those of the first. -/
theorem bind {step : Step β} {next : β → Step α}
    (h : Accounts around step before fun result sent after =>
      match result with
      | .ok value =>
        Accounts around (next value) after fun result' more => post result' (sent ++ more)
      | .error error => post (.error error) sent after) :
    Accounts around (step >>= next) before post := by
  intro past
  obtain ⟨sent, hsent, hstep⟩ := h past
  rw [Surroundings.perform_bind]
  cases hresult : (around.perform step ⟨before, past⟩).1 with
  | ok value =>
    rw [hresult] at hstep
    obtain ⟨more, hmore, hpost⟩ := hstep (around.perform step ⟨before, past⟩).2.deeds
    refine ⟨sent ++ more, ?_, hpost⟩
    rw [← List.append_assoc, ← hsent]
    exact hmore
  | error error =>
    rw [hresult] at hstep
    exact ⟨sent, hsent, hstep⟩

/-- An action is one deed. -/
theorem act {action : Action} {post : Except WorkerError action.Reply → List Exchange →
    Memory → Prop}
    (h : ∀ count, post (.ok (around.reply count action before).1)
      (Deed.exchanges ⟨action, (around.reply count action before).1⟩)
      (around.reply count action before).2) :
    Accounts around (stepAct action) before post :=
  fun past => ⟨_, Scene.exchanges_after ⟨before, past⟩ action _ _, h past.length⟩

/-- A storage call whose failure is looked at. -/
theorem attemptStore {call : Storage.Call}
    {post : Except WorkerError (Storage.Reply call) → List Exchange → Memory → Prop}
    (refused : ∀ count error, around.refuse count call = some error →
      post (.ok (.error error)) [] before)
    (answered : post (.ok (Memory.answer call before).1) [] (Memory.answer call before).2) :
    Accounts around (stepAct (.storage call)) before post := by
  refine .act fun count => ?_
  rw [Surroundings.reply]
  cases hrefuse : around.refuse count call with
  | some error => exact refused count error hrefuse
  | none => exact answered

/-- A storage call whose failure ends the program. -/
theorem store {call : Storage.Call}
    {post : Except WorkerError call.Value → List Exchange → Memory → Prop}
    (refused : ∀ count error, around.refuse count call = some error →
      post (.error (.storage error)) [] before)
    (answered : post ((Memory.answer call before).1.mapError .storage) []
      (Memory.answer call before).2) :
    Accounts around (Worker.store call) before post := by
  have hattempt : Accounts around (stepAct (.storage call)) before fun result sent after =>
      ∀ reply, result = .ok reply → post (reply.mapError .storage) sent after := by
    refine .attemptStore (fun count error hrefuse reply heq => ?_) fun reply heq => ?_
    · cases heq
      exact refused count error hrefuse
    · cases heq
      exact answered
  intro past
  obtain ⟨sent, hsent, hpost⟩ := hattempt past
  exact ⟨sent, hsent, hpost _ rfl⟩

theorem note {event : Event} {level : Log.Level} {message : String} {fields : Log.Fields}
    {key : Option String} {post : Except WorkerError Unit → List Exchange → Memory → Prop}
    (h : post (.ok ()) [] before) :
    Accounts around (stepNote event level message fields key) before post :=
  .act fun _ => h

/-- All fetches of a batch are one deed. -/
theorem fetchBatch {requests : List Request}
    {post : Except WorkerError (Except FetchError (List (Request × Response))) →
      List Exchange → Memory → Prop}
    (h : ∀ count, post (.ok (Fetch.Batch.outcome requests (around.arrive count requests).1))
      (batchExchanges requests (around.arrive count requests).1) before) :
    Accounts around (Worker.fetchBatch requests) before post := by
  refine .bind (.act fun count => .pure ?_)
  rw [List.append_nil]
  exact h count

end Accounts

/-! ## The courses of serving -/

variable {worker : Worker} {around : Surroundings} {request : Request} {key : String}
  {before : Memory}

/-- The storage once the content has been opened. -/
abbrev withContent (worker : Worker) (memory : Memory) : Memory :=
  Memory.opened memory worker.content

/-- The storage once a response has been stored in the opened content. -/
def filled (worker : Worker) (key : String) (response : Response) (memory : Memory) : Memory :=
  (worker.withContent memory).insert worker.content
    ((Memory.entries memory worker.content).insert (worker.urlFor key) response)

/-- How serving a request for a resource may end, having been given a storage. -/
inductive Course (worker : Worker) (request : Request) (key : String) (before : Memory) :
    Except WorkerError Served → List Exchange → Memory → Prop
  | unopened (error : StorageError) :
      Course worker request key before (.error (.storage error)) [] before
  /-- Nothing was found, or nothing could be looked up. -/
  | failed {sent : List Exchange} (error : WorkerError) :
      (sent = [] ∨ ∃ failure, sent = [(request, .error failure)]) →
        Course worker request key before (.error error) sent (worker.withContent before)
  | cached {sent : List Exchange} {response : Response} {provenance : Provenance} :
      (sent = [] ∨ ∃ failure, sent = [(request, .error failure)]) →
        provenance.fromCache = true →
        (Memory.entries before worker.content).get? (worker.urlFor key) = some response →
          Course worker request key before (.ok ⟨key, response, provenance⟩) sent
            (worker.withContent before)
  | fresh {response : Response} {provenance : Provenance} {after : Memory} :
      provenance.fromCache = false →
        (after = worker.withContent before ∨
          (key ≠ Key.root → response.isSuccess = true) ∧
            after = worker.filled key response before) →
          Course worker request key before (.ok ⟨key, response, provenance⟩)
            [(request, .ok response)] after

/-- A fill never fails; afterwards the response is stored, or nothing has changed. -/
theorem accounts_fill (worker : Worker) (key complaint : String) (response : Response)
    (before : Memory) :
    Accounts around (worker.fill key (worker.urlFor key) response complaint)
      (worker.withContent before) fun result sent after =>
        result = .ok () ∧ sent = [] ∧
          (after = worker.withContent before ∨ after = worker.filled key response before) := by
  refine .bind (.attemptStore (fun _ _ _ => .note ⟨rfl, rfl, .inl rfl⟩) ?_)
  rw [Memory.answer_put (Memory.get?_opened_self before worker.content)]
  exact .pure ⟨rfl, rfl, .inr rfl⟩

theorem accounts_cacheFirst (worker : Worker) (request : Request) (key : String)
    (before : Memory) :
    Accounts around (worker.cacheFirst request key (worker.urlFor key)) before
      (Course worker request key before) := by
  refine .bind (.store (fun _ error _ => .unopened error) ?_)
  refine .bind (.store (fun _ _ _ => .failed _ (.inl rfl)) ?_)
  dsimp only [Memory.answer, Except.mapError]
  split
  next cached hcached =>
    change (Memory.entries (worker.withContent before) worker.content).get? _ = _ at hcached
    rw [Memory.entries_opened] at hcached
    exact .pure (.cached (.inl rfl) rfl hcached)
  next =>
    refine .bind (.act fun count => ?_)
    dsimp only [Surroundings.reply]
    cases around.respond count request with
    | error failure => exact .throw (.failed _ (.inr ⟨failure, rfl⟩))
    | ok response =>
      dsimp only
      split
      next hsuccess =>
        refine .bind ((accounts_fill worker key _ response before).mono ?_)
        rintro result sent after ⟨rfl, rfl, hafter⟩
        exact .pure (.fresh rfl (hafter.imp_right fun h => ⟨fun _ => hsuccess, h⟩))
      next => exact .pure (.fresh rfl (.inl rfl))

theorem accounts_networkFirst (worker : Worker) (request : Request) (before : Memory) :
    Accounts around (worker.networkFirst request Key.root (worker.urlFor Key.root)) before
      (Course worker request Key.root before) := by
  refine .bind (.store (fun _ error _ => .unopened error) ?_)
  refine .bind (.act fun count => ?_)
  dsimp only [Surroundings.reply]
  cases around.respond count request with
  | ok response =>
    refine .bind ((accounts_fill worker Key.root _ response before).mono ?_)
    rintro result sent after ⟨rfl, rfl, hafter⟩
    exact .pure (.fresh rfl (hafter.imp_right fun h => ⟨fun hne => absurd rfl hne, h⟩))
  | error failure =>
    refine .bind (.store (fun _ _ _ => .failed _ (.inr ⟨failure, rfl⟩)) ?_)
    dsimp only [Memory.answer, Except.mapError]
    split
    next cached hcached =>
      change (Memory.entries (worker.withContent before) worker.content).get? _ = _ at hcached
      rw [Memory.entries_opened] at hcached
      exact .bind (.note (.pure (.cached (.inr ⟨failure, rfl⟩) rfl hcached)))
    next => exact .throw (.failed _ (.inr ⟨failure, rfl⟩))

/-- A request that is intercepted is served in one of two ways, and only a note of it follows. -/
theorem accounts_handleFetch_of
    {post : Except WorkerError Served → List Exchange → Memory → Prop}
    (h : worker.interceptedKey? request = some key)
    (hroot : key = Key.root →
      Accounts around (worker.networkFirst request key (worker.urlFor key)) before post)
    (hother : key ≠ Key.root →
      Accounts around (worker.cacheFirst request key (worker.urlFor key)) before post) :
    Accounts around (worker.handleFetch request) before fun result sent after =>
      ∃ served, result = served.map some ∧ post served sent after := by
  have hlast : ∀ {step : Step Served} {field : Served → Log.Fields},
      Accounts around step before post →
        Accounts around (do
          let served ← step
          stepNote .fetch .debug "served" (field served) (some key)
          return some served) before fun result sent after =>
            ∃ served, result = served.map some ∧ post served sent after := by
    intro step field hstep
    refine .bind (hstep.mono fun result sent after hpost => ?_)
    cases result with
    | error error => exact ⟨.error error, rfl, hpost⟩
    | ok served =>
      refine .bind (.note (.pure ⟨.ok served, rfl, ?_⟩))
      simpa only [List.append_nil] using hpost
  rw [handleFetch, h]
  dsimp only
  split
  next hkey => exact hlast (hroot (eq_of_beq hkey))
  next hkey => exact hlast (hother fun heq => hkey (beq_of_eq heq))

/-- A request that is intercepted takes one of the courses. -/
theorem accounts_handleFetch (around : Surroundings)
    (h : worker.interceptedKey? request = some key) (before : Memory) :
    Accounts around (worker.handleFetch request) before fun result sent after =>
      ∃ served, result = served.map some ∧ Course worker request key before served sent after := by
  refine accounts_handleFetch_of h (fun hroot => ?_) fun _ =>
    accounts_cacheFirst worker request key before
  subst hroot
  exact accounts_networkFirst worker request before

/-- A request that is not one to be intercepted is declined, and nothing is done. -/
theorem perform_handleFetch_of_none (h : worker.interceptedKey? request = none) (scene : Scene) :
    around.perform (worker.handleFetch request) scene = (.ok none, scene) := by
  rw [handleFetch, h]
  rfl

/-! ## What the courses have in common -/

/-- An opened content that holds an entry was there before. -/
theorem withContent_of_get? {url : String} {response : Response}
    (h : (Memory.entries before worker.content).get? url = some response) :
    worker.withContent before = before := by
  rw [withContent, Memory.opened]
  split
  · rfl
  next hnone =>
    rw [Bool.not_eq_true, Table.contains_eq_false_iff] at hnone
    rw [Memory.entries_of_get?_none hnone] at h
    cases h

namespace Course

variable {result : Except WorkerError Served} {sent : List Exchange} {after : Memory}

/-- The network is asked at most once, with the request as it came. -/
theorem exchanges (h : Course worker request key before result sent after) :
    sent = [] ∨ ∃ reply, sent = [(request, reply)] := by
  cases h with
  | unopened error => exact .inl rfl
  | failed error hsent => exact hsent.imp_right fun ⟨failure, hsent⟩ => ⟨.error failure, hsent⟩
  | cached hsent => exact hsent.imp_right fun ⟨failure, hsent⟩ => ⟨.error failure, hsent⟩
  | @fresh response => exact .inr ⟨.ok response, rfl⟩

/-- What the network answers is served. -/
theorem answered (h : Course worker request key before result sent after) {response : Response}
    (hmem : (request, .ok response) ∈ sent) :
    ∃ served, result = .ok served ∧ served.response = response := by
  have hunanswered : ¬ (sent = [] ∨ ∃ failure, sent = [(request, .error failure)]) := by
    rintro (rfl | ⟨failure, rfl⟩) <;> simp at hmem
  cases h with
  | unopened error => cases hmem
  | failed error hsent => exact absurd hsent hunanswered
  | cached hsent => exact absurd hsent hunanswered
  | fresh =>
    cases List.mem_singleton.mp hmem
    exact ⟨_, rfl, rfl⟩

/-- Only what the network answered is stored, and only under the URL of the key. -/
theorem stored (h : Course worker request key before result sent after) :
    after = before ∨ after = worker.withContent before ∨
      ∃ response, (request, .ok response) ∈ sent ∧
        (key ≠ Key.root → response.isSuccess = true) ∧
        after = worker.filled key response before := by
  cases h with
  | unopened error => exact .inl rfl
  | failed error => exact .inr (.inl rfl)
  | cached => exact .inr (.inl rfl)
  | fresh _ hafter =>
    rcases hafter with hafter | ⟨hsuccess, hafter⟩
    · exact .inr (.inl hafter)
    · exact .inr (.inr ⟨_, List.mem_singleton_self _, hsuccess, hafter⟩)

/-- What is served comes out of the content, which is left alone, or from the network. -/
theorem source {served : Served} (h : Course worker request key before (.ok served) sent after) :
    served.key = key ∧
      if served.provenance = .hit ∨ served.provenance = .fallback then
        (Memory.entries before worker.content).get? (worker.urlFor key) = some served.response ∧
          after = before
      else (request, .ok served.response) ∈ sent := by
  simp only [← Provenance.fromCache_eq_true_iff]
  cases h with
  | cached _ hcache hget =>
    refine ⟨rfl, ?_⟩
    rw [if_pos hcache]
    exact ⟨hget, withContent_of_get? hget⟩
  | fresh hcache =>
    refine ⟨rfl, ?_⟩
    rw [if_neg (by simp [hcache])]
    exact List.mem_singleton_self _

end Course

/-! ## The contract -/

/-- Why a request is not one to be intercepted. -/
theorem interceptedKey?_eq_none_iff :
    worker.interceptedKey? request = none ↔
      request.method ≠ .get ∨
      (request.url.toList ≠ Key.trimOrigin worker.config.origin ∧
        ¬ (Key.trimOrigin worker.config.origin ++ ['/']) <+: request.url.toList) ∨
      ∀ key, Key.requestKey? worker.config.origin request.url = some key →
        worker.build.resources.contains key = false := by
  rw [← Key.requestKey?_eq_none_iff, Option.eq_none_iff_forall_ne_some]
  simp only [ne_eq, interceptedKey?_eq_some_iff, not_and, Bool.not_eq_true]
  by_cases hget : request.method = .get
  · simp only [hget, not_true_eq_false, false_or, true_implies]
    exact ⟨.inr, fun h key hkey => h.elim (fun hnone => by simp [hnone] at hkey) (· key hkey)⟩
  · simp [hget]

theorem map_some_ne_ok_none {result : Except WorkerError Served} :
    result.map some ≠ .ok none := by
  cases result <;> exact nofun

theorem map_some_eq_ok_iff {result : Except WorkerError Served} {served : Served} :
    result.map some = .ok (some served) ↔ result = .ok served := by
  cases result <;> simp [Except.map]

/-- What may be said of a request that is served or declined, whatever storage calls fail. -/
theorem handleFetch_contract (worker : Worker) (request : Request) (around : Surroundings)
    (memory : Memory) :
    let run := around.perform (worker.handleFetch request) (Scene.start memory)
    let sent := run.2.exchanges
    let asked := Key.requestKey? worker.config.origin request.url
    (run.1 = .ok none ↔
      request.method ≠ .get ∨
      (request.url.toList ≠ Key.trimOrigin worker.config.origin ∧
        ¬ (Key.trimOrigin worker.config.origin ++ ['/']) <+: request.url.toList) ∨
      ∀ key, asked = some key → worker.build.resources.contains key = false) ∧
    (run.1 = .ok none → run.2 = Scene.start memory) ∧
    (sent = [] ∨ ∃ reply, sent = [(request, reply)]) ∧
    (∀ response, (request, .ok response) ∈ sent →
      ∃ served, run.1 = .ok (some served) ∧ served.response = response) ∧
    (run.2.memory = memory ∨ run.2.memory = Memory.opened memory worker.content ∨
      ∃ key response, asked = some key ∧ (request, .ok response) ∈ sent ∧
        (key ≠ Key.root → response.isSuccess = true) ∧
        run.2.memory = (Memory.opened memory worker.content).insert worker.content
          ((Memory.entries memory worker.content).insert (worker.urlFor key) response)) ∧
    ∀ served, run.1 = .ok (some served) → asked = some served.key ∧
      if served.provenance = .hit ∨ served.provenance = .fallback then
        (Memory.entries memory worker.content).get? (worker.urlFor served.key) =
          some served.response ∧ run.2.memory = memory
      else (request, .ok served.response) ∈ sent := by
  intro run sent asked
  cases hkey : worker.interceptedKey? request with
  | none =>
    have hrun : run = (.ok none, Scene.start memory) := perform_handleFetch_of_none hkey _
    have hsent : sent = [] := congrArg (fun run => run.2.exchanges) hrun
    refine ⟨?_, fun _ => congrArg Prod.snd hrun, .inl hsent, ?_, .inl ?_, ?_⟩
    · exact iff_of_true (congrArg Prod.fst hrun) (interceptedKey?_eq_none_iff.mp hkey)
    · intro response hmem
      rw [hsent] at hmem
      cases hmem
    · exact congrArg (fun run => run.2.memory) hrun
    · intro served hserved
      rw [hrun] at hserved
      cases hserved
  | some key =>
    have hasked : asked = some key := (interceptedKey?_eq_some_iff.mp hkey).2.1
    obtain ⟨_, rfl, result, hresult, hcourse⟩ :=
      accounts_handleFetch around hkey memory []
    change run.1 = result.map some at hresult
    change Course worker request key memory result sent run.2.memory at hcourse
    have hintercepted : run.1 ≠ .ok none := hresult ▸ map_some_ne_ok_none
    refine ⟨?_, fun heq => absurd heq hintercepted, hcourse.exchanges, ?_, ?_, ?_⟩
    · refine iff_of_false hintercepted fun hdeclined => ?_
      cases hkey.symm.trans (interceptedKey?_eq_none_iff.mpr hdeclined)
    · intro response hmem
      obtain ⟨served, rfl, hresponse⟩ := hcourse.answered hmem
      exact ⟨served, hresult, hresponse⟩
    · refine hcourse.stored.imp_right (Or.imp_right ?_)
      rintro ⟨response, hmem, hsuccess, hafter⟩
      exact ⟨key, response, hasked, hmem, hsuccess, hafter⟩
    · intro served hserved
      obtain rfl := map_some_eq_ok_iff.mp (hresult.symm.trans hserved)
      obtain ⟨rfl, hsource⟩ := hcourse.source
      exact ⟨hasked, hsource⟩

-- nothing can be stored, and the response is served all the same
example :
    let worker : Worker := ⟨.ofOrigin "https://a", ⟨Table.empty.insert "/" "1", []⟩⟩
    let around : Surroundings :=
      { Surroundings.serving (.json [0]) with
        refuse := fun _ call => if call.key?.isSome then some (.callFailed "full") else none }
    let run := around.perform (worker.handleFetch (.get "https://a/?v=2")) (Scene.start .empty)
    run.1 = .ok (some ⟨"/", .json [0], .network⟩) ∧
      run.2.memory = Memory.opened .empty worker.content :=
  ⟨rfl, rfl⟩

end Worker

end AssetCache
