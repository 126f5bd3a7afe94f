import AssetCache.Proofs.Fetch.Batch
import AssetCache.Proofs.Worker.Strict
import AssetCache.Worker.Install
import AssetCache.Worker.Offline
import AssetCache.Worker.Serve

/-!
# What the operations of a worker store

A table of entries is `Current` if its URLs are those of keys and its responses are
what the network serves there; the entry document is left out of account, since it is
stored whatever its status is. Of each operation of a worker but the activation it is
shown that it leaves the region it writes to current, at whatever call it ends.

The network is asked for other URLs than those the responses are stored under: a
request may carry a version query. So what is served must not hang on it
(`Canonical`).
-/

set_option autoImplicit false

namespace AssetCache

namespace Worker

open Storage (Memory)

/-! ## What is served -/

/-- The network serves a URL that asks for a key as it serves the URL of the key. -/
def Canonical (config : Config) (served : String → Response) : Prop :=
  ∀ url key, Key.requestKey? config.origin url = some key →
    served url = served (config.urlFor key)

/-- Surroundings in which regions can be deleted and responses of success are those served. -/
structure Serves (served : String → Response) (around : Surroundings) : Prop where
  delete : ∀ count region, around.refuse count (.delete region) = none
  respond : ∀ (count : Nat) (request : Request) (response : Response), request.isGet = true →
    around.respond count request = .ok response → response.isSuccess = true →
      response = served request.url
  arrive : ∀ (count : Nat) (requests : List Request) (request : Request)
    (arrival : Fetch.Arrival) (response : Response), request.isGet = true →
    (request, arrival) ∈ requests.zip (around.arrive count requests).1 →
      arrival.result = .ok response → response.isSuccess = true → response = served request.url

/-- A response may be stored under a URL. -/
def Fits (config : Config) (served : String → Response) (url : String) (response : Response) :
    Prop :=
  (∃ key, url = config.urlFor key) ∧ (url ≠ config.urlFor Key.root → response = served url)

/-- Every entry of a table is one that may be stored. -/
def Current (config : Config) (served : String → Response) (table : Table Response) : Prop :=
  ∀ url response, table.get? url = some response → Fits config served url response

section Current

variable {config : Config} {served : String → Response} {table : Table Response}
  {memory : Memory} {region url : String} {response : Response}

theorem current_empty : Current config served .empty := fun _ _ h => by cases h

theorem current_insert (h : Current config served table) (hfits : Fits config served url response) :
    Current config served (table.insert url response) := by
  intro other response' hget
  rw [Table.get?_insert] at hget
  split at hget
  next heq =>
    cases hget
    exact heq ▸ hfits
  next => exact h other response' hget

/-- A put leaves a region current, also if the region is not there. -/
theorem current_put (h : Current config served (Memory.entries memory region))
    (hfits : Fits config served url response) :
    Current config served
      (Memory.entries (Memory.answer (.put region url response) memory).2 region) := by
  cases hget : memory.get? region with
  | none =>
    rw [Memory.answer_put_missing hget]
    exact h
  | some table =>
    rw [Memory.answer_put hget, Memory.entries_of_get? (Table.get?_insert_self _ _ _)]
    rw [Memory.entries_of_get? hget] at h
    exact current_insert h hfits

theorem current_create (h : Current config served (Memory.entries memory region)) :
    Current config served
      (Memory.entries (Memory.answer (.create region) memory).2 region) := by
  rw [Memory.answer_create, Memory.entries_opened]
  exact h

end Current

/-! ## The operations -/

variable {worker : Worker} {served : String → Response} {around : Surroundings} {before : Memory}

/-- Fetched responses that may be stored leave the region current, however many are. -/
theorem ensures_storeAll {region : String} : ∀ (fetched : List (Request × Response))
    {before : Memory},
    (∀ pair ∈ fetched, Fits worker.config served pair.1.url pair.2) →
      Current worker.config served (Memory.entries before region) →
        Ensures around (storeAll region fetched) before fun _ after =>
          Current worker.config served (Memory.entries after region)
  | [], _, _, h => .pure h
  | pair :: rest, _, hfits, h => by
    refine .bind (.store (fun _ _ _ => h) ?_)
    have hput := current_put h (hfits pair List.mem_cons_self)
    cases (Memory.answer (.put region pair.1.url pair.2) _).1 with
    | error error => exact hput
    | ok _ => exact ensures_storeAll rest (fun p hp => hfits p (List.mem_cons_of_mem _ hp)) hput

/-- What is fetched of the URLs of keys may be stored under these. -/
theorem fits_of_outcome (hserves : Serves served around) {requests : List Request}
    (hrequests : ∀ request ∈ requests,
      request.isGet = true ∧ ∃ key, request.url = worker.config.urlFor key)
    {count : Nat} {fetched : List (Request × Response)}
    (h : Fetch.Batch.outcome requests (around.arrive count requests).1 = .ok fetched) :
    ∀ pair ∈ fetched, Fits worker.config served pair.1.url pair.2 := by
  intro pair hpair
  obtain ⟨arrival, hzip, hresult, hsuccess⟩ := Fetch.Batch.mem_of_outcome h hpair
  obtain ⟨hget, hkey⟩ := hrequests pair.1 (List.of_mem_zip hzip).1
  exact ⟨hkey, fun _ => hserves.arrive count requests pair.1 arrival pair.2 hget hzip hresult
    hsuccess⟩

/-- Whatever becomes of an installation, what is staged then is current. -/
theorem ensures_install (worker : Worker) (hserves : Serves served around) (before : Memory) :
    Ensures around worker.install before fun _ after =>
      Current worker.config served (Memory.entries after worker.temp) := by
  refine .bind (.note (.bind (.skipWaiting (.bind (.store (fun count error hrefuse => ?_) ?_)))))
  · rw [hserves.delete] at hrefuse
    cases hrefuse
  · -- from here on the region is empty or holds what was fetched
    have hempty : Current worker.config served
        (Memory.entries (before.erase worker.temp) worker.temp) := by
      rw [Memory.entries_of_get?_none (by rw [Table.get?_erase, if_pos rfl])]
      exact current_empty
    refine .bind (.store (fun _ _ _ => hempty) (.bind (.fetchBatch fun count => ?_)))
    dsimp only
    have hopened := current_create hempty
    cases houtcome : Fetch.Batch.outcome worker.shellRequests
        (around.arrive count worker.shellRequests).1 with
    | error error => exact .bind (.note (.throw hopened))
    | ok fetched =>
      have hfits : ∀ pair ∈ fetched, Fits worker.config served pair.1.url pair.2 :=
        fits_of_outcome hserves (fun request hrequest => by
          obtain ⟨key, _, rfl⟩ := List.mem_map.mp hrequest
          exact ⟨rfl, key, rfl⟩) houtcome
      refine .bind ((ensures_storeAll fetched hfits hopened).mono ?_)
      intro result after hafter
      cases result with
      | error error => exact hafter
      | ok _ => exact .bind (.note (.pure hafter))

/-- A fill for use without a network leaves the content current. -/
theorem ensures_downloadOffline (worker : Worker) (hserves : Serves served around)
    (h : Current worker.config served (Memory.entries before worker.content)) :
    Ensures around worker.downloadOffline before fun _ after =>
      Current worker.config served (Memory.entries after worker.content) := by
  refine .bind (.store (fun _ _ _ => h) ?_)
  have hopened := current_create h
  generalize (Memory.answer (.create worker.content) before).2 = opened at hopened ⊢
  refine .bind (.store (fun _ _ _ => hopened) ?_)
  dsimp only [Memory.answer, Except.mapError]
  split
  · exact .bind (.note (.pure hopened))
  · refine .bind (.fetchBatch fun count => ?_)
    dsimp only
    split
    · exact .bind (.note (.throw hopened))
    next fetched houtcome =>
      have hfits : ∀ pair ∈ fetched, Fits worker.config served pair.1.url pair.2 :=
        fits_of_outcome hserves (fun request hrequest => by
          obtain ⟨key, _, rfl⟩ := List.mem_map.mp hrequest
          exact ⟨rfl, key, rfl⟩) houtcome
      refine .bind ((ensures_storeAll fetched hfits hopened).mono fun result after hafter => ?_)
      cases result with
      | error error => exact hafter
      | ok _ => exact .bind (.note (.pure hafter))

/-- That a fill fails is no failure; the content stays current either way. -/
theorem ensures_fill {key url complaint : String} {response : Response}
    (h : Current worker.config served (Memory.entries before worker.content))
    (hfits : Fits worker.config served url response) :
    Ensures around (worker.fill key url response complaint) before fun result after =>
      result = .ok () ∧ Current worker.config served (Memory.entries after worker.content) := by
  refine .bind (.attemptStore (fun _ _ _ => .note ⟨rfl, h⟩) ?_)
  have hput := current_put h hfits
  dsimp only
  split
  · exact .pure ⟨rfl, hput⟩
  · exact .note ⟨rfl, hput⟩

/-- What holds after a request for a key was served, or was not. -/
def ServedCurrent (worker : Worker) (served : String → Response) (url : String)
    (result : Except WorkerError Served) (after : Memory) : Prop :=
  Current worker.config served (Memory.entries after worker.content) ∧
    ∀ answer, result = .ok answer → answer.provenance = .hit →
      worker.urlFor answer.key ≠ worker.config.urlFor Key.root → answer.response = served url

/-- A resource out of the content is what the network serves. -/
theorem ensures_cacheFirst (worker : Worker) (hserves : Serves served around)
    (hcanonical : Canonical worker.config served) {request : Request} {key : String}
    (hget : request.isGet = true)
    (hkey : Key.requestKey? worker.config.origin request.url = some key)
    (h : Current worker.config served (Memory.entries before worker.content)) :
    Ensures around (worker.cacheFirst request key (worker.urlFor key)) before
      (ServedCurrent worker served request.url) := by
  have hnone : ∀ {memory : Memory} {error : WorkerError},
      Current worker.config served (Memory.entries memory worker.content) →
        ServedCurrent worker served request.url (.error error) memory :=
    fun hcurrent => ⟨hcurrent, fun _ heq => by cases heq⟩
  have hurl : served request.url = served (worker.urlFor key) := hcanonical _ _ hkey
  refine .bind (.store (fun _ _ _ => hnone h) ?_)
  have hopened := current_create h
  refine .bind (.store (fun _ _ _ => hnone hopened) ?_)
  dsimp only [Memory.answer, Except.mapError]
  split
  next cached hcached =>
    refine .pure ⟨hopened, fun answer heq _ hroot => ?_⟩
    cases heq
    exact ((hopened _ _ hcached).2 hroot).trans hurl.symm
  next =>
    refine .bind (.fetch fun count => ?_)
    dsimp only
    split
    · exact .throw (hnone hopened)
    next response hresponse =>
      split
      next hsuccess =>
        have hserved := hserves.respond count request response hget hresponse hsuccess
        have hfits : Fits worker.config served (worker.urlFor key) response :=
          ⟨⟨key, rfl⟩, fun _ => hserved.trans hurl⟩
        refine .bind ((ensures_fill hopened hfits).mono fun result after hafter => ?_)
        obtain ⟨rfl, hafter⟩ := hafter
        exact .pure ⟨hafter, fun answer heq hhit => by cases heq; cases hhit⟩
      · exact .pure ⟨hopened, fun answer heq hhit => by cases heq; cases hhit⟩

/-- The entry document is never a hit, and it is stored where nothing is promised. -/
theorem ensures_networkFirst (worker : Worker) {request : Request}
    (h : Current worker.config served (Memory.entries before worker.content)) :
    Ensures around (worker.networkFirst request Key.root (worker.urlFor Key.root)) before
      (ServedCurrent worker served request.url) := by
  have hnone : ∀ {memory : Memory} {error : WorkerError},
      Current worker.config served (Memory.entries memory worker.content) →
        ServedCurrent worker served request.url (.error error) memory :=
    fun hcurrent => ⟨hcurrent, fun _ heq => by cases heq⟩
  refine .bind (.store (fun _ _ _ => hnone h) ?_)
  have hopened := current_create h
  refine .bind (.fetch fun count => ?_)
  dsimp only
  split
  next response _ =>
    have hfits : Fits worker.config served (worker.urlFor Key.root) response :=
      ⟨⟨Key.root, rfl⟩, fun hne => absurd rfl hne⟩
    refine .bind ((ensures_fill hopened hfits).mono fun result after hafter => ?_)
    obtain ⟨rfl, hafter⟩ := hafter
    exact .pure ⟨hafter, fun answer heq hhit => by cases heq; cases hhit⟩
  next error _ =>
    refine .bind (.store (fun _ _ _ => hnone hopened) ?_)
    dsimp only [Memory.answer, Except.mapError]
    split
    · refine .bind (.note (.pure ⟨hopened, fun answer heq hhit => ?_⟩))
      cases heq
      cases hhit
    · exact .throw (hnone hopened)

/-- A request is to be intercepted if it is a GET for a resource below the origin. -/
theorem interceptedKey?_eq_some_iff {request : Request} {key : String} :
    worker.interceptedKey? request = some key ↔
      request.method = .get ∧ Key.requestKey? worker.config.origin request.url = some key ∧
        worker.build.resources.contains key = true := by
  rw [interceptedKey?]
  constructor
  · intro h
    split at h
    next hget =>
      split at h
      next found hfound =>
        split at h
        next hlisted =>
          cases h
          exact ⟨of_decide_eq_true hget, hfound, hlisted⟩
        next => cases h
      next => cases h
    next => cases h
  · rintro ⟨hget, hkey, hlisted⟩
    rw [if_pos (show request.isGet = true from decide_eq_true hget), hkey]
    exact if_pos hlisted

/-- A request that is served leaves the content current, and a hit is what the network serves. -/
theorem ensures_handleFetch (worker : Worker) (hserves : Serves served around)
    (hcanonical : Canonical worker.config served) (request : Request)
    (h : Current worker.config served (Memory.entries before worker.content)) :
    Ensures around (worker.handleFetch request) before fun result after =>
      Current worker.config served (Memory.entries after worker.content) ∧
        ∀ answer, result = .ok (some answer) → answer.provenance = .hit →
          worker.urlFor answer.key ≠ worker.config.urlFor Key.root →
            answer.response = served request.url := by
  rw [handleFetch]
  split
  · exact .pure ⟨h, fun _ heq => by cases heq⟩
  next key hintercepted =>
    obtain ⟨hmethod, hkey, _⟩ := interceptedKey?_eq_some_iff.mp hintercepted
    have hget : request.isGet = true := decide_eq_true hmethod
    -- however the resource is served, only a note of it follows
    have hlast : ∀ {step : Step Served} {field : Served → Log.Fields},
        Ensures around step before (ServedCurrent worker served request.url) →
          Ensures around (do
            let answer ← step
            stepNote .fetch .debug "served" (field answer) (some key)
            return some answer) before fun result after =>
              Current worker.config served (Memory.entries after worker.content) ∧
                ∀ answer, result = .ok (some answer) → answer.provenance = .hit →
                  worker.urlFor answer.key ≠ worker.config.urlFor Key.root →
                    answer.response = served request.url := by
      intro step field hstep
      refine .bind (hstep.mono fun result after hafter => ?_)
      cases result with
      | error error => exact ⟨hafter.1, fun _ heq => by cases heq⟩
      | ok answer =>
        refine .bind (.note (.pure ⟨hafter.1, fun answer' heq => ?_⟩))
        cases heq
        exact hafter.2 answer rfl
    dsimp only
    split
    next hroot =>
      obtain rfl : key = Key.root := eq_of_beq hroot
      exact hlast (ensures_networkFirst worker h)
    next => exact hlast (ensures_cacheFirst worker hserves hcanonical hget hkey h)

/-- A message leaves the content current. -/
theorem ensures_handleMessage (worker : Worker) (hserves : Serves served around) (payload : String)
    (h : Current worker.config served (Memory.entries before worker.content)) :
    Ensures around (worker.handleMessage payload) before fun _ after =>
      Current worker.config served (Memory.entries after worker.content) := by
  rw [handleMessage]
  split
  · exact .bind (.note (.pure h))
  · exact .bind (.skipWaiting (.pure h))
  · refine .bind ((ensures_downloadOffline worker hserves h).mono fun result after hafter => ?_)
    cases result with
    | error error => exact hafter
    | ok _ => exact .pure hafter

/-! ## The regions they touch -/

section Within

variable {region : String}

theorem within_store {call : Storage.Call} (h : call.region? = some region) :
    Program.Only (S := signature) (Within [region]) (store call).run :=
  only_store ⟨region, List.mem_singleton_self region, h⟩

theorem within_stepNote {event : Event} {level : Log.Level} {message : String}
    {fields : Log.Fields} {key : Option String} :
    Program.Only (S := signature) (Within [region])
      (stepNote event level message fields key).run :=
  .call trivial fun _ => .done _

theorem within_fetchBatch (requests : List Request) :
    Program.Only (S := signature) (Within [region]) (fetchBatch requests).run :=
  Attempt.only_bind (only_stepAct trivial) fun _ => Attempt.only_pure _

theorem within_storeAll (region : String) : ∀ fetched : List (Request × Response),
    Program.Only (S := signature) (Within [region]) (storeAll region fetched).run
  | [] => Attempt.only_pure _
  | _ :: rest => Attempt.only_bind (within_store rfl) fun _ => within_storeAll region rest

/-- An installation touches only what is staged. -/
theorem within_install (worker : Worker) :
    Program.Only (S := signature) (Within [worker.temp]) worker.install.run := by
  refine Attempt.only_bind within_stepNote fun _ => ?_
  refine Attempt.only_bind (only_stepAct trivial) fun _ => ?_
  refine Attempt.only_bind (within_store rfl) fun _ => ?_
  refine Attempt.only_bind (within_store rfl) fun _ => ?_
  refine Attempt.only_bind (within_fetchBatch _) fun result => ?_
  cases result with
  | error error => exact Attempt.only_bind within_stepNote fun _ => Attempt.only_throw _
  | ok fetched =>
    exact Attempt.only_bind (within_storeAll _ fetched) fun _ =>
      Attempt.only_bind within_stepNote fun _ => Attempt.only_pure _

theorem within_downloadOffline (worker : Worker) :
    Program.Only (S := signature) (Within [worker.content]) worker.downloadOffline.run := by
  refine Attempt.only_bind (within_store rfl) fun _ => ?_
  refine Attempt.only_bind (within_store rfl) fun _ => ?_
  dsimp only
  split
  · exact Attempt.only_bind within_stepNote fun _ => Attempt.only_pure _
  · refine Attempt.only_bind (within_fetchBatch _) fun result => ?_
    cases result with
    | error error => exact Attempt.only_bind within_stepNote fun _ => Attempt.only_throw _
    | ok fetched =>
      exact Attempt.only_bind (within_storeAll _ fetched) fun _ =>
        Attempt.only_bind within_stepNote fun _ => Attempt.only_pure _

theorem within_fill (worker : Worker) (key url : String) (response : Response)
    (complaint : String) :
    Program.Only (S := signature) (Within [worker.content])
      (worker.fill key url response complaint).run := by
  refine Attempt.only_bind (only_stepAct ⟨_, List.mem_singleton_self _, rfl⟩) fun reply => ?_
  cases reply with
  | ok _ => exact Attempt.only_pure _
  | error error => exact within_stepNote

theorem within_cacheFirst (worker : Worker) (request : Request) (key url : String) :
    Program.Only (S := signature) (Within [worker.content])
      (worker.cacheFirst request key url).run := by
  refine Attempt.only_bind (within_store rfl) fun _ => ?_
  refine Attempt.only_bind (within_store rfl) fun found => ?_
  cases found with
  | some cached => exact Attempt.only_pure _
  | none =>
    refine Attempt.only_bind (only_stepAct trivial) fun result => ?_
    cases result with
    | error error => exact Attempt.only_throw _
    | ok response =>
      dsimp only
      split
      · exact Attempt.only_bind (within_fill _ _ _ _ _) fun _ => Attempt.only_pure _
      · exact Attempt.only_pure _

theorem within_networkFirst (worker : Worker) (request : Request) (key url : String) :
    Program.Only (S := signature) (Within [worker.content])
      (worker.networkFirst request key url).run := by
  refine Attempt.only_bind (within_store rfl) fun _ => ?_
  refine Attempt.only_bind (only_stepAct trivial) fun result => ?_
  cases result with
  | ok response => exact Attempt.only_bind (within_fill _ _ _ _ _) fun _ => Attempt.only_pure _
  | error error =>
    refine Attempt.only_bind (within_store rfl) fun found => ?_
    cases found with
    | some cached => exact Attempt.only_bind within_stepNote fun _ => Attempt.only_pure _
    | none => exact Attempt.only_throw _

/-- To serve a request touches only the content. -/
theorem within_handleFetch (worker : Worker) (request : Request) :
    Program.Only (S := signature) (Within [worker.content]) (worker.handleFetch request).run := by
  rw [handleFetch]
  split
  · exact Attempt.only_pure _
  · dsimp only
    split
    · exact Attempt.only_bind (within_networkFirst _ _ _ _) fun _ =>
        Attempt.only_bind within_stepNote fun _ => Attempt.only_pure _
    · exact Attempt.only_bind (within_cacheFirst _ _ _ _) fun _ =>
        Attempt.only_bind within_stepNote fun _ => Attempt.only_pure _

theorem within_handleMessage (worker : Worker) (payload : String) :
    Program.Only (S := signature) (Within [worker.content])
      (worker.handleMessage payload).run := by
  rw [handleMessage]
  split
  · exact Attempt.only_bind within_stepNote fun _ => Attempt.only_pure _
  · exact Attempt.only_bind (only_stepAct trivial) fun _ => Attempt.only_pure _
  · exact Attempt.only_bind (within_downloadOffline worker) fun _ => Attempt.only_pure _

end Within

end Worker

end AssetCache
