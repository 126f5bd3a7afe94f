import AssetCache.Proofs.Worker.Serving

/-!
# Batches that are stored in part

An installation and a fill for use without a network fetch a batch and store it one
response after the other. A batch of which a fetch fails leaves nothing behind. One that is
fetched, but of which a response cannot be stored, leaves those that were stored before it:
nothing takes them out again.

`Failed` lists what becomes of the entries of the region in each case, and `failed_batch`
says that there are no others. So a batch that failed is all or nothing as far as the
network is concerned (`Failed.eq_of_fetch`), and not as far as the storage is
(`refused_put_leaves_part`).
-/

set_option autoImplicit false

namespace AssetCache.Worker

open Storage (Memory)

variable {worker : Worker} {around : Surroundings} {before : Memory} {base after : Table Response}
  {error : WorkerError} {sent : List Exchange}

/-- Entries with fetched responses laid over them, each under the URL asked for. -/
def withFetched (base : Table Response) (fetched : List (Request × Response)) : Table Response :=
  base.insertAll (fetched.map fun pair => (pair.1.url, pair.2))

/-- How a batch that fails leaves the entries of the region it was to be stored in. -/
inductive Failed (base : Table Response) :
    WorkerError → List Exchange → Table Response → Prop
  /-- The storage refused a call before the network was asked. -/
  | unasked (refusal : StorageError) : Failed base (.storage refusal) [] base
  | unfetched {sent : List Exchange} (failure : FetchError) : Failed base (.fetch failure) sent base
  /-- All was fetched, and one response could not be stored. -/
  | unstored {sent : List Exchange} {stored rest : List (Request × Response)}
      {refused : Request × Response} (refusal : StorageError) :
      (∀ pair ∈ stored ++ refused :: rest, (pair.1, .ok pair.2) ∈ sent) →
        Failed base (.storage refusal) sent (withFetched base stored)

/-- A failure of the network leaves the entries as they were. -/
theorem Failed.eq_of_fetch {failure : FetchError} (h : Failed base (.fetch failure) sent after) :
    after = base := by
  cases h
  rfl

/-! ## Storing -/

/-- To store a batch ends at the first response that is refused; those before it are stored. -/
theorem accounts_storeAll (around : Surroundings) (region : String) :
    ∀ (fetched : List (Request × Response)) {before : Memory} {base : Table Response},
      before.get? region = some base →
        Accounts around (storeAll region fetched) before fun result sent after => sent = [] ∧
          ∀ error, result = .error error → (∃ refusal, error = .storage refusal) ∧
            ∃ stored refused rest, fetched = stored ++ refused :: rest ∧
              Memory.entries after region = withFetched base stored
  | [], _, _, _ => .pure ⟨rfl, nofun⟩
  | pair :: rest, before, base, hget => by
    refine .bind (.store (fun _ refusal _ => ?_) ?_)
    · refine ⟨rfl, fun error herror => ?_⟩
      cases herror
      exact ⟨⟨refusal, rfl⟩, [], pair, rest, rfl, Memory.entries_of_get? hget⟩
    · rw [Memory.answer_put hget]
      refine (accounts_storeAll around region rest (Table.get?_insert_self _ _ _)).mono ?_
      rintro result sent after ⟨rfl, hrest⟩
      refine ⟨rfl, fun error herror => ?_⟩
      obtain ⟨hrefusal, stored, refused, later, rfl, hafter⟩ := hrest error herror
      exact ⟨hrefusal, pair :: stored, refused, later, rfl, hafter⟩

/-- A batch that is fetched, and then stored in a region that is there. -/
theorem accounts_fetchAndStore {α : Type} {requests : List Request} {region : String}
    {complaint : FetchError → Step Unit} {last : List (Request × Response) → Step α}
    (hcomplaint : ∀ failure memory, Accounts around (complaint failure) memory
      fun result sent after => result = .ok () ∧ sent = [] ∧ after = memory)
    (hlast : ∀ fetched memory, Accounts around (last fetched) memory
      fun result _ _ => ∃ value, result = .ok value)
    (hget : before.get? region = some base) :
    Accounts around (do
      match ← fetchBatch requests with
      | .error failure =>
        complaint failure
        throw (.fetch failure)
      | .ok fetched =>
        storeAll region fetched
        last fetched) before fun result sent after => ∀ error, result = .error error →
          Failed base error sent (Memory.entries after region) := by
  refine .bind (.fetchBatch fun count => ?_)
  dsimp only
  split
  next failure _ =>
    refine .bind ((hcomplaint failure before).mono ?_)
    rintro result sent after ⟨rfl, rfl, rfl⟩
    refine .throw fun error herror => ?_
    cases herror
    rw [Memory.entries_of_get? hget]
    exact .unfetched failure
  next fetched houtcome =>
    refine .bind ((accounts_storeAll around region fetched hget).mono ?_)
    rintro result sent after ⟨rfl, hrefused⟩
    cases result with
    | error error =>
      intro error' herror
      cases herror
      obtain ⟨⟨refusal, rfl⟩, stored, refused, rest, rfl, hafter⟩ := hrefused error rfl
      rw [hafter, List.append_nil]
      exact .unstored refusal fun pair hpair =>
        mem_batchExchanges houtcome hpair
    | ok _ =>
      refine (hlast fetched after).mono fun result sent after' hvalue error herror => ?_
      obtain ⟨value, hvalue⟩ := hvalue
      cases hvalue.symm.trans herror

/-! ## The two operations that store a batch -/

/-- An installation that fails has staged nothing, or part of what it fetched. -/
theorem accounts_install (worker : Worker) (around : Surroundings) (before : Memory) :
    Accounts around worker.install before fun result sent after => ∀ error, result = .error error →
      (sent = [] ∧ Memory.entries after worker.temp = Memory.entries before worker.temp) ∨
        Failed .empty error sent (Memory.entries after worker.temp) := by
  refine .bind (.note (.bind (.act fun _ => .bind (.store (fun _ refusal _ => ?_) ?_))))
  · exact fun _ _ => .inl ⟨rfl, rfl⟩
  · have herased : Memory.entries (before.erase worker.temp) worker.temp = .empty := by
      rw [Memory.entries_erase, if_pos rfl]
    refine .bind (.store (fun _ refusal _ error herror => ?_) ?_)
    · cases herror
      dsimp only [Surroundings.reply, Memory.answer]
      rw [herased]
      exact .inr (.unasked refusal)
    · have hopened := Memory.get?_opened_self (before.erase worker.temp) worker.temp
      rw [herased] at hopened
      refine Accounts.mono (accounts_fetchAndStore ?_ ?_ hopened)
        fun _ _ _ hfailed error herror => .inr (hfailed error herror)
      · exact fun _ _ => .note ⟨rfl, rfl, rfl⟩
      · exact fun _ _ => .bind (.note (.pure ⟨_, rfl⟩))

/-- A fill that fails has added nothing to the content, or part of what it fetched. -/
theorem accounts_downloadOffline (worker : Worker) (around : Surroundings) (before : Memory) :
    Accounts around worker.downloadOffline before fun result sent after =>
      ∀ error, result = .error error →
        Failed (Memory.entries before worker.content) error sent
          (Memory.entries after worker.content) := by
  refine .bind (.store (fun _ refusal _ error herror => ?_) ?_)
  · cases herror
    exact .unasked refusal
  · rw [Memory.answer_create]
    refine .bind (.store (fun _ refusal _ error herror => ?_) ?_)
    · cases herror
      rw [Memory.entries_opened]
      exact .unasked refusal
    · dsimp only [Memory.answer, Except.mapError]
      split
      · exact .bind (.note (.pure nofun))
      · refine accounts_fetchAndStore ?_ ?_ (Memory.get?_opened_self _ _)
        · exact fun _ _ => .note ⟨rfl, rfl, rfl⟩
        · exact fun _ _ => .bind (.note (.pure ⟨_, rfl⟩))

/-- A batch that fails is not stored, unless it was fetched and a response of it refused. -/
theorem failed_batch (worker : Worker) (around : Surroundings) (memory : Memory) :
    let installed := around.perform worker.install (Scene.start memory)
    let filled := around.perform worker.downloadOffline (Scene.start memory)
    (∀ error, installed.1 = .error error →
      (installed.2.exchanges = [] ∧
        Memory.entries installed.2.memory worker.temp = Memory.entries memory worker.temp) ∨
      Failed .empty error installed.2.exchanges
        (Memory.entries installed.2.memory worker.temp)) ∧
    ∀ error, filled.1 = .error error →
      Failed (Memory.entries memory worker.content) error filled.2.exchanges
        (Memory.entries filled.2.memory worker.content) := by
  intro installed filled
  obtain ⟨sent, hsent, hinstalled⟩ := accounts_install worker around memory []
  obtain ⟨added, hadded, hfilled⟩ := accounts_downloadOffline worker around memory []
  obtain rfl : installed.2.exchanges = sent := hsent
  obtain rfl : filled.2.exchanges = added := hadded
  exact ⟨hinstalled, hfilled⟩

/-- The second of two responses is refused, and the first of them stays. -/
theorem refused_put_leaves_part :
    let resources : Manifest := (Table.empty.insert "a" "1").insert "b" "1"
    let worker : Worker := ⟨.ofOrigin "http://[::1]", ⟨resources, ["a", "b"]⟩⟩
    let around : Surroundings := { Surroundings.serving (.json [0]) with
      refuse := fun _ call =>
        if call.key? = some "http://[::1]/b" then some (.callFailed "full") else none }
    let installed := around.perform worker.install (Scene.start .empty)
    let filled := around.perform worker.downloadOffline (Scene.start .empty)
    installed.1.isOk = false ∧
      (Memory.entries installed.2.memory worker.temp).get? "http://[::1]/a" = some (.json [0]) ∧
      filled.1.isOk = false ∧
      (Memory.entries filled.2.memory worker.content).get? "http://[::1]/a" = some (.json [0]) :=
  ⟨by decide +kernel, by decide +kernel, by decide +kernel, by decide +kernel⟩

end AssetCache.Worker
