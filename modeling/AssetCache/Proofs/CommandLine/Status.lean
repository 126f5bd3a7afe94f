import AssetCache.CommandLine.Status
import AssetCache.Proofs.Program.Attempts
import AssetCache.Proofs.Worker.Difference
import AssetCache.Proofs.Worker.Missing
import AssetCache.Proofs.Worker.OnDisk
import AssetCache.Proofs.Worker.Record

/-!
# The status foretells an activation and a fill

The status of a cache goes by keys: it takes the keys of all URLs in the content and the difference
of the recorded build and the current one. An activation goes URL by URL and asks of each whether
it is still good; a fill goes by the keys that it finds no URL for. The three agree
(`status_foretells`): the keys that the status says will be evicted are those of the URLs that the
next activation evicts, as far as the recorded build lists them, and what the status does not count
as cached is what a fill reports missing.

What is gathered from a storage in a directory is what there is in memory (`tells_gather`).
-/

set_option autoImplicit false

namespace AssetCache.CommandLine

open Disk (Path Tree)
open Storage (Memory Call)
open Storage.Files (Legal Related Untouched)

/-! ## Commands over a disk -/

/-- The reply to an action of a command over a disk. What else is replied is not fixed. -/
def diskReply (others : (action : Action) → action.Reply) :
    (request : signature.Call) → Tree → signature.Reply request × Tree
  | .disk call, tree => Tree.answer call tree
  | .fetch request, tree => (others (.fetch request), tree)
  | .fetchAll requests, tree => (others (.fetchAll requests), tree)
  | .print text, tree => (others (.print text), tree)
  | .complain text, tree => (others (.complain text), tree)
  | .confirm question, tree => (others (.confirm question), tree)
  | .log format note, tree => (others (.log format note), tree)

/-- Run a part of a command over a disk. -/
def runOnDisk {α : Type} (others : (action : Action) → action.Reply) (step : Step α) (tree : Tree) :
    Except Causes α × Tree :=
  Program.run (diskReply others) step.run tree

/-- A part of a command that ends in a value on whatever disk holds what is in memory, and leaves
such a disk. -/
def Tells {α : Type} (fresh : Tree) (place : Path) (memory : Memory) (step : Step α) (value : α) :
    Prop :=
  ∀ (others : (action : Action) → action.Reply) (tree : Tree), Related fresh place memory tree →
    ∃ after, runOnDisk others step tree = (.ok value, after) ∧ Related fresh place memory after

section Tells

variable {α β : Type} {fresh : Tree} {place : Path} {memory : Memory} {session : Session}

theorem tells_pure (value : α) : Tells fresh place memory (pure value) value :=
  fun _ tree h => ⟨tree, rfl, h⟩

theorem Tells.bind {step : Step α} {next : α → Step β} {value : α} {last : β}
    (h : Tells fresh place memory step value) (hnext : Tells fresh place memory (next value) last) :
    Tells fresh place memory (step >>= next) last := by
  intro others tree htree
  obtain ⟨middle, hrun, hmiddle⟩ := h others tree htree
  obtain ⟨after, hrest, hafter⟩ := hnext others middle hmiddle
  change Program.run (diskReply others) step.run tree = _ at hrun
  refine ⟨after, (Attempt.run_bind (diskReply others) step next tree).trans ?_, hafter⟩
  rw [hrun]
  exact hrest

/-- A part that ends in a value ends in it also if its failures are explained otherwise. -/
theorem runOnDisk_mapFailure {δ : Type} (others : (action : Action) → action.Reply)
    (wrap : δ → Causes) (routine : Routine (Except δ α)) (tree : Tree) :
    runOnDisk others (Attempt.mapFailure wrap (ExceptT.mk routine)) tree =
      ((Program.run (diskReply others) routine tree).1.mapError wrap,
        (Program.run (diskReply others) routine tree).2) :=
  Attempt.run_mapFailure (diskReply others) wrap (ExceptT.mk routine) tree

/-- A call to the storage in a directory is made on the disk. -/
theorem run_storageMeaning (others : (action : Action) → action.Reply) (session : Session)
    (call : Call) (tree : Tree) :
    Program.run (diskReply others) (session.storageMeaning call) tree =
      Storage.Files.answer session.storageRoot call tree := by
  rw [Session.storageMeaning, onDisk]
  exact Program.run_lower _ (diskReply others) (Storage.Files.meaning session.storageRoot call) tree

/-- A storage call that changes nothing tells what memory answers. -/
theorem tells_store (hroot : Untouched fresh session.storageRoot place) {call : Call}
    (hlegal : Legal call) {value : call.Value}
    (h : Memory.answer call memory = (.ok value, memory)) :
    Tells fresh place memory (session.store call) value := by
  intro others tree htree
  obtain ⟨hreply, hafter⟩ := Storage.Files.answer_related hroot hlegal htree
  rw [h] at hreply hafter
  refine ⟨_, ?_, hafter⟩
  rw [Session.store, runOnDisk_mapFailure, run_storageMeaning, hreply]
  rfl

/-- An action of a worker that is a storage call which the disk takes. -/
def IsLegal : Worker.Action → Prop
  | .storage call => Legal call
  | _ => False

/-- A program of a worker that only uses the storage does on the disk what it does in memory. -/
theorem run_workRoutine_related (hroot : Untouched fresh session.storageRoot place)
    (others : (action : Action) → action.Reply) (around : Worker.Surroundings)
    {routine : Worker.Routine α} (honly : Program.Only (S := Worker.signature) IsLegal routine)
    (scene : Worker.Scene) {tree : Tree} (htree : Related fresh place scene.memory tree) :
    let run := Program.run (diskReply others) (session.workRoutine routine) tree
    run.1 = (around.calm.run routine scene).1 ∧
      Related fresh place (around.calm.run routine scene).2.memory run.2 := by
  intro run
  have hrun : run = Program.run (S := Worker.signature)
      (fun action tree => Program.run (diskReply others) (session.workerMeaning action) tree)
      routine tree :=
    Program.run_lower (S := Worker.signature) session.workerMeaning (diskReply others) routine tree
  rw [hrun]
  clear hrun run
  induction honly generalizing scene tree with
  | done value => exact ⟨rfl, htree⟩
  | @call action next hlegal _ ih =>
    cases action with
    | storage call =>
      obtain ⟨hreply, hafter⟩ := Storage.Files.answer_related hroot hlegal htree
      rw [← run_storageMeaning others] at hreply hafter
      -- both go on from the same reply
      have hmemory : around.calm.run (.call (.storage call) next) scene = around.calm.run
          (next (Program.run (diskReply others) (session.storageMeaning call) tree).1)
            (around.calm.answer (.storage call) scene).2 := by
        rw [hreply]
        rfl
      rw [hmemory]
      exact ih _ _ hafter
    | _ => exact hlegal.elim

/-- A program of a worker that only uses the storage, and settles there, tells its result. -/
theorem tells_work (hroot : Untouched fresh session.storageRoot place) {step : Worker.Step α}
    (honly : Program.Only (S := Worker.signature) IsLegal step.run) {value : α}
    (hsettles : Worker.Settles step memory (.ok value) memory) :
    Tells fresh place memory (session.work step) value := by
  intro others tree htree
  let around : Worker.Surroundings := .offline none
  obtain ⟨hreply, hafter⟩ := run_workRoutine_related hroot others around honly
    (Worker.Scene.start memory) htree
  obtain ⟨hresult, hmemory⟩ := hsettles around []
  change (around.calm.run step.run (Worker.Scene.start memory)).1 = _ at hresult
  change (around.calm.run step.run (Worker.Scene.start memory)).2.memory = _ at hmemory
  rw [hresult] at hreply
  rw [hmemory] at hafter
  refine ⟨_, ?_, hafter⟩
  rw [Session.work, runOnDisk_mapFailure, hreply]
  rfl

end Tells

/-! ## Gathering -/

/-- The calls that are made on a storage for a status. -/
inductive Asked (worker : Worker) : Call → Prop
  | has {region : String} : region ∈ worker.config.regions.all → Asked worker (.has region)
  | keys {region : String} : region ∈ worker.config.regions.all → Asked worker (.keys region)
  | create : Asked worker (.create worker.records)
  | find : Asked worker (.find worker.records worker.recordUrl)

/-- To read the record is to ask the storage. -/
theorem only_recordedManifest {worker : Worker} {ok : Worker.Action → Prop}
    (hstore : ∀ call, Asked worker call → ok (.storage call)) :
    Program.Only (S := Worker.signature) ok worker.recordedManifest.run := by
  refine Attempt.only_bind (Worker.only_store (hstore _ (.has worker.records_mem))) fun there => ?_
  cases there with
  | false => exact Attempt.only_pure _
  | true =>
    refine Attempt.only_bind (Worker.only_store (hstore _ .create)) fun _ => ?_
    refine Attempt.only_bind (Worker.only_store (hstore _ .find)) fun found => ?_
    cases found with
    | none => exact Attempt.only_pure _
    | some response =>
      dsimp only
      cases Manifest.ofBytes response.body with
      | ok manifest => exact Attempt.only_pure _
      | error fault => exact Attempt.only_throw _

namespace Status

/-- What there is to know of a region in memory. -/
def regionIn (memory : Memory) (role name : String) : RegionStatus :=
  ⟨role, name, (memory.get? name).map fun table => table.keys.length⟩

/-- The status of a cache in memory, given what is recorded. -/
def ofMemory (worker : Worker) (memory : Memory) (recorded : Option Manifest) : Status where
  regions := [regionIn memory "content" worker.content, regionIn memory "temp" worker.temp,
    regionIn memory "manifest" worker.records]
  cached := (Memory.entries memory worker.content).keys.filterMap worker.contentKey?
  current := worker.build.resources
  recorded := recorded

section Gathering

variable {fresh : Tree} {place : Path} {memory : Memory} {session : Session} {worker : Worker}

theorem tells_gatherRegion (hroot : Untouched fresh session.storageRoot place) {name : String}
    (hhas : Legal (.has name)) (hkeys : Legal (.keys name)) (role : String) :
    Tells fresh place memory (gatherRegion session role name) (regionIn memory role name) := by
  have hfound : Tells fresh place memory (session.store (.has name)) (memory.contains name) :=
    tells_store hroot hhas rfl
  refine hfound.bind ?_
  cases hget : memory.get? name with
  | none =>
    have habsent : memory.contains name = false := (Table.contains_eq_false_iff _ _).mpr hget
    rw [habsent, regionIn, hget]
    exact tells_pure _
  | some table =>
    have hthere : memory.contains name = true := (Table.contains_eq_true_iff _ _).mpr ⟨table, hget⟩
    rw [hthere, regionIn, hget]
    have hlisted : Tells fresh place memory (session.store (.keys name))
        (Memory.entries memory name).keys := tells_store hroot hkeys rfl
    rw [Memory.entries_of_get? hget] at hlisted
    exact hlisted.bind (tells_pure _)

/-- What is gathered from a directory is what there is in memory. -/
theorem tells_gather (hroot : Untouched fresh session.storageRoot place)
    (hlegal : ∀ call, Asked worker call → Legal call) {recorded : Option Manifest}
    (hrecord : worker.recorded? memory = recorded.map .ok) :
    Tells fresh place memory (gather session worker) (ofMemory worker memory recorded) := by
  have hregion : ∀ {name : String}, name ∈ worker.config.regions.all → ∀ role,
      Tells fresh place memory (gatherRegion session role name) (regionIn memory role name) :=
    fun hname => tells_gatherRegion hroot (hlegal _ (.has hname)) (hlegal _ (.keys hname))
  have hkeys : Tells fresh place memory (session.store (.keys worker.content))
      (Memory.entries memory worker.content).keys :=
    tells_store hroot (hlegal _ (.keys worker.content_mem)) rfl
  have hread : Tells fresh place memory (session.work worker.recordedManifest) recorded :=
    tells_work hroot (only_recordedManifest hlegal) (Worker.settles_recordedManifest hrecord)
  exact (hregion worker.content_mem _).bind <| (hregion worker.temp_mem _).bind <|
    (hregion worker.records_mem _).bind <| hkeys.bind <| hread.bind <| tells_pure _

end Gathering

/-! ## What is foretold -/

section Foretold

variable {worker : Worker} {memory : Memory} {recorded current : Manifest} {key : String}

/-- The keys that were changed or removed are the recorded ones that are not unchanged. -/
theorem mem_changed_or_removed_iff :
    key ∈ (ManifestDiff.between recorded current).changed ++
        (ManifestDiff.between recorded current).removed ↔
      recorded.contains key = true ∧ key ∉ (ManifestDiff.between recorded current).unchanged := by
  obtain ⟨_, hdisjoint, hcovers⟩ := ManifestDiff.splits_previous recorded current
  have hkey := hcovers key
  simp only [List.pairwise_cons, List.mem_cons, List.not_mem_nil, or_false, forall_eq_or_imp,
    forall_eq] at hdisjoint
  simp only [List.mem_cons, List.not_mem_nil, or_false, exists_eq_or_imp, exists_eq_left,
    Table.mem_keys_iff] at hkey
  rw [List.mem_append, hkey]
  constructor
  · rintro (hchanged | hremoved)
    · exact ⟨.inr (.inl hchanged), hdisjoint.2.1 key hchanged⟩
    · exact ⟨.inl hremoved, hdisjoint.1.2 key hremoved⟩
  · rintro ⟨hremoved | hchanged | hunchanged, hnot⟩
    · exact .inr hremoved
    · exact .inl hchanged
    · exact absurd hunchanged hnot

/-- No key is said twice to be evicted. -/
theorem nodup_evictionsOf (recorded current : Manifest) (cached : List String) :
    (evictionsOf (.between recorded current) cached).Nodup := by
  obtain ⟨hascending, hdisjoint, _⟩ := ManifestDiff.splits_previous recorded current
  simp only [List.mem_cons, List.not_mem_nil, or_false, forall_eq_or_imp, forall_eq] at hascending
  simp only [List.pairwise_cons, List.mem_cons, List.not_mem_nil, or_false, forall_eq_or_imp,
    forall_eq] at hdisjoint
  refine List.Nodup.filter _ (List.nodup_append.mpr ⟨hascending.2.1.nodup, hascending.1.nodup,
    fun key hchanged other hremoved heq => ?_⟩)
  exact hdisjoint.1.1 other hremoved (heq ▸ hchanged)

/-- The keys that are said to be evicted are the recorded keys of URLs that are not reusable. -/
theorem mem_pendingEvictions_iff :
    key ∈ (ofMemory worker memory (some recorded)).pendingEvictions ↔
      recorded.contains key = true ∧
        ∃ url ∈ (Memory.entries memory worker.content).keys.filter
          (fun url => !worker.isReusable recorded url), worker.contentKey? url = some key := by
  have hreusable : ∀ {url}, worker.contentKey? url = some key →
      ((!worker.isReusable recorded url) = true ↔
        key ∉ (ManifestDiff.between recorded worker.build.resources).unchanged) := by
    intro url hurl
    rw [Bool.not_eq_true', ← Bool.not_eq_true, Worker.isReusable_iff_unchanged, hurl]
    simp
  show key ∈ evictionsOf _ _ ↔ _
  rw [evictionsOf, List.mem_filter, mem_changed_or_removed_iff, List.contains_iff_mem]
  simp only [List.mem_filter, ofMemory, List.mem_filterMap]
  constructor
  · rintro ⟨⟨hrecorded, hnot⟩, url, hurl, hkey⟩
    exact ⟨hrecorded, url, ⟨hurl, (hreusable hkey).mpr hnot⟩, hkey⟩
  · rintro ⟨hrecorded, url, ⟨hurl, hevicted⟩, hkey⟩
    exact ⟨⟨hrecorded, (hreusable hkey).mp hevicted⟩, url, hurl, hkey⟩

/-- A resource is counted as cached or is missing. -/
theorem cachedCount_add_missing (worker : Worker) (memory : Memory) (recorded : Option Manifest) :
    (ofMemory worker memory recorded).cachedCount +
        (worker.missingKeys (Memory.entries memory worker.content).keys).length =
      worker.build.resources.size := by
  have hsize : worker.build.resources.size = worker.build.resources.keys.length :=
    (List.length_map _).symm
  rw [hsize, cachedCount, Worker.missingKeys]
  exact (List.length_eq_length_filter_add _).symm

end Foretold

/-- Where no storage call is refused and a record can be read, the status that is gathered, from
memory or from a directory that holds what is in memory, foretells what comes next. The keys it
says will be evicted are distinct, and are the keys of the URLs that an activation then reports as
evicted, as far as they were recorded. It counts as cached all resources but those that a fill then
reports missing, if its requests succeed. -/
theorem status_foretells (worker : Worker) (memory : Memory) {recorded : Manifest}
    (hregions : worker.config.regions.all.Nodup)
    (hrecord : worker.recorded? memory = some (.ok recorded)) :
    let content := Memory.entries memory worker.content
    ∃ status : Status, status.current = worker.build.resources ∧
      status.recorded = some recorded ∧ status.cached = content.keys.filterMap worker.contentKey? ∧
      (∀ (session : Session) (fresh : Tree) (place : Path),
        Untouched fresh session.storageRoot place → (∀ call, Asked worker call → Legal call) →
          Tells fresh place memory (gather session worker) status) ∧
      status.pendingEvictions.Nodup ∧
      (∀ around : Worker.Surroundings, ∃ evicted retained copied,
        (around.calm.run worker.activate (Worker.Scene.start memory)).1 =
            .upgraded evicted retained copied ∧
          ∀ key, key ∈ status.pendingEvictions ↔
            recorded.contains key = true ∧ ∃ url ∈ evicted, worker.contentKey? url = some key) ∧
      ∃ missing : List String,
        status.cachedCount = worker.build.resources.size - missing.length ∧
        missing.length ≤ worker.build.resources.size ∧
        ∀ around : Worker.Surroundings,
          let requests := missing.map fun key => Request.get (worker.urlFor key)
          (around.calm.perform worker.downloadOffline (Worker.Scene.start memory)).1 =
            match Fetch.Batch.outcome requests (around.arrive 2 requests).1 with
            | .ok _ => .ok missing
            | .error failure => .error (.fetch failure) := by
  intro content
  refine ⟨ofMemory worker memory (some recorded), rfl, rfl, rfl, ?_, ?_, ?_,
    worker.missingKeys content.keys, ?_, ?_, ?_⟩
  · intro session fresh place hroot hlegal
    exact tells_gather hroot hlegal hrecord
  · exact nodup_evictionsOf _ _ _
  · intro around
    have hprevious : worker.recorded? (Worker.Scene.start memory).memory =
      (some recorded).map .ok := hrecord
    obtain ⟨hreport, -⟩ := Worker.run_activate_calm hregions around (Worker.Scene.start memory)
      hprevious
    exact ⟨_, _, _, hreport, fun key => mem_pendingEvictions_iff⟩
  · exact Nat.eq_sub_of_add_eq (cachedCount_add_missing worker memory (some recorded))
  · exact Nat.le.intro ((Nat.add_comm _ _).trans
      (cachedCount_add_missing worker memory (some recorded)))
  · intro around requests
    obtain ⟨opened, _, _, hfilled⟩ :=
      Worker.filled_downloadOffline worker around (Worker.Scene.start memory)
    cases houtcome : Fetch.Batch.outcome requests (around.arrive 2 requests).1 with
    | error failure => exact (hfilled.failed failure houtcome).1
    | ok fetched => exact (hfilled.stored fetched houtcome).1

/-- Of four cached URLs one has no key and one is that of an added resource. The directory holds
what calls have made of it. -/
theorem status_foretells_of_calls :
    let recorded : Manifest := (Table.empty.insert "k" "1").insert "m" "1"
    let worker : Worker := ⟨.ofOrigin "https://a", ⟨((Table.empty.insert "k" "2").insert
      "n" "1").insert "o" "1", []⟩⟩
    let stored := fun url : String => Call.put worker.content url (.json [])
    let calls : List Call := [.create worker.content, .create worker.records,
      .put worker.records worker.recordUrl (.json recorded.toBytes), stored "https://a/k",
      stored "https://a/m", stored "https://a/n", stored "https://b/k"]
    let memory := ((Storage.Files.inTurn calls).run Memory.answer .empty).2
    let session : Session := ⟨"/", .default, none, ⟨false, false⟩⟩
    let tree := ((Storage.Files.inTurn calls).run
      (Storage.Files.answer session.storageRoot) .empty).2
    worker.config.regions.all.Nodup ∧ worker.recorded? memory = some (.ok recorded) ∧
      Related .empty [".sw-cache"] memory tree ∧
      ∃ status : Status, Tells .empty [".sw-cache"] memory (gather session worker) status ∧
        status.pendingEvictions = ["k", "m"] ∧ status.cachedCount = 2 := by
  intro recorded worker stored calls memory session tree
  have hregions : worker.config.regions.all.Nodup := by decide
  have hresponse : (Memory.entries memory worker.records).get? worker.recordUrl =
      some (.json recorded.toBytes) := by
    decide +kernel
  have hrecord : worker.recorded? memory = some (.ok recorded) := by
    rw [Worker.recorded?, hresponse]
    exact congrArg some (Manifest.ofBytes_toBytes recorded)
  have hroot : Untouched .empty session.storageRoot [".sw-cache"] := by
    rw [show session.storageRoot = ["", ".sw-cache"] by decide +kernel]
    have hmissing : Untouched .empty ([""] ++ ".sw-cache" :: [])
        ([] ++ ".sw-cache" :: Tree.landing []) :=
      .missing rfl ⟨by decide, by decide, by decide⟩ (fun _ => rfl) (fun _ hmem => nomatch hmem)
    exact hmissing
  have hcalls : ∀ call ∈ calls, Legal call := by decide +kernel
  have hnames : ∀ region ∈ worker.config.regions.all,
      Legal (.has region) ∧ Legal (.keys region) := by
    decide +kernel
  have hasked : ∀ call, Asked worker call → Legal call := by
    intro call hasked
    cases hasked with
    | has hregion => exact (hnames _ hregion).1
    | keys hregion => exact (hnames _ hregion).2
    | create => decide +kernel
    | find => decide +kernel
  obtain ⟨_, hrelated⟩ := Storage.Files.run_related hroot (Storage.Files.only_inTurn hcalls)
    .untouched
  obtain ⟨status, hcurrent, hrecorded, hcached, htells, -⟩ :=
    status_foretells worker memory hregions hrecord
  replace hcached : status.cached = ["k", "m", "n"] := hcached.trans (by decide +kernel)
  refine ⟨hregions, hrecord, hrelated, status, htells session _ _ hroot hasked, ?_, ?_⟩
  · rw [pendingEvictions, diff?, hrecorded, hcurrent, hcached]
    decide +kernel
  · rw [cachedCount, hcurrent, hcached]
    decide +kernel

end Status

end AssetCache.CommandLine
