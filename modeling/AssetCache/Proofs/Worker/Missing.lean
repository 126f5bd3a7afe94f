import AssetCache.Proofs.Key.Correspondence
import AssetCache.Proofs.Worker.Filling

/-!
# What the content lacks

What is missing is found by going from the URLs of the content back to keys, and it is filled by
going from keys to URLs. The two agree on every key that is found under its own URL; one that is
not is missing again after the content was filled, and no others are (`missingKeys_again`).

The effect of a fill where no storage call is refused is `downloadOffline_effect`.
-/

set_option autoImplicit false

namespace AssetCache.Worker

open Storage (Memory)

variable {worker : Worker} {urls filled : List String} {key : String}

/-! ## Missing keys -/

theorem not_contains_filterMap_iff :
    (!(urls.filterMap worker.contentKey?).contains key) = true ↔
      ∀ url ∈ urls, worker.contentKey? url ≠ some key := by
  simp only [Bool.not_eq_true', List.contains_eq_mem, List.mem_filterMap, decide_eq_false_iff_not,
    not_exists, not_and, ne_eq]

/-- A key is missing if it is listed and no URL is that of an entry for it. -/
theorem mem_missingKeys_iff :
    key ∈ worker.missingKeys urls ↔ worker.build.resources.contains key = true ∧
      ∀ url ∈ urls, worker.contentKey? url ≠ some key := by
  rw [missingKeys, List.mem_filter, not_contains_filterMap_iff, Table.mem_keys_iff]

theorem missingKeys_ascending (worker : Worker) (urls : List String) :
    (worker.missingKeys urls).Pairwise (· < ·) :=
  worker.build.resources.keys_ascending.filter _

/-- Once the URLs of all missing keys are there, the keys are missing that are not found under
their own URL. -/
theorem missingKeys_again
    (h : ∀ url, url ∈ filled ↔ url ∈ (worker.missingKeys urls).map worker.urlFor ∨ url ∈ urls) :
    worker.missingKeys filled = (worker.missingKeys urls).filter fun key =>
      worker.contentKey? (worker.urlFor key) ≠ some key := by
  rw [missingKeys, missingKeys, List.filter_filter]
  refine List.filter_congr fun key hkey => ?_
  rw [Bool.eq_iff_iff, Bool.and_eq_true, not_contains_filterMap_iff, not_contains_filterMap_iff,
    decide_eq_true_iff]
  have hlisted := (Table.mem_keys_iff _ _).mp hkey
  constructor
  · intro hnone
    have hbefore : ∀ url ∈ urls, worker.contentKey? url ≠ some key := fun url hurl =>
      hnone url ((h url).mpr (.inr hurl))
    have hmissing : key ∈ worker.missingKeys urls := mem_missingKeys_iff.mpr ⟨hlisted, hbefore⟩
    exact ⟨hnone _ ((h _).mpr (.inl (List.mem_map_of_mem hmissing))), hbefore⟩
  · rintro ⟨hown, hbefore⟩ url hurl hfound
    rcases (h url).mp hurl with hadded | hold
    · -- a URL that was added and has the key is the key's own
      obtain ⟨other, _, rfl⟩ := List.mem_map.mp hadded
      have hsame : worker.urlFor key = worker.urlFor other := Key.urlFor_of_contentKey? hfound
      exact hown (hsame ▸ hfound)
    · exact hbefore url hold hfound

/-! ## Filling -/

/-- A fill is a batch of requests for what is missing, stored in the content. -/
theorem filled_downloadOffline (worker : Worker) (around : Surroundings) (scene : Scene) :
    let before := Memory.entries scene.memory worker.content
    let missing := worker.missingKeys before.keys
    let requests := missing.map fun key => Request.get (worker.urlFor key)
    ∃ opened : Scene, scene.Unseen opened ∧ opened.memory = worker.withContent scene.memory ∧
      Filled worker.content before requests (around.arrive (scene.deeds.length + 2) requests)
        (fun _ => missing) opened (around.calm.perform worker.downloadOffline scene) := by
  intro before missing requests
  let created := scene.after (.storage (.create worker.content)) (.ok ())
    (worker.withContent scene.memory)
  let opened := created.after (.storage (.keys worker.content)) (.ok before.keys) created.memory
  have hunseen : scene.Unseen opened :=
    (Scene.Unseen.after scene _ rfl).trans (Scene.Unseen.after created _ rfl)
  have hget : opened.memory.get? worker.content = some before :=
    Memory.get?_opened_self scene.memory worker.content
  have hkeys : Memory.answer (.keys worker.content) created.memory =
      (.ok before.keys, created.memory) := by
    rw [Memory.answer, show Memory.entries created.memory worker.content = _ from
      Memory.entries_opened ..]
  have hmoment : opened.deeds.length = scene.deeds.length + 2 := by
    show (scene.deeds ++ [_] ++ [_]).length = _
    rw [List.length_append, List.length_append]
    rfl
  refine ⟨opened, hunseen, rfl, ?_⟩
  rw [downloadOffline, Surroundings.perform_store_bind_of_answered rfl (Memory.answer_create ..),
    Surroundings.perform_store_bind_of_answered rfl hkeys]
  rw [← hmoment]
  dsimp only
  split
  next hempty =>
    have hnone : requests = [] := List.map_eq_nil_iff.mpr (List.isEmpty_iff.mp hempty)
    exact filled_nothing hnone _ silent_note_pure around.calm opened hget
  next =>
    exact filled_fetchAndStore (fun _ => silent_note) (fun _ => silent_note_pure) around opened hget

/-- A fill that succeeds says what was missing. -/
theorem eq_missingKeys_of_ok {scene : Scene} {added : List String} (around : Surroundings)
    (h : (around.calm.perform worker.downloadOffline scene).1 = .ok added) :
    added = worker.missingKeys (Memory.entries scene.memory worker.content).keys := by
  obtain ⟨opened, _, _, hfilled⟩ := filled_downloadOffline worker around scene
  cases houtcome : Fetch.Batch.outcome _ (around.arrive (scene.deeds.length + 2) _).1 with
  | error failure => cases (hfilled.failed failure houtcome).1.symm.trans h
  | ok fetched => exact Except.ok.inj (h.symm.trans (hfilled.stored fetched houtcome).1)

/-- A fill that follows one that succeeded finds missing what is not found under its own URL. -/
theorem eq_filter_of_again (around : Surroundings) {scene : Scene} {before : Table Response}
    {fetched : List (Request × Response)} {again : List String}
    (hcontent : scene.memory.get? worker.content = some (withFetched before fetched))
    (hfetched : fetched.map (fun pair => pair.1.url) =
      (worker.missingKeys before.keys).map worker.urlFor)
    (h : (around.calm.perform worker.downloadOffline scene).1 = .ok again) :
    again = (worker.missingKeys before.keys).filter fun key =>
      worker.contentKey? (worker.urlFor key) ≠ some key := by
  rw [eq_missingKeys_of_ok around h, Memory.entries_of_get? hcontent]
  refine missingKeys_again fun url => ?_
  rw [Table.mem_keys_iff, Table.mem_keys_iff, contains_withFetched, hfetched]

/-- Of keys that are all found under their own URLs none is missing again. -/
theorem filter_missingKeys_eq_nil
    (h : ∀ key, worker.build.resources.contains key = true →
      key = Key.root ∨ key.toList ≠ [] ∧ key.toList.head? ≠ some '/') :
    ((worker.missingKeys urls).filter fun key =>
      worker.contentKey? (worker.urlFor key) ≠ some key) = [] := by
  rw [List.filter_eq_nil_iff]
  intro key hkey
  have hfound : worker.contentKey? (worker.urlFor key) = some key :=
    (Key.contentKey?_urlFor_iff worker.config.origin key).mpr (h key (mem_missingKeys_iff.mp hkey).1)
  simpa using hfound

/-- What a fill does where no storage call is refused: what is missing is requested, and stored
unless a request fails. A fill that follows finds missing what is not found under its own URL. -/
theorem downloadOffline_effect (worker : Worker) (around : Surroundings) (memory : Memory) :
    let run := around.calm.perform worker.downloadOffline (Scene.start memory)
    let before := Memory.entries memory worker.content
    let missing := worker.missingKeys before.keys
    let urls := missing.map worker.urlFor
    let requests := urls.map fun url => (⟨.get, url, .empty, .default⟩ : Request)
    let arrivals := around.arrive 2 requests
    missing.Pairwise (· < ·) ∧
    (∀ key, key ∈ missing ↔ worker.build.resources.contains key = true ∧
      ∀ url, before.contains url = true → worker.contentKey? url ≠ some key) ∧
    run.2.exchanges = batchExchanges requests arrivals.1 ∧
    run.2.issued = Fetch.Batch.issued requests arrivals.1 ∧ run.2.issued <+: requests ∧
    (missing = [] → run.1 = .ok [] ∧ run.2.issued = [] ∧
      run.2.memory = Memory.opened memory worker.content) ∧
    (∀ region, region ≠ worker.content → run.2.memory.get? region = memory.get? region) ∧
    match Fetch.Batch.outcome requests arrivals.1 with
    | .error failure =>
      run.1 = .error (.fetch failure) ∧ run.2.memory.get? worker.content = some before
    | .ok _ =>
      run.1 = .ok missing ∧ run.2.issued = requests ∧
      ∃ after, run.2.memory.get? worker.content = some after ∧
        (∀ url ∈ urls, ∃ response, after.get? url = some response ∧
          LastGiven run.2.exchanges url response ∧ response.isSuccess = true) ∧
        (∀ url, url ∉ urls → after.get? url = before.get? url) ∧
        ∀ (later : Surroundings) (again : List String),
          (later.calm.perform worker.downloadOffline run.2).1 = .ok again →
            again = missing.filter (fun key =>
              worker.contentKey? (worker.urlFor key) ≠ some key) ∧
            ((∀ key, worker.build.resources.contains key = true →
              key = Key.root ∨ key.toList ≠ [] ∧ key.toList.head? ≠ some '/') → again = []) := by
  intro run before missing urls requests arrivals
  have hrequests : missing.map (fun key => Request.get (worker.urlFor key)) = requests := by
    rw [show requests = _ from List.map_map]
    rfl
  have hurls : requests.map Request.url = urls := List.map_map.trans (List.map_id _)
  obtain ⟨opened, hunseen, hmemory, hfilled⟩ :=
    filled_downloadOffline worker around (Scene.start memory)
  change Filled worker.content before (missing.map fun key => Request.get (worker.urlFor key))
    (around.arrive 2 (missing.map fun key => Request.get (worker.urlFor key))) (fun _ => missing)
    opened run at hfilled
  rw [hrequests] at hfilled
  have hissued : run.2.issued = Fetch.Batch.issued requests arrivals.1 :=
    hfilled.issued.trans (congrArg (· ++ _) hunseen.issued)
  have hexchanges : run.2.exchanges = batchExchanges requests arrivals.1 :=
    hfilled.exchanges.trans (congrArg (· ++ _) hunseen.exchanges)
  have hopened : opened.memory.get? worker.content = some before := by
    rw [hmemory]
    exact Memory.get?_opened_self memory worker.content
  refine ⟨missingKeys_ascending worker before.keys, fun key => ?_, hexchanges, hissued,
    hissued ▸ Fetch.Batch.issued_prefix _ _, fun hnone => ?_, fun region hne => ?_, ?_⟩
  · simp only [missing, mem_missingKeys_iff, Table.mem_keys_iff]
  · have hempty : requests = [] := by
      rw [← hrequests, hnone]
      rfl
    obtain ⟨hresult, hafter⟩ := hfilled.stored [] (Fetch.Batch.outcome_of_nil hempty _)
    refine ⟨hresult.trans (congrArg Except.ok hnone), ?_, ?_⟩
    · exact List.prefix_nil.mp (hempty ▸ hissued ▸ Fetch.Batch.issued_prefix _ _)
    · exact hafter.trans ((Table.insert_of_get? hopened).trans hmemory)
  · rw [hfilled.get?_of_ne hne, hmemory]
    exact Memory.get?_opened_of_ne memory (Ne.symm hne)
  cases houtcome : Fetch.Batch.outcome requests arrivals.1 with
  | error failure =>
    obtain ⟨hresult, hafter⟩ := hfilled.failed failure houtcome
    exact ⟨hresult, hafter ▸ hopened⟩
  | ok fetched =>
    have hfetched : fetched.map (fun pair => pair.1.url) = urls :=
      (urls_of_outcome houtcome).trans hurls
    have hcontent := hfilled.get?_of_ok houtcome
    refine ⟨(hfilled.stored fetched houtcome).1, hissued.trans (issued_of_outcome houtcome), _,
      hcontent, fun url hurl => ?_, fun url hurl => get?_withFetched_of_notMem (hfetched ▸ hurl),
      fun later again hagain => ?_⟩
    · have hstored : (withFetched before fetched).contains url = true :=
        (contains_withFetched fetched).mpr (.inl (hfetched ▸ hurl))
      obtain ⟨response, hget⟩ := (Table.contains_eq_true_iff _ _).mp hstored
      rw [hexchanges]
      exact ⟨response, hget, given_of_outcome houtcome (hurls ▸ hurl) hget⟩
    · have hsame := eq_filter_of_again later hcontent hfetched hagain
      exact ⟨hsame, fun hproper => hsame.trans (filter_missingKeys_eq_nil hproper)⟩

end AssetCache.Worker
