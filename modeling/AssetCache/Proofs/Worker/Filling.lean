import AssetCache.Proofs.Worker.Partial

/-!
# Batches that are stored whole

Where no storage call is refused, a batch that is fetched is stored whole, and one that fails
leaves nothing. So what an operation does that stores a batch can be said exactly (`Filled`):
which requests are issued, what the host is told, what the region holds. Several requests of a
batch may be for one URL; the response to the last of them stays (`LastGiven`).

An installation is such a batch, stored in a region that was emptied before. Its effect is
`install_effect`.
-/

set_option autoImplicit false

namespace AssetCache.Worker

open Storage (Memory)

variable {α : Type} {worker : Worker} {around : Surroundings} {scene later last : Scene}
  {region url : String} {base : Table Response} {response : Response} {requests : List Request}
  {fetched : List (Request × Response)}

/-! ## What the host and the network learn -/

namespace Deed

/-- Whether the host was asked to let this version take over. -/
def isSkip : Deed → Bool
  | ⟨.skipWaiting, _⟩ => true
  | _ => false

/-- The requests that were issued in a deed. -/
def issued : Deed → List Request
  | ⟨.fetch request, _⟩ => [request]
  | ⟨.fetchAll requests, arrivals⟩ => Fetch.Batch.issued requests arrivals.1
  | _ => []

/-- Whether a deed concerns the storage or the log alone. -/
def isQuiet : Deed → Bool
  | ⟨.storage _, _⟩ => true
  | ⟨.log _, _⟩ => true
  | _ => false

theorem of_isQuiet {deed : Deed} (h : deed.isQuiet = true) :
    deed.isSkip = false ∧ deed.issued = [] ∧ deed.exchanges = [] := by
  obtain ⟨action, reply⟩ := deed
  cases action with
  | storage call => exact ⟨rfl, rfl, rfl⟩
  | log note => exact ⟨rfl, rfl, rfl⟩
  | _ => cases h

end Deed

namespace Scene

/-- How often the host was asked to let this version take over. -/
def skips (scene : Scene) : Nat := scene.deeds.countP Deed.isSkip

/-- The requests that were issued, in order. -/
def issued (scene : Scene) : List Request := scene.deeds.flatMap Deed.issued

theorem skips_after (scene : Scene) (action : Action) (reply : action.Reply) (memory : Memory) :
    (scene.after action reply memory).skips =
      scene.skips + if Deed.isSkip ⟨action, reply⟩ then 1 else 0 := by
  rw [skips, after, List.countP_append, List.countP_singleton]
  rfl

theorem issued_after (scene : Scene) (action : Action) (reply : action.Reply) (memory : Memory) :
    (scene.after action reply memory).issued = scene.issued ++ Deed.issued ⟨action, reply⟩ := by
  rw [issued, after, List.flatMap_append, List.flatMap_singleton]
  rfl

/-- Of what was done between two scenes neither the host nor the network learnt. -/
def Unseen (scene later : Scene) : Prop :=
  ∃ deeds, later.deeds = scene.deeds ++ deeds ∧ ∀ deed ∈ deeds, deed.isQuiet = true

namespace Unseen

theorem refl (scene : Scene) : Unseen scene scene :=
  ⟨[], (List.append_nil _).symm, List.forall_mem_nil _⟩

theorem trans (h : Unseen scene later) (h' : Unseen later last) : Unseen scene last := by
  obtain ⟨deeds, hdeeds, hquiet⟩ := h
  obtain ⟨more, hmore, hquiet'⟩ := h'
  refine ⟨deeds ++ more, ?_, List.forall_mem_append.mpr ⟨hquiet, hquiet'⟩⟩
  rw [hmore, hdeeds, List.append_assoc]

theorem after (scene : Scene) {action : Action} {reply : action.Reply} (memory : Memory)
    (h : Deed.isQuiet ⟨action, reply⟩ = true) : Unseen scene (scene.after action reply memory) :=
  ⟨[⟨action, reply⟩], rfl, List.forall_mem_singleton.mpr h⟩

theorem skips (h : Unseen scene later) : later.skips = scene.skips := by
  obtain ⟨deeds, hdeeds, hquiet⟩ := h
  have hnone : deeds.countP Deed.isSkip = 0 := List.countP_eq_zero.mpr fun deed hdeed =>
    Bool.not_eq_true _ ▸ (Deed.of_isQuiet (hquiet deed hdeed)).1
  rw [Scene.skips, hdeeds, List.countP_append, hnone]
  rfl

theorem issued (h : Unseen scene later) : later.issued = scene.issued := by
  obtain ⟨deeds, hdeeds, hquiet⟩ := h
  have hnone : deeds.flatMap Deed.issued = [] := List.flatMap_eq_nil_iff.mpr fun deed hdeed =>
    (Deed.of_isQuiet (hquiet deed hdeed)).2.1
  rw [Scene.issued, hdeeds, List.flatMap_append, hnone, List.append_nil]
  rfl

theorem exchanges (h : Unseen scene later) : later.exchanges = scene.exchanges := by
  obtain ⟨deeds, hdeeds, hquiet⟩ := h
  have hnone : deeds.flatMap Deed.exchanges = [] := List.flatMap_eq_nil_iff.mpr fun deed hdeed =>
    (Deed.of_isQuiet (hquiet deed hdeed)).2.2
  rw [Scene.exchanges, hdeeds, List.flatMap_append, hnone, List.append_nil]
  rfl

end Unseen

end Scene

/-! ## The response that stays -/

/-- The last request for a URL was given a response. -/
def LastGiven (exchanges : List Exchange) (url : String) (response : Response) : Prop :=
  ∃ before request after, exchanges = before ++ (request, .ok response) :: after ∧
    request.url = url ∧ ∀ exchange ∈ after, exchange.1.url ≠ url

theorem lastGiven_nil : ¬ LastGiven [] url response := by
  rintro ⟨before, request, after, heq, _⟩
  exact List.cons_ne_nil _ _ (List.append_eq_nil_iff.mp heq.symm).2

theorem lastGiven_cons {exchange : Exchange} {rest : List Exchange} :
    LastGiven (exchange :: rest) url response ↔
      LastGiven rest url response ∨
        exchange.2 = .ok response ∧ exchange.1.url = url ∧ ∀ more ∈ rest, more.1.url ≠ url := by
  constructor
  · rintro ⟨before, request, after, heq, hurl, hlast⟩
    rcases List.cons_eq_append_iff.mp heq with ⟨rfl, hhead⟩ | ⟨before, rfl, htail⟩
    · cases hhead
      exact .inr ⟨rfl, hurl, hlast⟩
    · exact .inl ⟨before, request, after, htail, hurl, hlast⟩
  · rintro (⟨before, request, after, rfl, hurl, hlast⟩ | ⟨hresponse, hurl, hlast⟩)
    · exact ⟨exchange :: before, request, after, rfl, hurl, hlast⟩
    · exact ⟨[], exchange.1, rest, by rw [← hresponse]; rfl, hurl, hlast⟩

/-- Responses that are laid over entries: of a URL the last stays, and what no request was for. -/
theorem get?_withFetched : ∀ (fetched : List (Request × Response)) {base : Table Response},
    (withFetched base fetched).get? url = some response ↔
      LastGiven (fetched.map fun pair => (pair.1, .ok pair.2)) url response ∨
        url ∉ fetched.map (fun pair => pair.1.url) ∧ base.get? url = some response
  | [], base => by
    simp only [List.map_nil, lastGiven_nil, false_or, List.not_mem_nil, not_false_eq_true,
      true_and]
    rfl
  | pair :: rest, base => by
    have hlater : (∀ more ∈ rest.map (fun pair => (pair.1, .ok pair.2) : _ → Exchange),
        more.1.url ≠ url) ↔ url ∉ rest.map fun pair => pair.1.url := by
      simp only [List.mem_map, forall_exists_index, and_imp, forall_apply_eq_imp_iff₂, not_exists,
        not_and, ne_eq]
    show (withFetched (base.insert pair.1.url pair.2) rest).get? url = some response ↔ _
    rw [get?_withFetched rest, List.map_cons, List.map_cons, lastGiven_cons, hlater, Table.get?_insert,
      List.mem_cons, not_or, or_assoc]
    refine or_congr_right ?_
    by_cases hurl : pair.1.url = url
    · simp [hurl, and_comm]
    · simp [hurl, Ne.symm hurl]

theorem contains_withFetched : ∀ (fetched : List (Request × Response)) {base : Table Response},
    (withFetched base fetched).contains url = true ↔
      url ∈ fetched.map (fun pair => pair.1.url) ∨ base.contains url = true
  | [], base => (or_iff_right List.not_mem_nil).symm
  | pair :: rest, base => by
    show (withFetched (base.insert pair.1.url pair.2) rest).contains url = true ↔ _
    rw [contains_withFetched rest, Table.contains_insert, List.map_cons, List.mem_cons,
      Bool.or_eq_true, beq_iff_eq, ← or_assoc, or_comm (b := pair.1.url = url), eq_comm]

/-- Of a URL that no request was for the entry stays. -/
theorem get?_withFetched_of_notMem (h : url ∉ fetched.map fun pair => pair.1.url) :
    (withFetched base fetched).get? url = base.get? url := by
  induction fetched generalizing base with
  | nil => rfl
  | cons pair rest ih =>
    rw [List.map_cons, List.mem_cons, not_or] at h
    exact (ih h.2).trans (Table.get?_insert_of_ne _ _ (Ne.symm h.1))

/-! ## Batches that succeed -/

/-- A batch that succeeded has a response for each URL asked for, in order. -/
theorem urls_of_outcome {arrivals : Arrivals requests}
    (h : Fetch.Batch.outcome requests arrivals.1 = .ok fetched) :
    fetched.map (fun pair => pair.1.url) = requests.map Request.url := by
  rw [← Fetch.Batch.map_fst_of_outcome arrivals.2 h, List.map_map]
  rfl

/-- Once a batch that succeeded is laid over entries, a URL asked for has the last response that
was given to it, and that is one of success. -/
theorem given_of_outcome {arrivals : Arrivals requests}
    (h : Fetch.Batch.outcome requests arrivals.1 = .ok fetched)
    (hurl : url ∈ requests.map Request.url)
    (hget : (withFetched base fetched).get? url = some response) :
    LastGiven (batchExchanges requests arrivals.1) url response ∧ response.isSuccess = true := by
  obtain ⟨hzip, hsuccess⟩ := Fetch.Batch.of_outcome_eq_ok h
  have hgiven := ((get?_withFetched fetched).mp hget).resolve_right fun hold =>
    hold.1 (urls_of_outcome h ▸ hurl)
  rw [batchExchanges, hzip]
  refine ⟨hgiven, ?_⟩
  obtain ⟨before, request, after, heq, _⟩ := hgiven
  obtain ⟨pair, hpair, hsame⟩ := List.mem_map.mp
    (heq ▸ List.mem_append_right before List.mem_cons_self)
  cases hsame
  exact hsuccess pair hpair

/-- A batch that succeeded has issued all its requests. -/
theorem issued_of_outcome {arrivals : Arrivals requests}
    (h : Fetch.Batch.outcome requests arrivals.1 = .ok fetched) :
    Fetch.Batch.issued requests arrivals.1 = requests :=
  Fetch.Batch.issued_eq_self arrivals.2 fun i error =>
    Fetch.Batch.exists_outcome_eq_ok_iff.mp ⟨fetched, h⟩ i 0 error

/-! ## Runs of a batch -/

/-- A run that only notes something, if anything. -/
def Silent (step : Step α) (value : α) : Prop :=
  ∀ (around : Surroundings) (scene : Scene), ∃ later, Scene.Unseen scene later ∧
    later.memory = scene.memory ∧ around.perform step scene = (.ok value, later)

theorem silent_note {event : Event} {level : Log.Level} {message : String} {fields : Log.Fields}
    {key : Option String} : Silent (stepNote event level message fields key) () :=
  fun _ scene => ⟨_, .after scene scene.memory rfl, rfl, rfl⟩

theorem silent_note_pure {event : Event} {level : Log.Level} {message : String}
    {fields : Log.Fields} {key : Option String} {value : α} :
    Silent (do stepNote event level message fields key; return value) value :=
  fun _ scene => ⟨_, .after scene scene.memory rfl, rfl, rfl⟩

/-- All fetches of a batch are one deed. -/
theorem perform_fetchBatch_bind (around : Surroundings) (requests : List Request)
    (next : Except FetchError (List (Request × Response)) → Step α) (scene : Scene) :
    around.perform (fetchBatch requests >>= next) scene =
      let arrivals := around.arrive scene.deeds.length requests
      around.perform (next (Fetch.Batch.outcome requests arrivals.1))
        (scene.after (.fetchAll requests) arrivals scene.memory) := rfl

/-- All responses are stored, one after the other. -/
theorem perform_storeAll (around : Surroundings) (region : String) :
    ∀ (fetched : List (Request × Response)) (scene : Scene) {base : Table Response},
      scene.memory.get? region = some base → ∃ later, Scene.Unseen scene later ∧
        later.memory = scene.memory.insert region (withFetched base fetched) ∧
        around.calm.perform (storeAll region fetched) scene = (.ok (), later)
  | [], scene, base, hget => ⟨scene, .refl scene, (Table.insert_of_get? hget).symm, rfl⟩
  | pair :: rest, scene, base, hget => by
    let stored := scene.after (.storage (.put region pair.1.url pair.2)) (.ok ())
      (scene.memory.insert region (base.insert pair.1.url pair.2))
    have hstored : stored.memory.get? region = some (base.insert pair.1.url pair.2) :=
      Table.get?_insert_self _ _ _
    obtain ⟨later, hunseen, hmemory, hrun⟩ := perform_storeAll around region rest stored hstored
    refine ⟨later, (Scene.Unseen.after scene _ rfl).trans hunseen, ?_, ?_⟩
    · rw [hmemory]
      exact Table.insert_insert _ _ _ _
    · exact (Surroundings.perform_store_bind_of_answered rfl (Memory.answer_put hget) _).trans hrun

/-- What becomes of a batch that is to be stored in a region, and what is learnt of it. -/
structure Filled (region : String) (base : Table Response) (requests : List Request)
    (arrivals : Arrivals requests) (value : List (Request × Response) → α) (scene : Scene)
    (run : Except WorkerError α × Scene) : Prop where
  skips : run.2.skips = scene.skips
  issued : run.2.issued = scene.issued ++ Fetch.Batch.issued requests arrivals.1
  exchanges : run.2.exchanges = scene.exchanges ++ batchExchanges requests arrivals.1
  /-- If it fails, nothing is stored. -/
  failed : ∀ failure, Fetch.Batch.outcome requests arrivals.1 = .error failure →
    run.1 = .error (.fetch failure) ∧ run.2.memory = scene.memory
  stored : ∀ fetched, Fetch.Batch.outcome requests arrivals.1 = .ok fetched →
    run.1 = .ok (value fetched) ∧
      run.2.memory = scene.memory.insert region (withFetched base fetched)

namespace Filled

variable {arrivals : Arrivals requests} {value : List (Request × Response) → α}
  {run : Except WorkerError α × Scene}

/-- No region changes but the one that the batch is stored in. -/
theorem get?_of_ne (h : Filled region base requests arrivals value scene run) {other : String}
    (hne : other ≠ region) : run.2.memory.get? other = scene.memory.get? other := by
  cases houtcome : Fetch.Batch.outcome requests arrivals.1 with
  | error failure => rw [(h.failed failure houtcome).2]
  | ok fetched =>
    rw [(h.stored fetched houtcome).2]
    exact Table.get?_insert_of_ne _ _ (Ne.symm hne)

theorem get?_of_ok (h : Filled region base requests arrivals value scene run)
    (houtcome : Fetch.Batch.outcome requests arrivals.1 = .ok fetched) :
    run.2.memory.get? region = some (withFetched base fetched) := by
  rw [(h.stored fetched houtcome).2]
  exact Table.get?_insert_self _ _ _

end Filled

/-- A batch that is fetched, and then stored in a region that is there. -/
theorem filled_fetchAndStore {complaint : FetchError → Step Unit}
    {last : List (Request × Response) → Step α} {value : List (Request × Response) → α}
    (hcomplaint : ∀ failure, Silent (complaint failure) ())
    (hlast : ∀ fetched, Silent (last fetched) (value fetched))
    (around : Surroundings) (scene : Scene) (hget : scene.memory.get? region = some base) :
    Filled region base requests (around.arrive scene.deeds.length requests) value scene
      (around.calm.perform (do
        match ← fetchBatch requests with
        | .error failure =>
          complaint failure
          throw (.fetch failure)
        | .ok fetched =>
          storeAll region fetched
          last fetched) scene) := by
  let arrivals := around.arrive scene.deeds.length requests
  let asked := scene.after (.fetchAll requests) arrivals scene.memory
  -- from here on nothing is learnt any more
  have hlearnt : ∀ {later}, asked.Unseen later → later.skips = scene.skips ∧
      later.issued = scene.issued ++ Fetch.Batch.issued requests arrivals.1 ∧
      later.exchanges = scene.exchanges ++ batchExchanges requests arrivals.1 := fun hunseen =>
    ⟨hunseen.skips.trans (Scene.skips_after ..), hunseen.issued.trans (Scene.issued_after ..),
      hunseen.exchanges.trans (Scene.exchanges_after ..)⟩
  rw [perform_fetchBatch_bind]
  change Filled region base requests arrivals value scene (around.calm.perform _ asked)
  cases houtcome : Fetch.Batch.outcome requests arrivals.1 with
  | error failure =>
    obtain ⟨later, hunseen, hmemory, hnoted⟩ := hcomplaint failure around.calm asked
    obtain ⟨hskips, hissued, hexchanges⟩ := hlearnt hunseen
    rw [show Fetch.Batch.outcome requests (around.calm.arrive _ requests).1 = _ from houtcome]
    dsimp only
    rw [Surroundings.perform_bind, hnoted]
    refine ⟨hskips, hissued, hexchanges, fun failure' heq => ?_, fun fetched heq => ?_⟩
    · cases houtcome.symm.trans heq
      exact ⟨rfl, hmemory⟩
    · cases houtcome.symm.trans heq
  | ok fetched =>
    obtain ⟨stored, hunseen, hmemory, hstored⟩ :=
      perform_storeAll around region fetched asked hget
    obtain ⟨later, hunseen', hmemory', hnoted⟩ := hlast fetched around.calm stored
    obtain ⟨hskips, hissued, hexchanges⟩ := hlearnt (hunseen.trans hunseen')
    rw [show Fetch.Batch.outcome requests (around.calm.arrive _ requests).1 = _ from houtcome]
    dsimp only
    rw [Surroundings.perform_bind, hstored]
    dsimp only
    rw [hnoted]
    refine ⟨hskips, hissued, hexchanges, fun failure heq => ?_, fun fetched' heq => ?_⟩
    · cases houtcome.symm.trans heq
    · cases houtcome.symm.trans heq
      exact ⟨rfl, hmemory'.trans hmemory⟩

/-- A batch of no requests is stored without anything being asked. -/
theorem filled_nothing {step : Step α} {value : α} (hnone : requests = [])
    (arrivals : Arrivals requests) (hstep : Silent step value) (around : Surroundings)
    (scene : Scene) (hget : scene.memory.get? region = some base) :
    Filled region base requests arrivals (fun _ => value) scene (around.perform step scene) := by
  subst hnone
  obtain ⟨later, hunseen, hmemory, hrun⟩ := hstep around scene
  rw [hrun]
  refine ⟨hunseen.skips, hunseen.issued.trans (List.append_nil _).symm,
    hunseen.exchanges.trans (List.append_nil _).symm, fun failure heq => ?_, fun fetched heq => ?_⟩
  · cases heq
  · cases heq
    exact ⟨rfl, hmemory.trans (Table.insert_of_get? hget).symm⟩

/-! ## Installing -/

/-- An installation stores the core shell in a region that was emptied before, and asks the host
once to let the version take over. -/
theorem filled_install (worker : Worker) (around : Surroundings) (memory : Memory) :
    ∃ staging : Scene,
      staging.memory = Memory.opened (memory.erase worker.temp) worker.temp ∧
      staging.skips = 1 ∧ staging.issued = [] ∧ staging.exchanges = [] ∧
      Filled worker.temp .empty worker.shellRequests (around.arrive 4 worker.shellRequests)
        (fun fetched => fetched.map fun entry => entry.1.url) staging
        (around.calm.perform worker.install (Scene.start memory)) := by
  let note : Log.Note := ⟨.install, none, .debug, "staging core shell",
    Log.Fields.number .empty "count" worker.build.core.length⟩
  let noted := (Scene.start memory).after (.log note) () memory
  let asked := noted.after .skipWaiting () memory
  let dropped := asked.after (.storage (.delete worker.temp))
    (.ok (memory.contains worker.temp)) (memory.erase worker.temp)
  let staging := dropped.after (.storage (.create worker.temp)) (.ok ())
    (Memory.opened dropped.memory worker.temp)
  have hunseen : asked.Unseen staging :=
    (Scene.Unseen.after asked _ rfl).trans (Scene.Unseen.after dropped _ rfl)
  have herased : Memory.entries dropped.memory worker.temp = .empty :=
    (Memory.entries_erase memory worker.temp worker.temp).trans (if_pos rfl)
  have hopened : staging.memory.get? worker.temp = some .empty := by
    rw [← herased]
    exact Memory.get?_opened_self dropped.memory worker.temp
  refine ⟨staging, rfl, hunseen.skips, hunseen.issued, hunseen.exchanges, ?_⟩
  exact filled_fetchAndStore (fun _ => silent_note) (fun _ => silent_note_pure) around staging
    hopened

/-- What an installation does where no storage call is refused: the host is asked once; the shell
is requested past all caches, in its order; and what is staged afterwards is the shell, each URL
with the last response given to it, or nothing. -/
theorem install_effect (worker : Worker) (around : Surroundings) (memory : Memory) :
    let run := around.calm.perform worker.install (Scene.start memory)
    let urls := worker.build.core.map worker.urlFor
    let requests := urls.map fun url => (⟨.get, url, .empty, .reload⟩ : Request)
    let arrivals := around.arrive 4 requests
    run.2.skips = 1 ∧
    run.2.exchanges = batchExchanges requests arrivals.1 ∧
    run.2.issued = Fetch.Batch.issued requests arrivals.1 ∧ run.2.issued <+: requests ∧
    (∀ region, region ≠ worker.temp → run.2.memory.get? region = memory.get? region) ∧
    match Fetch.Batch.outcome requests arrivals.1 with
    | .error failure =>
      run.1 = .error (.fetch failure) ∧ run.2.memory.get? worker.temp = some .empty
    | .ok _ =>
      run.1 = .ok urls ∧ run.2.issued = requests ∧
      ∃ staged, run.2.memory.get? worker.temp = some staged ∧
        (∀ url, staged.contains url = true ↔ url ∈ urls) ∧
        ∀ url response, staged.get? url = some response →
          LastGiven run.2.exchanges url response ∧ response.isSuccess = true := by
  intro run urls requests arrivals
  have hrequests : worker.shellRequests = requests := by
    rw [show requests = _ from List.map_map]
    rfl
  have hurls : requests.map Request.url = urls := List.map_map.trans (List.map_id _)
  obtain ⟨staging, hmemory, hskips, hissued, hexchanges, hfilled⟩ :=
    filled_install worker around memory
  rw [hrequests] at hfilled
  replace hskips : run.2.skips = 1 := hfilled.skips.trans hskips
  replace hissued : run.2.issued = Fetch.Batch.issued requests arrivals.1 := by
    rw [hfilled.issued, hissued, List.nil_append]
  replace hexchanges : run.2.exchanges = batchExchanges requests arrivals.1 := by
    rw [hfilled.exchanges, hexchanges, List.nil_append]
  refine ⟨hskips, hexchanges, hissued, hissued ▸ Fetch.Batch.issued_prefix _ _,
    fun region hne => ?_, ?_⟩
  · rw [hfilled.get?_of_ne hne, hmemory, Memory.get?_opened_of_ne _ (Ne.symm hne),
      Table.get?_erase, if_neg hne]
  cases houtcome : Fetch.Batch.outcome requests arrivals.1 with
  | error failure =>
    obtain ⟨hresult, hafter⟩ := hfilled.failed failure houtcome
    refine ⟨hresult, ?_⟩
    rw [hafter, hmemory, Memory.get?_opened_self, Memory.entries_erase, if_pos rfl]
  | ok fetched =>
    have hfetched : fetched.map (fun pair => pair.1.url) = urls :=
      (urls_of_outcome houtcome).trans hurls
    have hlisted : ∀ url, (withFetched .empty fetched).contains url = true ↔ url ∈ urls := by
      intro url
      rw [contains_withFetched, hfetched]
      exact or_iff_left Bool.false_ne_true
    refine ⟨(hfilled.stored fetched houtcome).1.trans (congrArg Except.ok hfetched),
      hissued.trans (issued_of_outcome houtcome), _, hfilled.get?_of_ok houtcome, hlisted,
      fun url response hget => ?_⟩
    have hurl : url ∈ urls :=
      (hlisted url).mp ((Table.contains_eq_true_iff _ _).mpr ⟨response, hget⟩)
    rw [hexchanges]
    exact given_of_outcome houtcome (hurls ▸ hurl) hget

-- two keys have one URL, and the response to the later request stays
example :
    let worker : Worker := ⟨.ofOrigin "https://a", ⟨.empty, ["k", "/k"]⟩⟩
    let around : Surroundings := { Surroundings.serving (.json []) with
      arrive := fun _ requests =>
        ⟨requests.mapIdx fun i _ => ⟨0, .ok (.json [i.toUInt8])⟩, List.length_mapIdx⟩ }
    let run := around.perform worker.install (Scene.start .empty)
    (Memory.entries run.2.memory worker.temp).get? "https://a/k" = some (.json [1]) := by
  decide +kernel

end AssetCache.Worker
