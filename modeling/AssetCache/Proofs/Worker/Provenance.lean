import AssetCache.Proofs.Worker.Interleaving

/-!
# Where stored responses come from

Every response in the content or among what is staged is one that the network gave, to a
request for the URL it is stored under or for the resource of that URL; and it is one of
success, unless it is the entry document (`Sourced`). This holds in every world that the
operations of any number of workers may come to, however they interleave.

The answers of the network only ever grow in number, so what a program has seen to be
sourced stays so, whatever other operations do meanwhile. A program is `Honest` if it
stores in these two regions nothing but what it has so seen, given that what it finds
there is sourced. Each operation is shown to be honest by itself (`honest_routine`); one
step lemma (`Sound.step`) then carries the invariant through the interleavings.

The manifest is recorded in a third region, of which nothing is said.
-/

set_option autoImplicit false

namespace AssetCache

/-- A region in which responses of the network are stored. -/
def Config.Keeps (config : Config) (region : String) : Prop :=
  region = config.regions.content ∨ region = config.regions.temp

namespace Worker

open Storage (Memory)

/-- A response may stand under a URL, given what the network has answered. -/
structure Sourced (config : Config) (known : List Answer) (url : String) (response : Response) :
    Prop where
  /-- It was given to a request for the URL, or for the resource of the URL. -/
  answered : ∃ request, (request, response) ∈ known ∧
    (request.url = url ∨
      ∃ key, Key.requestKey? config.origin request.url = some key ∧ config.urlFor key = url)
  success : response.isSuccess = true ∨ url = config.urlFor Key.root

/-- All that is stored in the two regions is sourced. -/
def AllSourced (config : Config) (known : List Answer) (memory : Memory) : Prop :=
  ∀ region, config.Keeps region → ∀ url response,
    (Memory.entries memory region).get? url = some response → Sourced config known url response

/-- What an action may store, given what the network has answered. -/
def Permits (config : Config) (known : List Answer) : Action → Prop
  | .storage (.put region url response) =>
    config.Keeps region → Sourced config known url response
  | _ => True

/-- What may be made of a reply, given what the network has answered by then. -/
def Explains (config : Config) (known : List Answer) : (action : Action) → action.Reply → Prop
  | .storage (.find region url), reply =>
    config.Keeps region → ∀ response, reply = .ok (some response) →
      Sourced config known url response
  | .fetch request, result => ∀ response, result = .ok response → (request, response) ∈ known
  | .fetchAll requests, arrivals =>
    ∀ fetched, Fetch.Batch.outcome requests arrivals.1 = .ok fetched → fetched ⊆ known
  | _, _ => True

/-- A program stores only what is sourced, and ends so, whatever is answered meanwhile. -/
def Honest {α : Type} (config : Config) (post : α → List Answer → Prop) :
    Routine α → List Answer → Prop
  | .done value, known => ∀ later, known ⊆ later → post value later
  | .call action next, known => ∀ later, known ⊆ later → Permits config later action ∧
    ∀ reply last, later ⊆ last → Explains config last action reply →
      Honest config post (next reply) last

/-- A program that may fail is honest, and of its value this holds. -/
def HonestStep {α : Type} (config : Config) (step : Step α) (known : List Answer)
    (post : α → List Answer → Prop) : Prop :=
  Honest config (fun result later => ∀ value, result = .ok value → post value later) step.run known

variable {α β : Type} {config : Config} {known later : List Answer} {memory : Memory}
  {url : String} {response : Response}

/-! ## More answers -/

theorem Sourced.mono (h : Sourced config known url response) (hmore : known ⊆ later) :
    Sourced config later url response := by
  obtain ⟨⟨request, hmem, hurl⟩, hsuccess⟩ := h
  exact ⟨⟨request, hmore hmem, hurl⟩, hsuccess⟩

theorem AllSourced.mono (h : AllSourced config known memory) (hmore : known ⊆ later) :
    AllSourced config later memory :=
  fun region hregion url response hget => (h region hregion url response hget).mono hmore

theorem Explains.mono {action : Action} {reply : action.Reply}
    (h : Explains config known action reply) (hmore : known ⊆ later) :
    Explains config later action reply := by
  cases action with
  | storage call =>
    cases call with
    | find region url =>
      exact fun hregion response hreply => (h hregion response hreply).mono hmore
    | _ => trivial
  | fetch request => exact fun response hresult => hmore (h response hresult)
  | fetchAll requests => exact fun fetched houtcome => List.Subset.trans (h fetched houtcome) hmore
  | _ => trivial

namespace Honest

variable {first post : α → List Answer → Prop} {last : β → List Answer → Prop}
  {routine : Routine α} {next : α → Routine β}

theorem mono (h : Honest config post routine known) (hmore : known ⊆ later) :
    Honest config post routine later := by
  cases routine with
  | done value => exact fun last hlast => h last (List.Subset.trans hmore hlast)
  | call action next => exact fun last hlast => h last (List.Subset.trans hmore hlast)

theorem bind (h : Honest config first routine known)
    (hnext : ∀ value later, known ⊆ later → first value later →
      Honest config last (next value) later) :
    Honest config last (routine.bind next) known := by
  induction routine generalizing known with
  | done value => exact hnext value known (List.Subset.refl _) (h known (List.Subset.refl _))
  | call action rest ih =>
    intro later hlater
    obtain ⟨hpermits, hrest⟩ := h later hlater
    refine ⟨hpermits, fun reply grown hgrown hexplains => ?_⟩
    refine ih reply (hrest reply grown hgrown hexplains) fun value more hmore => ?_
    exact hnext value more (List.Subset.trans hlater (List.Subset.trans hgrown hmore))

/-- An action that stores no response. -/
theorem silent {action : Action} (h : ∀ later, Permits config later action) :
    Honest config (fun _ _ => True) (act action) known :=
  fun later _ => ⟨h later, fun _ _ _ _ _ _ => trivial⟩

end Honest

namespace HonestStep

variable {first post : α → List Answer → Prop} {last : β → List Answer → Prop} {step : Step α}

theorem pure {value : α} (h : ∀ later, known ⊆ later → post value later) :
    HonestStep config (Pure.pure value) known post := by
  intro later hlater found heq
  cases heq
  exact h later hlater

theorem throw {error : WorkerError} :
    HonestStep config (MonadExcept.throw error) known post :=
  fun _ _ _ heq => by cases heq

theorem bind {next : α → Step β} (h : HonestStep config step known first)
    (hnext : ∀ value later, known ⊆ later → first value later →
      HonestStep config (next value) later last) :
    HonestStep config (step >>= next) known last := by
  show Honest config _ (step.run.bind (ExceptT.bindCont next)) known
  refine Honest.bind h fun result later hlater hfirst => ?_
  cases result with
  | ok value => exact hnext value later hlater (hfirst value rfl)
  | error error => exact fun _ _ _ heq => by cases heq

/-- Nothing need be known of a value. -/
theorem ret {value : α} : HonestStep config (Pure.pure value) known fun _ _ => True :=
  pure fun _ _ => trivial

/-- One program after another, whatever is known of the value of the first. -/
theorem andThen {next : α → Step β} (h : HonestStep config step known first)
    (hnext : ∀ value later, HonestStep config (next value) later last) :
    HonestStep config (step >>= next) known last :=
  h.bind fun value later _ _ => hnext value later

theorem act {action : Action} {post : action.Reply → List Answer → Prop}
    (hpermits : ∀ later, known ⊆ later → Permits config later action)
    (hpost : ∀ reply later, known ⊆ later → Explains config later action reply →
      post reply later) : HonestStep config (stepAct action) known post := by
  intro later hlater
  refine ⟨hpermits later hlater, fun reply grown hgrown hexplains more hmore value heq => ?_⟩
  cases heq
  have hsince : known ⊆ more := List.Subset.trans hlater (List.Subset.trans hgrown hmore)
  exact hpost reply more hsince (hexplains.mono hmore)

/-- An action that stores no response. -/
theorem silent {action : Action} (h : ∀ later, Permits config later action) :
    HonestStep config (stepAct action) known fun reply later =>
      Explains config later action reply :=
  act (fun later _ => h later) fun _ _ _ hexplains => hexplains

/-- A storage call whose failure ends the program. -/
theorem store {call : Storage.Call} {post : call.Value → List Answer → Prop}
    (hpermits : ∀ later, known ⊆ later → Permits config later (.storage call))
    (hpost : ∀ value later, known ⊆ later → Explains config later (.storage call) (.ok value) →
      post value later) : HonestStep config (Worker.store call) known post := by
  intro later hlater
  refine ⟨hpermits later hlater, fun reply grown hgrown hexplains more hmore value heq => ?_⟩
  cases reply with
  | error error => cases heq
  | ok found =>
    cases heq
    have hsince : known ⊆ more := List.Subset.trans hlater (List.Subset.trans hgrown hmore)
    exact hpost _ more hsince (hexplains.mono hmore)

/-- A storage call that stores no response. -/
theorem call {call : Storage.Call} (h : ∀ later, Permits config later (.storage call)) :
    HonestStep config (Worker.store call) known fun value later =>
      Explains config later (.storage call) (.ok value) :=
  store (fun later _ => h later) fun _ _ _ hexplains => hexplains

/-- A response that is sourced may be stored. -/
theorem put {region : String} (h : config.Keeps region → Sourced config known url response) :
    HonestStep config (Worker.store (.put region url response)) known fun _ _ => True :=
  store (fun _ hlater hregion => (h hregion).mono hlater) fun _ _ _ _ => trivial

theorem note {event : Event} {level : Log.Level} {message : String} {fields : Log.Fields}
    {key : Option String} :
    HonestStep config (stepNote event level message fields key) known fun _ _ => True :=
  silent fun _ => trivial

end HonestStep

/-! ## The operations -/

variable {worker : Worker}

/-- Fetched responses may be stored under the URLs they were fetched from. -/
theorem honest_storeAll (region : String) : ∀ (fetched : List (Request × Response)) {known},
    (∀ pair ∈ fetched, Sourced config known pair.1.url pair.2) →
      HonestStep config (storeAll region fetched) known fun _ _ => True
  | [], _, _ => .ret
  | pair :: rest, _, h => by
    refine .bind (.put fun _ => h pair List.mem_cons_self) fun _ later hlater _ => ?_
    exact honest_storeAll region rest fun other hother =>
      (h other (List.mem_cons_of_mem _ hother)).mono hlater

/-- The responses of a batch that succeeds are sourced. -/
theorem honest_fetchBatch (requests : List Request) :
    HonestStep config (fetchBatch requests) known fun result later =>
      ∀ fetched, result = .ok fetched →
        ∀ pair ∈ fetched, Sourced config later pair.1.url pair.2 := by
  refine .bind (.silent fun _ => trivial)
    fun arrivals later _ harrivals => .pure fun last hlast fetched houtcome pair hpair => ?_
  obtain ⟨_, _, _, hsuccess⟩ := Fetch.Batch.mem_of_outcome houtcome hpair
  exact ⟨⟨pair.1, hlast (harrivals fetched houtcome hpair), .inl rfl⟩, .inl hsuccess⟩

theorem honest_install (worker : Worker) :
    HonestStep config worker.install known fun _ _ => True := by
  refine .andThen .note fun _ _ => ?_
  refine .andThen (.silent fun _ => trivial) fun _ _ => ?_
  refine .andThen (.call fun _ => trivial) fun _ _ => ?_
  refine .andThen (.call fun _ => trivial) fun _ _ => ?_
  refine .bind (honest_fetchBatch _) fun result later _ hresult => ?_
  cases result with
  | error error => exact .andThen .note fun _ _ => .throw
  | ok fetched =>
    refine .andThen (honest_storeAll _ fetched (hresult fetched rfl)) fun _ _ => ?_
    exact .andThen .note fun _ _ => .ret

theorem honest_downloadOffline (worker : Worker) :
    HonestStep config worker.downloadOffline known fun _ _ => True := by
  refine .andThen (.call fun _ => trivial) fun _ _ => ?_
  refine .andThen (.call fun _ => trivial) fun _ _ => ?_
  dsimp only
  split
  · exact .andThen .note fun _ _ => .ret
  · refine .bind (honest_fetchBatch _) fun result later _ hresult => ?_
    cases result with
    | error error => exact .andThen .note fun _ _ => .throw
    | ok fetched =>
      refine .andThen (honest_storeAll _ fetched (hresult fetched rfl)) fun _ _ => ?_
      exact .andThen .note fun _ _ => .ret

/-- A response may be stored if it is sourced; a failure to store it is only noted. -/
theorem honest_fill (worker : Worker) (key complaint : String)
    (h : Sourced config known url response) :
    HonestStep config (worker.fill key url response complaint) known fun _ _ => True := by
  refine .bind (.act (fun _ hlater _ => h.mono hlater) fun _ _ _ _ => trivial)
    fun reply _ _ _ => ?_
  cases reply with
  | ok _ => exact .ret
  | error error => exact .note

/-- An answer to a request for a key may be stored under the URL of the key. -/
theorem sourced_of_requestKey? {request : Request} {key : String}
    (hkey : Key.requestKey? config.origin request.url = some key)
    (hanswer : (request, response) ∈ known)
    (hsuccess : key = Key.root ∨ response.isSuccess = true) :
    Sourced config known (config.urlFor key) response where
  answered := ⟨request, hanswer, .inr ⟨key, hkey, rfl⟩⟩
  success := by
    rcases hsuccess with rfl | hsuccess
    · exact .inr rfl
    · exact .inl hsuccess

theorem honest_cacheFirst {request : Request} {key : String}
    (hkey : Key.requestKey? worker.config.origin request.url = some key) :
    HonestStep worker.config (worker.cacheFirst request key (worker.urlFor key)) known
      fun _ _ => True := by
  refine .andThen (.call fun _ => trivial) fun _ _ => ?_
  refine .andThen (.call fun _ => trivial) fun found _ => ?_
  cases found with
  | some cached => exact .ret
  | none =>
    refine .bind (.silent fun _ => trivial) fun result later _ hresult => ?_
    cases result with
    | error error => exact .throw
    | ok response =>
      dsimp only
      split
      next hsuccess =>
        have hsourced := sourced_of_requestKey? hkey (hresult response rfl) (.inr hsuccess)
        exact .andThen (honest_fill worker key _ hsourced) fun _ _ => .ret
      next => exact .ret

theorem honest_networkFirst {request : Request}
    (hkey : Key.requestKey? worker.config.origin request.url = some Key.root) :
    HonestStep worker.config (worker.networkFirst request Key.root (worker.urlFor Key.root)) known
      fun _ _ => True := by
  refine .andThen (.call fun _ => trivial) fun _ _ => ?_
  refine .bind (.silent fun _ => trivial) fun result later _ hresult => ?_
  cases result with
  | ok response =>
    have hsourced := sourced_of_requestKey? hkey (hresult response rfl) (.inl rfl)
    exact .andThen (honest_fill worker Key.root _ hsourced) fun _ _ => .ret
  | error error =>
    refine .andThen (.call fun _ => trivial) fun found _ => ?_
    cases found with
    | some cached => exact .andThen .note fun _ _ => .ret
    | none => exact .throw

/-- A response is stored only under the URL of the key that was asked for. -/
theorem honest_handleFetch (worker : Worker) (request : Request) :
    HonestStep worker.config (worker.handleFetch request) known fun _ _ => True := by
  rw [handleFetch]
  split
  next => exact .ret
  next key hintercepted =>
    obtain ⟨_, hkey, _⟩ := interceptedKey?_eq_some_iff.mp hintercepted
    dsimp only
    split
    next hroot =>
      obtain rfl : key = Key.root := eq_of_beq hroot
      refine .andThen (honest_networkFirst hkey) fun _ _ => ?_
      exact .andThen .note fun _ _ => .ret
    next =>
      refine .andThen (honest_cacheFirst hkey) fun _ _ => ?_
      exact .andThen .note fun _ _ => .ret

theorem honest_handleMessage (worker : Worker) (payload : String) :
    HonestStep config (worker.handleMessage payload) known fun _ _ => True := by
  rw [handleMessage]
  split
  · exact .andThen .note fun _ _ => .ret
  · exact .andThen (.silent fun _ => trivial) fun _ _ => .ret
  · exact .andThen (honest_downloadOffline worker) fun _ _ => .ret

/-! ### Activating -/

/-- What is found among the staged entries may be stored under the same URL. -/
theorem honest_copyEach {target source : String} (hsource : config.Keeps source) :
    ∀ (keys : List String) {known}, HonestStep config (copyEach target source keys) known
      fun _ _ => True
  | [], _ => .ret
  | key :: rest, _ => by
    refine .bind (.call fun _ => trivial) fun found later _ hfound => ?_
    cases found with
    | none => exact honest_copyEach hsource rest
    | some response =>
      refine .andThen (.put fun _ => hfound hsource response rfl) fun _ _ => ?_
      exact .andThen (honest_copyEach hsource rest) fun _ _ => .ret

theorem honest_readRecord (worker : Worker) :
    HonestStep config worker.readRecord known fun _ _ => True := by
  refine .andThen (.call fun _ => trivial) fun found _ => ?_
  cases found with
  | none => exact .ret
  | some response =>
    dsimp only
    cases Manifest.ofBytes response.body with
    | ok manifest => exact .ret
    | error fault => exact .throw

theorem honest_evict (worker : Worker) (previous : Manifest) : ∀ (urls : List String) {known},
    HonestStep config (worker.evict previous urls) known fun _ _ => True
  | [], _ => .ret
  | url :: rest, _ => by
    rw [evict]
    split
    · exact .andThen (honest_evict worker previous rest) fun _ _ => .ret
    · refine .andThen (.call fun _ => trivial) fun _ _ => ?_
      exact .andThen (honest_evict worker previous rest) fun _ _ => .ret

/-- The region of the record is none of those in which responses are stored. -/
theorem not_keeps_records (h : worker.config.regions.all.Nodup) :
    ¬ worker.config.Keeps worker.records := by
  obtain ⟨_, hcr, htr⟩ := ne_of_nodup h
  rintro (heq | heq)
  · exact hcr heq.symm
  · exact htr heq.symm

theorem honest_promote (h : worker.config.regions.all.Nodup) :
    HonestStep worker.config worker.promote known fun _ _ => True := by
  rw [promote, copyInto_eq]
  refine .andThen (.andThen (.call fun _ => trivial) fun keys _ =>
    honest_copyEach (.inr rfl) keys) fun _ _ => ?_
  refine .andThen (.call fun _ => trivial) fun _ _ => ?_
  refine .andThen (.put fun hkeeps => absurd hkeeps (not_keeps_records h)) fun _ _ => ?_
  exact .andThen (.silent fun _ => trivial) fun _ _ => .ret

theorem honest_reconcile (h : worker.config.regions.all.Nodup) :
    HonestStep worker.config worker.reconcile known fun _ _ => True := by
  refine .andThen (.call fun _ => trivial) fun _ _ => ?_
  refine .andThen (.call fun _ => trivial) fun _ _ => ?_
  refine .andThen (.call fun _ => trivial) fun _ _ => ?_
  refine .andThen (honest_readRecord worker) fun found _ => ?_
  cases found with
  | none =>
    refine .andThen (.call fun _ => trivial) fun _ _ => ?_
    refine .andThen (.call fun _ => trivial) fun _ _ => ?_
    exact .andThen (honest_promote h) fun _ _ => .ret
  | some previous =>
    refine .andThen (.call fun _ => trivial) fun urls _ => ?_
    refine .andThen (honest_evict worker previous urls) fun _ _ => ?_
    exact .andThen (honest_promote h) fun _ _ => .ret

/-- To clear regions stores nothing. -/
theorem honest_clear : ∀ (regions : List String) {known},
    Honest config (fun _ _ => True) (clear regions) known
  | [], _ => fun _ _ => trivial
  | region :: rest, _ => by
    show Honest config _ ((act (.storage (.delete region))).bind _) _
    refine Honest.bind (.silent fun _ => trivial) fun reply _ _ _ => ?_
    cases reply with
    | ok _ => exact honest_clear rest
    | error error =>
      show Honest config _ ((act (.log _)).bind fun _ => clear rest) _
      exact Honest.bind (.silent fun _ => trivial) fun _ _ _ _ => honest_clear rest

theorem honest_noteActivation : ∀ outcome : Activation,
    Honest config (fun _ _ => True) (noteActivation outcome) known
  | .fresh _ => .silent fun _ => trivial
  | .upgraded _ _ _ => .silent fun _ => trivial
  | .reset _ => fun _ _ => trivial

theorem honest_conclude (worker : Worker) (result : Except WorkerError Activation) :
    Honest config (fun _ _ => True) (worker.conclude result) known := by
  have hlast : ∀ (outcome : Activation) {later}, Honest config (fun _ _ => True)
      (do act .endActivation; return outcome) later :=
    fun _ => Honest.bind (.silent fun _ => trivial)
      fun _ _ _ _ _ _ => trivial
  cases result with
  | ok outcome => exact Honest.bind (honest_noteActivation outcome) fun _ _ _ _ => hlast outcome
  | error error =>
    refine Honest.bind (.silent fun _ => trivial) fun _ _ _ _ => ?_
    exact Honest.bind (honest_clear _) fun _ _ _ _ => hlast _

theorem honest_activate (h : worker.config.regions.all.Nodup) :
    Honest worker.config (fun _ _ => True) worker.activate known := by
  rw [activate_eq]
  refine Honest.bind (.silent fun _ => trivial) fun _ _ _ _ => ?_
  exact Honest.bind (honest_reconcile h) fun result _ _ _ => honest_conclude worker result

/-- Every operation is honest, whatever has been answered before. -/
theorem honest_routine (h : worker.config.regions.all.Nodup) (operation : Operation) :
    Honest worker.config (fun _ _ => True) (operation.routine worker) known := by
  cases operation with
  | install => exact Honest.bind (honest_install worker) fun _ _ _ _ _ _ => trivial
  | activate => exact Honest.bind (honest_activate h) fun _ _ _ _ _ _ => trivial
  | handleFetch request =>
    exact Honest.bind (honest_handleFetch worker request) fun _ _ _ _ _ _ => trivial
  | handleMessage payload =>
    exact Honest.bind (honest_handleMessage worker payload) fun _ _ _ _ _ _ => trivial
  | downloadOffline =>
    exact Honest.bind (honest_downloadOffline worker) fun _ _ _ _ _ _ => trivial

/-! ## One step -/

/-- A storage call that is permitted leaves all that is stored sourced. -/
theorem AllSourced.answer {call : Storage.Call} (h : AllSourced config known memory)
    (hpermits : Permits config known (.storage call)) :
    AllSourced config known (Memory.answer call memory).2 := by
  intro region hregion url response hget
  by_cases hcall : call.region? = some region
  · cases call with
    | create name =>
      rw [Memory.answer_create, Memory.entries_opened] at hget
      exact h region hregion url response hget
    | delete name =>
      cases hcall
      rw [Memory.answer, Memory.entries_erase, if_pos rfl] at hget
      cases hget
    | put name key stored =>
      cases hcall
      cases htable : memory.get? region with
      | none =>
        rw [Memory.answer_put_missing htable] at hget
        exact h region hregion url response hget
      | some table =>
        rw [Memory.answer_put htable, Memory.entries_insert, if_pos rfl,
          Table.get?_insert] at hget
        split at hget
        next hurl =>
          cases hget
          exact hurl ▸ hpermits hregion
        next =>
          rw [← Memory.entries_of_get? htable] at hget
          exact h region hregion url response hget
    | remove name key =>
      cases hcall
      rw [Memory.entries_answer_remove, Table.get?_erase] at hget
      split at hget
      · cases hget
      · exact h region hregion url response hget
    | _ => exact h region hregion url response hget
  · rw [Memory.entries_congr (Memory.answer_frame call memory hcall)] at hget
    exact h region hregion url response hget

/-- What a storage call finds is sourced if all that is stored is. -/
theorem AllSourced.explains (h : AllSourced config known memory) (call : Storage.Call) :
    Explains config known (.storage call) (Memory.answer call memory).1 := by
  cases call with
  | find region url =>
    exact fun hregion response hfound => h region hregion url response (Except.ok.inj hfound)
  | _ => trivial

/-- A storage call that is refused finds nothing. -/
theorem explains_error (call : Storage.Call) (error : StorageError) :
    Explains config known (.storage call) (.error error) := by
  cases call with
  | find region url => exact fun _ _ hfound => by cases hfound
  | _ => trivial

theorem explains_word {action : Action} (h : action.IsWord) (reply : action.Reply) :
    Explains config known action reply := by
  cases action with
  | storage call => cases h
  | fetch request => cases h
  | fetchAll requests => cases h
  | _ => trivial

/-- A task that stores only what is sourced, and has been answered only what is known. -/
structure Task.Trusted (config : Config) (known : List Answer) (task : Task) : Prop where
  honest : Honest config (fun _ _ => True) task.rest known
  arrived : ∀ i request response, task.arrived i = some (request, .ok response) →
    (request, response) ∈ known

theorem Task.Trusted.mono {task : Task} (h : task.Trusted config known) (hmore : known ⊆ later) :
    task.Trusted config later :=
  ⟨h.honest.mono hmore, fun i request response harrived =>
    hmore (h.arrived i request response harrived)⟩

theorem Task.Trusted.ready {rest : Routine Unit}
    (h : Honest config (fun _ _ => True) rest known) : (Task.ready rest).Trusted config known :=
  ⟨h, fun _ _ _ harrived => by cases harrived⟩

/-- A step of a trusted task leaves it trusted, and all that is stored sourced. -/
theorem Task.Step.trusted {after : Memory} {task next : Task} {fresh : List Answer}
    (hstep : task.Step memory after fresh next) (hstored : AllSourced config known memory)
    (htask : task.Trusted config known) :
    AllSourced config (known ++ fresh) after ∧ next.Trusted config (known ++ fresh) := by
  have hgrown : known ⊆ known ++ fresh := List.subset_append_left _ _
  obtain ⟨hhonest, harrived⟩ := htask
  cases hstep with
  | refused error =>
    obtain ⟨_, hnext⟩ := hhonest known (List.Subset.refl _)
    exact ⟨hstored.mono hgrown, .ready (hnext _ _ hgrown (explains_error _ error))⟩
  | @stored call =>
    obtain ⟨hpermits, hnext⟩ := hhonest known (List.Subset.refl _)
    refine ⟨(hstored.answer hpermits).mono hgrown, .ready (hnext _ _ hgrown ?_)⟩
    exact (hstored.explains call).mono hgrown
  | @fetched request _ _ result =>
    obtain ⟨_, hnext⟩ := hhonest known (List.Subset.refl _)
    refine ⟨hstored.mono hgrown, .ready (hnext _ _ hgrown fun response hresult => ?_)⟩
    rw [hresult]
    exact List.mem_append_right _ (List.mem_singleton_self _)
  | @arrives requests _ arrived i request result _ _ =>
    refine ⟨hstored.mono hgrown, hhonest.mono hgrown, fun j asked response hj => ?_⟩
    dsimp only at hj
    split at hj
    · cases hj
      exact List.mem_append_right _ (List.mem_singleton_self _)
    · exact hgrown (harrived j asked response hj)
  | @completed requests _ arrived arrivals hall =>
    obtain ⟨_, hnext⟩ := hhonest known (List.Subset.refl _)
    refine ⟨hstored.mono hgrown, .ready (hnext _ _ hgrown fun fetched houtcome pair hpair => ?_)⟩
    obtain ⟨i, hi⟩ := List.getElem?_of_mem (mem_batchExchanges houtcome hpair)
    exact hgrown (harrived i pair.1 pair.2 (hall i _ hi))
  | aborted arrivals _ _ _ houtcome =>
    obtain ⟨_, hnext⟩ := hhonest known (List.Subset.refl _)
    refine ⟨hstored.mono hgrown, .ready (hnext _ _ hgrown fun fetched hfetched => ?_)⟩
    cases houtcome.symm.trans hfetched
  | told reply hword =>
    obtain ⟨_, hnext⟩ := hhonest known (List.Subset.refl _)
    exact ⟨hstored.mono hgrown, .ready (hnext _ _ hgrown (explains_word hword reply))⟩

/-! ## Every world that is reached -/

/-- All that is stored is sourced, and every task is to be trusted. -/
structure Sound (config : Config) (world : World) : Prop where
  stored : AllSourced config world.answered world.memory
  tasks : ∀ task ∈ world.tasks, task.Trusted config world.answered

theorem sound_initial (config : Config) : Sound config .initial where
  stored := fun _ _ _ _ hget => by cases hget
  tasks := fun _ hmem => by cases hmem

theorem Sound.step (hnodup : config.regions.all.Nodup) {world next : World}
    (h : Sound config world) (hstep : World.Step config world next) : Sound config next := by
  cases hstep with
  | begin worker operation hconfig =>
    subst hconfig
    refine ⟨h.stored, fun task hmem => ?_⟩
    rcases List.mem_append.mp hmem with hmem | hmem
    · exact h.tasks task hmem
    · rw [List.mem_singleton.mp hmem]
      exact .ready (honest_routine hnodup operation)
  | @proceed memory after front back task last answered fresh hstep =>
    have htask := h.tasks task (List.mem_append_right _ List.mem_cons_self)
    obtain ⟨hstored, hlast⟩ := hstep.trusted h.stored htask
    refine ⟨hstored, fun other hmem => ?_⟩
    have hother : other ∈ front ++ task :: back → other.Trusted config (answered ++ fresh) :=
      fun hbefore => (h.tasks other hbefore).mono (List.subset_append_left _ _)
    rcases List.mem_append.mp hmem with hmem | hmem
    · exact hother (List.mem_append_left _ hmem)
    · rcases List.mem_cons.mp hmem with rfl | hmem
      · exact hlast
      · exact hother (List.mem_append_right _ (List.mem_cons_of_mem _ hmem))

theorem sound_of_reached (hnodup : config.regions.all.Nodup) {world : World}
    (h : World.Reached config world) : Sound config world := by
  induction h with
  | refl => exact sound_initial config
  | tail _ hstep ih => exact ih.step hnodup hstep

/-- Whatever interleaves, only answers of the network are stored, each under a URL of its own. -/
theorem stored_only_answers (hnodup : config.regions.all.Nodup) {world : World}
    (h : World.Reached config world) :
    ∀ region, region = config.regions.content ∨ region = config.regions.temp →
      ∀ url response, (Memory.entries world.memory region).get? url = some response →
        (∃ request, (request, response) ∈ world.answered ∧
          (request.url = url ∨
            ∃ key, Key.requestKey? config.origin request.url = some key ∧
              config.urlFor key = url)) ∧
        (response.isSuccess = true ∨ url = config.urlFor Key.root) := by
  intro region hregion url response hget
  obtain ⟨hanswered, hsuccess⟩ :=
    (sound_of_reached hnodup h).stored region hregion url response hget
  exact ⟨hanswered, hsuccess⟩

/-- An installation begins, a fetch of the same resource goes by, and the installation goes on. -/
theorem stored_only_answers_of_overtaken :
    let worker : Worker := ⟨.ofOrigin "https://a", ⟨Table.empty.insert "k" "1", ["k"]⟩⟩
    worker.config.regions.all.Nodup ∧ ∃ world, World.Reached worker.config world ∧
      world.tasks.length = 2 ∧
      ∀ region, region = worker.config.regions.content ∨ region = worker.config.regions.temp →
        (Memory.entries world.memory region).get? (worker.urlFor "k") = some (.json [0]) ∧
        ∃ request, (request, .json [0]) ∈ world.answered := by
  dsimp only
  have hnodup : (Config.ofOrigin "https://a").regions.all.Nodup := by decide
  obtain ⟨answered, hreached⟩ := reached_overtaken (.serving (.json [0]))
    ⟨.ofOrigin "https://a", ⟨Table.empty.insert "k" "1", ["k"]⟩⟩ .install
    (.handleFetch (.get "https://a/k?v=1"))
  refine ⟨hnodup, _, hreached, rfl, fun region hregion => ?_⟩
  have hstored : (Memory.entries (Operation.install.after
      ⟨.ofOrigin "https://a", ⟨Table.empty.insert "k" "1", ["k"]⟩⟩ (.serving (.json [0]))
      ((Operation.handleFetch (.get "https://a/k?v=1")).after
        ⟨.ofOrigin "https://a", ⟨Table.empty.insert "k" "1", ["k"]⟩⟩ (.serving (.json [0]))
        .empty)) region).get?
        (Worker.urlFor ⟨.ofOrigin "https://a", ⟨Table.empty.insert "k" "1", ["k"]⟩⟩ "k") =
          some (.json [0]) := by
    rcases hregion with rfl | rfl
    · decide +kernel
    · decide +kernel
  obtain ⟨⟨request, hanswer, _⟩, _⟩ :=
    stored_only_answers hnodup hreached region hregion _ _ hstored
  exact ⟨hstored, request, hanswer⟩

end Worker

end AssetCache
