import AssetCache.Proofs.Json.Stored
import AssetCache.Proofs.Worker.Reconcile

/-!
# Activation is all or reset

An activation either brings the content up to date, records the manifest of its build
and claims the clients once, or it clears the three regions and claims no clients.

The two main results say this from two sides. `activate_effect` gives the exact effect
where no storage call is refused, entry by entry. `activate_all_or_reset` lets any
storage call be refused, those of the clearing included.

Neither says what a second activation does that begins before the first has ended.
-/

set_option autoImplicit false

namespace AssetCache.Worker

open Storage (Memory)

variable {worker : Worker} {around : Surroundings} {memory : Memory}

/-! ## Clearing -/

theorem only_clear {ok : Action → Prop} (hlog : ∀ note, ok (.log note)) :
    ∀ regions : List String, (∀ region ∈ regions, ok (.storage (.delete region))) →
      Program.Only (S := signature) ok (clear regions)
  | [], _ => .done _
  | region :: rest, h => by
    refine .call (h region (.head _)) fun reply => ?_
    have hrest := only_clear hlog rest fun name hname => h name (.tail _ hname)
    cases reply with
    | ok _ => exact hrest
    | error error => exact .call (hlog _) fun _ => hrest

theorem within_clear (regions : List String) :
    Program.Only (S := signature) (Within regions) (clear regions) :=
  only_clear (fun _ => trivial) regions fun region hregion => ⟨region, hregion, rfl⟩

/-- The note that is made of a region that cannot be deleted. -/
def spareNote (region : String) (error : StorageError) : Log.Note :=
  ⟨.activate, none, .error, "failed to delete cache region",
    Log.Fields.text (Log.Fields.text .empty "region" region) "error" error.message⟩

section Clearing

variable {scene : Scene} {region : String}

theorem run_clear_nil : around.run (clear []) scene = ((), scene) := rfl

/-- A region that is deleted is gone before the next one is cleared. -/
theorem run_clear_of_answered (h : around.refuse scene.deeds.length (.delete region) = none)
    (rest : List String) :
    around.run (clear (region :: rest)) scene = around.run (clear rest)
      (scene.after (.storage (.delete region)) (.ok (scene.memory.contains region))
        (scene.memory.erase region)) := by
  show around.run (_ : Routine Unit) (around.answer (.storage (.delete region)) scene).2 = _
  simp only [Surroundings.answer, Surroundings.reply, h]
  rfl

/-- A region that cannot be deleted is noted. -/
theorem run_clear_of_refused {error : StorageError}
    (h : around.refuse scene.deeds.length (.delete region) = some error) (rest : List String) :
    around.run (clear (region :: rest)) scene = around.run (clear rest)
      ((scene.after (.storage (.delete region)) (.error error) scene.memory).after
        (.log (spareNote region error)) () scene.memory) := by
  show around.run (_ : Routine Unit) (around.answer (.storage (.delete region)) scene).2 = _
  simp only [Surroundings.answer, Surroundings.reply, h]
  rfl

end Clearing

/-- Regions that can be deleted are absent once they have been cleared. -/
theorem get?_of_clear (hdelete : ∀ count region, around.refuse count (.delete region) = none) :
    ∀ (regions : List String) (scene : Scene), ∀ region ∈ regions,
      (around.run (clear regions) scene).2.memory.get? region = none
  | first :: rest, scene, region, hregion => by
    rw [run_clear_of_answered (hdelete _ _)]
    by_cases hrest : region ∈ rest
    · exact get?_of_clear hdelete rest _ region hrest
    · obtain rfl : region = first := (List.mem_cons.mp hregion).resolve_right hrest
      rw [get?_of_within (within_clear rest) hrest]
      show (scene.memory.erase region).get? region = none
      rw [Table.get?_erase, if_pos rfl]

/-- A clearing was attempted, and this became of each region. -/
structure Cleared (regions : List String) (before after : Memory) (deeds : List Deed) :
    Prop where
  /-- Each region is to be deleted once, and no other storage call is made. -/
  attempted : deeds.filterMap Deed.call? = regions.map Storage.Call.delete
  /-- A region that was deleted is absent. -/
  absent : ∀ region ∈ regions, ∀ existed,
    (⟨.storage (.delete region), .ok existed⟩ : Deed) ∈ deeds → after.get? region = none
  /-- A region whose deletion failed is as it was. -/
  spared : ∀ region ∈ regions, ∀ error,
    (⟨.storage (.delete region), .error error⟩ : Deed) ∈ deeds →
      after.get? region = before.get? region

namespace Cleared

variable {regions : List String} {before middle after : Memory} {deeds : List Deed}

theorem nil : Cleared [] before before [] where
  attempted := rfl
  absent := fun region hregion => by cases hregion
  spared := fun region hregion => by cases hregion

/-- Deeds before and after a clearing are none of it if they are no storage calls. -/
theorem pad {first last : List Deed} (hfirst : first.filterMap Deed.call? = [])
    (hlast : last.filterMap Deed.call? = []) (h : Cleared regions before after deeds) :
    Cleared regions before after (first ++ deeds ++ last) := by
  have hmem : ∀ {region : String} {reply : Except StorageError Bool},
      (⟨.storage (.delete region), reply⟩ : Deed) ∈ first ++ deeds ++ last →
        (⟨.storage (.delete region), reply⟩ : Deed) ∈ deeds := by
    intro region reply hdeed
    have hnot : ∀ others : List Deed, others.filterMap Deed.call? = [] →
        (⟨.storage (.delete region), reply⟩ : Deed) ∉ others := by
      intro others hothers hin
      have hcall := List.mem_filterMap.mpr ⟨_, hin, (rfl : Deed.call? _ = some _)⟩
      rw [hothers] at hcall
      cases hcall
    rcases List.mem_append.mp hdeed with hdeed | hdeed
    · exact (List.mem_append.mp hdeed).resolve_left (hnot first hfirst)
    · exact absurd hdeed (hnot last hlast)
  refine ⟨?_, fun region hregion existed hdeed => ?_, fun region hregion error hdeed => ?_⟩
  · rw [List.filterMap_append, List.filterMap_append, hfirst, hlast, h.attempted,
      List.nil_append, List.append_nil]
  · exact h.absent region hregion existed (hmem hdeed)
  · exact h.spared region hregion error (hmem hdeed)

/-- One deletion more, made first, of a region that is not deleted again. -/
theorem cons {region : String} {reply : Except StorageError Bool} (hregion : region ∉ regions)
    (h : Cleared regions middle after deeds) (hframe : after.get? region = middle.get? region)
    (hother : ∀ other, other ≠ region → middle.get? other = before.get? other)
    (hok : ∀ existed, reply = .ok existed → middle.get? region = none)
    (herror : ∀ error, reply = .error error → middle.get? region = before.get? region) :
    Cleared (region :: regions) before after (⟨.storage (.delete region), reply⟩ :: deeds) := by
  have hmem : ∀ {name : String} {reply' : Except StorageError Bool},
      (⟨.storage (.delete name), reply'⟩ : Deed) ∈ deeds → name ∈ regions := by
    intro name reply' hdeed
    have hcall := List.mem_filterMap.mpr ⟨_, hdeed, (rfl : Deed.call? _ = some _)⟩
    rw [h.attempted] at hcall
    obtain ⟨name', hname', heq⟩ := List.mem_map.mp hcall
    cases heq
    exact hname'
  refine ⟨?_, fun name _ existed hdeed => ?_, fun name _ error hdeed => ?_⟩
  · rw [List.map_cons, ← h.attempted]
    rfl
  · rcases List.mem_cons.mp hdeed with heq | hdeed
    · cases heq
      rw [hframe, hok existed rfl]
    · exact h.absent name (hmem hdeed) existed hdeed
  · rcases List.mem_cons.mp hdeed with heq | hdeed
    · cases heq
      rw [hframe, herror error rfl]
    · have hne : name ≠ region := fun heq => hregion (heq ▸ hmem hdeed)
      rw [h.spared name (hmem hdeed) error hdeed, hother name hne]

end Cleared

/-- A clearing goes on to the next region whatever became of one. -/
theorem cleared_clear (around : Surroundings) : ∀ (regions : List String) (scene : Scene),
    regions.Nodup → ∃ deeds, (around.run (clear regions) scene).2.deeds = scene.deeds ++ deeds ∧
      Cleared regions scene.memory (around.run (clear regions) scene).2.memory deeds
  | [], scene, _ => ⟨[], (List.append_nil _).symm, .nil⟩
  | region :: rest, scene, hnodup => by
    obtain ⟨hregion, hrest⟩ := List.nodup_cons.mp hnodup
    cases hrefuse : around.refuse scene.deeds.length (.delete region) with
    | none =>
      let next : Scene := scene.after (.storage (.delete region))
        (.ok (scene.memory.contains region)) (scene.memory.erase region)
      obtain ⟨deeds, hdeeds, hcleared⟩ := cleared_clear around rest next hrest
      rw [run_clear_of_answered hrefuse]
      refine ⟨⟨.storage (.delete region), .ok (scene.memory.contains region)⟩ :: deeds, ?_, ?_⟩
      · rw [hdeeds]
        exact List.append_assoc _ _ _
      · refine hcleared.cons hregion (get?_of_within (within_clear rest) hregion around next)
          (fun other hne => ?_) (fun _ _ => ?_) (fun error heq => by cases heq)
        · show (scene.memory.erase region).get? other = _
          rw [Table.get?_erase, if_neg hne]
        · show (scene.memory.erase region).get? region = none
          rw [Table.get?_erase, if_pos rfl]
    | some error =>
      let noted : Deed := ⟨.log (spareNote region error), ()⟩
      let next : Scene := (scene.after (.storage (.delete region)) (.error error)
        scene.memory).after (.log (spareNote region error)) () scene.memory
      obtain ⟨deeds, hdeeds, hcleared⟩ := cleared_clear around rest next hrest
      rw [run_clear_of_refused hrefuse]
      refine ⟨⟨.storage (.delete region), .error error⟩ :: ([noted] ++ deeds ++ []), ?_, ?_⟩
      · rw [hdeeds]
        simp only [next, noted, Scene.after, List.append_assoc, List.append_nil]
        rfl
      · exact (hcleared.pad rfl rfl).cons hregion
          (get?_of_within (within_clear rest) hregion around next) (fun _ _ => rfl)
          (fun _ heq => by cases heq) (fun _ _ => rfl)

/-! ## After the reconciliation -/

/-- What an activation does with the result of its reconciliation. -/
def conclude (worker : Worker) : Except WorkerError Activation → Routine Activation
  | .ok outcome => do
    noteActivation outcome
    act .endActivation
    return outcome
  | .error error => do
    note .activate .error "Failed to upgrade asset cache"
      (Log.Fields.text .empty "error" error.message)
    clear worker.config.regions.all
    act .endActivation
    return .reset error.message

/-- The scene in which the reconciliation of an activation begins. -/
def begun (around : Surroundings) (memory : Memory) : Scene :=
  (around.answer .beginActivation (Scene.start memory)).2

theorem begun_claims (around : Surroundings) (memory : Memory) :
    (begun around memory).claims = 0 := rfl

/-- The result of the reconciliation of an activation, and the scene it leaves. -/
def reconciled (worker : Worker) (around : Surroundings) (memory : Memory) :
    Except WorkerError Activation × Scene :=
  around.perform worker.reconcile (begun around memory)

/-- An activation is a reconciliation and what is done with its result. -/
theorem activate_eq (worker : Worker) :
    worker.activate = (do
      act .beginActivation
      let result ← worker.reconcile.run
      worker.conclude result) := by
  rw [activate]
  refine congrArg (act .beginActivation >>= ·) (funext fun _ => ?_)
  refine congrArg (worker.reconcile.run >>= ·) (funext fun result => ?_)
  cases result with
  | ok outcome => rfl
  | error error => rfl

/-- The rest of an activation, once it has the lock. -/
def locked (worker : Worker) : Routine Activation := worker.reconcile.run.bind worker.conclude

theorem activate_eq_call (worker : Worker) :
    worker.activate = .call .beginActivation fun _ => worker.locked :=
  activate_eq worker

/-- Once it has the lock, an activation is a reconciliation and what is done with its result. -/
theorem run_locked (worker : Worker) (around : Surroundings) (scene : Scene) :
    around.run worker.locked scene =
      around.run (worker.conclude (around.perform worker.reconcile scene).1)
        (around.perform worker.reconcile scene).2 := by
  rw [locked, Surroundings.run_bind, Surroundings.perform]

theorem run_activate_eq (worker : Worker) (around : Surroundings) (scene : Scene) :
    around.run worker.activate scene =
      around.run worker.locked (around.answer .beginActivation scene).2 := by
  rw [activate_eq_call]
  rfl

theorem run_activate (worker : Worker) (around : Surroundings) (memory : Memory) :
    around.run worker.activate (Scene.start memory) =
      around.run (worker.conclude (reconciled worker around memory).1)
        (reconciled worker around memory).2 :=
  (run_activate_eq worker around _).trans (run_locked worker around (begun around memory))

theorem only_noteActivation {ok : Action → Prop} (hlog : ∀ note, ok (.log note)) :
    ∀ outcome, Program.Only (S := signature) ok (noteActivation outcome)
  | .fresh _ => .perform (hlog _)
  | .upgraded _ _ _ => .perform (hlog _)
  | .reset _ => .done _

theorem only_conclude {ok : Action → Prop} (hlog : ∀ note, ok (.log note))
    (hend : ok .endActivation) (result : Except WorkerError Activation)
    (hclear : ∀ error, result = .error error →
      ∀ region ∈ worker.config.regions.all, ok (.storage (.delete region))) :
    Program.Only (S := signature) ok (worker.conclude result) := by
  have hlast : ∀ outcome : Activation,
      Program.Only (S := signature) ok (do act .endActivation; return outcome) :=
    fun _ => .call hend fun _ => .done _
  cases result with
  | ok outcome => exact (only_noteActivation hlog outcome).bind fun _ => hlast outcome
  | error error =>
    refine .call (hlog _) fun _ => ?_
    exact (only_clear hlog _ (hclear error rfl)).bind fun _ => hlast _

/-- What an activation does that has the lock. -/
theorem only_locked {ok : Action → Prop} (hstore : ∀ call, Upkeep worker call → ok (.storage call))
    (hclaim : ok .claimClients) (hlog : ∀ note, ok (.log note)) (hend : ok .endActivation) :
    Program.Only (S := signature) ok worker.locked :=
  (only_reconcile hstore hclaim).bind fun result =>
    only_conclude hlog hend result fun _ _ _ hregion => hstore _ (.delete hregion)

/-- After a result there is nothing to be done to the storage. -/
theorem run_conclude_ok (worker : Worker) (around : Surroundings) (outcome : Activation)
    (scene : Scene) :
    (around.run (worker.conclude (.ok outcome)) scene).1 = outcome ∧
      (around.run (worker.conclude (.ok outcome)) scene).2.memory = scene.memory := by
  refine ⟨?_, ?_⟩
  · cases outcome <;> rfl
  · have hnone : Program.Only (S := signature) (Within []) (worker.conclude (.ok outcome)) :=
      only_conclude (fun _ => trivial) trivial _ fun error heq => by cases heq
    exact Table.ext_get? fun region => get?_of_within hnone List.not_mem_nil around scene

/-- The note that is made of a failure. -/
def failureNote (error : WorkerError) : Log.Note :=
  ⟨.activate, none, .error, "Failed to upgrade asset cache",
    Log.Fields.text .empty "error" error.message⟩

/-- The scene in which the three regions have been cleared after a failure. -/
def clearedScene (worker : Worker) (around : Surroundings) (error : WorkerError) (scene : Scene) :
    Scene :=
  (around.run (clear worker.config.regions.all)
    (scene.after (.log (failureNote error)) () scene.memory)).2

/-- After a failure the three regions are cleared, and its wording is the reason given. -/
theorem run_conclude_error (worker : Worker) (around : Surroundings) (error : WorkerError)
    (scene : Scene) :
    around.run (worker.conclude (.error error)) scene =
      (.reset error.message, (worker.clearedScene around error scene).after .endActivation ()
        (worker.clearedScene around error scene).memory) := by
  show around.run (Program.bind (clear worker.config.regions.all) _)
    (scene.after (.log (failureNote error)) () scene.memory) = _
  rw [Surroundings.run_bind]
  rfl

/-- What was done after a failure is a clearing of the three regions. -/
theorem cleared_conclude (h : worker.config.regions.all.Nodup) (around : Surroundings)
    (error : WorkerError) (scene : Scene) :
    ∃ deeds, (around.run (worker.conclude (.error error)) scene).2.deeds = scene.deeds ++ deeds ∧
      Cleared worker.config.regions.all scene.memory
        (around.run (worker.conclude (.error error)) scene).2.memory deeds := by
  obtain ⟨deeds, hdeeds, hcleared⟩ := cleared_clear around worker.config.regions.all
    (scene.after (.log (failureNote error)) () scene.memory) h
  rw [run_conclude_error]
  refine ⟨[⟨.log (failureNote error), ()⟩] ++ deeds ++ [⟨.endActivation, ()⟩], ?_,
    hcleared.pad rfl rfl⟩
  show (worker.clearedScene around error scene).deeds ++ _ = _
  rw [clearedScene, hdeeds]
  simp only [Scene.after, List.append_assoc]

/-- The end of an activation claims no clients. -/
theorem claims_conclude (worker : Worker) (around : Surroundings)
    (result : Except WorkerError Activation) (scene : Scene) :
    (around.run (worker.conclude result) scene).2.claims = scene.claims := by
  refine claims_run ?_ around scene
  exact only_conclude (fun _ heq => by cases heq) (fun heq => by cases heq) result
    fun _ _ _ _ heq => by cases heq

/-! ## The ends of a reconciliation -/

/-- What the content is made of, given what was recorded. -/
def renewed (worker : Worker) (previous : Option Manifest) (memory : Memory) : Table Response :=
  match previous with
  | none => Memory.entries memory worker.temp
  | some previous =>
    ((Memory.entries memory worker.content).filter (worker.isReusable previous)).insertAll
      (Memory.entries memory worker.temp).entries

/-- What an activation reports that does not fail, given what was recorded. -/
def report (worker : Worker) (previous : Option Manifest) (memory : Memory) : Activation :=
  match previous with
  | none => .fresh (Memory.entries memory worker.temp).keys
  | some previous =>
    .upgraded
      ((Memory.entries memory worker.content).keys.filter fun u => !worker.isReusable previous u)
      ((Memory.entries memory worker.content).keys.filter (worker.isReusable previous))
      (Memory.entries memory worker.temp).keys

/-- A reconciliation that no call of fails is that of the record that there is. -/
theorem settles_reconcile (h : worker.config.regions.all.Nodup) (memory : Memory) :
    (∃ fault, worker.recorded? memory = some (.error fault) ∧
      Settles worker.reconcile memory (.error (.record fault)) (worker.opened memory)) ∨
    ∃ previous, worker.recorded? memory = previous.map .ok ∧
      ∃ after, Settles worker.reconcile memory (.ok (worker.report previous memory)) after ∧
        Promoted worker memory (worker.renewed previous memory) after := by
  cases hrecord : worker.recorded? memory with
  | none => exact .inr ⟨none, rfl, settles_reconcile_fresh h memory hrecord⟩
  | some read =>
    cases read with
    | ok previous =>
      exact .inr ⟨some previous, rfl, settles_reconcile_upgraded h memory hrecord⟩
    | error fault =>
      exact .inl ⟨fault, rfl, settles_reconcile_unreadable worker memory hrecord⟩

/-- The three ends: a storage call failed, the record cannot be read, or all went well. -/
theorem reconciled_cases (h : worker.config.regions.all.Nodup) (around : Surroundings)
    (memory : Memory) :
    (∃ error, (reconciled worker around memory).1 = .error (.storage error) ∧
      (reconciled worker around memory).2.failures = [error]) ∨
    ((reconciled worker around memory).2.failures = [] ∧
      ((∃ fault, worker.recorded? memory = some (.error fault) ∧
        (reconciled worker around memory).1 = .error (.record fault)) ∨
      ∃ previous, worker.recorded? memory = previous.map .ok ∧
        (reconciled worker around memory).1 = .ok (worker.report previous memory) ∧
        Promoted worker memory (worker.renewed previous memory)
          (reconciled worker around memory).2.memory)) := by
  rcases (strict_reconcile worker).run_cases around (begun around memory) with
    ⟨error, hresult, hfailures⟩ | ⟨hcalm, hfailures⟩
  · exact .inl ⟨error, hresult, hfailures⟩
  · refine .inr ⟨hfailures, ?_⟩
    have hrun : reconciled worker around memory =
        around.calm.perform worker.reconcile (begun around memory) := hcalm
    rw [hrun]
    rcases settles_reconcile h memory with
      ⟨fault, hrecord, hsettles⟩ | ⟨previous, hrecord, after, hsettles, hpromoted⟩
    · exact .inl ⟨fault, hrecord, (hsettles around (begun around memory).deeds).1⟩
    · obtain ⟨hresult, hafter⟩ := hsettles around (begun around memory).deeds
      exact .inr ⟨previous, hrecord, hresult, hafter ▸ hpromoted⟩

/-- What a reconciliation does once the record has been read. -/
def reconcileWith (worker : Worker) : Option Manifest → Step Activation
  | none => do
    let _ ← store (.delete worker.content)
    store (.create worker.content)
    return .fresh (← worker.promote)
  | some previous => do
    let urls ← store (.keys worker.content)
    let (evicted, retained) ← worker.evict previous urls
    return .upgraded evicted retained (← worker.promote)

theorem reconcile_eq (worker : Worker) : worker.reconcile = (do
    store (.create worker.content)
    store (.create worker.temp)
    store (.create worker.records)
    worker.readRecord >>= worker.reconcileWith) := by
  rw [reconcile]
  refine congrArg (store _ >>= ·) (funext fun _ => ?_)
  refine congrArg (store _ >>= ·) (funext fun _ => ?_)
  refine congrArg (store _ >>= ·) (funext fun _ => ?_)
  refine congrArg (worker.readRecord >>= ·) (funext fun previous => ?_)
  cases previous <;> rfl

/-- Where the regions are there and the record can be read, a reconciliation goes on from it. -/
theorem reconciled_of_record {previous : Manifest} {response : Response}
    (hthere : ∀ region ∈ worker.config.regions.all, memory.contains region = true)
    (hresponse : (Memory.entries memory worker.records).get? worker.recordUrl = some response)
    (hrecord : Manifest.ofBytes response.body = .ok previous)
    (hcreate : ∀ count region, around.refuse count (.create region) = none)
    (hfind : ∀ count region key, around.refuse count (.find region key) = none) :
    reconciled worker around memory = around.perform (worker.reconcileWith (some previous))
      ⟨memory, [⟨.beginActivation, ()⟩, ⟨.storage (.create worker.content), .ok ()⟩,
        ⟨.storage (.create worker.temp), .ok ()⟩, ⟨.storage (.create worker.records), .ok ()⟩,
        ⟨.storage (.find worker.records worker.recordUrl), .ok (some response)⟩]⟩ := by
  have hopen : ∀ (deeds : List Deed), ∀ region ∈ worker.config.regions.all,
      ∀ next : (Storage.Call.create region).Value → Step Activation,
        around.perform (store (.create region) >>= next) ⟨memory, deeds⟩ =
          around.perform (next ()) ⟨memory, deeds ++ [⟨.storage (.create region), .ok ()⟩]⟩ := by
    intro deeds region hregion next
    refine Surroundings.perform_store_bind_of_answered (hcreate _ _) ?_ next
    rw [Memory.answer, if_pos (hthere region hregion)]
  have hread : ∀ deeds : List Deed, around.perform worker.readRecord ⟨memory, deeds⟩ =
      (.ok (some previous), ⟨memory, deeds ++
        [⟨.storage (.find worker.records worker.recordUrl), .ok (some response)⟩]⟩) := by
    intro deeds
    have hanswer : Memory.answer (.find worker.records worker.recordUrl) memory =
        (.ok (some response), memory) := by
      rw [Memory.answer, hresponse]
    refine Eq.trans (Surroundings.perform_store_bind_of_answered (hfind _ _ _) hanswer _) ?_
    dsimp only
    rw [hrecord]
    rfl
  show around.perform worker.reconcile ⟨memory, [⟨.beginActivation, ()⟩]⟩ = _
  rw [reconcile_eq, hopen _ _ worker.content_mem, hopen _ _ worker.temp_mem,
    hopen _ _ worker.records_mem, Surroundings.perform_bind, hread]
  rfl

/-! ## The exact effect -/

/-- A URL is reusable if its key is listed with one hash before and now. -/
theorem isReusable_iff (worker : Worker) (previous : Manifest) (url : String) :
    worker.isReusable previous url = true ↔
      ∃ key hash, worker.contentKey? url = some key ∧ previous.hash? key = some hash ∧
        worker.build.resources.hash? key = some hash := by
  rw [isReusable]
  cases hkey : worker.contentKey? url with
  | none => simp
  | some key =>
    show Manifest.isUnchangedSince _ _ _ = true ↔ _
    rw [Manifest.isUnchangedSince]
    cases hnew : worker.build.resources.hash? key with
    | none => simp [hnew]
    | some new =>
      cases hold : previous.hash? key with
      | none => simp [hold]
      | some old => simp [hnew, hold]

/-- What was staged hides what was retained. -/
theorem get?_renewed (worker : Worker) (previous : Manifest) (memory : Memory) (url : String) :
    (worker.renewed (some previous) memory).get? url =
      ((Memory.entries memory worker.temp).get? url).or
        (if url ∈ (Memory.entries memory worker.content).keys.filter (worker.isReusable previous)
          then (Memory.entries memory worker.content).get? url else none) := by
  rw [renewed, Table.get?_insertAll_entries, Table.get?_filter]
  refine congrArg _ ?_
  by_cases hmem : url ∈ (Memory.entries memory worker.content).keys
  · simp only [List.mem_filter, hmem, true_and]
  · rw [(Table.get?_eq_none_iff _ _).mpr hmem, ite_self, ite_self]

/-- Every URL of the content is either evicted or retained. -/
theorem mem_evicted_or_retained (keys : List String) (reusable : String → Bool) (url : String) :
    (url ∈ keys ↔ url ∈ keys.filter (fun u => !reusable u) ∨ url ∈ keys.filter reusable) ∧
      (url ∈ keys.filter (fun u => !reusable u) → url ∉ keys.filter reusable) := by
  rw [List.mem_filter, List.mem_filter]
  cases reusable url <;> simp

/-- An activation whose reconciliation ends in a result ends so itself. -/
theorem activate_of_ok (worker : Worker) (around : Surroundings) (memory : Memory)
    {outcome : Activation}
    (hresult : (reconciled worker around memory).1 = .ok outcome) :
    (around.run worker.activate (Scene.start memory)).1 = outcome ∧
      (around.run worker.activate (Scene.start memory)).2.memory =
        (reconciled worker around memory).2.memory ∧
      (around.run worker.activate (Scene.start memory)).2.claims = 1 := by
  have hclaims : (reconciled worker around memory).2.claims =
      (begun around memory).claims + if (reconciled worker around memory).1.isOk then 1 else 0 :=
    claims_reconcile worker around (begun around memory)
  rw [hresult, begun_claims] at hclaims
  rw [run_activate, claims_conclude, hresult, hclaims]
  obtain ⟨houtcome, hmemory⟩ := run_conclude_ok worker around outcome
    (reconciled worker around memory).2
  exact ⟨houtcome, hmemory, rfl⟩

/-- An activation whose reconciliation fails clears the regions and claims no clients. -/
theorem activate_of_error (worker : Worker) (around : Surroundings) (memory : Memory)
    {error : WorkerError}
    (hresult : (reconciled worker around memory).1 = .error error) :
    (around.run worker.activate (Scene.start memory)).1 = .reset error.message ∧
      (around.run worker.activate (Scene.start memory)).2 =
        (worker.clearedScene around error (reconciled worker around memory).2).after
          .endActivation ()
          (worker.clearedScene around error (reconciled worker around memory).2).memory ∧
      (around.run worker.activate (Scene.start memory)).2.claims = 0 := by
  have hclaims : (reconciled worker around memory).2.claims =
      (begun around memory).claims + if (reconciled worker around memory).1.isOk then 1 else 0 :=
    claims_reconcile worker around (begun around memory)
  rw [hresult, begun_claims] at hclaims
  rw [run_activate, claims_conclude, hresult, hclaims, run_conclude_error]
  exact ⟨rfl, rfl, rfl⟩

/-- Regions that are none of the three are left alone, whatever is refused. -/
theorem get?_activate_of_notMem (worker : Worker) (around : Surroundings) (memory : Memory)
    {region : String} (hregion : region ∉ worker.config.regions.all) :
    (around.run worker.activate (Scene.start memory)).2.memory.get? region =
      memory.get? region := by
  have hconclude : Program.Only (S := signature) (Within worker.config.regions.all)
      (worker.conclude (reconciled worker around memory).1) :=
    only_conclude (fun _ => trivial) trivial _ fun _ _ name hname => ⟨name, hname, rfl⟩
  rw [run_activate, get?_of_within hconclude hregion]
  exact get?_of_within (within_reconcile worker) hregion around (begun around memory)

/-- If regions can be deleted, a failed activation leaves none of the three. -/
theorem get?_activate_of_error (worker : Worker) (memory : Memory)
    (hdelete : ∀ count region, around.refuse count (.delete region) = none) {error : WorkerError}
    (hresult : (reconciled worker around memory).1 = .error error) {region : String}
    (hregion : region ∈ worker.config.regions.all) :
    (around.run worker.activate (Scene.start memory)).2.memory.get? region = none := by
  rw [(activate_of_error worker around memory hresult).2.1]
  exact get?_of_clear hdelete _ _ region hregion

/-- The effect of an activation where no storage call is refused, entry by entry. -/
theorem activate_effect (worker : Worker) (h : worker.config.regions.all.Nodup)
    (around : Surroundings) (memory : Memory) :
    let content := Memory.entries memory worker.content
    let staged := Memory.entries memory worker.temp
    let outcome := (around.calm.run worker.activate (Scene.start memory)).1
    let after := (around.calm.run worker.activate (Scene.start memory)).2
    match worker.recorded? memory with
    | none =>
      outcome = .fresh staged.keys ∧ after.claims = 1 ∧
        Promoted worker memory staged after.memory
    | some (.ok previous) =>
      ∃ evicted retained, outcome = .upgraded evicted retained staged.keys ∧ after.claims = 1 ∧
        evicted.Pairwise (· < ·) ∧ retained.Pairwise (· < ·) ∧
        (∀ url, url ∈ content.keys ↔ url ∈ evicted ∨ url ∈ retained) ∧
        (∀ url, url ∈ evicted → url ∉ retained) ∧
        (∀ url, url ∈ retained ↔ url ∈ content.keys ∧
          ∃ key hash, worker.contentKey? url = some key ∧ previous.hash? key = some hash ∧
            worker.build.resources.hash? key = some hash) ∧
        ∃ table, Promoted worker memory table after.memory ∧
          ∀ url, table.get? url =
            (staged.get? url).or (if url ∈ retained then content.get? url else none)
    | some (.error fault) =>
      outcome = .reset (WorkerError.record fault).message ∧ after.claims = 0 ∧
        (∀ region ∈ worker.config.regions.all, after.memory.get? region = none) ∧
        ∀ region ∉ worker.config.regions.all, after.memory.get? region = memory.get? region := by
  intro content staged outcome after
  rcases settles_reconcile h memory with
    ⟨fault, hrecord, hsettles⟩ | ⟨previous, hrecord, last, hsettles, hpromoted⟩
  · obtain ⟨hresult, _⟩ := hsettles around (begun around memory).deeds
    obtain ⟨houtcome, _, hclaims⟩ := activate_of_error worker around.calm memory hresult
    rw [hrecord]
    refine ⟨houtcome, hclaims, fun region hregion => ?_, fun region hregion => ?_⟩
    · exact get?_activate_of_error worker memory (fun _ _ => rfl) hresult hregion
    · exact get?_activate_of_notMem worker around.calm memory hregion
  · obtain ⟨hresult, hlast⟩ := hsettles around (begun around memory).deeds
    obtain ⟨houtcome, hmemory, hclaims⟩ := activate_of_ok worker around.calm memory hresult
    have hafter : Promoted worker memory (worker.renewed previous memory) after.memory := by
      rw [show after.memory = last from hmemory.trans hlast]
      exact hpromoted
    rw [hrecord]
    cases previous with
    | none => exact ⟨houtcome, hclaims, hafter⟩
    | some previous =>
      have hsorted : content.keys.Pairwise (· < ·) := content.keys_ascending
      have hsplit := mem_evicted_or_retained content.keys (worker.isReusable previous)
      refine ⟨_, _, houtcome, hclaims, hsorted.filter _, hsorted.filter _,
        fun url => (hsplit url).1, fun url => (hsplit url).2, fun url => ?_, _, hafter,
        fun url => get?_renewed worker previous memory url⟩
      rw [List.mem_filter, isReusable_iff]

/-- One entry is kept by its hash, one is evicted, and one comes from what was staged. -/
theorem activate_effect_of_upgrade :
    let worker : Worker := ⟨.ofOrigin "https://a", ⟨Table.empty.insert "k" "1", []⟩⟩
    let previous : Manifest := (Table.empty.insert "k" "1").insert "old" "0"
    let content : Table Response :=
      (Table.empty.insert "https://a/k" (.json [1])).insert "https://a/old" (.json [2])
    let staged : Table Response := Table.empty.insert "https://a/" (.json [3])
    let records : Table Response :=
      Table.empty.insert worker.recordUrl (.json previous.toBytes)
    let memory : Memory := ((Table.empty.insert worker.content content).insert worker.temp
      staged).insert worker.records records
    let outcome := ((Surroundings.offline none).calm.run worker.activate (Scene.start memory)).1
    let after := ((Surroundings.offline none).calm.run worker.activate (Scene.start memory)).2
    worker.config.regions.all.Nodup ∧ after.claims = 1 ∧
      ∃ evicted retained, outcome = .upgraded evicted retained ["https://a/"] ∧
        "https://a/old" ∈ evicted ∧ "https://a/k" ∈ retained ∧
        ∃ table, after.memory.get? worker.content = some table ∧
          table.get? "https://a/k" = some (.json [1]) ∧ table.get? "https://a/old" = none ∧
          table.get? "https://a/" = some (.json [3]) := by
  intro worker previous content staged records memory outcome after
  have hnodup : worker.config.regions.all.Nodup := by decide
  have hcontent : Memory.entries memory worker.content = content := by
    refine Memory.entries_of_get? ?_
    rw [Table.get?_insert_of_ne _ _ (by decide), Table.get?_insert_of_ne _ _ (by decide),
      Table.get?_insert_self]
  have hstaged : Memory.entries memory worker.temp = staged := by
    refine Memory.entries_of_get? ?_
    rw [Table.get?_insert_of_ne _ _ (by decide), Table.get?_insert_self]
  have hresponse : (Memory.entries memory worker.records).get? worker.recordUrl =
      some (.json previous.toBytes) := by
    rw [Memory.entries_of_get? (Table.get?_insert_self _ _ _), Table.get?_insert_self]
  have hrecord : worker.recorded? memory = some (.ok previous) := by
    rw [recorded?, hresponse]
    exact congrArg some (Manifest.ofBytes_toBytes previous)
  have heffect := activate_effect worker hnodup (.offline none) memory
  rw [hrecord, hcontent, hstaged] at heffect
  obtain ⟨evicted, retained, houtcome, hclaims, _, _, hall, _, hretained, table, hpromoted,
    htable⟩ := heffect
  have hkeys : staged.keys = ["https://a/"] := by decide
  rw [hkeys] at houtcome
  have hkept : "https://a/k" ∈ retained :=
    (hretained _).mpr ⟨by decide, "k", "1", by decide, by decide, by decide⟩
  have hold : "https://a/old" ∉ retained := by
    rw [hretained]
    rintro ⟨_, key, hash, hkey, hwas, his⟩
    obtain rfl : "old" = key := Option.some.inj (Eq.trans (by decide) hkey)
    rw [show worker.build.resources.hash? "old" = none by decide] at his
    cases his
  have hevicted : "https://a/old" ∈ evicted := ((hall _).mp (by decide)).resolve_right hold
  refine ⟨hnodup, hclaims, evicted, retained, houtcome, hevicted, hkept, table,
    hpromoted.content, ?_, ?_, ?_⟩
  · rw [htable, if_pos hkept]
    rfl
  · rw [htable, if_neg hold]
    rfl
  · rw [htable]
    rfl

/-! ## All or reset -/

/-- Why a reconciliation fails: the first storage call that did, else an unreadable record. -/
def firstFailure? (worker : Worker) (memory : Memory) : List StorageError → Option WorkerError
  | error :: _ => some (.storage error)
  | [] =>
    match worker.recorded? memory with
    | some (.error fault) => some (.record fault)
    | _ => none

/-- A reconciliation fails exactly for its first failure. -/
theorem reconciled_error_iff (h : worker.config.regions.all.Nodup) (around : Surroundings)
    (memory : Memory) (error : WorkerError) :
    (reconciled worker around memory).1 = .error error ↔
      worker.firstFailure? memory (reconciled worker around memory).2.failures = some error := by
  rcases reconciled_cases h around memory with
    ⟨failed, hresult, hfailures⟩ |
    ⟨hfailures, ⟨fault, hrecord, hresult⟩ | ⟨previous, hrecord, hresult, _⟩⟩
  · rw [hresult, hfailures, firstFailure?, Except.error.injEq, Option.some.injEq]
  · rw [hresult, hfailures, firstFailure?, hrecord, Except.error.injEq, Option.some.injEq]
  · rw [hresult, hfailures, firstFailure?, hrecord]
    refine ⟨fun heq => ?_, fun heq => ?_⟩
    · cases heq
    · cases previous with
      | none => cases heq
      | some previous => cases heq

/-- An activation fails exactly if its reconciliation does, and gives its wording as reason. -/
theorem activate_eq_reset_iff (h : worker.config.regions.all.Nodup) (around : Surroundings)
    (memory : Memory) (reason : String) :
    (around.run worker.activate (Scene.start memory)).1 = .reset reason ↔
      ∃ error, (reconciled worker around memory).1 = .error error ∧ reason = error.message := by
  cases hresult : (reconciled worker around memory).1 with
  | error error =>
    rw [(activate_of_error worker around memory hresult).1, Activation.reset.injEq]
    exact ⟨fun heq => ⟨error, rfl, heq.symm⟩, fun ⟨_, herror, hreason⟩ => by
      rw [hreason, Except.error.inj herror]⟩
  | ok outcome =>
    rw [(activate_of_ok worker around memory hresult).1]
    refine ⟨fun heq => ?_, fun ⟨_, herror, _⟩ => by cases herror⟩
    -- a reconciliation that ends in a result never reports a reset
    rcases reconciled_cases h around memory with
      ⟨_, herror, _⟩ | ⟨_, ⟨_, _, herror⟩ | ⟨previous, _, hok, _⟩⟩
    · rw [hresult] at herror
      cases herror
    · rw [hresult] at herror
      cases herror
    · rw [hresult, heq] at hok
      cases previous with
      | none => cases hok
      | some previous => cases hok

/-- Whatever storage calls are refused, an activation is all or reset. -/
theorem activate_all_or_reset (worker : Worker) (h : worker.config.regions.all.Nodup)
    (around : Surroundings) (memory : Memory) :
    let middle := (reconciled worker around memory).2
    let outcome := (around.run worker.activate (Scene.start memory)).1
    let after := (around.run worker.activate (Scene.start memory)).2
    (∀ reason, outcome = .reset reason ↔
      (worker.firstFailure? memory middle.failures).map WorkerError.message = some reason) ∧
    ((∃ reason, outcome = .reset reason) → after.claims = 0 ∧
      ∃ deeds, after.deeds = middle.deeds ++ deeds ∧
        Cleared worker.config.regions.all middle.memory after.memory deeds) ∧
    ((∀ reason, outcome ≠ .reset reason) → after.claims = 1 ∧
      after.memory.get? worker.temp = none ∧
      after.memory.get? worker.records = some ((Memory.entries memory worker.records).insert
        worker.recordUrl (.json worker.build.resources.toBytes))) ∧
    ∀ region ∉ worker.config.regions.all, after.memory.get? region = memory.get? region := by
  intro middle outcome after
  refine ⟨fun reason => ?_, fun hreset => ?_, fun hreset => ?_, fun region hregion => ?_⟩
  · rw [show (outcome = .reset reason ↔ _) from activate_eq_reset_iff h around memory reason,
      Option.map_eq_some_iff]
    refine exists_congr fun error => ?_
    rw [reconciled_error_iff h around memory error, eq_comm (a := reason)]
  · obtain ⟨reason, hreason⟩ := hreset
    obtain ⟨error, hresult, _⟩ := (activate_eq_reset_iff h around memory reason).mp hreason
    refine ⟨(activate_of_error worker around memory hresult).2.2, ?_⟩
    have hcleared := cleared_conclude h around error middle
    rw [← hresult, ← run_activate] at hcleared
    exact hcleared
  · cases hresult : (reconciled worker around memory).1 with
    | error error => exact absurd (activate_of_error worker around memory hresult).1 (hreset _)
    | ok outcome' =>
      obtain ⟨_, hmemory, hclaims⟩ := activate_of_ok worker around memory hresult
      rcases reconciled_cases h around memory with
        ⟨_, herror, _⟩ | ⟨_, ⟨_, _, herror⟩ | ⟨previous, _, _, hpromoted⟩⟩
      · rw [hresult] at herror
        cases herror
      · rw [hresult] at herror
        cases herror
      · rw [← hmemory] at hpromoted
        exact ⟨hclaims, hpromoted.temp, hpromoted.records⟩
  · exact get?_activate_of_notMem worker around memory hregion

/-- The content takes no entry any more once one has been evicted, and what is staged cannot be
deleted: the content and the record are gone in the end, and what is staged is as it was. -/
theorem activate_all_or_reset_of_refused_copy :
    let worker : Worker := ⟨.ofOrigin "https://a", ⟨Table.empty.insert "k" "1", []⟩⟩
    let previous : Manifest := (Table.empty.insert "k" "1").insert "old" "0"
    let content : Table Response :=
      (Table.empty.insert "https://a/k" (.json [1])).insert "https://a/old" (.json [2])
    let staged : Table Response := Table.empty.insert "https://a/" (.json [3])
    let records : Table Response :=
      Table.empty.insert worker.recordUrl (.json previous.toBytes)
    let memory : Memory := ((Table.empty.insert worker.content content).insert worker.temp
      staged).insert worker.records records
    let full : StorageError := .callFailed "full"
    let around : Surroundings := { Surroundings.offline none with
      refuse := fun _ call =>
        if call = .put worker.content "https://a/" (.json [3]) then some full
        else if call = .delete worker.temp then some (.callFailed "busy")
        else none }
    let middle := (reconciled worker around memory).2
    let run := around.run worker.activate (Scene.start memory)
    worker.config.regions.all.Nodup ∧
      (Memory.entries middle.memory worker.content).keys = ["https://a/k"] ∧
      run.1 = .reset (WorkerError.storage full).message ∧ run.2.claims = 0 ∧
      run.2.memory.get? worker.content = none ∧ run.2.memory.get? worker.records = none ∧
      run.2.memory.get? worker.temp = some staged := by
  intro worker previous content staged records memory full around middle run
  have hnodup : worker.config.regions.all.Nodup := by decide
  obtain ⟨hreason, hreset, _⟩ := activate_all_or_reset worker hnodup around memory
  have hresponse : (Memory.entries memory worker.records).get? worker.recordUrl =
      some (.json previous.toBytes) := by
    rw [Memory.entries_of_get? (Table.get?_insert_self _ _ _), Table.get?_insert_self]
  have hreconciled : reconciled worker around memory = _ :=
    reconciled_of_record (by decide +kernel) hresponse (Manifest.ofBytes_toBytes previous)
      (fun _ _ => rfl) (fun _ _ _ => rfl)
  have hfailures : middle.failures = [full] := by
    show (reconciled worker around memory).2.failures = _
    rw [hreconciled]
    decide +kernel
  have hevicted : (Memory.entries middle.memory worker.content).keys = ["https://a/k"] := by
    show (Memory.entries (reconciled worker around memory).2.memory worker.content).keys = _
    rw [hreconciled]
    decide +kernel
  have hstaged : middle.memory.get? worker.temp = some staged := by
    show (reconciled worker around memory).2.memory.get? worker.temp = _
    rw [hreconciled]
    decide +kernel
  have hfirst : worker.firstFailure? memory middle.failures = some (.storage full) := by
    rw [hfailures]
    rfl
  have hresult := (reconciled_error_iff hnodup around memory _).mpr hfirst
  have houtcome := (hreason _).mpr (congrArg (Option.map WorkerError.message) hfirst)
  obtain ⟨hclaims, deeds, hdeeds, hcleared⟩ := hreset ⟨_, houtcome⟩
  have hcontent : ∀ count, around.refuse count (.delete worker.content) = none := fun _ => rfl
  have htemp : ∀ count, around.refuse count (.delete worker.temp) = some (.callFailed "busy") :=
    fun _ => rfl
  have hrecords : ∀ count, around.refuse count (.delete worker.records) = none := fun _ => rfl
  have hdone : ∀ scene : Scene, ∃ hadContent hadRecords : Bool,
      (around.run (worker.conclude (.error (.storage full))) scene).2.deeds = scene.deeds ++ [
        ⟨.log (failureNote (.storage full)), ()⟩,
        ⟨.storage (.delete worker.content), .ok hadContent⟩,
        ⟨.storage (.delete worker.temp), .error (.callFailed "busy")⟩,
        ⟨.log (spareNote worker.temp (.callFailed "busy")), ()⟩,
        ⟨.storage (.delete worker.records), .ok hadRecords⟩, ⟨.endActivation, ()⟩] := by
    intro scene
    rw [run_conclude_error, clearedScene,
      show worker.config.regions.all = [worker.content, worker.temp, worker.records] from rfl,
      run_clear_of_answered (hcontent _), run_clear_of_refused (htemp _),
      run_clear_of_answered (hrecords _), run_clear_nil]
    refine ⟨scene.memory.contains worker.content,
      (scene.memory.erase worker.content).contains worker.records, ?_⟩
    simp only [Scene.after, List.append_assoc, List.cons_append, List.nil_append]
  obtain ⟨hadContent, hadRecords, hlast⟩ := hdone (reconciled worker around memory).2
  rw [run_activate, hresult, hlast, List.append_cancel_left_eq] at hdeeds
  subst hdeeds
  have hrun : run = around.run worker.activate (Scene.start memory) := rfl
  rw [hrun]
  refine ⟨hnodup, hevicted, houtcome, hclaims, ?_, ?_, ?_⟩
  · exact hcleared.absent _ worker.content_mem hadContent (by simp)
  · exact hcleared.absent _ worker.records_mem hadRecords (by simp)
  · exact (hcleared.spared _ worker.temp_mem (.callFailed "busy") (by simp)).trans hstaged

end AssetCache.Worker
