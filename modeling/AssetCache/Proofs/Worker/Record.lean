import AssetCache.Proofs.Worker.Deploys

/-!
# The record of the last activation

The manifest that is recorded says which version the content was made for. Here workers of
one configuration, each with a build of its own, run operations one after the other over a
storage that may refuse any call but to delete a region. A `History` keeps beside the
storage what the last activation left: the manifest of its build, or nothing if it was a
reset.

Only an activation writes to the region of the record, as its last call that may fail, and a
reset deletes that region. So what is read back is what the last activation left
(`recordedManifest_eq_last`). Reading it changes nothing, also where the region is opened
once more.
-/

set_option autoImplicit false

namespace AssetCache.Worker

open Storage (Memory)

variable {config : Config} {worker : Worker} {around : Surroundings} {memory : Memory}
  {last : Option Manifest}

/-! ## Reading -/

/-- To read the record leaves the storage as it is, whatever calls are refused. -/
theorem ensures_recordedManifest (worker : Worker) (around : Surroundings) (memory : Memory) :
    Ensures around worker.recordedManifest memory fun _ after => after = memory := by
  refine .bind (.store (fun _ _ _ => rfl) ?_)
  dsimp only [Memory.answer, Except.mapError]
  split
  next hthere =>
    -- the region is there, so to open it does nothing
    have hopened : (Memory.answer (.create worker.records) memory).2 = memory := by
      rw [Memory.answer_create, Memory.opened, if_pos hthere]
    refine .bind (.store (fun _ _ _ => rfl) ?_)
    rw [hopened]
    refine .bind (.store (fun _ _ _ => rfl) ?_)
    dsimp only [Memory.answer, Except.mapError]
    split
    · exact .pure rfl
    · split
      · exact .pure rfl
      · exact .throw rfl
  next => exact .pure rfl

/-- Where no call is refused, what is recorded is read, if it can be. -/
theorem settles_recordedManifest {previous : Option Manifest}
    (hrecord : worker.recorded? memory = previous.map .ok) :
    Settles worker.recordedManifest memory (.ok previous) memory := by
  have hhas : Settles (store (.has worker.records)) memory (.ok (memory.contains worker.records))
      memory := .store rfl
  refine .bind hhas ?_
  split
  next hthere =>
    have hopen : Settles (store (.create worker.records)) memory (.ok ()) memory :=
      .store (by rw [Memory.answer_create, Memory.opened, if_pos hthere])
    have hread := settles_readRecord worker memory
    rw [hrecord] at hread
    refine .bind hopen ?_
    cases previous with
    | none => exact hread
    | some manifest => exact hread
  next habsent =>
    -- a region that is not there holds no record
    have hnone : worker.recorded? memory = none := by
      rw [Bool.not_eq_true, Table.contains_eq_false_iff] at habsent
      rw [recorded?, Memory.entries_of_get?_none habsent]
      rfl
    obtain rfl : previous = none := by
      rw [hnone] at hrecord
      exact Option.map_eq_none_iff.mp hrecord.symm
    exact .pure

/-! ## Histories -/

/-- What workers of one configuration may have come to, and what the last activation left. -/
inductive History (config : Config) : Option Manifest → Memory → Prop
  | empty : History config none .empty
  | activated {last : Option Manifest} {memory : Memory} {worker : Worker}
      {around : Surroundings} : History config last memory → worker.config = config →
        (∀ count region, around.refuse count (.delete region) = none) →
        History config
          (if (around.run worker.activate (Scene.start memory)).1.isSuccess then
            some worker.build.resources else none)
          (Operation.after worker around memory .activate)
  /-- Any operation but an activation. -/
  | operated {last : Option Manifest} {memory : Memory} {worker : Worker}
      {around : Surroundings} (operation : Operation) : History config last memory →
        worker.config = config → operation ≠ .activate →
        (∀ count region, around.refuse count (.delete region) = none) →
        History config last (operation.after worker around memory)
  | asked {last : Option Manifest} {memory : Memory} {worker : Worker}
      {around : Surroundings} : History config last memory → worker.config = config →
        (∀ count region, around.refuse count (.delete region) = none) →
        History config last
          (around.perform worker.recordedManifest (Scene.start memory)).2.memory

/-- The response in which a manifest is recorded. -/
abbrev recordFor (manifest : Manifest) : Response := .json manifest.toBytes

/-- A manifest that was recorded is read back. -/
theorem recorded?_of_recordOf? (h : recordOf? worker.config memory = last.map recordFor) :
    worker.recorded? memory = last.map .ok := by
  change (recordOf? worker.config memory).map (fun response => Manifest.ofBytes response.body) = _
  rw [h, Option.map_map]
  exact congrArg (Option.map · last) (funext fun manifest => Manifest.ofBytes_toBytes manifest)

theorem recordOf?_of_absent (h : memory.get? config.regions.manifest = none) :
    recordOf? config memory = none := by
  rw [recordOf?, Memory.entries_of_get?_none h]
  rfl

/-- A promotion leaves the manifest of its build recorded. -/
theorem recordOf?_of_promoted {content : Table Response} {after : Memory}
    (h : Promoted worker memory content after) :
    recordOf? worker.config after = some (recordFor worker.build.resources) :=
  (congrArg (Table.get? · worker.recordUrl) (Memory.entries_of_get? h.records)).trans
    (Table.get?_insert_self _ _ _)

/-- An activation leaves its manifest recorded, or nothing if it was a reset. -/
theorem recordOf?_activate (hnodup : worker.config.regions.all.Nodup) (memory : Memory)
    (hdelete : ∀ count region, around.refuse count (.delete region) = none) :
    recordOf? worker.config (Operation.after worker around memory .activate) =
      (if (around.run worker.activate (Scene.start memory)).1.isSuccess then
        some worker.build.resources else none).map recordFor := by
  have hreset : ∀ {error : WorkerError}, (reconciled worker around memory).1 = .error error →
      recordOf? worker.config (Operation.after worker around memory .activate) =
        (if (around.run worker.activate (Scene.start memory)).1.isSuccess then
          some worker.build.resources else none).map recordFor := by
    intro error herror
    rw [(activate_of_error worker around memory herror).1]
    exact recordOf?_of_absent
      (get?_activate_of_error worker memory hdelete herror worker.records_mem)
  rcases reconciled_cases hnodup around memory with
    ⟨error, herror, _⟩ | ⟨_, ⟨fault, _, herror⟩ | ⟨previous, _, hok, hpromoted⟩⟩
  · exact hreset herror
  · exact hreset herror
  · obtain ⟨houtcome, hmemory, _⟩ := activate_of_ok worker around memory hok
    have hsuccess : (worker.report previous memory).isSuccess = true := by
      cases previous with
      | none => rfl
      | some previous => rfl
    rw [houtcome, hsuccess, if_pos rfl]
    rw [← hmemory] at hpromoted
    exact recordOf?_of_promoted hpromoted

/-- No operation but an activation touches the record. -/
theorem recordOf?_operation (hnodup : worker.config.regions.all.Nodup) (around : Surroundings)
    (memory : Memory) {operation : Operation} (hother : operation ≠ .activate) :
    recordOf? worker.config (operation.after worker around memory) =
      recordOf? worker.config memory := by
  obtain ⟨_, hcr, htr⟩ := ne_of_nodup hnodup
  have htouch : ∀ {α : Type} {region : String} {step : Step α}, region ≠ worker.records →
      Program.Only (S := signature) (Within [region]) step.run →
        recordOf? worker.config (around.perform step (Scene.start memory)).2.memory =
          recordOf? worker.config memory := by
    intro α region step hne hwithin
    refine congrArg (Table.get? · (worker.config.urlFor "manifest")) ?_
    exact entries_of_within hwithin (fun hmem => hne (List.mem_singleton.mp hmem).symm)
      around memory
  cases operation with
  | install => exact htouch htr (within_install worker)
  | activate => exact absurd rfl hother
  | handleFetch request => exact htouch hcr (within_handleFetch worker request)
  | handleMessage payload => exact htouch hcr (within_handleMessage worker payload)
  | downloadOffline => exact htouch hcr (within_downloadOffline worker)

/-- What is recorded is what the last activation left, all along a history. -/
theorem History.recordOf?_eq (hnodup : config.regions.all.Nodup)
    (h : History config last memory) : recordOf? config memory = last.map recordFor := by
  induction h with
  | empty => rfl
  | activated _ hconfig hdelete _ =>
    subst hconfig
    exact recordOf?_activate hnodup _ hdelete
  | operated operation _ hconfig hother _ ih =>
    subst hconfig
    rw [recordOf?_operation hnodup _ _ hother]
    exact ih
  | @asked _ memory worker around _ _ _ ih =>
    exact (congrArg (recordOf? config) (ensures_recordedManifest worker around memory [])).trans ih

/-- Whoever asks is told what the last activation left, and asking changes nothing. -/
theorem recordedManifest_eq_last (hnodup : config.regions.all.Nodup)
    (h : History config last memory) (hconfig : worker.config = config) :
    (∀ around : Surroundings,
      (around.calm.perform worker.recordedManifest (Scene.start memory)).1 = .ok last) ∧
    ∀ (around : Surroundings) (before : Memory),
      (around.perform worker.recordedManifest (Scene.start before)).2.memory = before := by
  refine ⟨fun around => ?_, fun around before => ensures_recordedManifest worker around before []⟩
  have hrecord : worker.recorded? memory = last.map .ok := by
    subst hconfig
    exact recorded?_of_recordOf? (h.recordOf?_eq hnodup)
  exact (settles_recordedManifest hrecord around []).1

/-- A second version takes the place of the first, and its own reset leaves no record. -/
theorem recordedManifest_eq_last_of_second :
    let config : Config := .ofOrigin "https://a"
    let old : Worker := ⟨config, ⟨Table.empty.insert "k" "1", []⟩⟩
    let new : Worker := ⟨config, ⟨Table.empty.insert "\"é\n" "2", []⟩⟩
    let around : Surroundings := .offline none
    let full : Surroundings := { around with
      refuse := fun _ call => match call with
        | .put _ _ _ => some (.callFailed "full")
        | _ => none }
    let first := Operation.after old around .empty .activate
    let second := Operation.after new around first .activate
    let third := Operation.after new full second .activate
    let asked := fun memory : Memory =>
      (around.calm.perform old.recordedManifest (Scene.start memory)).1
    config.regions.all.Nodup ∧ asked .empty = .ok none ∧
      asked first = .ok (some old.build.resources) ∧
      asked second = .ok (some new.build.resources) ∧ asked third = .ok none := by
  intro config old new around full first second third asked
  have hnodup : config.regions.all.Nodup := by decide
  have hfirst : History config (some old.build.resources) first := by
    have hrun : (around.run old.activate (Scene.start .empty)).1.isSuccess = true := by
      decide +kernel
    have h : History config _ first := .activated .empty rfl fun _ _ => rfl
    rwa [if_pos hrun] at h
  have hsecond : History config (some new.build.resources) second := by
    have hrun : (around.run new.activate (Scene.start first)).1.isSuccess = true := by
      decide +kernel
    have h : History config _ second := .activated hfirst rfl fun _ _ => rfl
    rwa [if_pos hrun] at h
  have hthird : History config none third := by
    have hrun : (full.run new.activate (Scene.start second)).1.isSuccess = false := by
      decide +kernel
    have h : History config _ third := .activated hsecond rfl fun _ _ => rfl
    rwa [if_neg (by rw [hrun]; exact Bool.false_ne_true)] at h
  exact ⟨hnodup, (recordedManifest_eq_last hnodup .empty rfl).1 around,
    (recordedManifest_eq_last hnodup hfirst rfl).1 around,
    (recordedManifest_eq_last hnodup hsecond rfl).1 around,
    (recordedManifest_eq_last hnodup hthird rfl).1 around⟩

end AssetCache.Worker
