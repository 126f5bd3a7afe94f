import AssetCache.Proofs.Json.Stored
import AssetCache.Proofs.Key
import AssetCache.Proofs.Worker.Activation
import AssetCache.Proofs.Worker.Content

/-!
# No stale asset across deploys

One storage outlives many versions of an application. Each version is installed and
activated by a worker of its own, and what it serves from then on must be what the
network serves for it, though much of the content was stored for earlier versions.

`Reached` is the storage along such a history: installations may fail or be given up,
an active worker may do anything in any order, and at any call the storage may refuse
or the network may be away. Only regions can always be deleted.

The invariant (`Settled`) ties the content to the record: the content is current for
the version whose manifest is recorded, whichever that is. An upgrade keeps what has
one hash in both manifests, and that is what both versions serve alike.

Of the entry document nothing is promised, for it is stored whatever its status is.
-/

set_option autoImplicit false

namespace AssetCache.Worker

open Storage (Memory)

/-- A version that is deployed, and what the network serves while it is. -/
structure Deploy where
  build : Build
  served : String → Response

/-- A resource that has one hash in two versions is served alike by both. -/
structure Consistent (config : Config) (deploys : Nat → Deploy) : Prop where
  canonical : ∀ i, Canonical config (deploys i).served
  shared : ∀ i j key hash, (deploys i).build.resources.hash? key = some hash →
    (deploys j).build.resources.hash? key = some hash →
      (deploys i).served (config.urlFor key) = (deploys j).served (config.urlFor key)

/-- The worker of a version. -/
def Deploy.worker (config : Config) (deploy : Deploy) : Worker := ⟨config, deploy.build⟩

/-- What an active worker may be asked to do. -/
inductive Operation where
  | install
  | activate
  | handleFetch (request : Request)
  | handleMessage (payload : String)
  | downloadOffline

/-- The storage that an operation leaves. -/
def Operation.after (worker : Worker) (around : Surroundings) (memory : Memory) :
    Operation → Memory
  | .install => (around.perform worker.install (Scene.start memory)).2.memory
  | .activate => (around.run worker.activate (Scene.start memory)).2.memory
  | .handleFetch request =>
    (around.perform (worker.handleFetch request) (Scene.start memory)).2.memory
  | .handleMessage payload =>
    (around.perform (worker.handleMessage payload) (Scene.start memory)).2.memory
  | .downloadOffline => (around.perform worker.downloadOffline (Scene.start memory)).2.memory

/-- How far a version has come. -/
inductive Stage where
  | installing
  | installed
  | active
  deriving DecidableEq

/-- The storage that a history of deploys may have come to. -/
inductive Reached (config : Config) (deploys : Nat → Deploy) : Nat → Stage → Memory → Prop
  | first : Reached config deploys 0 .installing .empty
  /-- The next version is deployed, however far this one has come. -/
  | next {i : Nat} {stage : Stage} {memory : Memory} : Reached config deploys i stage memory →
      Reached config deploys (i + 1) .installing memory
  | failed {i : Nat} {memory : Memory} {around : Surroundings} {error : WorkerError} :
      Reached config deploys i .installing memory → Serves (deploys i).served around →
        (around.perform ((deploys i).worker config).install (Scene.start memory)).1 =
          .error error →
        Reached config deploys i .installing
          (Operation.after ((deploys i).worker config) around memory .install)
  | installed {i : Nat} {memory : Memory} {around : Surroundings} {staged : List String} :
      Reached config deploys i .installing memory → Serves (deploys i).served around →
        (around.perform ((deploys i).worker config).install (Scene.start memory)).1 =
          .ok staged →
        Reached config deploys i .installed
          (Operation.after ((deploys i).worker config) around memory .install)
  | activated {i : Nat} {memory : Memory} {around : Surroundings} :
      Reached config deploys i .installed memory → Serves (deploys i).served around →
        Reached config deploys i .active
          (Operation.after ((deploys i).worker config) around memory .activate)
  | operated {i : Nat} {memory : Memory} {around : Surroundings} (operation : Operation) :
      Reached config deploys i .active memory → Serves (deploys i).served around →
        Reached config deploys i .active
          (Operation.after ((deploys i).worker config) around memory operation)

/-! ## The invariant -/

/-- The entries of the content. -/
abbrev contentOf (config : Config) (memory : Memory) : Table Response :=
  Memory.entries memory config.regions.content

/-- The entries that are staged. -/
abbrev stagedOf (config : Config) (memory : Memory) : Table Response :=
  Memory.entries memory config.regions.temp

/-- The response in which the manifest is recorded. -/
abbrev recordOf? (config : Config) (memory : Memory) : Option Response :=
  (Memory.entries memory config.regions.manifest).get? (config.urlFor "manifest")

/-- The content is current for a version, and the manifest recorded is that of the version. -/
def CurrentFor (config : Config) (deploy : Deploy) (memory : Memory) : Prop :=
  Current config deploy.served (contentOf config memory) ∧
    ∀ response, recordOf? config memory = some response →
      response.body = deploy.build.resources.toBytes

/-- What holds of every storage that is reached. -/
structure Settled (config : Config) (deploys : Nat → Deploy) (i : Nat) (stage : Stage)
    (memory : Memory) : Prop where
  /-- If a manifest is recorded, the content is current for its version. -/
  recorded : recordOf? config memory = none ∨ ∃ j, CurrentFor config (deploys j) memory
  staged : stage ≠ .installing → Current config (deploys i).served (stagedOf config memory)
  active : stage = .active → CurrentFor config (deploys i) memory

variable {config : Config} {deploys : Nat → Deploy} {i j : Nat} {memory : Memory}
  {around : Surroundings}

/-- What is retained from an earlier version is what this one serves. -/
theorem current_renewed (hdeploys : Consistent config deploys)
    (hstaged : Current config (deploys i).served (stagedOf config memory))
    (hcontent : Current config (deploys j).served (contentOf config memory)) :
    Current config (deploys i).served
      (((deploys i).worker config).renewed (some (deploys j).build.resources) memory) := by
  intro url response hget
  rw [get?_renewed, Option.or_eq_some_iff] at hget
  rcases hget with hget | ⟨_, hget⟩
  · exact hstaged url response hget
  · split at hget
    next hretained =>
      obtain ⟨key, hash, hkey, hold, hnew⟩ :=
        (isReusable_iff _ _ _).mp (List.mem_filter.mp hretained).2
      obtain ⟨⟨made, hmade⟩, hserved⟩ := hcontent url response hget
      -- the key under which the hashes agree has the URL of the entry
      have hurl : url = config.urlFor key := by
        rw [hmade] at hkey ⊢
        exact (Key.urlFor_of_contentKey? hkey).symm
      refine ⟨⟨made, hmade⟩, fun hroot => ?_⟩
      rw [hserved hroot, hurl]
      exact hdeploys.shared j i key hash hold hnew
    · cases hget

/-- An active version whose content is current satisfies the invariant. -/
theorem Settled.of_active (hstaged : Current config (deploys i).served (stagedOf config memory))
    (hactive : CurrentFor config (deploys i) memory) :
    Settled config deploys i .active memory :=
  ⟨.inr ⟨i, hactive⟩, fun _ => hstaged, fun _ => hactive⟩

/-- Without any of the three regions there is nothing that could be stale. -/
theorem Settled.of_absent (h : ∀ region ∈ config.regions.all, memory.get? region = none) :
    Settled config deploys i .active memory := by
  have hempty : ∀ region ∈ config.regions.all, Memory.entries memory region = .empty :=
    fun region hregion => Memory.entries_of_get?_none (h region hregion)
  refine .of_active ?_ ⟨?_, fun response hrecord => ?_⟩
  · rw [stagedOf, hempty _ (.tail _ (.head _))]
    exact current_empty
  · rw [contentOf, hempty _ (.head _)]
    exact current_empty
  · rw [recordOf?, hempty _ (.tail _ (.tail _ (.head _)))] at hrecord
    cases hrecord

/-- What a promotion leaves is current if the content it arrives at is. -/
theorem Settled.of_promoted {table : Table Response} {after : Memory}
    (hpromoted : Promoted ((deploys i).worker config) memory table after)
    (htable : Current config (deploys i).served table) :
    Settled config deploys i .active after := by
  have hstaged : stagedOf config after = .empty := Memory.entries_of_get?_none hpromoted.temp
  have hcontent : contentOf config after = table := Memory.entries_of_get? hpromoted.content
  have hrecords : Memory.entries after config.regions.manifest = _ :=
    Memory.entries_of_get? hpromoted.records
  refine .of_active (hstaged ▸ current_empty) ⟨hcontent ▸ htable, fun response hrecord => ?_⟩
  rw [recordOf?, hrecords] at hrecord
  rw [← Option.some.inj ((Table.get?_insert_self _ _ _).symm.trans hrecord)]
  rfl

/-- An activation makes the content current, whatever it was before. -/
theorem settled_activate (hnodup : config.regions.all.Nodup) (hdeploys : Consistent config deploys)
    (hserves : Serves (deploys i).served around)
    (hrecorded : recordOf? config memory = none ∨ ∃ j, CurrentFor config (deploys j) memory)
    (hstaged : Current config (deploys i).served (stagedOf config memory)) :
    Settled config deploys i .active
      (Operation.after ((deploys i).worker config) around memory .activate) := by
  let worker := (deploys i).worker config
  have hreset : ∀ {error : WorkerError}, (reconciled worker around memory).1 = .error error →
      Settled config deploys i .active (Operation.after worker around memory .activate) :=
    fun herror => .of_absent fun region hregion =>
      get?_activate_of_error worker memory hserves.delete herror hregion
  rcases reconciled_cases (show worker.config.regions.all.Nodup from hnodup) around memory with
    ⟨error, herror, _⟩ | ⟨_, ⟨fault, _, herror⟩ | ⟨previous, hprevious, hok, hpromoted⟩⟩
  · exact hreset herror
  · exact hreset herror
  · have hmemory := (activate_of_ok worker around memory hok).2.1
    rw [show Operation.after worker around memory .activate = _ from hmemory]
    refine .of_promoted hpromoted ?_
    cases previous with
    | none => exact hstaged
    | some previous =>
      -- the manifest that was read is the one of the version that the content is current for
      obtain ⟨response, hrecord, hread⟩ := Option.map_eq_some_iff.mp hprevious
      obtain hnone | ⟨j, hcontent, hbody⟩ := hrecorded
      · rw [show recordOf? config memory = some response from hrecord] at hnone
        cases hnone
      · rw [hbody response hrecord, Manifest.ofBytes_toBytes] at hread
        rw [← Except.ok.inj hread]
        exact current_renewed hdeploys hstaged hcontent

/-- What does not touch a region leaves its entries. -/
theorem entries_of_within {α : Type} {regions : List String} {step : Step α}
    (h : Program.Only (S := signature) (Within regions) step.run) {region : String}
    (hregion : region ∉ regions) (around : Surroundings) (memory : Memory) :
    Memory.entries (around.perform step (Scene.start memory)).2.memory region =
      Memory.entries memory region :=
  Memory.entries_congr (get?_of_within h hregion around (Scene.start memory))

/-- Any installation leaves what is staged current, and the content and the record alone. -/
theorem settled_install (hnodup : config.regions.all.Nodup)
    (hserves : Serves (deploys i).served around) {stage later : Stage}
    (h : Settled config deploys i stage memory) (hlater : later = .active → stage = .active) :
    Settled config deploys i later
      (Operation.after ((deploys i).worker config) around memory .install) := by
  let worker := (deploys i).worker config
  obtain ⟨hct, _, htr⟩ := ne_of_nodup (show worker.config.regions.all.Nodup from hnodup)
  let after := Operation.after worker around memory .install
  have hcontent : contentOf config after = contentOf config memory :=
    entries_of_within (within_install worker) (fun hmem => hct (List.mem_singleton.mp hmem))
      around memory
  have hrecord : recordOf? config after = recordOf? config memory :=
    congrArg (Table.get? · (config.urlFor "manifest"))
      (entries_of_within (within_install worker)
        (fun hmem => htr (List.mem_singleton.mp hmem).symm) around memory)
  have hcurrent : ∀ deploy, CurrentFor config deploy memory → CurrentFor config deploy after := by
    intro deploy hbefore
    rw [CurrentFor, hcontent, hrecord]
    exact hbefore
  refine ⟨?_, fun _ => ensures_install worker hserves memory [], fun hactive => ?_⟩
  · rcases h.recorded with hnone | ⟨j, hj⟩
    · exact .inl (hrecord.trans hnone)
    · exact .inr ⟨j, hcurrent _ hj⟩
  · exact hcurrent _ (h.active (hlater hactive))

/-- What touches the content alone and leaves it current keeps the invariant. -/
theorem settled_of_content (hnodup : config.regions.all.Nodup) {α : Type} {step : Step α}
    (hwithin : Program.Only (S := signature) (Within [config.regions.content]) step.run)
    (h : Settled config deploys i .active memory)
    (hcontent : Current config (deploys i).served
      (contentOf config (around.perform step (Scene.start memory)).2.memory)) :
    Settled config deploys i .active (around.perform step (Scene.start memory)).2.memory := by
  let worker := (deploys i).worker config
  obtain ⟨hct, hcr, _⟩ := ne_of_nodup (show worker.config.regions.all.Nodup from hnodup)
  have hstaged := entries_of_within hwithin (fun hmem => hct (List.mem_singleton.mp hmem).symm)
    around memory
  have hrecords := entries_of_within hwithin (fun hmem => hcr (List.mem_singleton.mp hmem).symm)
    around memory
  refine .of_active ?_ ⟨hcontent, fun response hrecord => ?_⟩
  · rw [stagedOf, show Memory.entries _ config.regions.temp = _ from hstaged]
    exact h.staged (by decide)
  · rw [recordOf?, show Memory.entries _ config.regions.manifest = _ from hrecords] at hrecord
    exact (h.active rfl).2 response hrecord

/-- Whatever an active worker does, the content stays current. -/
theorem settled_operation (hnodup : config.regions.all.Nodup)
    (hdeploys : Consistent config deploys) (hserves : Serves (deploys i).served around)
    (h : Settled config deploys i .active memory) (operation : Operation) :
    Settled config deploys i .active
      (Operation.after ((deploys i).worker config) around memory operation) := by
  let worker := (deploys i).worker config
  have hcontent := (h.active rfl).1
  cases operation with
  | install => exact settled_install hnodup hserves h fun _ => rfl
  | activate =>
    exact settled_activate hnodup hdeploys hserves h.recorded (h.staged (by decide))
  | handleFetch request =>
    exact settled_of_content hnodup (within_handleFetch worker request) h
      (ensures_handleFetch worker hserves (hdeploys.canonical i) request hcontent []).1
  | handleMessage payload =>
    exact settled_of_content hnodup (within_handleMessage worker payload) h
      (ensures_handleMessage worker hserves payload hcontent [])
  | downloadOffline =>
    exact settled_of_content hnodup (within_downloadOffline worker) h
      (ensures_downloadOffline worker hserves hcontent [])

/-- The invariant holds of every storage that is reached. -/
theorem Reached.settled (hnodup : config.regions.all.Nodup) (hdeploys : Consistent config deploys)
    {stage : Stage} (h : Reached config deploys i stage memory) :
    Settled config deploys i stage memory := by
  induction h with
  | first => exact ⟨.inl rfl, fun hne => absurd rfl hne, fun heq => by cases heq⟩
  | next _ ih => exact ⟨ih.recorded, fun hne => absurd rfl hne, fun heq => by cases heq⟩
  | failed _ hserves _ ih => exact settled_install hnodup hserves ih fun heq => by cases heq
  | installed _ hserves _ ih => exact settled_install hnodup hserves ih fun heq => by cases heq
  | activated _ hserves ih =>
    exact settled_activate hnodup hdeploys hserves ih.recorded (ih.staged (by decide))
  | operated operation _ hserves ih =>
    exact settled_operation hnodup hdeploys hserves ih operation

/-! ## No stale asset -/

/-- Once a version is active, its content is what the network serves, and so is every hit. -/
theorem content_never_stale {raw config : Config} (hconfig : raw.validate = .ok config)
    {deploys : Nat → Deploy} (hdeploys : Consistent config deploys) {i : Nat} {memory : Memory}
    (h : Reached config deploys i .active memory) :
    (∀ url response, (contentOf config memory).get? url = some response →
      url ≠ config.origin ++ "/" → response = (deploys i).served url) ∧
    ∀ around request answer, Serves (deploys i).served around →
      (around.perform (((deploys i).worker config).handleFetch request)
        (Scene.start memory)).1 = .ok (some answer) →
      answer.provenance = .hit → config.urlFor answer.key ≠ config.origin ++ "/" →
        answer.response = (deploys i).served request.url := by
  have hsettled := h.settled (Config.regions_nodup hconfig) hdeploys
  have hcontent := (hsettled.active rfl).1
  rw [← Config.urlFor_root hconfig]
  refine ⟨fun url response hget hroot => (hcontent url response hget).2 hroot, ?_⟩
  intro around request answer hserves hresult hhit hroot
  exact (ensures_handleFetch ((deploys i).worker config) hserves (hdeploys.canonical i) request
    hcontent []).2 answer hresult hhit hroot

/-- What a network serves alike everywhere is served. -/
theorem serves_serving (response : Response) : Serves (fun _ => response) (.serving response) where
  delete := fun _ _ => rfl
  respond := fun _ _ _ _ heq _ => (Except.ok.inj heq).symm
  arrive := fun _ requests request arrival response' _ hzip hresult _ => by
    obtain ⟨_, _, rfl⟩ := List.mem_map.mp (List.of_mem_zip hzip).2
    exact (Except.ok.inj hresult).symm

/-- The storage after a version has been installed, activated and asked for a URL. -/
def visited (config : Config) (deploy : Deploy) (response : Response) (url : String)
    (memory : Memory) : Memory :=
  let after := Operation.after (deploy.worker config) (.serving response)
  after (after (after memory .install) .activate) (.handleFetch (.plain .get url))

theorem reached_visited {response : Response} {staged : List String}
    (h : Reached config deploys i .installing memory)
    (hserves : Serves (deploys i).served (.serving response))
    (hinstall : ((Surroundings.serving response).perform ((deploys i).worker config).install
      (Scene.start memory)).1 = .ok staged) (url : String) :
    Reached config deploys i .active (visited config (deploys i) response url memory) :=
  .operated (.handleFetch (.plain .get url)) (.activated (.installed h hserves hinstall) hserves)
    hserves

/-- What was stored for one version is not served for the next, which has another hash for it. -/
theorem content_never_stale_of_second :
    let config : Config := .ofOrigin "http://[::1]"
    let old : Deploy := ⟨⟨Table.empty.insert "k" "a", []⟩, fun _ => .json [0]⟩
    let new : Deploy := ⟨⟨Table.empty.insert "k" "b", []⟩, fun _ => .json [1]⟩
    let deploys : Nat → Deploy := fun i => if i = 0 then old else new
    config.validate = .ok config ∧ Consistent config deploys ∧
      ∃ earlier later, Reached config deploys 0 .active earlier ∧
        (contentOf config earlier).get? "http://[::1]/k" = some (.json [0]) ∧
        Reached config deploys 1 .active later ∧
        (contentOf config later).get? "http://[::1]/k" = some (.json [1]) ∧
        ∀ url response, (contentOf config later).get? url = some response →
          url ≠ config.origin ++ "/" → response = .json [1] := by
  intro config old new deploys
  have hconfig : (Config.ofOrigin "http://[::1]").validate = .ok (.ofOrigin "http://[::1]") := by
    rfl
  have hhash : ∀ {value key hash : String},
      (Table.empty.insert "k" value).get? key = some hash → hash = value := by
    intro value key hash hget
    rw [Table.get?_insert] at hget
    split at hget
    · exact (Option.some.inj hget).symm
    · cases hget
  have hdeploys : Consistent config deploys := by
    refine ⟨fun i _ _ _ => ?_, fun i j key hash hi hj => ?_⟩
    · by_cases hzero : i = 0
      · simp only [deploys, hzero, if_pos, old]
      · simp only [deploys, hzero, if_false, new]
    · by_cases hzero : i = 0 <;> by_cases hzero' : j = 0 <;>
        simp only [deploys, hzero, hzero', if_true, if_false, old, new] at hi hj ⊢
      · exact absurd ((hhash hi).symm.trans (hhash hj)) (by decide)
      · exact absurd ((hhash hi).symm.trans (hhash hj)) (by decide)
  have hold : Serves (deploys 0).served (.serving (.json [0])) := serves_serving _
  have hnew : Serves (deploys 1).served (.serving (.json [1])) := serves_serving _
  let earlier := visited config old (.json [0]) "http://[::1]/k" .empty
  let later := visited config new (.json [1]) "http://[::1]/k" earlier
  have hinstall : ((Surroundings.serving (.json [0])).perform (old.worker config).install
    (Scene.start .empty)).1 = .ok [] := rfl
  have hreinstall : ((Surroundings.serving (.json [1])).perform (new.worker config).install
    (Scene.start earlier)).1 = .ok [] := rfl
  have hearlier : Reached config deploys 0 .active earlier :=
    reached_visited .first hold hinstall "http://[::1]/k"
  have hlater : Reached config deploys 1 .active later :=
    reached_visited (.next hearlier) hnew hreinstall "http://[::1]/k"
  exact ⟨hconfig, hdeploys, earlier, later, hearlier, by decide, hlater,
    by decide +kernel, (content_never_stale hconfig hdeploys hlater).1⟩

end AssetCache.Worker
