import AssetCache.Proofs.Worker.Activation
import AssetCache.Proofs.Worker.Serving

/-!
# The core shell without a network

Once a build has been installed and activated, its core shell is served out of the
content when the network answers nothing: an installation that succeeds has staged a
response under the URL of every key of the shell, an activation that succeeds lays what
is staged over the content, and what the content holds is found again.

It is found under the key that the URL asks for. A build is accepted whatever its keys
look like, and not every key is one that its own URL asks for (`Key.Proper`): a slash in
front is not part of the URL, and a version query or a fragment not of what is asked
for. A resource under such a key is staged, but a request for its URL asks for another
key, and is served only if that one is listed.
-/

set_option autoImplicit false

namespace AssetCache

/-! ## Builds that are accepted -/

theorem Build.contains_of_core {build : Build} (h : build.validate = .ok ()) {key : String}
    (hkey : key ∈ build.core) : build.resources.contains key = true := by
  rw [validate] at h
  split at h
  · cases h
  · split at h
    · cases h
    next hunknown =>
      have hlisted := List.find?_eq_none.mp hunknown key hkey
      simpa using hlisted

namespace Worker

open Storage (Memory)

variable {worker : Worker} {around : Surroundings} {before memory : Memory} {request : Request}
  {key url : String} {response : Response}

/-! ## Staging -/

/-- Responses that are all stored are there afterwards, with what was there before. -/
theorem ensures_storeAll_contains {region : String} :
    ∀ (fetched : List (Request × Response)) {before : Memory},
      Ensures around (storeAll region fetched) before fun result after => result = .ok () →
        ∀ url, (Memory.entries before region).contains url = true ∨
            url ∈ fetched.map (fun pair => pair.1.url) →
          (Memory.entries after region).contains url = true
  | [], _ => .pure fun _ url h => h.resolve_right List.not_mem_nil
  | pair :: rest, before => by
    refine .bind (.store (fun _ _ _ heq => by cases heq) ?_)
    cases hget : before.get? region with
    | none =>
      rw [Memory.answer_put_missing hget]
      exact nofun
    | some table =>
      rw [Memory.answer_put hget]
      refine (ensures_storeAll_contains rest).mono fun result after hafter heq url hurl => ?_
      refine hafter heq url ?_
      rw [Memory.entries_of_get? (Table.get?_insert_self _ _ _), Table.contains,
        Table.get?_insert]
      rw [Memory.entries_of_get? hget, List.map_cons, List.mem_cons] at hurl
      rcases hurl with hurl | rfl | hurl
      · exact .inl (by split; rfl; exact hurl)
      · exact .inl (by rw [if_pos rfl]; rfl)
      · exact .inr hurl

/-- An installation that succeeds has staged every resource of the core shell. -/
theorem ensures_install_staged (around : Surroundings) (worker : Worker) (before : Memory) :
    Ensures around worker.install before fun result after => ∀ urls, result = .ok urls →
      ∀ key ∈ worker.build.core,
        (Memory.entries after worker.temp).contains (worker.urlFor key) = true := by
  refine .bind (.note (.bind (.skipWaiting (.bind (.store (fun _ _ _ => nofun) ?_)))))
  refine .bind (.store (fun _ _ _ => nofun) ?_)
  refine .bind (.fetchBatch fun count => ?_)
  dsimp only
  split
  · exact .bind (.note (.throw nofun))
  next fetched houtcome =>
    refine .bind ((ensures_storeAll_contains fetched).mono fun result after hafter => ?_)
    cases result with
    | error error => exact nofun
    | ok _ =>
      refine .bind (.note (.pure fun urls _ key hkey => hafter rfl _ (.inr ?_)))
      have hrequests := Fetch.Batch.map_fst_of_outcome (around.arrive count _).2 houtcome
      have hurls : fetched.map (fun pair => pair.1.url) =
          worker.shellRequests.map Request.url := by
        rw [← hrequests, List.map_map]
        rfl
      rw [hurls, shellRequests, List.map_map]
      exact List.mem_map.mpr ⟨key, hkey, rfl⟩

/-! ## Promoting -/

/-- An activation that succeeds has promoted what was staged. -/
theorem promoted_of_isSuccess (h : worker.config.regions.all.Nodup) (around : Surroundings)
    (memory : Memory)
    (hsuccess : (around.run worker.activate (Scene.start memory)).1.isSuccess = true) :
    ∃ previous, Promoted worker memory (worker.renewed previous memory)
      (around.run worker.activate (Scene.start memory)).2.memory := by
  have hnever : ∀ {error}, (reconciled worker around memory).1 ≠ .error error := by
    intro error herror
    rw [(activate_of_error worker around memory herror).1] at hsuccess
    cases hsuccess
  rcases reconciled_cases h around memory with
    ⟨_, herror, _⟩ | ⟨_, ⟨_, _, herror⟩ | ⟨previous, _, hok, hpromoted⟩⟩
  · exact absurd herror hnever
  · exact absurd herror hnever
  · rw [(activate_of_ok worker around memory hok).2.1]
    exact ⟨previous, hpromoted⟩

/-- Whatever was recorded, the content is renewed with all that was staged. -/
theorem get?_renewed_of_staged (previous : Option Manifest)
    (hget : (Memory.entries memory worker.temp).get? url = some response) :
    (worker.renewed previous memory).get? url = some response := by
  cases previous with
  | none => exact hget
  | some previous =>
    rw [get?_renewed, hget]
    rfl

/-! ## Serving without a network -/

/-- Without a network and without failures a resource of the content is served out of it. -/
theorem ensures_handleFetch_offline
    (hoffline : ∀ count request, ∃ error, around.respond count request = .error error)
    (hkey : worker.interceptedKey? request = some key)
    (hget : (Memory.entries before worker.content).get? (worker.urlFor key) = some response) :
    Ensures around.calm (worker.handleFetch request) before fun result _ =>
      result = .ok (some ⟨key, response, if Key.isRoot key then .fallback else .hit⟩) := by
  have hopen : Settles (store (.create worker.content)) before (.ok ())
      (worker.withContent before) := .store rfl
  have hfind : Settles (store (.find worker.content (worker.urlFor key)))
      (worker.withContent before) (.ok (some response)) (worker.withContent before) :=
    .store (by rw [Memory.answer, Memory.entries_opened, hget])
  rw [handleFetch, hkey]
  dsimp only
  split
  next =>
    refine .bind (hopen.bind_ensures (.bind (.fetch fun count => ?_)))
    obtain ⟨error, herror⟩ := hoffline count request
    rw [show around.calm.respond count request = _ from herror]
    exact hfind.bind_ensures (.bind (.note (.pure (.bind (.note (.pure rfl))))))
  next =>
    exact .bind (hopen.bind_ensures (hfind.bind_ensures (.pure (.bind (.note (.pure rfl))))))

/-! ## The guarantee -/

/-- After an installation and an activation the core shell is served without a network. -/
theorem shell_served_offline {raw config : Config} (hconfig : raw.validate = .ok config)
    {build : Build} (hbuild : build.validate = .ok ()) (memory : Memory)
    (staging activating offline : Surroundings)
    (hoffline : ∀ count request, ∃ error, offline.respond count request = .error error) :
    let worker : Worker := ⟨config, build⟩
    let installed := staging.calm.perform worker.install (Scene.start memory)
    let activated := activating.calm.run worker.activate (Scene.start installed.2.memory)
    ∀ urls, installed.1 = .ok urls → activated.1.isSuccess = true →
      ∀ key ∈ build.core, ∀ request : Request, request.method = .get →
        request.url = worker.urlFor key →
        let served := (offline.calm.perform (worker.handleFetch request)
          (Scene.start activated.2.memory)).1
        ∃ response,
          (Memory.entries installed.2.memory worker.temp).get? (worker.urlFor key) =
            some response ∧
          (Key.Proper key →
            served = .ok (some ⟨key, response, if Key.isRoot key then .fallback else .hit⟩)) ∧
          -- the URL of any other key asks for another one
          (¬ Key.Proper key → ∃ asked ≠ key,
            Key.requestKey? config.origin (worker.urlFor key) = some asked ∧
            (build.resources.contains asked = false → served = .ok none) ∧
            (build.resources.contains asked = true → worker.urlFor asked = worker.urlFor key →
              served =
                .ok (some ⟨asked, response, if Key.isRoot asked then .fallback else .hit⟩))) := by
  intro worker installed activated urls hinstalled hactivated key hkey request hget hurl served
  have hnodup : worker.config.regions.all.Nodup := Config.regions_nodup hconfig
  obtain ⟨response, hstaged⟩ := (Table.contains_eq_true_iff _ _).mp
    (ensures_install_staged staging.calm worker memory [] urls hinstalled key hkey)
  obtain ⟨previous, hpromoted⟩ := promoted_of_isSuccess hnodup activating.calm
    installed.2.memory hactivated
  have hcontent : (Memory.entries activated.2.memory worker.content).get? (worker.urlFor key) =
      some response := by
    rw [Memory.entries_of_get? hpromoted.content]
    exact get?_renewed_of_staged previous hstaged
  -- a key that the URL asks for is served if it is listed and has that URL
  have hserved : ∀ asked, Key.requestKey? config.origin (worker.urlFor key) = some asked →
      build.resources.contains asked = true → worker.urlFor asked = worker.urlFor key →
        served = .ok (some ⟨asked, response, if Key.isRoot asked then .fallback else .hit⟩) := by
    intro asked hasked hlisted hsame
    refine ensures_handleFetch_offline hoffline ?_ (hsame ▸ hcontent) []
    exact interceptedKey?_eq_some_iff.mpr ⟨hget, hurl ▸ hasked, hlisted⟩
  refine ⟨response, hstaged, fun hproper => ?_, fun hproper => ?_⟩
  · have hasked := (Key.requestKey?_urlFor_iff config.origin key).mpr hproper
    exact hserved key hasked (Build.contains_of_core hbuild hkey) rfl
  · have hasked := Key.requestKey?_urlFor config.origin key
    refine ⟨_, fun heq => hproper ?_, hasked, fun hunlisted => ?_, hserved _ hasked⟩
    · exact (Key.requestKey?_urlFor_iff config.origin key).mp (hasked.trans (congrArg some heq))
    · have hdeclined : worker.interceptedKey? request = none := by
        refine interceptedKey?_eq_none_iff.mpr (.inr (.inr fun found hfound => ?_))
        rw [hurl] at hfound
        cases hfound.symm.trans hasked
        exact hunlisted
      exact congrArg Prod.fst (perform_handleFetch_of_none hdeclined _)

/-- A shell of one script, installed and activated, is served when the network is gone. -/
theorem shell_served_offline_of_script :
    let config : Config := .ofOrigin "http://[::1]"
    let build : Build := ⟨Table.empty.insert "k" "1", ["k"]⟩
    let worker : Worker := ⟨config, build⟩
    let installed := (Surroundings.serving (.json [0])).calm.perform worker.install
      (Scene.start .empty)
    let activated := (Surroundings.offline none).calm.run worker.activate
      (Scene.start installed.2.memory)
    config.validate = .ok config ∧ build.validate = .ok () ∧
      installed.1 = .ok [worker.urlFor "k"] ∧ activated.1.isSuccess = true ∧
      ((Surroundings.offline none).calm.perform (worker.handleFetch (.get (worker.urlFor "k")))
        (Scene.start activated.2.memory)).1 = .ok (some ⟨"k", .json [0], .hit⟩) := by
  dsimp only
  have hconfig : (Config.ofOrigin "http://[::1]").validate = .ok (.ofOrigin "http://[::1]") := by
    rfl
  have hbuild : (⟨Table.empty.insert "k" "1", ["k"]⟩ : Build).validate = .ok () := by rfl
  have hguarantee := shell_served_offline hconfig hbuild .empty (.serving (.json [0]))
    (.offline none) (.offline none) fun _ request => ⟨.request request.url "offline", rfl⟩
  dsimp only at hguarantee
  obtain ⟨response, hstaged, hserved, _⟩ := hguarantee
    [Config.urlFor (.ofOrigin "http://[::1]") "k"] (by rfl) (by decide +kernel) "k" (.head _)
    (.get (Worker.urlFor ⟨.ofOrigin "http://[::1]", ⟨Table.empty.insert "k" "1", ["k"]⟩⟩ "k"))
    rfl rfl
  obtain rfl : response = .json [0] := Option.some.inj (hstaged.symm.trans (by decide +kernel))
  have hhit := hserved (.inr ⟨by decide, by simp, by decide⟩)
  have hroot : ¬ Key.isRoot "k" = true := by decide
  rw [if_neg hroot] at hhit
  exact ⟨hconfig, hbuild, by rfl, by decide +kernel, hhit⟩

/-- A key with a slash in front is staged and promoted, and yet its URL is declined. -/
theorem shell_not_served_of_slash :
    let config : Config := .ofOrigin "http://[::1]"
    let build : Build := ⟨Table.empty.insert "/a" "1", ["/a"]⟩
    let worker : Worker := ⟨config, build⟩
    let installed := (Surroundings.serving (.json [0])).perform worker.install (Scene.start .empty)
    let activated := (Surroundings.offline none).run worker.activate
      (Scene.start installed.2.memory)
    let served := ((Surroundings.offline none).perform
      (worker.handleFetch (.get (worker.urlFor "/a"))) (Scene.start activated.2.memory)).1
    config.validate = .ok config ∧ build.validate = .ok () ∧ "/a" ∈ build.core ∧
      installed.1 = .ok [worker.urlFor "/a"] ∧ activated.1.isSuccess = true ∧
      (Memory.entries installed.2.memory worker.temp).get? (worker.urlFor "/a") =
        some (.json [0]) ∧
      (Memory.entries activated.2.memory worker.content).get? (worker.urlFor "/a") =
        some (.json [0]) ∧
      served = .ok none ∧ ¬ ∃ response provenance,
        served = .ok (some ⟨"/a", response, provenance⟩) := by
  intro config build worker installed activated served
  have hconfig : (Config.ofOrigin "http://[::1]").validate = .ok (.ofOrigin "http://[::1]") := by
    rfl
  have hdeclined : worker.interceptedKey? (.get (worker.urlFor "/a")) = none := by decide +kernel
  have hserved : served = .ok none := congrArg Prod.fst (perform_handleFetch_of_none hdeclined _)
  refine ⟨hconfig, by rfl, .head _, by rfl, by decide +kernel, by decide +kernel,
    by decide +kernel, hserved, ?_⟩
  rintro ⟨response, provenance, heq⟩
  cases hserved.symm.trans heq

end Worker

end AssetCache
