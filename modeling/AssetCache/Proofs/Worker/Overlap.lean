import AssetCache.Proofs.Worker.Deploys
import AssetCache.Proofs.Worker.Serving
import AssetCache.Proofs.Worker.Trace

/-!
# A fetch that overlaps an upgrade

A worker of the version before may answer a request while the new one brings the content up
to date. The lock that activations wait for is not one that a fetch waits for, so the calls
of both come in any order.

The upgrade lists the keys of the content, removes those that are not reusable and lays the
staged entries over the rest. What was there for a changed key before the listing is
therefore gone; what is there in the end was written after it, and was either staged or
stored by the fetch (`written_since_listing`). Of two that are written after it the last
one stays.

So the listing is what parts the answers, and not the beginning of the upgrade: one that the
network gave before may be stored after it (`answers_outlive_upgrades`). The URL of a key
that begins with a slash is found under another key, and whether the upgrade removes it is
decided by that one; nothing is said of such a key. Nor is it said that the upgrade succeeds.
-/

set_option autoImplicit false

namespace AssetCache.Worker

open Storage (Memory)

variable {worker : Worker} {deeds : List Deed}

/-! ## What an upgrade does -/

/-- The manifest that a deed reads out of the record. -/
def Deed.manifest? (worker : Worker) : Deed → Option Manifest
  | ⟨.storage (.find region key), .ok (some response)⟩ =>
    if region = worker.records ∧ key = worker.recordUrl then
      (Manifest.ofBytes response.body).toOption
    else none
  | _ => none

/-- The manifest that an activation goes by: the one that it reads first. -/
def goesBy? (worker : Worker) (deeds : List Deed) : Option Manifest :=
  deeds.findSome? (Deed.manifest? worker)

/-- Every response that is stored in one region was found in another, under the same key. -/
def Copies (target source : String) (deeds : List Deed) : Prop :=
  ∀ url response reply, ⟨.storage (.put target url response), reply⟩ ∈ deeds →
    ⟨.storage (.find source url), .ok (some response)⟩ ∈ deeds

namespace Copies

variable {target source : String} {first rest : List Deed}

theorem nil : Copies target source [] :=
  fun _ _ _ hput => absurd hput List.not_mem_nil

theorem append (h : Copies target source first) (hrest : Copies target source rest) :
    Copies target source (first ++ rest) := by
  intro url response reply hput
  rcases List.mem_append.mp hput with hput | hput
  · exact List.mem_append_left _ (h url response reply hput)
  · exact List.mem_append_right _ (hrest url response reply hput)

/-- Where nothing is stored in a region there is nothing to be found. -/
theorem of_forall (h : ∀ deed ∈ deeds, ∀ url response,
    deed.1 ≠ .storage (.put target url response)) : Copies target source deeds :=
  fun url response _ hput => absurd rfl (h _ hput url response)

/-- What is no storing in the region may come first. -/
theorem cons {deed : Deed}
    (hdeed : ∀ url response, deed.1 ≠ .storage (.put target url response))
    (h : Copies target source deeds) : Copies target source (deed :: deeds) := by
  rintro url response reply (_ | ⟨_, hput⟩)
  · exact absurd rfl (hdeed url response)
  · exact .tail _ (h url response reply hput)

/-- A response that is found is stored next. -/
theorem copy {key : String} {response : Response} {reply : Except StorageError Unit}
    (h : Copies target source deeds) :
    Copies target source (⟨.storage (.find source key), .ok (some response)⟩ ::
      ⟨.storage (.put target key response), reply⟩ :: deeds) := by
  rintro url response' reply' (_ | ⟨_, _ | ⟨_, hput⟩⟩)
  · exact .head _
  · exact .tail _ (.tail _ (h url response' reply' hput))

end Copies

theorem done_readRecord {previous : Manifest}
    (h : Done worker.readRecord.run deeds (.ok (some previous))) :
    ∃ response, deeds = [⟨.storage (.find worker.records worker.recordUrl), .ok (some response)⟩] ∧
      Manifest.ofBytes response.body = .ok previous := by
  obtain ⟨found, rest, rfl, hrest⟩ := h.exists_of_store_bind
  cases found with
  | none => cases hrest.eq_of_pure.2
  | some response =>
    dsimp only at hrest
    cases hread : Manifest.ofBytes response.body with
    | error fault =>
      rw [hread] at hrest
      cases hrest
    | ok manifest =>
      rw [hread] at hrest
      obtain ⟨rfl, heq⟩ := hrest.eq_of_pure
      cases heq
      exact ⟨response, rfl, hread⟩

/-- An eviction removes every URL that is not reusable, and does nothing else. -/
theorem done_evict {previous : Manifest} : ∀ {urls : List String} {deeds : List Deed}
    {sorted : List String × List String}, Done (worker.evict previous urls).run deeds (.ok sorted) →
      (∀ deed ∈ deeds, ∃ url, deed.1 = .storage (.remove worker.content url)) ∧
      ∀ url ∈ urls, worker.isReusable previous url = false → ∃ existed,
        ⟨.storage (.remove worker.content url), .ok existed⟩ ∈ deeds
  | [], deeds, sorted, h => by
    obtain ⟨rfl, _⟩ := h.eq_of_pure
    exact ⟨List.forall_mem_nil _, List.forall_mem_nil _⟩
  | url :: urls, deeds, sorted, h => by
    rw [evict] at h
    cases hreusable : worker.isReusable previous url with
    | true =>
      rw [hreusable, if_pos rfl] at h
      obtain ⟨others, last, _, rfl, hothers, hlast⟩ := h.exists_of_step_bind
      obtain ⟨rfl, _⟩ := hlast.eq_of_pure
      obtain ⟨honly, hall⟩ := done_evict hothers
      rw [List.append_nil]
      refine ⟨honly, fun other hother hnot => hall other ?_ hnot⟩
      exact (List.mem_cons.mp hother).resolve_left fun heq => by
        rw [heq, hreusable] at hnot
        cases hnot
    | false =>
      rw [hreusable, if_neg Bool.false_ne_true] at h
      obtain ⟨existed, rest, rfl, hrest⟩ := h.exists_of_store_bind
      obtain ⟨others, last, _, rfl, hothers, hlast⟩ := hrest.exists_of_step_bind
      obtain ⟨rfl, _⟩ := hlast.eq_of_pure
      obtain ⟨honly, hall⟩ := done_evict hothers
      rw [List.append_nil]
      refine ⟨fun deed hdeed => ?_, fun other hother hnot => ?_⟩
      · rcases List.mem_cons.mp hdeed with rfl | hdeed
        · exact ⟨url, rfl⟩
        · exact honly deed hdeed
      · rcases List.mem_cons.mp hother with rfl | hother
        · exact ⟨existed, .head _⟩
        · obtain ⟨existed', hmem⟩ := hall other hother hnot
          exact ⟨existed', .tail _ hmem⟩

/-- What is copied was found in the source. -/
theorem done_copyEach {target source : String} : ∀ {keys : List String} {deeds : List Deed}
    {copied : List String}, Done (copyEach target source keys).run deeds (.ok copied) →
      Copies target source deeds
  | [], deeds, copied, h => by
    obtain ⟨rfl, _⟩ := h.eq_of_pure
    exact .nil
  | key :: keys, deeds, copied, h => by
    obtain ⟨found, rest, rfl, hrest⟩ := h.exists_of_store_bind
    cases found with
    | none => exact (done_copyEach hrest).cons (by simp)
    | some response =>
      obtain ⟨_, stored, rfl, hstored⟩ := hrest.exists_of_store_bind
      obtain ⟨others, last, _, rfl, hothers, hlast⟩ := hstored.exists_of_step_bind
      obtain ⟨rfl, _⟩ := hlast.eq_of_pure
      rw [List.append_nil]
      exact (done_copyEach hothers).copy

/-- What a promotion stores in the content was found staged. -/
theorem done_promote {copied : List String} (hne : worker.content ≠ worker.records)
    (h : Done worker.promote.run deeds (.ok copied)) : Copies worker.content worker.temp deeds := by
  rw [promote, copyInto_eq] at h
  obtain ⟨copying, rest, _, rfl, hcopying, hrest⟩ := h.exists_of_step_bind
  obtain ⟨keys, copies, rfl, hcopies⟩ := hcopying.exists_of_store_bind
  obtain ⟨_, dropped, rfl, hdropped⟩ := hrest.exists_of_store_bind
  obtain ⟨_, recorded, rfl, hrecorded⟩ := hdropped.exists_of_store_bind
  obtain ⟨claiming, last, _, rfl, hclaiming, hlast⟩ := hrecorded.exists_of_step_bind
  obtain rfl := hclaiming.eq_of_act
  obtain ⟨rfl, _⟩ := hlast.eq_of_pure
  have hlisting : Copies worker.content worker.temp
      (⟨.storage (.keys worker.temp), .ok keys⟩ :: copies) :=
    (done_copyEach hcopies).cons (by simp)
  have hrecording : ∀ url response, Action.storage
      (.put worker.records worker.recordUrl (.json worker.build.resources.toBytes)) ≠
        .storage (.put worker.content url response) := by
    simp [Ne.symm hne]
  exact hlisting.append (.cons (by simp) (.cons hrecording (.cons (by simp) .nil)))

/-- An upgrade reads the record, lists the content, takes out what is not reusable and copies. -/
theorem done_reconcile {evicted retained copied : List String}
    (h : Done worker.reconcile.run deeds (.ok (.upgraded evicted retained copied))) :
    ∃ previous before listed later,
      deeds = before ++ ⟨.storage (.keys worker.content), .ok listed⟩ :: later ∧
      worker.goesBy? before = some previous ∧
      (∀ url ∈ listed, worker.isReusable previous url = false → ∃ existed,
        ⟨.storage (.remove worker.content url), .ok existed⟩ ∈ later) ∧
      (worker.content ≠ worker.records → Copies worker.content worker.temp later) := by
  obtain ⟨_, _, rfl, hcontent⟩ := h.exists_of_store_bind
  obtain ⟨_, _, rfl, htemp⟩ := hcontent.exists_of_store_bind
  obtain ⟨_, _, rfl, hrecords⟩ := htemp.exists_of_store_bind
  obtain ⟨_, _, found, rfl, hread, hfound⟩ := hrecords.exists_of_step_bind
  cases found with
  | none =>
    -- without a record the content is rebuilt, and that is no upgrade
    obtain ⟨_, _, _, hdeleted⟩ := hfound.exists_of_store_bind
    obtain ⟨_, _, _, hcreated⟩ := hdeleted.exists_of_store_bind
    obtain ⟨_, _, _, _, _, hlast⟩ := hcreated.exists_of_step_bind
    cases hlast.eq_of_pure.2
  | some previous =>
    obtain ⟨response, rfl, hresponse⟩ := done_readRecord hread
    obtain ⟨listed, _, rfl, hlisted⟩ := hfound.exists_of_store_bind
    obtain ⟨evicting, _, sorted, rfl, hevicting, hevicted⟩ := hlisted.exists_of_step_bind
    obtain ⟨promoting, last, copied, rfl, hpromoting, hlast⟩ := hevicted.exists_of_step_bind
    obtain ⟨rfl, _⟩ := hlast.eq_of_pure
    obtain ⟨honly, hall⟩ := done_evict hevicting
    refine ⟨previous, [_, _, _, _], listed, evicting ++ (promoting ++ []), rfl, ?_,
      fun url hurl hnot => ?_, fun hne => ?_⟩
    · have hfind : Deed.manifest? worker ⟨.storage (.find worker.records worker.recordUrl),
          .ok (some response)⟩ = some previous :=
        (if_pos ⟨rfl, rfl⟩).trans (congrArg Except.toOption hresponse)
      rw [goesBy?, List.findSome?_cons, List.findSome?_cons, List.findSome?_cons,
        List.findSome?_cons, hfind]
      rfl
    · obtain ⟨existed, hmem⟩ := hall url hurl hnot
      exact ⟨existed, List.mem_append_left _ hmem⟩
    · rw [List.append_nil]
      refine .append (.of_forall fun deed hdeed url response => ?_) (done_promote hne hpromoting)
      obtain ⟨other, hother⟩ := honly deed hdeed
      rw [hother]
      exact nofun

/-- An activation that succeeds does what its reconciliation does, and no storage call besides. -/
theorem done_activate {evicted retained copied : List String}
    (h : Done worker.activate deeds (.upgraded evicted retained copied)) :
    ∃ reconciling concluding, deeds = ⟨.beginActivation, ()⟩ :: (reconciling ++ concluding) ∧
      Done worker.reconcile.run reconciling (.ok (.upgraded evicted retained copied)) ∧
      ∀ deed ∈ concluding, ∀ call, deed.1 ≠ .storage call := by
  rw [activate_eq_call] at h
  cases h with
  | call _ hlocked =>
    obtain ⟨reconciling, concluding, result, rfl, hreconciling, hconcluding⟩ :=
      hlocked.exists_of_bind
    cases result with
    | error error =>
      obtain ⟨_, _, _, _, _, hnoted⟩ := hconcluding.exists_of_bind
      obtain ⟨_, _, _, _, _, hcleared⟩ := hnoted.exists_of_bind
      obtain ⟨_, _, _, _, _, hlast⟩ := hcleared.exists_of_bind
      cases hlast
    | ok outcome =>
      have hsilent : Program.Only (S := signature) (fun action => ∀ call, action ≠ .storage call)
          (worker.conclude (.ok outcome)) :=
        only_conclude (fun _ _ => nofun) (fun _ => nofun) _ fun _ => nofun
      obtain ⟨_, _, _, _, _, hnoted⟩ := hconcluding.exists_of_bind
      obtain ⟨_, _, _, _, _, hlast⟩ := hnoted.exists_of_bind
      cases hlast
      exact ⟨_, _, rfl, hreconciling, hconcluding.all_of_only hsilent⟩

/-- The first manifest that is read is the one that an upgrade goes by. -/
theorem exists_listing {previous : Manifest} {evicted retained copied : List String}
    (h : Done worker.activate deeds (.upgraded evicted retained copied))
    (hprevious : worker.goesBy? deeds = some previous) :
    ∃ before listed later,
      deeds = before ++ ⟨.storage (.keys worker.content), .ok listed⟩ :: later ∧
      (∀ url ∈ listed, worker.isReusable previous url = false → ∃ existed,
        ⟨.storage (.remove worker.content url), .ok existed⟩ ∈ later) ∧
      (worker.content ≠ worker.records → Copies worker.content worker.temp later) := by
  obtain ⟨reconciling, concluding, rfl, hreconciling, hsilent⟩ := done_activate h
  obtain ⟨previous', before, listed, later, rfl, hread, hremoved, hcopies⟩ :=
    done_reconcile hreconciling
  obtain rfl : previous' = previous := by
    rw [goesBy?, List.append_assoc, List.findSome?_cons, List.findSome?_append,
      show List.findSome? _ before = _ from hread] at hprevious
    exact Option.some.inj hprevious
  refine ⟨⟨.beginActivation, ()⟩ :: before, listed, later ++ concluding, ?_,
    fun url hurl hnot => ?_, fun hne => ?_⟩
  · rw [List.append_assoc]
    rfl
  · obtain ⟨existed, hmem⟩ := hremoved url hurl hnot
    exact ⟨existed, List.mem_append_left _ hmem⟩
  · exact (hcopies hne).append (.of_forall fun deed hdeed _ _ => hsilent deed hdeed _)

/-! ## Whatever overlaps an upgrade -/

variable {α : Type} {left : Routine α} {value : α} {memory after : Memory} {moves : List Move}
  {evicted retained copied : List String}

/-- What is there for a URL that is not reusable was written after the content was listed. -/
theorem written_of_overlap {previous : Manifest} {url : String}
    (h : Overlap left worker.activate memory moves after value (.upgraded evicted retained copied))
    (hprevious : worker.goesBy? (moves.filterMap Move.right?) = some previous)
    (hurl : worker.isReusable previous url = false) :
    ∃ early listed late,
      moves = early ++ .right ⟨.storage (.keys worker.content), .ok listed⟩ :: late ∧
      (Memory.entries after worker.content).get? url =
        written? worker.content url none (late.map Move.deed) ∧
      (worker.content ≠ worker.records →
        Copies worker.content worker.temp (late.filterMap Move.right?)) := by
  obtain ⟨before, listed, later, hdeeds, hremoved, hcopies⟩ := exists_listing h.right hprevious
  obtain ⟨early, late, rfl, _, rfl⟩ := Move.exists_of_filterMap_right? hdeeds
  refine ⟨early, listed, late, rfl, ?_, hcopies⟩
  have hhappens := h.happens
  rw [List.map_append, List.map_cons] at hhappens
  obtain ⟨middle, _, hlisting⟩ := hhappens.exists_of_append
  cases hlisting with
  | cons hoccurs hlate =>
    obtain ⟨hlisted, rfl⟩ := Prod.mk.inj hoccurs.eq_of_ok
    rw [get?_of_happens hlate]
    by_cases hmem : url ∈ listed
    · -- it was listed, so it is removed later, whatever there is by then
      obtain ⟨existed, hremove⟩ := hremoved url hmem hurl
      have hmove := Move.mem_map_deed.mpr (.inr (Move.mem_filterMap_right?.mp hremove))
      exact written?_of_overwrites hmove (Deed.overwrites_remove _ _ existed) _ _
    · rw [← Except.ok.inj hlisted] at hmem
      rw [(Table.get?_eq_none_iff _ _).mpr hmem]

/-- What an upgrade finds staged was staged, whatever goes on in the content meanwhile. -/
theorem staged_of_find (hnodup : worker.config.regions.all.Nodup)
    (h : Overlap left worker.activate memory moves after value (.upgraded evicted retained copied))
    (hleft : Program.Only (S := signature) (Within [worker.content]) left) {url : String}
    {response : Response}
    (hfind : .right ⟨.storage (.find worker.temp url), .ok (some response)⟩ ∈ moves) :
    (Memory.entries memory worker.temp).get? url = some response := by
  obtain ⟨hct, _, htr⟩ := ne_of_nodup hnodup
  have hright : Program.Only (S := signature)
      (fun action => action ≠ .storage (.put worker.temp url response)) worker.activate := by
    rw [activate_eq_call]
    refine .call nofun fun _ => only_locked (fun call hcall heq => ?_) nofun (fun _ => nofun) nofun
    injection heq with heq
    subst heq
    exact hcall.region_of_put.elim (fun heq => hct heq.symm) htr
  have hnone : ⟨.storage (.put worker.temp url response), .ok ()⟩ ∉ moves.map Move.deed := by
    intro hput
    rcases Move.mem_map_deed.mp hput with hput | hput
    · obtain ⟨region, hregion, hcall⟩ :=
        h.left.all_of_only hleft _ (Move.mem_filterMap_left?.mpr hput)
      rw [List.mem_singleton.mp hregion] at hcall
      exact hct (Option.some.inj hcall).symm
    · exact h.right.all_of_only hright _ (Move.mem_filterMap_right?.mpr hput) rfl
  obtain ⟨early, late, rfl⟩ := List.append_of_mem hfind
  have hhappens := h.happens
  rw [List.map_append, List.map_cons] at hhappens hnone
  obtain ⟨middle, hearly, hfinding⟩ := hhappens.exists_of_append
  cases hfinding with
  | cons hoccurs _ =>
    have hfound := Except.ok.inj (Prod.mk.inj hoccurs.eq_of_ok).1
    rw [get?_of_happens hearly] at hfound
    exact (eq_some_of_written? hfound).resolve_right fun hput =>
      hnone (List.mem_append_left _ hput)

/-! ## A fetch of the version before -/

/-- A key that has changed has a URL that is not reusable, if the URL is found under the key. -/
theorem isReusable_urlFor {previous : Manifest} {key : String} (hne : key.toList ≠ [])
    (hslash : ∀ c ∈ key.toList.head?, c ≠ '/')
    (hchanged : worker.build.resources.hash? key ≠ previous.hash? key) :
    worker.isReusable previous (worker.urlFor key) = false := by
  rw [Bool.eq_false_iff, Ne, isReusable_iff]
  rintro ⟨found, hash, hfound, hprevious, hnow⟩
  obtain rfl : key = found :=
    Option.some.inj ((Key.contentKey?_urlFor hne hslash worker.config.origin).symm.trans hfound)
  exact hchanged (hnow.trans hprevious.symm)

/-- What is there for a changed key was staged, or stored after the upgrade listed the content. -/
theorem written_since_listing {old new : Worker} (hconfig : new.config = old.config)
    {request : Request} {key : String} (hkey : old.interceptedKey? request = some key)
    {served : Except WorkerError (Option Served)}
    (h : Overlap (old.handleFetch request).run new.activate memory moves after served
      (.upgraded evicted retained copied))
    (hrecord : new.goesBy? (moves.filterMap Move.right?) = some old.build.resources) :
    let url := new.urlFor key
    let entry := (Memory.entries after new.content).get? url
    ((∀ c ∈ key.toList.head?, c ≠ '/') →
      new.build.resources.hash? key ≠ old.build.resources.hash? key →
        new.isReusable old.build.resources url = false) ∧
    (new.isReusable old.build.resources url = false →
      ∃ early listed late,
        moves = early ++ .right ⟨.storage (.keys new.content), .ok listed⟩ :: late ∧
        entry = written? new.content url none (late.map Move.deed) ∧
        ∀ response, entry = some response →
          .left ⟨.storage (.put new.content url response), .ok ()⟩ ∈ late ∨
          .right ⟨.storage (.put new.content url response), .ok ()⟩ ∈ late ∧
            (new.config.regions.all.Nodup →
              (Memory.entries memory new.temp).get? url = some response)) := by
  intro url entry
  obtain ⟨_, hasked, _⟩ := interceptedKey?_eq_some_iff.mp hkey
  refine ⟨isReusable_urlFor (Key.toList_ne_nil_of_requestKey? hasked), fun hurl => ?_⟩
  obtain ⟨early, listed, late, rfl, hentry, hcopies⟩ := written_of_overlap h hrecord hurl
  refine ⟨early, listed, late, rfl, hentry, fun response hresponse => ?_⟩
  have hput := (eq_some_of_written? (hentry.symm.trans hresponse)).resolve_left nofun
  refine (Move.mem_map_deed.mp hput).imp_right fun hput => ⟨hput, fun hnodup => ?_⟩
  have hwithin : Program.Only (S := signature) (Within [new.content])
      (old.handleFetch request).run := by
    rw [show new.content = old.content from congrArg (·.regions.content) hconfig]
    exact within_handleFetch old request
  have hfind := hcopies (ne_of_nodup hnodup).2.1 _ _ _ (Move.mem_filterMap_right?.mpr hput)
  exact staged_of_find hnodup h hwithin
    (List.mem_append_right _ (.tail _ (Move.mem_filterMap_right?.mp hfind)))

/-- An upgrade that comes after another program is one that overlaps it. -/
theorem exists_overlap_of_runs {around : Surroundings} {previous : Manifest}
    (houtcome : (around.run worker.activate
      (Scene.start (around.run left (Scene.start memory)).2.memory)).1 =
        .upgraded evicted retained copied)
    (hrecord : worker.goesBy? (around.run worker.activate
      (Scene.start (around.run left (Scene.start memory)).2.memory)).2.deeds = some previous) :
    ∃ moves, Overlap left worker.activate memory moves
        (around.run worker.activate
          (Scene.start (around.run left (Scene.start memory)).2.memory)).2.memory
        (around.run left (Scene.start memory)).1 (.upgraded evicted retained copied) ∧
      worker.goesBy? (moves.filterMap Move.right?) = some previous := by
  have hoverlap := Overlap.of_runs around left worker.activate memory
  dsimp only at hoverlap
  rw [houtcome] at hoverlap
  exact ⟨_, hoverlap, (congrArg worker.goesBy? (Move.filterMap_right?_between _ _ _)).trans hrecord⟩

/-- An answer that was stored before the upgrade began is gone when it is over. -/
theorem written_since_listing_of_early :
    let config : Config := .ofOrigin "http://[::1]"
    let around := Surroundings.serving (.json [0])
    let old : Worker := ⟨config, ⟨Table.empty.insert "a" "1", []⟩⟩
    let new : Worker := ⟨config, ⟨Table.empty.insert "a" "2", []⟩⟩
    let memory := Operation.after new around (Operation.after old around .empty .activate) .install
    let fetched := around.run (old.handleFetch (Request.get "http://[::1]/a")).run
      (Scene.start memory)
    let upgraded := around.run new.activate (Scene.start fetched.2.memory)
    (Memory.entries fetched.2.memory new.content).get? (new.urlFor "a") = some (.json [0]) ∧
      ∃ moves early listed late,
        Overlap (old.handleFetch (Request.get "http://[::1]/a")).run new.activate memory moves
          upgraded.2.memory fetched.1 upgraded.1 ∧
        moves = early ++ .right ⟨.storage (.keys new.content), .ok listed⟩ :: late ∧
        (Memory.entries upgraded.2.memory new.content).get? (new.urlFor "a") =
          written? new.content (new.urlFor "a") none (late.map Move.deed) ∧
        (Memory.entries upgraded.2.memory new.content).get? (new.urlFor "a") = none := by
  intro config around old new memory
  have hkey : old.interceptedKey? (Request.get "http://[::1]/a") = some "a" := by decide +kernel
  have houtcome : (around.run new.activate (Scene.start (around.run
      (old.handleFetch (Request.get "http://[::1]/a")).run (Scene.start memory)).2.memory)).1 =
        .upgraded ["http://[::1]/a"] [] [] := by
    decide +kernel
  have hdeeds : new.goesBy? (around.run new.activate (Scene.start (around.run
      (old.handleFetch (Request.get "http://[::1]/a")).run
        (Scene.start memory)).2.memory)).2.deeds = some old.build.resources := by
    decide +kernel
  have hconfig : new.config = old.config := rfl
  have hslash : ∀ c ∈ "a".toList.head?, c ≠ '/' := by simp
  have hhash : new.build.resources.hash? "a" ≠ old.build.resources.hash? "a" := by decide
  obtain ⟨moves, hoverlap, hrecord⟩ := exists_overlap_of_runs houtcome hdeeds
  obtain ⟨hchanged, hwritten⟩ := written_since_listing hconfig hkey hoverlap hrecord
  obtain ⟨early, listed, late, hmoves, hentry, _⟩ := hwritten (hchanged hslash hhash)
  rw [← houtcome] at hoverlap
  exact ⟨by decide +kernel, moves, early, listed, late, hoverlap, hmoves, hentry,
    by decide +kernel⟩

/-! ## Answers that stay -/

/-- A fetch may find nothing and store what the network answers. -/
theorem done_handleFetch {request : Request} {key : String} (response : Response)
    (hkey : worker.interceptedKey? request = some key) (hroot : Key.isRoot key = false)
    (hsuccess : response.isSuccess = true) : ∃ note,
      Done (worker.handleFetch request).run
        [⟨.storage (.create worker.content), .ok ()⟩,
          ⟨.storage (.find worker.content (worker.urlFor key)), .ok none⟩,
          ⟨.fetch request, .ok response⟩,
          ⟨.storage (.put worker.content (worker.urlFor key) response), .ok ()⟩,
          ⟨.log note, ()⟩]
        (.ok (some ⟨key, response, .miss⟩)) := by
  have hfill : Done (worker.fill key (worker.urlFor key) response "lazy cache fill failed").run
      [⟨.storage (.put worker.content (worker.urlFor key) response), .ok ()⟩] (.ok ()) := by
    refine .act_bind _ ?_
    exact .done _
  have hfirst : Done (worker.cacheFirst request key (worker.urlFor key)).run
      [⟨.storage (.create worker.content), .ok ()⟩,
        ⟨.storage (.find worker.content (worker.urlFor key)), .ok none⟩,
        ⟨.fetch request, .ok response⟩,
        ⟨.storage (.put worker.content (worker.urlFor key) response), .ok ()⟩]
      (.ok ⟨key, response, .miss⟩) := by
    refine .store_bind _ ?_
    refine .store_bind _ ?_
    refine .act_bind _ ?_
    dsimp only
    rw [hsuccess, if_pos rfl]
    exact .step_bind hfill (.done _)
  rw [handleFetch, hkey]
  dsimp only
  rw [hroot, if_neg Bool.false_ne_true]
  exact ⟨_, .step_bind hfirst (.act_bind _ (.done _))⟩

section Outlives

variable {old new : Worker} {request : Request} {key : String} {response : Response}

/-- An answer that the network gave before the upgrade began is there when both are over. -/
def Outlives (old new : Worker) (request : Request) (key : String) (memory : Memory)
    (response : Response) : Prop :=
  ∃ early late after served evicted retained copied,
    Overlap (old.handleFetch request).run new.activate memory
      (early ++ .right ⟨.beginActivation, ()⟩ :: late) after served
        (.upgraded evicted retained copied) ∧
    new.goesBy? ((early ++ .right ⟨.beginActivation, ()⟩ :: late).filterMap Move.right?) =
      some old.build.resources ∧
    .left ⟨.fetch request, .ok response⟩ ∈ early ∧
    (Memory.entries after new.content).get? (new.urlFor key) = some response

/-- The upgrade may run while the fetch has its answer and has not gone on, or is over. -/
theorem outlives_of_interrupted {first rest : List Deed}
    {served : Except WorkerError (Option Served)} {begun : Memory} {around : Surroundings}
    (hfetch : Done (old.handleFetch request).run (first ++ rest) served)
    (hanswer : ⟨.fetch request, .ok response⟩ ∈ first) (hfirst : Happens memory first begun)
    (hupgraded : (around.run new.activate (Scene.start begun)).1 =
      .upgraded evicted retained copied)
    (hrecord : new.goesBy? (around.run new.activate (Scene.start begun)).2.deeds =
      some old.build.resources)
    (hrest : Happens (around.run new.activate (Scene.start begun)).2.memory rest after)
    (hentry : (Memory.entries after new.content).get? (new.urlFor key) = some response) :
    Outlives old new request key memory response := by
  obtain ⟨during, hduring, hdone, hhappens⟩ :=
    done_run around new.activate (Scene.start begun)
  obtain rfl : _ = during := hduring
  rw [hupgraded] at hdone
  obtain ⟨reconciling, concluding, hdeeds, _⟩ := done_activate hdone
  have hoverlap := Overlap.of_interrupted hfetch hdone hfirst hhappens hrest
  have hmoves : Move.between first (around.run new.activate (Scene.start begun)).2.deeds rest =
      first.map Move.left ++ Move.right ⟨.beginActivation, ()⟩ ::
        ((reconciling ++ concluding).map Move.right ++ rest.map Move.left) := by
    rw [hdeeds, Move.between, List.map_cons, List.append_assoc, List.cons_append]
  have hright := Move.filterMap_right?_between first
    (around.run new.activate (Scene.start begun)).2.deeds rest
  rw [hmoves] at hoverlap hright
  have hleft := List.mem_map_of_mem (f := Move.left) hanswer
  exact ⟨_, _, _, _, _, _, _, hoverlap, (congrArg new.goesBy? hright).trans hrecord, hleft, hentry⟩

/-- A fetch that finds nothing is answered. -/
theorem happens_answered {url : String} (request : Request) (response : Response)
    (hnone : (Memory.entries memory worker.content).get? url = none) :
    Happens memory [⟨.storage (.create worker.content), .ok ()⟩,
        ⟨.storage (.find worker.content url), .ok none⟩, ⟨.fetch request, .ok response⟩]
      (Memory.opened memory worker.content) := by
  have hfind : Memory.answer (.find worker.content url) (Memory.opened memory worker.content) =
      (.ok none, Memory.opened memory worker.content) := by
    rw [Memory.answer, Memory.entries_opened, hnone]
  exact .cons (.of_answer rfl) (.cons (.of_answer hfind) (.cons (.other _ (by simp)) .nil))

/-- A fetch that is answered stores the response. -/
theorem happens_filled {table : Table Response} (url : String) (response : Response)
    (note : Log.Note) (hthere : memory.get? worker.content = some table) :
    Happens memory [⟨.storage (.put worker.content url response), .ok ()⟩, ⟨.log note, ()⟩]
      (memory.insert worker.content (table.insert url response)) :=
  .cons (.of_answer (Memory.answer_put hthere)) (.cons (.other _ (by simp)) .nil)

/-- An answer that is not stored before the upgrade is over stays. -/
theorem outlives_of_late {around : Surroundings} (hconfig : new.config = old.config)
    (hkey : old.interceptedKey? request = some key) (hroot : Key.isRoot key = false)
    (hsuccess : response.isSuccess = true)
    (hnone : (Memory.entries memory old.content).get? (old.urlFor key) = none)
    (hupgraded : (around.run new.activate (Scene.start (Memory.opened memory old.content))).1 =
      .upgraded evicted retained copied)
    (hrecord : new.goesBy?
      (around.run new.activate (Scene.start (Memory.opened memory old.content))).2.deeds =
        some old.build.resources)
    (hthere : (around.run new.activate
      (Scene.start (Memory.opened memory old.content))).2.memory.contains old.content = true) :
    Outlives old new request key memory response := by
  obtain ⟨note, hfetch⟩ := done_handleFetch response hkey hroot hsuccess
  obtain ⟨table, htable⟩ := (Table.contains_eq_true_iff _ _).mp hthere
  refine outlives_of_interrupted hfetch (.tail _ (.tail _ (.head _)))
    (happens_answered request response hnone) hupgraded hrecord
    (happens_filled _ response note htable) ?_
  rw [show new.content = old.content from congrArg (·.regions.content) hconfig,
    show new.urlFor key = old.urlFor key from congrArg (·.urlFor key) hconfig]
  exact (congrArg (Table.get? · _) (Memory.entries_of_get? (Table.get?_insert_self _ _ _))).trans
    (Table.get?_insert_self _ _ _)

/-- An answer that is stored before the upgrade begins stays if the upgrade retains it. -/
theorem outlives_of_retained {around : Surroundings}
    (hkey : old.interceptedKey? request = some key) (hroot : Key.isRoot key = false)
    (hsuccess : response.isSuccess = true)
    (hnone : (Memory.entries memory old.content).get? (old.urlFor key) = none)
    (hupgraded : (around.run new.activate
      (Scene.start (old.filled key response memory))).1 = .upgraded evicted retained copied)
    (hrecord : new.goesBy? (around.run new.activate
      (Scene.start (old.filled key response memory))).2.deeds = some old.build.resources)
    (hentry : (Memory.entries (around.run new.activate
      (Scene.start (old.filled key response memory))).2.memory new.content).get?
        (new.urlFor key) = some response) :
    Outlives old new request key memory response := by
  obtain ⟨note, hfetch⟩ := done_handleFetch response hkey hroot hsuccess
  have hopened := Memory.get?_opened_self memory old.content
  have hfilled := (happens_answered request response hnone).append
    (happens_filled (old.urlFor key) response note hopened)
  have hdone : Done (old.handleFetch request).run (([_, _, _] ++ [_, _]) ++ []) _ := hfetch
  exact outlives_of_interrupted hdone (.tail _ (.tail _ (.head _))) hfilled hupgraded hrecord .nil
    hentry

end Outlives

/-- One answer is stored too late, and one under the URL of a key that has not changed. -/
theorem answers_outlive_upgrades :
    let config : Config := .ofOrigin "http://[::1]"
    let around := Surroundings.serving (.json [0])
    let staging := fun old new : Worker =>
      around.perform new.install (Scene.start (Operation.after old around .empty .activate))
    let old : Worker := ⟨config, ⟨Table.empty.insert "a" "1", []⟩⟩
    let new : Worker := ⟨config, ⟨Table.empty.insert "a" "2", []⟩⟩
    let oldTwin : Worker := ⟨config, ⟨(Table.empty.insert "/a" "1").insert "a" "x", []⟩⟩
    let newTwin : Worker := ⟨config, ⟨(Table.empty.insert "/a" "2").insert "a" "x", []⟩⟩
    (staging old new).1.toOption = some [] ∧ (staging oldTwin newTwin).1.toOption = some [] ∧
      Outlives old new (Request.get "http://[::1]/a") "a" (staging old new).2.memory (.json [0]) ∧
      Outlives oldTwin newTwin (Request.get "http://[::1]//a") "/a"
        (staging oldTwin newTwin).2.memory (.json [0]) := by
  intro config around staging old new oldTwin newTwin
  refine ⟨by decide +kernel, by decide +kernel, ?_, ?_⟩
  · have hkey : old.interceptedKey? (Request.get "http://[::1]/a") = some "a" := by decide +kernel
    have hnone : (Memory.entries (staging old new).2.memory old.content).get? (old.urlFor "a") =
        none := by
      decide +kernel
    have hupgraded : (around.run new.activate (Scene.start
        (Memory.opened (staging old new).2.memory old.content))).1 = .upgraded [] [] [] := by
      decide +kernel
    have hrecord : new.goesBy? (around.run new.activate
        (Scene.start (Memory.opened (staging old new).2.memory old.content))).2.deeds =
          some old.build.resources := by
      decide +kernel
    have hthere : (around.run new.activate (Scene.start (Memory.opened (staging old new).2.memory
        old.content))).2.memory.contains old.content = true := by
      decide +kernel
    exact outlives_of_late rfl hkey (by decide) (by decide) hnone hupgraded hrecord hthere
  · have hkey : oldTwin.interceptedKey? (Request.get "http://[::1]//a") = some "/a" := by
      decide +kernel
    have hnone : (Memory.entries (staging oldTwin newTwin).2.memory oldTwin.content).get?
        (oldTwin.urlFor "/a") = none := by
      decide +kernel
    have hupgraded : (around.run newTwin.activate (Scene.start
        (oldTwin.filled "/a" (.json [0]) (staging oldTwin newTwin).2.memory))).1 =
          .upgraded [] ["http://[::1]/a"] [] := by
      decide +kernel
    have hrecord : newTwin.goesBy? (around.run newTwin.activate (Scene.start
        (oldTwin.filled "/a" (.json [0]) (staging oldTwin newTwin).2.memory))).2.deeds =
          some oldTwin.build.resources := by
      decide +kernel
    have hentry : (Memory.entries (around.run newTwin.activate (Scene.start (oldTwin.filled "/a"
        (.json [0]) (staging oldTwin newTwin).2.memory))).2.memory newTwin.content).get?
          (newTwin.urlFor "/a") = some (.json [0]) := by
      decide +kernel
    exact outlives_of_retained hkey (by decide) (by decide) hnone hupgraded hrecord hentry

end AssetCache.Worker
