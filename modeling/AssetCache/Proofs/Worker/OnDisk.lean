import AssetCache.Proofs.Key
import AssetCache.Proofs.Storage.Holding
import AssetCache.Proofs.Worker.Content

/-!
# A worker whose storage is in a directory

The programs of a worker are run here over a disk, with a storage that lives in a directory and a
network of which nothing is fixed (`performOnDisk`). Whatever was called on the storage before, a
request fails for the sake of the storage only if the URL of the resource is too long to be looked
for (`handleFetch_of_open`).

The main result says by the length of a URL what becomes of it (`held_by_length`).
-/

set_option autoImplicit false

namespace AssetCache.Worker

open Disk (Path Tree)
open Storage (Call)
open Storage.Files (Kept Leads PutEnds Untouched inTurn longestSought longestStored regionPath regionPlace)

/-! ## Running over a disk -/

/-- The reply to an action over a storage in a directory, and the disk after it. -/
def diskReply (root : Path) (around : Surroundings) :
    (action : Action) → Tree → action.Reply × Tree
  | .storage call, tree => Storage.Files.answer root call tree
  | .fetch request, tree => (around.respond 0 request, tree)
  | .fetchAll requests, tree => (around.arrive 0 requests, tree)
  | .skipWaiting, tree => ((), tree)
  | .claimClients, tree => ((), tree)
  | .log _, tree => ((), tree)
  | .beginActivation, tree => ((), tree)
  | .endActivation, tree => ((), tree)

/-- Run a program that may fail over a disk. -/
def performOnDisk {α : Type} (root : Path) (around : Surroundings) (step : Step α) (tree : Tree) :
    Except WorkerError α × Tree :=
  Program.run (diskReply root around) step.run tree

section Steps

variable {α β : Type} {root : Path} {around : Surroundings} {tree : Tree}

theorem performOnDisk_bind (step : Step α) (next : α → Step β) :
    performOnDisk root around (step >>= next) tree =
      match (performOnDisk root around step tree).1 with
      | .ok value =>
        performOnDisk root around (next value) (performOnDisk root around step tree).2
      | .error error => (.error error, (performOnDisk root around step tree).2) := by
  refine (Program.run_bind (diskReply root around) _ step.run tree).trans ?_
  show Program.run _ (ExceptT.bindCont next (performOnDisk root around step tree).1)
    (performOnDisk root around step tree).2 = _
  cases (performOnDisk root around step tree).1 with
  | ok value => rfl
  | error error => rfl

theorem performOnDisk_store (call : Call) :
    performOnDisk root around (store call) tree =
      ((Storage.Files.answer root call tree).1.mapError .storage,
        (Storage.Files.answer root call tree).2) := rfl

theorem performOnDisk_stepAct_bind (action : Action) (next : action.Reply → Step β) :
    performOnDisk root around (stepAct action >>= next) tree =
      performOnDisk root around (next (diskReply root around action tree).1)
        (diskReply root around action tree).2 := rfl

theorem performOnDisk_fetch_bind (request : Request) (next : Fetch.Result → Step β) :
    performOnDisk root around (stepAct (.fetch request) >>= next) tree =
      performOnDisk root around (next (around.respond 0 request)) tree := rfl

/-- Whether a response can be stored or not, it is served. -/
theorem performOnDisk_fill_bind (worker : Worker) (key url : String) (response : Response)
    (complaint : String) (served : α) :
    (performOnDisk root around
      (worker.fill key url response complaint >>= fun _ => pure served) tree).1 = .ok served := by
  rw [performOnDisk_bind, fill, performOnDisk_stepAct_bind]
  cases (diskReply root around (.storage (.put worker.content url response)) tree).1 with
  | ok value => rfl
  | error error => rfl

end Steps

/-! ## Serving -/

section Serving

variable {root place : Path} {around : Surroundings} {tree : Tree} {worker : Worker}
  {request : Request} {key url : String}

/-- To open a region that is there changes nothing. -/
theorem create_of_found {region : String} {here : Path}
    (hfound : tree.findDirectory (regionPath root region) = .ok here) :
    Storage.Files.answer root (.create region) tree = (.ok (), tree) := by
  obtain ⟨hwalk, hhere⟩ := Tree.findDirectory_eq_ok_iff.mp hfound
  have hcreate := Tree.createFrom_of_walkFrom hhere [] hwalk
  rw [List.append_nil] at hcreate
  exact Storage.Files.perform_disk hcreate

/-- What a resource is served as, if it is not the entry document. -/
theorem performOnDisk_cacheFirst
    (hopen : Storage.Files.answer root (.create worker.content) tree = (.ok (), tree))
    (hkeeps : (Storage.Files.answer root (.find worker.content url) tree).2 = tree) :
    (performOnDisk root around (worker.cacheFirst request key url) tree).1 =
      match (Storage.Files.answer root (.find worker.content url) tree).1 with
      | .error error => .error (.storage error)
      | .ok (some cached) => .ok ⟨key, cached, .hit⟩
      | .ok none =>
        match around.respond 0 request with
        | .error error => .error (.fetch error)
        | .ok response => .ok ⟨key, response, if response.isSuccess then .miss else .bypass⟩ := by
  rw [cacheFirst, performOnDisk_bind, performOnDisk_store, hopen]
  show (performOnDisk root around (store (.find worker.content url) >>= _) tree).1 = _
  rw [performOnDisk_bind, performOnDisk_store, hkeeps]
  cases (Storage.Files.answer root (.find worker.content url) tree).1 with
  | error error => rfl
  | ok entry =>
    cases entry with
    | some cached => rfl
    | none =>
      show (performOnDisk root around (stepAct (.fetch request) >>= _) tree).1 = _
      rw [performOnDisk_fetch_bind]
      cases around.respond 0 request with
      | error error => rfl
      | ok response =>
        dsimp only
        cases response.isSuccess with
        | false => rfl
        | true =>
          exact performOnDisk_fill_bind worker key url response "lazy cache fill failed"
            (⟨key, response, .miss⟩ : Served)

/-- What the entry document is served as. -/
theorem performOnDisk_networkFirst
    (hopen : Storage.Files.answer root (.create worker.content) tree = (.ok (), tree)) :
    (performOnDisk root around (worker.networkFirst request key url) tree).1 =
      match around.respond 0 request with
      | .ok response => .ok ⟨key, response, .network⟩
      | .error error =>
        match (Storage.Files.answer root (.find worker.content url) tree).1 with
        | .error error => .error (.storage error)
        | .ok (some cached) => .ok ⟨key, cached, .fallback⟩
        | .ok none => .error (.fetch error) := by
  rw [networkFirst, performOnDisk_bind, performOnDisk_store, hopen]
  show (performOnDisk root around (stepAct (.fetch request) >>= _) tree).1 = _
  rw [performOnDisk_fetch_bind]
  cases around.respond 0 request with
  | ok response =>
    exact performOnDisk_fill_bind worker key url response "entry document cache update failed"
      (⟨key, response, .network⟩ : Served)
  | error error =>
    show (performOnDisk root around (store (.find worker.content url) >>= _) tree).1 = _
    rw [performOnDisk_bind, performOnDisk_store]
    cases (Storage.Files.answer root (.find worker.content url) tree).1 with
    | error refusal => rfl
    | ok entry =>
      cases entry with
      | some cached => rfl
      | none => rfl

/-- A request that is intercepted is served, and a note is made of it. -/
theorem performOnDisk_handleFetch (hkey : worker.interceptedKey? request = some key) :
    (performOnDisk root around (worker.handleFetch request) tree).1 =
      (performOnDisk root around
        (if Key.isRoot key then worker.networkFirst request key (worker.urlFor key)
          else worker.cacheFirst request key (worker.urlFor key)) tree).1.map some := by
  have hnoted : ∀ step : Step Served, (performOnDisk root around (do
      let served ← step
      stepNote .fetch .debug "served"
        (Log.Fields.number (Log.Fields.text .empty "status" served.provenance.label)
          "http_status" served.response.status.toNat) (some key)
      return some served) tree).1 = (performOnDisk root around step tree).1.map some := by
    intro step
    rw [performOnDisk_bind]
    cases (performOnDisk root around step tree).1 with
    | ok served => rfl
    | error error => rfl
  rw [handleFetch, hkey]
  dsimp only
  cases Key.isRoot key with
  | true => exact hnoted (worker.networkFirst request key (worker.urlFor key))
  | false => exact hnoted (worker.cacheFirst request key (worker.urlFor key))

/-- From a storage as calls leave it, a request fails for the storage's sake only if the URL is too
long to be looked for, and the network has not answered for the entry document. -/
theorem handleFetch_of_open (h : Kept place tree) (hcontent : worker.content ≠ "")
    (hfound : tree.findDirectory (regionPath root worker.content) =
      .ok (regionPlace place worker.content))
    (hkey : worker.interceptedKey? request = some key) (error : StorageError) :
    (performOnDisk root around (worker.handleFetch request) tree).1 = .error (.storage error) ↔
      error = .disk .nameTooLong ∧ longestSought < (worker.urlFor key).utf8ByteSize ∧
        (Key.isRoot key = true → ∃ failure, around.respond 0 request = .error failure) := by
  have hopen := create_of_found hfound
  have hkeeps : (Storage.Files.answer root (.find worker.content (worker.urlFor key)) tree).2 =
      tree := congrArg Prod.snd (Storage.Files.perform_find root _ _ tree)
  rw [performOnDisk_handleFetch hkey]
  by_cases hlong : longestSought < (worker.urlFor key).utf8ByteSize
  · have hfind : (Storage.Files.answer root (.find worker.content (worker.urlFor key)) tree).1 =
        .error (.disk .nameTooLong) := h.find_of_long hcontent hfound hlong
    cases hroot : Key.isRoot key with
    | true =>
      rw [if_pos rfl, performOnDisk_networkFirst hopen, hfind]
      cases around.respond 0 request with
      | ok response => simp [Except.map]
      | error failure => simp [Except.map, hlong, eq_comm]
    | false =>
      rw [if_neg (by decide), performOnDisk_cacheFirst hopen hkeeps, hfind]
      simp [Except.map, hlong, eq_comm]
  · obtain ⟨entry, hfind, _⟩ := h.exists_find hcontent hfound (Nat.not_lt.mp hlong)
    change (Storage.Files.answer root (.find worker.content (worker.urlFor key)) tree).1 =
      .ok entry at hfind
    -- nothing that the storage is asked on the way is refused
    have hserved : ∀ error, (performOnDisk root around
        (if Key.isRoot key then worker.networkFirst request key (worker.urlFor key)
          else worker.cacheFirst request key (worker.urlFor key)) tree).1 ≠
            .error (.storage error) := by
      intro error
      cases Key.isRoot key with
      | true =>
        rw [if_pos rfl, performOnDisk_networkFirst hopen, hfind]
        cases around.respond 0 request with
        | ok response => simp
        | error failure => cases entry <;> simp
      | false =>
        rw [if_neg (by decide), performOnDisk_cacheFirst hopen hkeeps, hfind]
        cases entry with
        | some cached => simp
        | none => cases around.respond 0 request <;> simp
    constructor
    · intro hfailed
      cases hresult : (performOnDisk root around
        (if Key.isRoot key then worker.networkFirst request key (worker.urlFor key)
          else worker.cacheFirst request key (worker.urlFor key)) tree).1 with
      | ok served =>
        rw [hresult] at hfailed
        cases hfailed
      | error failure =>
        rw [hresult] at hfailed
        cases hfailed
        exact absurd hresult (hserved error)
    · intro hboth
      exact absurd hboth.2.1 hlong

end Serving

/-! ## URLs by their length -/

/-- A storage in a directory that has not been used, and a region that calls have opened in it. -/
theorem open_of_has {fresh : Tree} {root place : Path} (hroot : Untouched fresh root place)
    (calls : List Call) {region : String}
    (hhas : (Storage.Files.answer root (.has region)
      ((inTurn calls).run (Storage.Files.answer root) fresh).2).1 = .ok true) :
    Kept place ((inTurn calls).run (Storage.Files.answer root) fresh).2 ∧
      ((inTurn calls).run (Storage.Files.answer root) fresh).2.findDirectory
        (regionPath root region) = .ok (regionPlace place region) := by
  obtain ⟨hleads, hbare⟩ := hroot.leads
  exact ⟨Storage.Files.kept_run hleads calls (Kept.of_bare hbare), Kept.found_region hleads hhas⟩

/-- A name that is not taken on an empty disk is a place for a storage. -/
theorem untouched_name {name : String} (hname : Tree.Plain name) :
    Untouched .empty [name] [name] := by
  have hmissing : Untouched .empty ([] ++ name :: []) ([] ++ name :: Tree.landing []) :=
    .missing rfl hname (fun _ => rfl) (fun _ hmem => nomatch hmem)
  exact hmissing

/-- Whatever was called on a storage in an empty directory before, an entry is stored in an open
region that has a name, found and listed if its key is at most `longestStored` bytes long. A longer
one is refused for its length, and is not found either: up to `longestSought` bytes it is absent,
beyond that looking for it fails. All other entries are as they were. So a request for a listed
resource fails for the storage's sake only if its URL cannot be looked for. -/
theorem held_by_length {fresh : Tree} {root place : Path} (hroot : Untouched fresh root place)
    (calls : List Call) {region : String} (hregion : region ≠ "") :
    let answer := Storage.Files.answer root
    let tree := ((inTurn calls).run answer fresh).2
    (answer (.has region) tree).1 = .ok true →
      (∀ key response,
        let put := answer (.put region key response) tree
        (key.utf8ByteSize ≤ longestStored →
          put.1 = .ok () ∧ (answer (.find region key) put.2).1 = .ok (some response) ∧
          ∃ before after, (answer (.keys region) tree).1 = .ok before ∧
            (answer (.keys region) put.2).1 = .ok after ∧
              ∀ name, name ∈ after ↔ name = key ∨ name ∈ before) ∧
        (longestStored < key.utf8ByteSize →
          put.1 = .error (.disk .nameTooLong) ∧
          (answer (.keys region) put.2).1 = (answer (.keys region) tree).1 ∧
          ∀ disk ∈ [tree, put.2], (answer (.find region key) disk).1 =
            if key.utf8ByteSize ≤ longestSought then .ok none else .error (.disk .nameTooLong)) ∧
        (∀ region' key', (region', key') ≠ (region, key) →
          (answer (.find region' key') put.2).1 = (answer (.find region' key') tree).1) ∧
        ∀ region', region' ≠ region →
          (answer (.keys region') put.2).1 = (answer (.keys region') tree).1) ∧
      ∀ (worker : Worker) (around : Surroundings) (request : Request) (key : String),
        worker.content = region → worker.interceptedKey? request = some key →
          ∀ error, (performOnDisk root around (worker.handleFetch request) tree).1 =
              .error (.storage error) ↔
            error = .disk .nameTooLong ∧ longestSought < (worker.urlFor key).utf8ByteSize ∧
              (Key.isRoot key = true → ∃ failure, around.respond 0 request = .error failure) := by
  intro answer tree hhas
  have hleads : Leads root place := hroot.leads.1
  have hopen : Kept place tree ∧
      tree.findDirectory (regionPath root region) = .ok (regionPlace place region) :=
    open_of_has hroot calls hhas
  obtain ⟨hkept, hfound⟩ := hopen
  refine ⟨fun key response => ?_, ?_⟩
  · have hends : PutEnds root region key response tree (answer (.put region key response) tree) :=
      Storage.Files.putEnds root region key response tree
    intro put
    refine ⟨fun hshort => ?_, fun hlong => ?_, fun region' key' hne => ?_, fun region' hne => ?_⟩
    · have hput : put = (.ok (), _) := hkept.put_of_short hregion hfound hshort hends
      rw [hput]
      exact ⟨rfl, hkept.find_entered hregion hfound hshort response,
        hkept.keys_entered hregion hfound hshort response⟩
    · have hput : put = (.error (.disk .nameTooLong), _) :=
        hkept.put_of_long hregion hfound hlong hends
      obtain ⟨hfound', hkeys⟩ := hkept.found_of_long hregion hfound hlong hends
      refine ⟨congrArg Prod.fst hput, hkeys, fun disk hdisk => ?_⟩
      rcases List.mem_cons.mp hdisk with rfl | hdisk
      · exact hkept.find_of_unstorable hregion hfound hlong
      · rw [List.mem_singleton.mp hdisk]
        exact (hkept.put hends).find_of_unstorable hregion hfound' hlong
    · exact Storage.Files.find_put_of_ne hleads hregion hne hends
    · exact Storage.Files.keys_put_of_ne hleads hregion hne hends
  · rintro worker around request key rfl hkey error
    exact handleFetch_of_open hkept hregion hfound hkey error

/-- The longest URL that can be stored, on a disk where nothing but a region was opened. -/
theorem held_by_length_of_longest :
    let url := "http://[::1]/" ++ String.ofList (List.replicate 171 'a')
    let answer := Storage.Files.answer ["storage"]
    let tree := ((inTurn [.create "app-cache"]).run answer .empty).2
    let put := answer (.put "app-cache" url ⟨200, .empty, [1]⟩) tree
    Untouched .empty ["storage"] ["storage"] ∧ "app-cache" ≠ "" ∧
      (answer (.has "app-cache") tree).1 = .ok true ∧ url.utf8ByteSize = longestStored ∧
        put.1 = .ok () ∧ (answer (.find "app-cache" url) put.2).1 = .ok (some ⟨200, .empty, [1]⟩) := by
  intro url answer tree put
  have hroot : Untouched .empty ["storage"] ["storage"] :=
    untouched_name ⟨by decide, by decide, by decide⟩
  have hregion : "app-cache" ≠ "" := by decide
  have hhas : (answer (.has "app-cache") tree).1 = .ok true := rfl
  have hsize : url.utf8ByteSize = longestStored := by decide +kernel
  obtain ⟨hentries, -⟩ := held_by_length hroot [.create "app-cache"] hregion hhas
  obtain ⟨hput, hfind, -⟩ := (hentries url ⟨200, .empty, [1]⟩).1 (Nat.le_of_eq hsize)
  exact ⟨hroot, hregion, hhas, hsize, hput, hfind⟩

/-- One byte more and the URL is not stored. With four bytes more, a request for a resource that is
listed fails, though the network would answer it. -/
theorem longer_url_is_not_held :
    let name := String.ofList (List.replicate 175 'a')
    let worker : Worker := ⟨.ofOrigin "http://[::1]", ⟨Table.empty.insert name "1", []⟩⟩
    let request := Request.get (worker.urlFor name)
    let answer := Storage.Files.answer ["storage"]
    let tree := ((inTurn [.create "app-cache"]).run answer .empty).2
    Untouched .empty ["storage"] ["storage"] ∧ worker.content = "app-cache" ∧
      (answer (.has worker.content) tree).1 = .ok true ∧
        worker.interceptedKey? request = some name ∧
          (answer (.put worker.content ("http://[::1]/" ++ String.ofList (List.replicate 172 'a'))
            ⟨200, .empty, [1]⟩) tree).1 = .error (.disk .nameTooLong) ∧
          (performOnDisk ["storage"] (.serving ⟨200, .empty, [2]⟩) (worker.handleFetch request)
            tree).1 = .error (.storage (.disk .nameTooLong)) := by
  intro name worker request answer tree
  have hroot : Untouched .empty ["storage"] ["storage"] :=
    untouched_name ⟨by decide, by decide, by decide⟩
  have hregion : worker.content ≠ "" := by decide
  have hhas : (answer (.has worker.content) tree).1 = .ok true := rfl
  have hname : name.toList = 'a' :: List.replicate 174 'a' := String.toList_ofList
  have hhead : ∀ c ∈ name.toList.head?, c ≠ '/' ∧ c ≠ '#' := by
    intro c hc
    rw [hname] at hc
    cases hc
    decide
  have hproper : Key.Proper name := by
    refine .inr ⟨by rw [hname]; exact List.cons_ne_nil _ _, hhead, fun hquery => ?_⟩
    rw [hname, ← List.replicate_succ] at hquery
    exact absurd (List.eq_of_mem_replicate (hquery.subset List.mem_cons_self)) (by decide)
  have hkey : worker.interceptedKey? request = some name :=
    interceptedKey?_eq_some_iff.mpr ⟨rfl, (Key.requestKey?_urlFor_iff _ name).mpr hproper, by
      rw [Table.contains_insert, beq_self_eq_true, Bool.true_or]⟩
  have hurl : worker.urlFor name = String.ofList ("http://[::1]/".toList ++ name.toList) := by
    show String.ofList (Key.trimOrigin "http://[::1]" ++ '/' :: name.toList.dropWhile _) = _
    rw [Key.dropWhile_slash_eq_self fun c hc => (hhead c hc).1]
    rfl
  have hsought : longestSought < (worker.urlFor name).utf8ByteSize := by
    rw [hurl, hname]
    decide +kernel
  have hstored : longestStored <
      ("http://[::1]/" ++ String.ofList (List.replicate 172 'a')).utf8ByteSize := by decide +kernel
  have hentry : Key.isRoot name ≠ true := by
    intro hisRoot
    have hslash : ['/'] = 'a' :: List.replicate 174 'a' :=
      (congrArg String.toList (beq_iff_eq.mp hisRoot)).symm.trans hname
    cases hslash
  obtain ⟨hkept, hfound⟩ := open_of_has hroot [.create "app-cache"] hhas
  have hput := hkept.put_of_long hregion hfound hstored
    (Storage.Files.putEnds ["storage"] worker.content _ ⟨200, .empty, [1]⟩ tree)
  exact ⟨hroot, rfl, hhas, hkey, congrArg Prod.fst hput,
    (handleFetch_of_open hkept hregion hfound hkey (.disk .nameTooLong)).mpr
      ⟨rfl, hsought, fun hisRoot => absurd hisRoot hentry⟩⟩

end AssetCache.Worker
