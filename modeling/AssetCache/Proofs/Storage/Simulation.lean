import AssetCache.Proofs.Json.Stored
import AssetCache.Proofs.Storage.Standing

/-!
# One call on a disk is one call in memory

From a disk on which a directory holds what is in memory, a storage in the directory
gives the answer of memory and leaves such a disk (`Standing.follows`), if the names of
the region and the key are short enough for the disk (`Legal`). There is one lemma for
each call, and one for all calls on a region that is not there.

What the disk does if it fails half-way is not decided here: it never does.
-/

set_option autoImplicit false

namespace AssetCache.Storage.Files

open Disk (Path Node Tree)
open Disk.Tree (Plain Bare)
open Text.Base64Url (encode)

/-- The answer of a storage in a directory, and the disk after it. -/
def answer (root : Path) (call : Call) (tree : Tree) : Reply call × Tree :=
  (meaning root call).run Tree.answer tree

/-- Names and keys that a disk takes. -/
structure Legal (call : Call) : Prop where
  region : ∀ region, call.region? = some region →
    region ≠ "" ∧ (encode region).length ≤ Tree.maxName
  key : ∀ key, call.key? = some key → (encode key).length ≤ maxKey

instance (call : Call) : Decidable (Legal call) :=
  decidable_of_iff ((∀ region ∈ call.region?, region ≠ "" ∧ (encode region).length ≤ Tree.maxName) ∧
    ∀ key ∈ call.key?, (encode key).length ≤ maxKey)
    ⟨fun h => ⟨h.1, h.2⟩, fun h => ⟨h.region, h.key⟩⟩

/-! ## Steps on a disk -/

section Steps

variable {α β : Type} {tree changed : Tree}

/-- What comes of a step on a disk, and the disk after it. -/
def perform (step : Step α) (tree : Tree) : Except StorageError α × Tree :=
  step.run.run Tree.answer tree

theorem perform_bind {step : Step α} {value : α} (next : α → Step β)
    (h : perform step tree = (.ok value, changed)) :
    perform (step >>= next) tree = perform (next value) changed := by
  refine (Program.run_bind Tree.answer _ step.run tree).trans ?_
  rw [show step.run.run Tree.answer tree = _ from h]
  rfl

theorem perform_disk {call : Disk.Call} {value : call.Value}
    (h : Tree.answer call tree = (.ok value, changed)) :
    perform (disk call) tree = (.ok value, changed) := by
  show ((Tree.answer call tree).1.mapError StorageError.disk, (Tree.answer call tree).2) = _
  rw [h]
  rfl

theorem perform_bind_error {step : Step α} {error : StorageError} (next : α → Step β)
    (h : perform step tree = (.error error, changed)) :
    perform (step >>= next) tree = (.error error, changed) := by
  refine (Program.run_bind Tree.answer _ step.run tree).trans ?_
  rw [show step.run.run Tree.answer tree = _ from h]
  rfl

theorem perform_disk_error {call : Disk.Call} {error : Disk.Error}
    (h : Tree.answer call tree = (.error error, changed)) :
    perform (disk call) tree = (.error (.disk error), changed) := by
  show ((Tree.answer call tree).1.mapError StorageError.disk, (Tree.answer call tree).2) = _
  rw [h]
  rfl

theorem perform_write {path place : Path} {name : String} (bytes : Bytes)
    (hfound : tree.findDirectory path = .ok place) (hname : Plain name)
    (hnode : tree.node? (place ++ [name]) ≠ some .directory) :
    perform (disk (.write (path ++ [name]) bytes)) tree =
      (.ok (), tree.insert (place ++ [name]) (.file bytes)) :=
  perform_disk (Tree.answer_write (Tree.placeForFile_child hfound hname hnode) bytes)

/-- A step takes the answer of the disk, whatever it is. -/
theorem perform_outcome {call : Disk.Call} (next : Disk.Reply call → Step α) (tree : Tree) :
    perform (Attempt.outcome (Disk.ask call) >>= next) tree =
      perform (next (Tree.answer call tree).1) (Tree.answer call tree).2 := rfl

theorem perform_hasRegion (root : Path) (region : String) (tree : Tree) :
    perform (hasRegion root region) tree =
      match tree.find (regionPath root region) with
      | .ok (_, node) => (.ok (node = .directory), tree)
      | .error .notFound => (.ok false, tree)
      | .error error => (.error (.disk error), tree) := by
  rw [hasRegion, diskOr, perform_outcome, Tree.answer]
  cases tree.find (regionPath root region) with
  | ok found => rfl
  | error error => cases error <;> rfl

theorem perform_deleteRegion (root : Path) (region : String) (tree : Tree) :
    perform (deleteRegion root region) tree =
      match tree.findDirectory (regionPath root region) with
      | .ok place => (.ok true, tree.filter fun path => !Tree.isUnder place path)
      | .error .notFound => (.ok false, tree)
      | .error error => (.error (.disk error), tree) := by
  rw [deleteRegion, perform_outcome, Tree.answer]
  cases tree.findDirectory (regionPath root region) with
  | ok found => rfl
  | error error => cases error <;> rfl

/-- A directory that is not there is listed as one without entries. -/
theorem perform_list (path : Path) (tree : Tree) :
    perform (diskOr (.list path) (pure [])) tree =
      match tree.findDirectory path with
      | .ok place => (.ok (tree.children place), tree)
      | .error .notFound => (.ok [], tree)
      | .error error => (.error (.disk error), tree) := by
  rw [diskOr, perform_outcome, Tree.answer]
  cases tree.findDirectory path with
  | ok found => rfl
  | error error => cases error <;> rfl

theorem perform_readFile? (path : Path) (tree : Tree) :
    perform (readFile? path) tree =
      match tree.findFile path with
      | .ok (_, bytes) => (.ok (some bytes), tree)
      | .error .notFound => (.ok none, tree)
      | .error error => (.error (.disk error), tree) := by
  rw [readFile?, perform_outcome, Tree.answer]
  cases tree.findFile path with
  | ok found => rfl
  | error error => cases error <;> rfl

theorem perform_removeFile (path : Path) (tree : Tree) :
    perform (removeFile path) tree =
      match tree.findFile path with
      | .ok (place, _) => (.ok true, tree.erase place)
      | .error .notFound => (.ok false, tree)
      | .error error => (.error (.disk error), tree) := by
  rw [removeFile, perform_outcome, Tree.answer]
  cases tree.findFile path with
  | ok found => rfl
  | error error => cases error <;> rfl

theorem perform_removeFile_child {path place : Path} {name : String} {bytes : Bytes}
    (hfound : tree.findDirectory path = .ok place) (hname : Plain name)
    (hnode : tree.node? (place ++ [name]) = some (.file bytes)) :
    perform (removeFile (path ++ [name])) tree = (.ok true, tree.erase (place ++ [name])) := by
  have hfind := Tree.find_child hfound hname
  rw [hnode] at hfind
  rw [perform_removeFile, Tree.findFile_of_find hfind]

end Steps

/-! ## Calls on a region that is not there -/

section Absent

variable {root : Path} {tree : Tree} {memory : Memory} {region : String}

/-- Where nothing is found in the directory of a region, memory has no such region. -/
theorem answer_absent {call : Call} (hcall : call.region? = some region)
    (hcreate : call ≠ .create region)
    (hmissing : ∀ more, tree.find (regionPath root region ++ more) = .error .notFound)
    (habsent : memory.get? region = none) :
    answer root call tree = ((Memory.answer call memory).1, tree) ∧
      (Memory.answer call memory).2 = memory := by
  have hregion : tree.find (regionPath root region) = .error .notFound := by
    rw [← hmissing [], List.append_nil]
  have hfile : ∀ name, tree.findFile (regionPath root region ++ [name]) = .error .notFound :=
    fun name => Tree.findFile_of_find_error (hmissing [name])
  have hcontains := (Table.contains_eq_false_iff _ _).mpr habsent
  have hentries := Memory.entries_of_get?_none habsent
  cases call with
  | create name =>
    cases hcall
    exact absurd rfl hcreate
  | has name =>
    cases hcall
    refine ⟨(perform_hasRegion root region tree).trans ?_, rfl⟩
    rw [hregion, Memory.answer, hcontains]
  | delete name =>
    cases hcall
    refine ⟨(perform_deleteRegion root region tree).trans ?_, ?_⟩
    · rw [Tree.findDirectory_of_find_error hregion, Memory.answer, hcontains]
    · refine Table.ext_get? fun other => ?_
      rw [Memory.answer, Table.get?_erase]
      split
      next heq => rw [heq, habsent]
      · rfl
  | regions => cases hcall
  | find name key =>
    cases hcall
    have hread : perform (readFile? (metadataPath root region key)) tree = (.ok none, tree) := by
      rw [perform_readFile?, metadataPath, hfile]
    refine ⟨(perform_bind _ hread).trans ?_, rfl⟩
    rw [Memory.answer, hentries]
    rfl
  | put name key response =>
    cases hcall
    have hhas : perform (hasRegion root region) tree = (.ok false, tree) := by
      rw [perform_hasRegion, hregion]
    rw [Memory.answer_put_missing habsent]
    exact ⟨perform_bind _ hhas, rfl⟩
  | remove name key =>
    cases hcall
    have hremove : ∀ name, perform (removeFile (regionPath root region ++ [name])) tree =
        (.ok false, tree) := by
      intro name
      rw [perform_removeFile, hfile]
    rw [Memory.answer_remove_missing habsent]
    exact ⟨(perform_bind _ (hremove _)).trans (perform_bind _ (hremove _)), rfl⟩
  | keys name =>
    cases hcall
    have hlist : perform (diskOr (.list (regionPath root region)) (pure [])) tree =
        (.ok [], tree) := by
      rw [perform_list, Tree.findDirectory_of_find_error hregion]
    refine ⟨(perform_bind _ hlist).trans ?_, rfl⟩
    rw [Memory.answer, hentries, List.filterMap_nil, Listing.ascending_nil]
    rfl

end Absent

/-! ## Putting an entry -/

/-- A disk after an entry has been put: its body is written, then its metadata are staged and
given their name. -/
def placed (place : Path) (region key : String) (response : Response) (tree : Tree) : Tree :=
  let written := tree.insert (filePath place region .body key) (.file response.body)
  let staged := written.insert (stagedPath place region key) (.file response.metadataBytes)
  (staged.erase (stagedPath place region key)).insert (filePath place region .metadata key)
    (.file response.metadataBytes)

theorem node?_placed (place : Path) (region key : String) (response : Response) (tree : Tree)
    (part : Part) :
    (placed place region key response tree).node? (filePath place region part key) =
      some (.file (part.bytes response)) := by
  cases part with
  | metadata => exact Tree.node?_insert_self _ _ (filePath_ne_nil _ _ _ _)
  | body =>
    have hapart := filePath_ne_stagedPath place region .body key key
    rw [placed, Tree.node?_insert_of_ne _ _ (filePath_body_ne_metadata _ _ _),
      Tree.node?_erase_of_ne _ hapart, Tree.node?_insert_of_ne _ _ hapart]
    exact Tree.node?_insert_self _ _ (filePath_ne_nil _ _ _ _)

/-! ## Calls on a directory that holds what is in memory -/

namespace Standing

variable {before tree : Tree} {root place : Path} {memory : Memory} {region key : String}
  {table : Table Response}

/-- A storage in the directory answers a call as memory does, and keeps up with it. -/
def Follows (before : Tree) (root place : Path) (call : Call) (memory : Memory) (tree : Tree) :
    Prop :=
  (answer root call tree).1 = (Memory.answer call memory).1 ∧
    Standing before root place (Memory.answer call memory).2 (answer root call tree).2

theorem follows_of_absent (h : Standing before root place memory tree) {call : Call}
    (hregion : Plain (encode region)) (hcall : call.region? = some region)
    (hcreate : call ≠ .create region) (habsent : memory.get? region = none) :
    Follows before root place call memory tree := by
  have hcontains := (Table.contains_eq_false_iff _ _).mpr habsent
  obtain ⟨hanswer, hmemory⟩ :=
    answer_absent hcall hcreate (h.find_missing hregion hcontains) habsent
  rw [Follows, hanswer, hmemory]
  exact ⟨rfl, h⟩

theorem follows_create (h : Standing before root place memory tree)
    (hregion : Plain (encode region)) : Follows before root place (.create region) memory tree := by
  obtain ⟨hwalk, hplace⟩ := Tree.findDirectory_eq_ok_iff.mp h.found
  have hnode := h.node?_region region
  have hcreate : tree.createFrom [] (regionPath root region) = (.ok (),
      if memory.contains region then tree else tree.insert (regionPath place region) .directory) := by
    rw [regionPath, Tree.createFrom_of_walkFrom hplace _ hwalk, Tree.createFrom_plain hregion,
      ← regionPath, hnode]
    cases memory.contains region with
    | true => rfl
    | false => rfl
  have hanswer : answer root (.create region) tree = (.ok (),
      if memory.contains region then tree else tree.insert (regionPath place region) .directory) :=
    perform_disk hcreate
  rw [Follows, hanswer]
  refine ⟨rfl, ?_⟩
  show Standing before root place (Memory.opened memory region) _
  rw [Memory.opened]
  cases hcontains : memory.contains region with
  | true => exact h
  | false => exact h.opened ((Table.contains_eq_false_iff _ _).mp hcontains)

theorem follows_regions (h : Standing before root place memory tree) :
    Follows before root place .regions memory tree := by
  have hlist : perform (diskOr (.list root) (pure [])) tree =
      (.ok (tree.children place), tree) := by
    rw [perform_list, h.found]
  have hanswer : answer root .regions tree = (.ok memory.keys, tree) := by
    rw [← h.listed_regions]
    exact perform_bind _ hlist
  rw [Follows, hanswer]
  exact ⟨rfl, h⟩

theorem perform_hasRegion_of_contains (h : Standing before root place memory tree)
    (hregion : Plain (encode region)) (hcontains : memory.contains region = true) :
    perform (hasRegion root region) tree = (.ok true, tree) := by
  rw [perform_hasRegion, h.find_region hregion, if_pos hcontains]
  rfl

theorem follows_has (h : Standing before root place memory tree) (hregion : Plain (encode region))
    (hcontains : memory.contains region = true) :
    Follows before root place (.has region) memory tree := by
  have hanswer : answer root (.has region) tree = (.ok true, tree) :=
    h.perform_hasRegion_of_contains hregion hcontains
  rw [Follows, hanswer, Memory.answer, hcontains]
  exact ⟨rfl, h⟩

theorem follows_delete (h : Standing before root place memory tree)
    (hregion : Plain (encode region)) (hcontains : memory.contains region = true) :
    Follows before root place (.delete region) memory tree := by
  have hanswer : answer root (.delete region) tree =
      (.ok true, tree.filter fun path => !Tree.isUnder (regionPath place region) path) := by
    refine (perform_deleteRegion root region tree).trans ?_
    rw [h.found_region hregion hcontains]
  rw [Follows, hanswer, Memory.answer, hcontains]
  exact ⟨rfl, h.deleted region⟩

theorem follows_keys (h : Standing before root place memory tree)
    (hregion : Plain (encode region)) (hcontains : memory.contains region = true) :
    Follows before root place (.keys region) memory tree := by
  have hlist : perform (diskOr (.list (regionPath root region)) (pure [])) tree =
      (.ok (tree.children (regionPath place region)), tree) := by
    rw [perform_list, h.found_region hregion hcontains]
  have hanswer : answer root (.keys region) tree =
      (.ok (Memory.entries memory region).keys, tree) := by
    rw [← h.listed_keys]
    exact perform_bind _ hlist
  rw [Follows, hanswer]
  exact ⟨rfl, h⟩

/-- An entry is read back from its parts. -/
theorem follows_find (h : Standing before root place memory tree)
    (hregion : Plain (encode region)) (hfile : ∀ part, Plain (fileName part key)) :
    Follows before root place (.find region key) memory tree := by
  have hread : ∀ part, perform (readFile? (filePath root region part key)) tree =
      (.ok (((Memory.entries memory region).get? key).map part.bytes), tree) := by
    intro part
    rw [perform_readFile?, h.findFile_part hregion (hfile part)]
    cases (Memory.entries memory region).get? key with
    | none => rfl
    | some response => rfl
  have hanswer : answer root (.find region key) tree =
      (.ok ((Memory.entries memory region).get? key), tree) := by
    refine (perform_bind _ (hread .metadata)).trans ?_
    cases hget : (Memory.entries memory region).get? key with
    | none => rfl
    | some response =>
      dsimp only [Option.map_some, Part.bytes]
      rw [Response.ofMetadata_metadataBytes]
      refine (perform_bind _ (hread .body)).trans ?_
      rw [hget]
      rfl
  rw [Follows, hanswer]
  exact ⟨rfl, h⟩

/-- The staged file is gone, and all else is as it was. -/
theorem node?_placed_of_ne (h : Standing before root place memory tree) (response : Response)
    {path : Path} (hpath : ∀ part, path ≠ filePath place region part key) :
    (placed place region key response tree).node? path = tree.node? path := by
  rw [placed, Tree.node?_insert_of_ne _ _ (hpath .metadata)]
  by_cases hstaged : path = stagedPath place region key
  · rw [hstaged, h.node?_staged, Tree.node?_erase _ _ (by simp [stagedPath]), if_pos rfl]
  · rw [Tree.node?_erase_of_ne _ hstaged, Tree.node?_insert_of_ne _ _ hstaged,
      Tree.node?_insert_of_ne _ _ (hpath .body)]

theorem answer_put (h : Standing before root place memory tree) (hregion : Plain (encode region))
    (hfile : ∀ part, Plain (fileName part key)) (hstaged : Plain (stagedName key))
    (hcontains : memory.contains region = true) (response : Response) :
    answer root (.put region key response) tree =
      (.ok (), placed place region key response tree) := by
  have hfound := h.found_region hregion hcontains
  -- the body is written
  let written := tree.insert (filePath place region .body key) (.file response.body)
  have hwrite := perform_write response.body hfound (hfile .body) (h.file_ne_directory .body)
  have hwritten : written.findDirectory (regionPath root region) = .ok (regionPath place region) :=
    Tree.findDirectory_mono (Tree.keeps_insert_file _ (h.file_ne_directory .body)) hfound
  -- the metadata are staged
  let staged := written.insert (stagedPath place region key) (.file response.metadataBytes)
  have hfree : written.node? (stagedPath place region key) ≠ some .directory := by
    rw [Tree.node?_insert_of_ne _ _ (filePath_ne_stagedPath _ _ _ _ _).symm, h.node?_staged]
    exact fun heq => by cases heq
  have hstage := perform_write response.metadataBytes hwritten hstaged hfree
  have hstanding : staged.findDirectory (regionPath root region) = .ok (regionPath place region) :=
    Tree.findDirectory_mono (Tree.keeps_insert_file _ hfree) hwritten
  -- and given their name
  have hsource : staged.findFile (stagedPath root region key) =
      .ok (stagedPath place region key, response.metadataBytes) := by
    refine Tree.findFile_of_find ((Tree.find_child hstanding hstaged).trans ?_)
    rw [← stagedPath, Tree.node?_insert_self _ _ (by simp [stagedPath])]
  have htarget : staged.placeForFile (metadataPath root region key) =
      .ok (filePath place region .metadata key) := by
    refine Tree.placeForFile_child hstanding (hfile .metadata) ?_
    show staged.node? (filePath place region .metadata key) ≠ _
    rw [Tree.node?_insert_of_ne _ _ (filePath_ne_stagedPath _ _ _ _ _),
      Tree.node?_insert_of_ne _ _ (filePath_body_ne_metadata _ _ _).symm]
    exact h.file_ne_directory .metadata
  refine (perform_bind _ (h.perform_hasRegion_of_contains hregion hcontains)).trans ?_
  refine (perform_bind _ hwrite).trans ?_
  refine (perform_bind _ hstage).trans ?_
  exact perform_disk (Tree.answer_rename hsource htarget)

theorem follows_put (h : Standing before root place memory tree) (hregion : Plain (encode region))
    (hfile : ∀ part, Plain (fileName part key)) (hstaged : Plain (stagedName key))
    (hget : memory.get? region = some table) (response : Response) :
    Follows before root place (.put region key response) memory tree := by
  have hcontains := (Table.contains_eq_true_iff _ _).mpr ⟨table, hget⟩
  rw [Follows, h.answer_put hregion hfile hstaged hcontains, Memory.answer_put hget]
  refine ⟨rfl, h.entered (some response) hget (fun other => Table.get?_insert _ _ _ _)
    (node?_placed place region key response tree) fun path hpath => ?_⟩
  exact h.node?_placed_of_ne response hpath

theorem follows_remove_missing (h : Standing before root place memory tree)
    (hregion : Plain (encode region)) (hfile : ∀ part, Plain (fileName part key))
    (hget : memory.get? region = some table) (hkey : table.get? key = none) :
    Follows before root place (.remove region key) memory tree := by
  have hentry : (Memory.entries memory region).get? key = none := by
    rw [Memory.entries_of_get? hget, hkey]
  have hremove : ∀ part, perform (removeFile (filePath root region part key)) tree =
      (.ok false, tree) := by
    intro part
    rw [perform_removeFile, h.findFile_part hregion (hfile part), hentry]
  have hanswer : answer root (.remove region key) tree = (.ok false, tree) :=
    (perform_bind _ (hremove .metadata)).trans (perform_bind _ (hremove .body))
  rw [Follows, hanswer, Memory.answer_remove hget]
  refine ⟨?_, h.removed hget (fun part => ?_) fun path _ => rfl⟩
  · rw [(Table.contains_eq_false_iff _ _).mpr hkey]
  · rw [h.node?_file, hentry]
    rfl

/-- The metadata of an entry are removed, then its body. -/
theorem follows_remove (h : Standing before root place memory tree)
    (hregion : Plain (encode region)) (hfile : ∀ part, Plain (fileName part key))
    (hget : memory.get? region = some table) {response : Response}
    (hkey : table.get? key = some response) :
    Follows before root place (.remove region key) memory tree := by
  have hcontains := (Table.contains_eq_true_iff _ _).mpr ⟨table, hget⟩
  have hfound := h.found_region hregion hcontains
  have hnode : ∀ part, tree.node? (filePath place region part key) =
      some (.file (part.bytes response)) := by
    intro part
    rw [h.node?_file, Memory.entries_of_get? hget, hkey]
    rfl
  let hidden := tree.erase (filePath place region .metadata key)
  have hstill : hidden.findDirectory (regionPath root region) = .ok (regionPath place region) :=
    Tree.findDirectory_mono (Tree.keeps_erase (h.file_ne_directory .metadata)) hfound
  have hbody : hidden.node? (filePath place region .body key) = some (.file response.body) :=
    (Tree.node?_erase_of_ne _ (filePath_body_ne_metadata _ _ _)).trans (hnode .body)
  let changed := hidden.erase (filePath place region .body key)
  have hanswer : answer root (.remove region key) tree = (.ok true, changed) := by
    have hfirst := perform_removeFile_child hfound (hfile .metadata) (hnode .metadata)
    have hsecond := perform_removeFile_child hstill (hfile .body) hbody
    exact (perform_bind _ hfirst).trans (perform_bind _ hsecond)
  rw [Follows, hanswer, Memory.answer_remove hget]
  refine ⟨?_, h.removed hget (fun part => ?_) fun path hpath => ?_⟩
  · rw [(Table.contains_eq_true_iff _ _).mpr ⟨response, hkey⟩]
  · cases part with
    | metadata =>
      rw [Tree.node?_erase_of_ne _ (filePath_body_ne_metadata _ _ _).symm,
        Tree.node?_erase _ _ (filePath_ne_nil _ _ _ _), if_pos rfl]
    | body => rw [Tree.node?_erase _ _ (filePath_ne_nil _ _ _ _), if_pos rfl]
  · rw [Tree.node?_erase_of_ne _ (hpath .body), Tree.node?_erase_of_ne _ (hpath .metadata)]

theorem follows_of_get? (h : Standing before root place memory tree) {call : Call}
    (hlegal : Legal call) (hregion : Plain (encode region)) (hcall : call.region? = some region)
    (hget : memory.get? region = some table) : Follows before root place call memory tree := by
  have hcontains := (Table.contains_eq_true_iff _ _).mpr ⟨table, hget⟩
  have hkey := hlegal.key
  cases call with
  | create region =>
    cases hcall
    exact h.follows_create hregion
  | has region =>
    cases hcall
    exact h.follows_has hregion hcontains
  | delete region =>
    cases hcall
    exact h.follows_delete hregion hcontains
  | regions => cases hcall
  | find region key =>
    cases hcall
    exact h.follows_find hregion (plain_fileName (hkey key rfl))
  | put region key response =>
    cases hcall
    exact h.follows_put hregion (plain_fileName (hkey key rfl)) (plain_stagedName (hkey key rfl))
      hget response
  | remove region key =>
    cases hcall
    cases hentry : table.get? key with
    | none => exact h.follows_remove_missing hregion (plain_fileName (hkey key rfl)) hget hentry
    | some response => exact h.follows_remove hregion (plain_fileName (hkey key rfl)) hget hentry
  | keys region =>
    cases hcall
    exact h.follows_keys hregion hcontains

/-- One call on the disk is one call in memory. -/
theorem follows (h : Standing before root place memory tree) {call : Call} (hlegal : Legal call) :
    Follows before root place call memory tree := by
  cases hcall : call.region? with
  | none =>
    cases call with
    | regions => exact h.follows_regions
    | _ => cases hcall
  | some region =>
    have hregion := plain_encode (hlegal.region region hcall).1 (hlegal.region region hcall).2
    by_cases hcreate : call = .create region
    · rw [hcreate]
      exact h.follows_create hregion
    · cases hget : memory.get? region with
      | none => exact h.follows_of_absent hregion hcall hcreate hget
      | some table => exact h.follows_of_get? hlegal hregion hcall hget

/-- It does not matter by which path the directory is found. -/
theorem reopened (h : Standing before root place memory tree) {root' : Path}
    (hroot : before.findDirectory root' = .ok place) : Standing before root' place memory tree :=
  { h with rooted := hroot }

/-- A directory in which nothing stands holds what an empty memory does. -/
theorem empty (hfound : tree.findDirectory root = .ok place) (hbare : Bare tree place) :
    Standing tree root place .empty tree := by
  refine ⟨hfound, hbare, fun path _ => rfl, fun rest hrest node => ?_⟩
  rw [hbare rest hrest]
  refine ⟨fun heq => (by cases heq), fun hholds => ?_⟩
  cases hholds with
  | region hcontains => cases hcontains
  | file part hget => cases hget

end Standing

end AssetCache.Storage.Files
