import Mathlib.Data.List.Basic
import AssetCache.Proofs.Disk.Route
import AssetCache.Proofs.Storage.Simulation

/-!
# How putting an entry may fail

An entry is put in three steps, and a disk may refuse each: the body is written, the metadata are
staged, and they are given their name. `PutEnds` lists what then is on the disk, whatever was there
before.

Where it is the staging that is refused, the body has been replaced already, and an entry that was
there is found with its old metadata and the new body. In every other case a put that fails leaves
the entry as it was found (`failed_put`).
-/

set_option autoImplicit false

namespace AssetCache.Disk.Tree

variable {tree : Tree} {here path : Path} {name : String} {node : Node}

/-- A file that is put where nothing is in the way leaves the directory where it is. -/
theorem findDirectory_insert_file (hfound : tree.findDirectory path = .ok here)
    (hfree : obstacle? tree here name = none) (bytes : Bytes) :
    (tree.insert (here ++ [name]) (.file bytes)).findDirectory path = .ok here :=
  findDirectory_mono (keeps_insert_file bytes (obstacle?_eq_none_iff.mp hfree).2) hfound

theorem filterMap_nodes_insert {α : Type} {read : Path × Node → Option α}
    (hnone : ∀ node, read (path, node) = none) (tree : Tree) (node : Node) :
    (tree.insert path node).nodes.filterMap read = tree.nodes.filterMap read := by
  show ((path, node) :: tree.nodes.filter fun entry => entry.1 != path).filterMap read = _
  rw [List.filterMap_cons_none (hnone node), List.filterMap_filter]
  refine List.filterMap_congr fun entry _ => ?_
  by_cases hentry : entry.1 = path
  · obtain ⟨path', node'⟩ := entry
    cases hentry
    rw [hnone, ite_self]
  · rw [if_pos (by simp [hentry])]

/-- What is read off the names in a directory does not change with a name that is passed over. -/
theorem filterMap_children_insert {α : Type} {read : Listed → Option α}
    (hnone : ∀ isDirectory, read ⟨name, isDirectory⟩ = none) (tree : Tree) (here : Path)
    (node : Node) :
    ((tree.insert (here ++ [name]) node).children here).filterMap read =
      (tree.children here).filterMap read := by
  show ((tree.insert (here ++ [name]) node).nodes.filterMap (listed? here)).filterMap read =
    (tree.nodes.filterMap (listed? here)).filterMap read
  rw [List.filterMap_filterMap, List.filterMap_filterMap]
  refine filterMap_nodes_insert (fun node => ?_) tree node
  rw [listed?, List.getLast?_concat, List.dropLast_concat]
  dsimp only
  rw [if_pos rfl]
  exact hnone _

end AssetCache.Disk.Tree

namespace AssetCache.Storage.Files

open Disk (Path Tree)
open Disk.Tree (obstacle? obstacle?_congr obstacle?_eq_none_iff findFile_name)
open Text.Base64Url (encode)

variable {root path here : Path} {region key name other : String} {response : Response}
  {tree : Tree}

/-! ## What is read of an entry -/

/-- The bytes of the file to which a path leads. -/
def fileBytes (tree : Tree) (path : Path) : Except Disk.Error Bytes :=
  (tree.findFile path).map Prod.snd

/-- An entry by what is read of its metadata and its body. -/
def entryOf (region key : String) (metadata body : Except Disk.Error Bytes) :
    Except StorageError (Option Response) :=
  match metadata with
  | .error .notFound => .ok none
  | .error error => .error (.disk error)
  | .ok bytes =>
    match Response.ofMetadata bytes with
    | .error fault => .error (.corrupt region key fault.message)
    | .ok response =>
      match body with
      | .error .notFound => .error (.corrupt region key "body file missing")
      | .error error => .error (.disk error)
      | .ok body => .ok (some { response with body })

theorem perform_find (root : Path) (region key : String) (tree : Tree) :
    perform (find root region key) tree =
      (entryOf region key (fileBytes tree (metadataPath root region key))
        (fileBytes tree (bodyPath root region key)), tree) := by
  have hread := perform_readFile? (metadataPath root region key) tree
  unfold fileBytes entryOf
  rw [find]
  cases hmetadata : tree.findFile (metadataPath root region key) with
  | error error =>
    rw [hmetadata] at hread
    cases error with
    | notFound => exact perform_bind _ hread
    | _ => exact perform_bind_error _ hread
  | ok found =>
    rw [hmetadata] at hread
    refine (perform_bind _ hread).trans ?_
    show perform (match Response.ofMetadata found.2 with
      | .error fault => _
      | .ok response => _) tree = ((match Response.ofMetadata found.2 with
      | .error fault => _
      | .ok response => _), tree)
    cases Response.ofMetadata found.2 with
    | error fault => rfl
    | ok response =>
      have hbody := perform_readFile? (bodyPath root region key) tree
      dsimp only
      cases hfile : tree.findFile (bodyPath root region key) with
      | error error =>
        rw [hfile] at hbody
        cases error with
        | notFound => exact perform_bind _ hbody
        | _ => exact perform_bind_error _ hbody
      | ok found =>
        rw [hfile] at hbody
        exact perform_bind _ hbody

/-- An entry is found if its metadata and its body can be read. -/
theorem find_of_fileBytes {stored : Response} {body : Bytes}
    (hmetadata : fileBytes tree (metadataPath root region key) = .ok stored.metadataBytes)
    (hbody : fileBytes tree (bodyPath root region key) = .ok body) :
    (perform (find root region key) tree).1 = .ok (some { stored with body := body }) := by
  rw [perform_find, hmetadata, hbody, entryOf]
  dsimp only
  rw [Response.ofMetadata_metadataBytes]

/-- The keys that are read off the names in a directory. -/
def keysIn (tree : Tree) (here : Path) : List String :=
  Listing.ascending ((tree.children here).filterMap fun entry => keyOfName? entry.name)

theorem perform_keys (root : Path) (region : String) (tree : Tree) :
    perform (keys root region) tree =
      (match tree.findDirectory (regionPath root region) with
        | .ok here => .ok (keysIn tree here)
        | .error .notFound => .ok []
        | .error error => .error (.disk error), tree) := by
  have hlist := perform_list (regionPath root region) tree
  rw [keys]
  cases hfound : tree.findDirectory (regionPath root region) with
  | ok here =>
    rw [hfound] at hlist
    exact perform_bind _ hlist
  | error error =>
    rw [hfound] at hlist
    cases error with
    | notFound =>
      refine (perform_bind _ hlist).trans ?_
      rw [List.filterMap_nil, Listing.ascending_nil]
      rfl
    | _ => exact perform_bind_error _ hlist

/-! ## Files in a directory -/

theorem moves_fileName (part : Part) (key : String) :
    Disk.Tree.staysPut (fileName part key) = false ∧ fileName part key ≠ ".." := by
  apply moves_of_size
  rw [utf8ByteSize_fileName]
  omega

theorem moves_stagedName (key : String) :
    Disk.Tree.staysPut (stagedName key) = false ∧ stagedName key ≠ ".." := by
  apply moves_of_size
  rw [utf8ByteSize_stagedName]
  split <;> omega

theorem names_apart (here : Path) {left right : String} (h : left ≠ right) :
    here ++ [left] ≠ here ++ [right] := fun heq =>
  h (List.cons.inj (List.append_cancel_left heq)).1

section Files

variable (hfound : tree.findDirectory path = .ok here)

include hfound

theorem fileBytes_of_file (hname : Disk.Tree.staysPut name = false ∧ name ≠ "..")
    (hfits : name.utf8ByteSize ≤ Tree.maxName) {bytes : Bytes}
    (hnode : tree.node? (here ++ [name]) = some (.file bytes)) :
    fileBytes tree (path ++ [name]) = .ok bytes := by
  rw [fileBytes, findFile_name hfound hname, if_neg (Nat.not_lt.mpr hfits), hnode]
  rfl

theorem fileBytes_of_none (hname : Disk.Tree.staysPut name = false ∧ name ≠ "..")
    (hfits : name.utf8ByteSize ≤ Tree.maxName) (hnode : tree.node? (here ++ [name]) = none) :
    fileBytes tree (path ++ [name]) = .error .notFound := by
  rw [fileBytes, findFile_name hfound hname, if_neg (Nat.not_lt.mpr hfits), hnode]
  rfl

theorem fileBytes_insert_self (hname : Disk.Tree.staysPut name = false ∧ name ≠ "..")
    (hfree : obstacle? tree here name = none) (bytes : Bytes) :
    fileBytes (tree.insert (here ++ [name]) (.file bytes)) (path ++ [name]) = .ok bytes := by
  exact fileBytes_of_file (Tree.findDirectory_insert_file hfound hfree bytes) hname
    (obstacle?_eq_none_iff.mp hfree).1 (Tree.node?_insert_self _ _ (by simp))

theorem fileBytes_insert_of_ne (hother : Disk.Tree.staysPut other = false ∧ other ≠ "..")
    (hne : other ≠ name) (hfree : obstacle? tree here name = none) (bytes : Bytes) :
    fileBytes (tree.insert (here ++ [name]) (.file bytes)) (path ++ [other]) =
      fileBytes tree (path ++ [other]) := by
  rw [fileBytes, fileBytes, findFile_name hfound hother,
    findFile_name (Tree.findDirectory_insert_file hfound hfree bytes) hother,
    Tree.node?_insert_of_ne _ _ (names_apart here hne)]

/-- What is in the way of writing a file is in the way of reading one. -/
theorem fileBytes_of_obstacle (hname : Disk.Tree.staysPut name = false ∧ name ≠ "..")
    {refusal : Disk.Error} (h : obstacle? tree here name = some refusal) :
    fileBytes tree (path ++ [name]) = .error refusal ∧ refusal ≠ .notFound := by
  unfold obstacle? at h
  rw [fileBytes, findFile_name hfound hname]
  split at h
  next hlong =>
    cases h
    rw [if_pos hlong]
    exact ⟨rfl, fun heq => by cases heq⟩
  next hshort =>
    split at h
    next hnode =>
      cases h
      rw [if_neg hshort, hnode]
      exact ⟨rfl, fun heq => by cases heq⟩
    next => cases h

theorem perform_write_name (hname : Disk.Tree.staysPut name = false ∧ name ≠ "..")
    (bytes : Bytes) :
    perform (disk (.write (path ++ [name]) bytes)) tree =
      match obstacle? tree here name with
      | some refusal => (.error (.disk refusal), tree)
      | none => (.ok (), tree.insert (here ++ [name]) (.file bytes)) := by
  have hanswer := Tree.answer_write_name hfound hname bytes
  cases hobstacle : obstacle? tree here name with
  | some refusal =>
    rw [hobstacle] at hanswer
    exact perform_disk_error hanswer
  | none =>
    rw [hobstacle] at hanswer
    exact perform_disk hanswer

end Files

/-! ## Three steps -/

/-- A disk after the body of an entry has been written. -/
def written (here : Path) (key : String) (response : Response) (tree : Tree) : Tree :=
  tree.insert (here ++ [fileName .body key]) (.file response.body)

/-- A disk after the metadata of an entry have been staged as well. -/
def staged (here : Path) (key : String) (response : Response) (tree : Tree) : Tree :=
  (written here key response tree).insert (here ++ [stagedName key]) (.file response.metadataBytes)

/-- A disk after the staged metadata have been given their name. -/
def entered (here : Path) (key : String) (response : Response) (tree : Tree) : Tree :=
  ((staged here key response tree).erase (here ++ [stagedName key])).insert
    (here ++ [fileName .metadata key]) (.file response.metadataBytes)

/-- What a put may come to: it stops where it is refused, and leaves what it has written. -/
inductive PutEnds (root : Path) (region key : String) (response : Response) (tree : Tree) :
    Except StorageError Unit × Tree → Prop
  /-- The region has no directory. -/
  | closed {error : StorageError} :
      (∀ here, tree.findDirectory (regionPath root region) ≠ .ok here) →
        PutEnds root region key response tree (.error error, tree)
  | unwritten {here : Path} {refusal : Disk.Error} :
      tree.findDirectory (regionPath root region) = .ok here →
        obstacle? tree here (fileName .body key) = some refusal →
          PutEnds root region key response tree (.error (.disk refusal), tree)
  | unstaged {here : Path} {refusal : Disk.Error} :
      tree.findDirectory (regionPath root region) = .ok here →
        obstacle? tree here (fileName .body key) = none →
          obstacle? tree here (stagedName key) = some refusal →
            PutEnds root region key response tree
              (.error (.disk refusal), written here key response tree)
  | unnamed {here : Path} {refusal : Disk.Error} :
      tree.findDirectory (regionPath root region) = .ok here →
        obstacle? tree here (fileName .body key) = none →
          obstacle? tree here (stagedName key) = none →
            obstacle? tree here (fileName .metadata key) = some refusal →
              PutEnds root region key response tree
                (.error (.disk refusal), staged here key response tree)
  | entered {here : Path} :
      tree.findDirectory (regionPath root region) = .ok here →
        obstacle? tree here (fileName .body key) = none →
          obstacle? tree here (stagedName key) = none →
            obstacle? tree here (fileName .metadata key) = none →
              PutEnds root region key response tree (.ok (), entered here key response tree)

theorem body_ne_metadata (key key' : String) : fileName .body key ≠ fileName .metadata key' :=
  fun heq => by cases (fileName_injective heq).1

/-- No other name is in the way because the body has been written. -/
theorem obstacle?_written (hne : name ≠ fileName .body key) :
    obstacle? (written here key response tree) here name = obstacle? tree here name :=
  obstacle?_congr (Tree.node?_insert_of_ne _ _ (names_apart here hne))

theorem obstacle?_staged (hne : name ≠ fileName .body key) (hne' : name ≠ stagedName key) :
    obstacle? (staged here key response tree) here name = obstacle? tree here name :=
  (obstacle?_congr (Tree.node?_insert_of_ne _ _ (names_apart here hne'))).trans
    (obstacle?_written hne)

theorem findDirectory_written (hfound : tree.findDirectory path = .ok here)
    (hbody : obstacle? tree here (fileName .body key) = none) :
    (written here key response tree).findDirectory path = .ok here :=
  Tree.findDirectory_insert_file hfound hbody _

theorem findDirectory_staged (hfound : tree.findDirectory path = .ok here)
    (hbody : obstacle? tree here (fileName .body key) = none)
    (hstaged : obstacle? tree here (stagedName key) = none) :
    (staged here key response tree).findDirectory path = .ok here := by
  refine Tree.findDirectory_insert_file (findDirectory_written hfound hbody) ?_ _
  rw [obstacle?_written (fileName_ne_stagedName .body key key).symm]
  exact hstaged

/-- The region has a directory, or no put gets anywhere. -/
theorem perform_hasRegion_cases (root : Path) (region : String) (tree : Tree) :
    (∃ here, tree.findDirectory (regionPath root region) = .ok here ∧
      perform (hasRegion root region) tree = (.ok true, tree)) ∨
    (∀ here, tree.findDirectory (regionPath root region) ≠ .ok here) ∧
      (perform (hasRegion root region) tree = (.ok false, tree) ∨
        ∃ error, perform (hasRegion root region) tree = (.error error, tree)) := by
  have hhas := perform_hasRegion root region tree
  unfold Tree.findDirectory
  cases hfind : tree.find (regionPath root region) with
  | error error =>
    rw [hfind] at hhas
    refine .inr ⟨fun here heq => (by cases heq), ?_⟩
    cases error with
    | notFound => exact .inl hhas
    | _ => exact .inr ⟨_, hhas⟩
  | ok found =>
    obtain ⟨here, node⟩ := found
    rw [hfind] at hhas
    cases node with
    | directory => exact .inl ⟨here, rfl, hhas⟩
    | file bytes => exact .inr ⟨fun here heq => (by cases heq), .inl hhas⟩

section Steps

variable (hfound : tree.findDirectory (regionPath root region) = .ok here)

include hfound

theorem perform_writeBody (key : String) (response : Response) :
    perform (disk (.write (bodyPath root region key) response.body)) tree =
      match obstacle? tree here (fileName .body key) with
      | some refusal => (.error (.disk refusal), tree)
      | none => (.ok (), written here key response tree) :=
  perform_write_name hfound (moves_fileName .body key) response.body

variable (hbody : obstacle? tree here (fileName .body key) = none)

include hbody

theorem perform_stage (response : Response) :
    perform (disk (.write (stagedPath root region key) response.metadataBytes))
        (written here key response tree) =
      match obstacle? tree here (stagedName key) with
      | some refusal => (.error (.disk refusal), written here key response tree)
      | none => (.ok (), staged here key response tree) := by
  rw [← obstacle?_written (fileName_ne_stagedName .body key key).symm]
  exact perform_write_name (findDirectory_written hfound hbody) (moves_stagedName key)
    response.metadataBytes

theorem perform_giveName (hstaged : obstacle? tree here (stagedName key) = none)
    (response : Response) :
    perform (disk (.rename (stagedPath root region key) (metadataPath root region key)))
        (staged here key response tree) =
      match obstacle? tree here (fileName .metadata key) with
      | some refusal => (.error (.disk refusal), staged here key response tree)
      | none => (.ok (), entered here key response tree) := by
  have hstanding : (staged here key response tree).findDirectory (regionPath root region) =
      .ok here := findDirectory_staged hfound hbody hstaged
  have hsource : (staged here key response tree).findFile (stagedPath root region key) =
      .ok (here ++ [stagedName key], response.metadataBytes) := by
    have hshort := (obstacle?_eq_none_iff.mp hstaged).1
    rw [stagedPath, findFile_name hstanding (moves_stagedName key),
      if_neg (Nat.not_lt.mpr hshort), staged, Tree.node?_insert_self _ _ (by simp)]
  have hrename := Tree.answer_rename_name hstanding (moves_fileName .metadata key) hsource
  rw [obstacle?_staged (body_ne_metadata key key).symm
    (fileName_ne_stagedName .metadata key key)] at hrename
  cases hname : obstacle? tree here (fileName .metadata key) with
  | some refusal =>
    rw [hname] at hrename
    exact perform_disk_error hrename
  | none =>
    rw [hname] at hrename
    exact perform_disk hrename

end Steps

/-- Every put ends in one of the ways listed. -/
theorem putEnds (root : Path) (region key : String) (response : Response) (tree : Tree) :
    PutEnds root region key response tree (perform (put root region key response) tree) := by
  rw [put]
  rcases perform_hasRegion_cases root region tree with ⟨here, hfound, hhas⟩ | ⟨hnone, hhas⟩
  · rw [perform_bind _ hhas, if_pos rfl]
    have hwrite := perform_writeBody hfound key response
    cases hbody : obstacle? tree here (fileName .body key) with
    | some refusal =>
      rw [hbody] at hwrite
      rw [perform_bind_error _ hwrite]
      exact .unwritten hfound hbody
    | none =>
      rw [hbody] at hwrite
      rw [perform_bind _ hwrite]
      have hstage := perform_stage hfound hbody response
      cases hstaged : obstacle? tree here (stagedName key) with
      | some refusal =>
        rw [hstaged] at hstage
        rw [perform_bind_error _ hstage]
        exact .unstaged hfound hbody hstaged
      | none =>
        rw [hstaged] at hstage
        rw [perform_bind _ hstage, perform_giveName hfound hbody hstaged]
        cases hname : obstacle? tree here (fileName .metadata key) with
        | some refusal => exact .unnamed hfound hbody hstaged hname
        | none => exact .entered hfound hbody hstaged hname
  · rcases hhas with hhas | ⟨error, hhas⟩
    · rw [perform_bind _ hhas]
      exact .closed hnone
    · rw [perform_bind_error _ hhas]
      exact .closed hnone

/-! ## What a failure leaves -/

/-- The body of an entry can be written, but its metadata cannot be staged. -/
def Unstageable (root : Path) (region key : String) (tree : Tree) (refusal : Disk.Error) : Prop :=
  ∃ here, tree.findDirectory (regionPath root region) = .ok here ∧
    obstacle? tree here (fileName .body key) = none ∧
    obstacle? tree here (stagedName key) = some refusal

section Reading

variable (hfound : tree.findDirectory (regionPath root region) = .ok here)
  (hbody : obstacle? tree here (fileName .body key) = none)

include hfound hbody

theorem keys_written (response : Response) :
    (perform (keys root region) (written here key response tree)).1 =
      (perform (keys root region) tree).1 := by
  rw [perform_keys, perform_keys, hfound, findDirectory_written hfound hbody]
  exact congrArg (Except.ok ∘ Listing.ascending)
    (Tree.filterMap_children_insert (fun _ => keyOfName?_body key) tree here _)

theorem keys_staged (hstaged : obstacle? tree here (stagedName key) = none)
    (response : Response) :
    (perform (keys root region) (staged here key response tree)).1 =
      (perform (keys root region) tree).1 := by
  rw [← keys_written hfound hbody response, perform_keys, perform_keys,
    findDirectory_written hfound hbody, findDirectory_staged hfound hbody hstaged]
  exact congrArg (Except.ok ∘ Listing.ascending)
    (Tree.filterMap_children_insert (fun _ => keyOfName?_staged key) _ here _)

/-- Once the body has been written, the entry is what its metadata say with that body. -/
theorem find_written (response : Response) :
    (perform (find root region key) (written here key response tree)).1 =
      entryOf region key (fileBytes tree (metadataPath root region key)) (.ok response.body) := by
  have hmetadata : fileBytes (written here key response tree) (metadataPath root region key) =
      fileBytes tree (metadataPath root region key) :=
    fileBytes_insert_of_ne hfound (moves_fileName .metadata key) (body_ne_metadata key key).symm
      hbody response.body
  have hnew : fileBytes (written here key response tree) (bodyPath root region key) =
      .ok response.body :=
    fileBytes_insert_self hfound (moves_fileName .body key) hbody response.body
  rw [perform_find, hmetadata, hnew]

/-- Where the metadata cannot be given their name, there are none to be read. -/
theorem find_staged (hstaged : obstacle? tree here (stagedName key) = none)
    {refusal : Disk.Error} (hname : obstacle? tree here (fileName .metadata key) = some refusal)
    (response : Response) :
    (perform (find root region key) (staged here key response tree)).1 =
      (perform (find root region key) tree).1 := by
  have hstanding : (staged here key response tree).findDirectory (regionPath root region) =
      .ok here := findDirectory_staged hfound hbody hstaged
  obtain ⟨hbefore, hrefusal⟩ : fileBytes tree (metadataPath root region key) = .error refusal ∧
      refusal ≠ .notFound := fileBytes_of_obstacle hfound (moves_fileName .metadata key) hname
  have hafter : fileBytes (staged here key response tree) (metadataPath root region key) =
      .error refusal := by
    rw [← obstacle?_staged (body_ne_metadata key key).symm
      (fileName_ne_stagedName .metadata key key)] at hname
    exact (fileBytes_of_obstacle hstanding (moves_fileName .metadata key) hname).1
  rw [perform_find, perform_find, hbefore, hafter]
  cases refusal with
  | notFound => exact absurd rfl hrefusal
  | _ => rfl

end Reading

/-- An entry that is found has metadata that can be read. -/
theorem entryOf_eq_some {metadata body : Except Disk.Error Bytes} {stored : Response}
    (h : entryOf region key metadata body = .ok (some stored)) (bytes : Bytes) :
    entryOf region key metadata (.ok bytes) = .ok (some { stored with body := bytes }) := by
  unfold entryOf at h ⊢
  cases metadata with
  | error error => cases error <;> cases h
  | ok text =>
    dsimp only at h ⊢
    cases hread : Response.ofMetadata text with
    | error fault =>
      rw [hread] at h
      cases h
    | ok response =>
      rw [hread] at h
      cases body with
      | error error => cases error <;> cases h
      | ok old =>
        cases h
        rfl

theorem entryOf_eq_none {metadata body : Except Disk.Error Bytes}
    (h : entryOf region key metadata body = .ok none) : metadata = .error .notFound := by
  unfold entryOf at h
  cases metadata with
  | error error => cases error <;> first | rfl | cases h
  | ok text =>
    dsimp only at h
    cases hread : Response.ofMetadata text with
    | error fault =>
      rw [hread] at h
      cases h
    | ok response =>
      rw [hread] at h
      cases body with
      | error error => cases error <;> cases h
      | ok old => cases h

/-- A put that fails lists the region as it was. It leaves the entry as it was found unless its
body could be written and its metadata not be staged: then the old metadata, if there are any,
are found with the new body. -/
theorem failed_put {root : Path} {region key : String} {response : Response} {tree : Tree}
    {error : StorageError} (h : (answer root (.put region key response) tree).1 = .error error) :
    let after := (answer root (.put region key response) tree).2
    (answer root (.keys region) after).1 = (answer root (.keys region) tree).1 ∧
    ((∀ refusal, ¬ Unstageable root region key tree refusal) →
      (answer root (.find region key) after).1 = (answer root (.find region key) tree).1) ∧
    ∀ refusal, Unstageable root region key tree refusal → error = .disk refusal ∧
      (answer root (.find region key) after).1 =
        entryOf region key (fileBytes tree (metadataPath root region key)) (.ok response.body) ∧
      ((answer root (.find region key) tree).1 = .ok none →
        (answer root (.find region key) after).1 = .ok none) ∧
      ∀ stored, (answer root (.find region key) tree).1 = .ok (some stored) →
        (answer root (.find region key) after).1 =
          .ok (some { stored with body := response.body }) := by
  have hends : PutEnds root region key response tree
      (answer root (.put region key response) tree) := putEnds root region key response tree
  generalize answer root (.put region key response) tree = result at h hends
  intro after
  cases hends with
  | closed hnone =>
    refine ⟨rfl, fun _ => rfl, fun refusal hunstageable => ?_⟩
    obtain ⟨here, hfound, _⟩ := hunstageable
    exact absurd hfound (hnone here)
  | unwritten hfound hbody =>
    refine ⟨rfl, fun _ => rfl, fun refusal hunstageable => ?_⟩
    obtain ⟨here, hfound', hbody', _⟩ := hunstageable
    cases hfound.symm.trans hfound'
    cases hbody.symm.trans hbody'
  | unstaged hfound hbody hstaged =>
    cases h
    have hfind := find_written hfound hbody response
    refine ⟨keys_written hfound hbody response, fun hnot => ?_, fun refusal hunstageable => ?_⟩
    · exact absurd ⟨_, hfound, hbody, hstaged⟩ (hnot _)
    · obtain ⟨here, hfound', _, hstaged'⟩ := hunstageable
      cases hfound.symm.trans hfound'
      cases hstaged.symm.trans hstaged'
      have hbefore := congrArg Prod.fst (perform_find root region key tree)
      refine ⟨rfl, hfind, fun hnone => ?_, fun stored hstored => ?_⟩
      · rw [entryOf_eq_none (hbefore.symm.trans hnone)] at hfind
        exact hfind
      · exact hfind.trans (entryOf_eq_some (hbefore.symm.trans hstored) response.body)
  | unnamed hfound hbody hstaged hname =>
    refine ⟨keys_staged hfound hbody hstaged response,
      fun _ => find_staged hfound hbody hstaged hname response, fun refusal hunstageable => ?_⟩
    obtain ⟨here, hfound', _, hstaged'⟩ := hunstageable
    cases hfound.symm.trans hfound'
    cases hstaged.symm.trans hstaged'
  | entered => cases h

/-- A directory under the name of the staged file: the entry that was there is found with its old
metadata and the new body, and listed as before. -/
theorem failed_put_of_staged_directory :
    let old : Response := ⟨200, Table.empty.insert "etag" "1", [1]⟩
    let new : Response := ⟨404, .empty, [2, 3]⟩
    let tree := (((Tree.empty.insert ["cg"] .directory).insert ["cg", "aw.json"]
      (.file old.metadataBytes)).insert ["cg", "aw.body"] (.file old.body)).insert
        ["cg", "aw.json.tmp"] .directory
    let after := (answer [] (.put "r" "k" new) tree).2
    (answer [] (.put "r" "k" new) tree).1 = .error (.disk .isDirectory) ∧
      Unstageable [] "r" "k" tree .isDirectory ∧
      (answer [] (.keys "r") after).1 = (answer [] (.keys "r") tree).1 ∧
      (answer [] (.find "r" "k") after).1 = .ok (some { old with body := new.body }) := by
  intro old new tree after
  have hfailed : (answer [] (.put "r" "k" new) tree).1 = .error (.disk .isDirectory) := rfl
  have hunstageable : Unstageable [] "r" "k" tree .isDirectory := ⟨["cg"], rfl, rfl, rfl⟩
  have hfound : (answer [] (.find "r" "k") tree).1 = .ok (some old) :=
    find_of_fileBytes (show _ = Except.ok old.metadataBytes from rfl) rfl
  obtain ⟨hkeys, _, hmixed⟩ := failed_put hfailed
  exact ⟨hfailed, hunstageable, hkeys, (hmixed .isDirectory hunstageable).2.2.2 old hfound⟩

/-- A put that fails does not always leave the entry as it was found. -/
theorem failed_put_mixes_entry :
    let old : Response := ⟨200, Table.empty.insert "etag" "1", [1]⟩
    let new : Response := ⟨200, Table.empty.insert "etag" "2", [2]⟩
    let tree := (((Tree.empty.insert ["cg"] .directory).insert ["cg", "aw.json"]
      (.file old.metadataBytes)).insert ["cg", "aw.body"] (.file old.body)).insert
        ["cg", "aw.json.tmp"] .directory
    let after := (answer [] (.put "r" "k" new) tree).2
    (answer [] (.find "r" "k") tree).1 = .ok (some old) ∧
      (answer [] (.put "r" "k" new) tree).1 = .error (.disk .isDirectory) ∧
      (answer [] (.find "r" "k") after).1 = .ok (some { old with body := new.body }) := by
  intro old new tree after
  have hmetadata : ∀ found ∈ [tree, after],
      fileBytes found (metadataPath [] "r" "k") = .ok old.metadataBytes := by
    intro found hfound
    rcases List.mem_cons.mp hfound with rfl | hfound
    · rfl
    · rw [List.mem_singleton.mp hfound]
      rfl
  exact ⟨find_of_fileBytes (hmetadata tree List.mem_cons_self) rfl, rfl,
    find_of_fileBytes (hmetadata after (List.mem_cons_of_mem tree (List.mem_singleton_self after)))
      rfl⟩

end AssetCache.Storage.Files
