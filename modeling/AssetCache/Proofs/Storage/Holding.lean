import AssetCache.Proofs.Storage.Reached

/-!
# Which keys a storage on a disk can hold

Three names are made of a key: those of its two files, and the longer one under which the metadata
are staged. What a disk takes decides what becomes of the key. Up to `longestStored` bytes it is
stored and found again; up to `longestSought` bytes it is found to be absent, but putting it fails;
beyond, looking for it fails as well. The only reason is that a name is too long.

This is said of any disk on which the directory of a storage is as calls leave it (`Kept`). Other
entries are untouched by a put, whatever comes of it (`find_put_of_ne`).
-/

set_option autoImplicit false

namespace AssetCache.Disk.Tree

variable {tree : Tree} {here path : Path} {node : Node}

theorem listed?_eq_none {entry : Path × Node} (h : entry.1.dropLast ≠ here) :
    listed? here entry = none := by
  rw [listed?]
  split
  · rw [if_neg h]
  · rfl

/-- A directory lists the same while changes are made elsewhere. -/
theorem children_insert_of_ne (tree : Tree) (node : Node) (h : path.dropLast ≠ here) :
    (tree.insert path node).children here = tree.children here :=
  filterMap_nodes_insert (fun _ => listed?_eq_none h) tree node

theorem children_erase_of_ne (tree : Tree) (h : path.dropLast ≠ here) :
    (tree.erase path).children here = tree.children here := by
  show (tree.nodes.filter fun entry => entry.1 != path).filterMap (listed? here) =
    tree.nodes.filterMap (listed? here)
  rw [List.filterMap_filter]
  refine List.filterMap_congr fun entry _ => ?_
  by_cases hentry : entry.1 = path
  · rw [listed?_eq_none (hentry ▸ h), ite_self]
  · rw [if_pos (by simp [hentry])]

end AssetCache.Disk.Tree

namespace AssetCache.Storage.Files

open Disk (Path Node Tree)
open Disk.Tree (obstacle? obstacle?_congr obstacle?_eq_none_iff findFile_name)
open Text.Base64Url (encode encode_injective length_encode)

/-! ## Lengths -/

/-- The most bytes of a key that can be stored. -/
def longestStored : Nat := 184

/-- The most bytes of a key that can be looked for. -/
def longestSought : Nat := 187

theorem stored_le_sought : longestStored ≤ longestSought := by decide

theorem length_encode_le_iff (key : String) :
    (encode key).length ≤ maxKey ↔ key.utf8ByteSize ≤ longestStored := by
  rw [length_encode]
  unfold maxKey longestStored
  omega

theorem fileName_fits_iff (part : Part) (key : String) :
    (fileName part key).utf8ByteSize ≤ Tree.maxName ↔ key.utf8ByteSize ≤ longestSought := by
  rw [utf8ByteSize_fileName, length_encode]
  unfold Tree.maxName longestSought
  omega

theorem stagedName_fits_iff (key : String) :
    (stagedName key).utf8ByteSize ≤ Tree.maxName ↔ key.utf8ByteSize ≤ longestStored := by
  rw [utf8ByteSize_stagedName, length_encode]
  unfold Tree.maxName longestStored
  split
  next hempty =>
    subst hempty
    decide
  next => omega

/-! ## What a put changes -/

section Changes

variable {root place here other : Path} {region region' key key' name : String}
  {response : Response} {tree : Tree} {result : Except StorageError Unit × Tree}

/-- A put changes nothing but the files of the entry and the staged one. -/
theorem PutEnds.node?_of_ne (hends : PutEnds root region key response tree result) :
    result.2 = tree ∨ ∃ here, tree.findDirectory (regionPath root region) = .ok here ∧
      ∀ path, (∀ part, path ≠ here ++ [fileName part key]) → path ≠ here ++ [stagedName key] →
        result.2.node? path = tree.node? path := by
  have hwritten : ∀ here path, path ≠ here ++ [fileName .body key] →
      (written here key response tree).node? path = tree.node? path :=
    fun _ _ hpath => Tree.node?_insert_of_ne _ _ hpath
  have hstaged : ∀ here path, path ≠ here ++ [fileName .body key] →
      path ≠ here ++ [stagedName key] →
        (staged here key response tree).node? path = tree.node? path :=
    fun here path hpath hstage => (Tree.node?_insert_of_ne _ _ hstage).trans (hwritten here path hpath)
  cases hends with
  | closed hnone => exact .inl rfl
  | unwritten hfound hbody => exact .inl rfl
  | @unstaged here refusal hfound =>
    exact .inr ⟨here, hfound, fun path hparts _ => hwritten here path (hparts .body)⟩
  | @unnamed here refusal hfound =>
    exact .inr ⟨here, hfound, fun path hparts hstage => hstaged here path (hparts .body) hstage⟩
  | @entered here hfound =>
    refine .inr ⟨here, hfound, fun path hparts hstage => ?_⟩
    rw [Files.entered, Tree.node?_insert_of_ne _ _ (hparts .metadata), Tree.node?_erase_of_ne _ hstage]
    exact hstaged here path (hparts .body) hstage

/-- A put changes no listing but that of its region. -/
theorem PutEnds.children_of_ne (hends : PutEnds root region key response tree result)
    (hother : ∀ here, tree.findDirectory (regionPath root region) = .ok here → here ≠ other) :
    result.2.children other = tree.children other := by
  have hinsert : ∀ here name node (tree : Tree), here ≠ other →
      (tree.insert (here ++ [name]) node).children other = tree.children other := by
    intro here name node tree hne
    exact Tree.children_insert_of_ne tree node (by rwa [List.dropLast_concat])
  cases hends with
  | closed hnone => rfl
  | unwritten hfound hbody => rfl
  | unstaged hfound => exact hinsert _ _ _ _ (hother _ hfound)
  | unnamed hfound =>
    exact (hinsert _ _ _ _ (hother _ hfound)).trans (hinsert _ _ _ _ (hother _ hfound))
  | @entered here hfound =>
    have hne := hother here hfound
    have herase : ((staged here key response tree).erase (here ++ [stagedName key])).children other =
        (staged here key response tree).children other :=
      Tree.children_erase_of_ne _ (by rwa [List.dropLast_concat])
    exact (hinsert _ _ _ _ hne).trans (herase.trans
      ((hinsert _ _ _ _ hne).trans (hinsert _ _ _ _ hne)))

theorem regionPlace_injective (hregion : region ≠ "")
    (h : regionPlace place region' = regionPlace place region) : region' = region := by
  unfold regionPlace at h
  rw [if_neg hregion] at h
  split at h
  · exact absurd h.symm fun heq => List.cons_ne_nil _ _ (List.append_right_eq_self.mp heq)
  · exact encode_injective (List.cons.inj (List.append_cancel_left h)).1

variable (hleads : Leads root place)

include hleads

/-- The directory of a region stands where its path leads. -/
theorem Leads.eq_regionPlace (hfound : tree.findDirectory (regionPath root region) = .ok here) :
    here = regionPlace place region := by
  rw [← hleads.goal_region]
  exact Tree.eq_goal_of_walkFrom (Tree.findDirectory_eq_ok_iff.mp hfound).1

/-- What is put into a region that has a name is not on the way to another entry. -/
theorem mem_route_of_ne (hregion : region ≠ "") (hne : (region', key') ≠ (region, key))
    (part : Part) {there : Path}
    (hthere : there ∈ Disk.Tree.route [] (regionPath root region' ++ [fileName part key'])) :
    (∀ part, there ≠ regionPlace place region ++ [fileName part key]) ∧
      there ≠ regionPlace place region ++ [stagedName key] := by
  have hplace := regionPlace_append hregion place
  rcases hleads.mem_route_name (moves_fileName part key') hthere with hnot | rfl | rfl
  · exact ⟨fun part heq => hnot _ (List.cons_ne_nil _ _) (heq.trans (hplace _)),
      fun heq => hnot _ (List.cons_ne_nil _ _) (heq.trans (hplace _))⟩
  · exact ⟨fun part heq => regionPlace_ne _ _ _ _ (heq.trans (hplace _)),
      fun heq => regionPlace_ne _ _ _ _ (heq.trans (hplace _))⟩
  · refine ⟨fun part' heq => ?_, fun heq => ?_⟩
    · obtain ⟨hregions, hnames⟩ := List.append_singleton_inj.mp heq
      apply hne
      rw [regionPlace_injective hregion hregions, (fileName_injective hnames).2]
    · exact fileName_ne_stagedName part key' key (List.append_singleton_inj.mp heq).2

/-- Whatever comes of a put, every other entry is found as it was. -/
theorem find_put_of_ne (hregion : region ≠ "") (hne : (region', key') ≠ (region, key))
    (hends : PutEnds root region key response tree result) :
    (perform (find root region' key') result.2).1 = (perform (find root region' key') tree).1 := by
  rcases hends.node?_of_ne with hsame | ⟨here, hfound, hsame⟩
  · rw [hsame]
  · obtain rfl := hleads.eq_regionPlace hfound
    have hfile : ∀ part, fileBytes result.2 (regionPath root region' ++ [fileName part key']) =
        fileBytes tree (regionPath root region' ++ [fileName part key']) := by
      intro part
      refine congrArg (Except.map Prod.snd) (Tree.findFile_congr fun there hthere => ?_)
      obtain ⟨hparts, hstage⟩ := mem_route_of_ne hleads hregion hne part hthere
      exact hsame there hparts hstage
    rw [perform_find, perform_find]
    show entryOf region' key' _ _ = entryOf region' key' _ _
    exact congr (congrArg (entryOf region' key') (hfile .metadata)) (hfile .body)

/-- Whatever comes of a put, every other region is listed as it was. -/
theorem keys_put_of_ne (hregion : region ≠ "") (hne : region' ≠ region)
    (hends : PutEnds root region key response tree result) :
    (perform (keys root region') result.2).1 = (perform (keys root region') tree).1 := by
  have hfound : result.2.findDirectory (regionPath root region') =
      tree.findDirectory (regionPath root region') := by
    rcases hends.node?_of_ne with hsame | ⟨here, hfound, hsame⟩
    · rw [hsame]
    · obtain rfl := hleads.eq_regionPlace hfound
      have hpair : (region', key) ≠ (region, key) := fun heq => hne (Prod.mk.inj heq).1
      refine Tree.findDirectory_congr fun there hthere => ?_
      obtain ⟨hparts, hstage⟩ := mem_route_of_ne hleads hregion hpair .body
        ((Disk.Tree.mem_route_append _ []).mpr (.inl hthere))
      exact hsame there hparts hstage
  rw [perform_keys, perform_keys, hfound]
  cases hother : tree.findDirectory (regionPath root region') with
  | error error => cases error <;> rfl
  | ok other =>
    have hapart : ∀ here, tree.findDirectory (regionPath root region) = .ok here → here ≠ other := by
      intro here hhere heq
      rw [hleads.eq_regionPlace hhere, hleads.eq_regionPlace hother] at heq
      exact hne (regionPlace_injective hregion heq.symm)
    show Except.ok (keysIn result.2 other) = Except.ok (keysIn tree other)
    rw [keysIn, hends.children_of_ne hapart]
    rfl

end Changes

/-! ## What is listed -/

section Listed

variable {here : Path} {key name : String} {response : Response} {tree : Tree}

theorem mem_keysIn_iff (tree : Tree) (here : Path) (name : String) :
    name ∈ keysIn tree here ↔
      ∃ file, keyOfName? file = some name ∧ tree.node? (here ++ [file]) ≠ none := by
  rw [keysIn, Listing.mem_ascending, List.mem_filterMap]
  constructor
  · rintro ⟨listed, hlisted, hname⟩
    obtain ⟨node, hnode, _⟩ := (Tree.mem_children_iff _ _ _).mp hlisted
    exact ⟨listed.name, hname, hnode ▸ Option.some_ne_none node⟩
  · rintro ⟨file, hname, hnode⟩
    obtain ⟨node, hnode⟩ := Option.ne_none_iff_exists'.mp hnode
    exact ⟨⟨file, decide (node = .directory)⟩,
      (Tree.mem_children_iff _ _ _).mpr ⟨node, hnode, rfl⟩, hname⟩

theorem node?_entered_part (here : Path) (key : String) (response : Response) (tree : Tree)
    (part : Part) :
    (entered here key response tree).node? (here ++ [fileName part key]) =
      some (.file (part.bytes response)) := by
  cases part with
  | metadata => exact Tree.node?_insert_self _ _ (by simp)
  | body =>
    have hapart := names_apart here (fileName_ne_stagedName .body key key)
    rw [entered, Tree.node?_insert_of_ne _ _ (names_apart here (body_ne_metadata key key)),
      Tree.node?_erase_of_ne _ hapart, staged, Tree.node?_insert_of_ne _ _ hapart]
    exact Tree.node?_insert_self _ _ (by simp)

theorem node?_entered_of_ne (hparts : ∀ part, name ≠ fileName part key)
    (hstage : name ≠ stagedName key) :
    (entered here key response tree).node? (here ++ [name]) = tree.node? (here ++ [name]) := by
  rw [entered, Tree.node?_insert_of_ne _ _ (names_apart here (hparts .metadata)),
    Tree.node?_erase_of_ne _ (names_apart here hstage), staged,
    Tree.node?_insert_of_ne _ _ (names_apart here hstage), written,
    Tree.node?_insert_of_ne _ _ (names_apart here (hparts .body))]

/-- Of the files of an entry only its metadata are listed. -/
theorem mem_keysIn_entered :
    name ∈ keysIn (entered here key response tree) here ↔ name = key ∨ name ∈ keysIn tree here := by
  have hsame : ∀ file, keyOfName? file = some name → file ≠ fileName .metadata key →
      (entered here key response tree).node? (here ++ [file]) = tree.node? (here ++ [file]) := by
    intro file hname hmetadata
    refine node?_entered_of_ne (fun part heq => ?_) fun heq => ?_
    · cases part with
      | metadata => exact hmetadata heq
      | body =>
        rw [heq, keyOfName?_body] at hname
        cases hname
    · rw [heq, keyOfName?_staged] at hname
      cases hname
  rw [mem_keysIn_iff, mem_keysIn_iff]
  constructor
  · rintro ⟨file, hname, hnode⟩
    by_cases hmetadata : file = fileName .metadata key
    · rw [hmetadata, keyOfName?_metadata] at hname
      exact .inl (Option.some.inj hname).symm
    · exact .inr ⟨file, hname, hsame file hname hmetadata ▸ hnode⟩
  · have hentry := node?_entered_part here key response tree .metadata
    rintro (rfl | ⟨file, hname, hnode⟩)
    · exact ⟨_, keyOfName?_metadata name, hentry ▸ Option.some_ne_none _⟩
    · by_cases hmetadata : file = fileName .metadata key
      · exact ⟨file, hname, hmetadata ▸ hentry ▸ Option.some_ne_none _⟩
      · exact ⟨file, hname, (hsame file hname hmetadata).symm ▸ hnode⟩

/-- The directory of an entry that has been put is where it was. -/
theorem findDirectory_entered {path : Path} (hfound : tree.findDirectory path = .ok here)
    (hbody : obstacle? tree here (fileName .body key) = none)
    (hstaged : obstacle? tree here (stagedName key) = none)
    (hname : obstacle? tree here (fileName .metadata key) = none) :
    (entered here key response tree).findDirectory path = .ok here := by
  have hfile : (staged here key response tree).node? (here ++ [stagedName key]) ≠
      some .directory := by
    rw [staged, Tree.node?_insert_self _ _ (by simp)]
    exact fun heq => by cases heq
  have hhidden : ((staged here key response tree).erase (here ++ [stagedName key])).findDirectory
      path = .ok here :=
    Tree.findDirectory_mono (Tree.keeps_erase hfile) (findDirectory_staged hfound hbody hstaged)
  refine Tree.findDirectory_insert_file hhidden ?_ _
  have hapart := names_apart here (fileName_ne_stagedName .metadata key key)
  rw [obstacle?_congr (Tree.node?_erase_of_ne _ hapart),
    obstacle?_staged (body_ne_metadata key key).symm (fileName_ne_stagedName .metadata key key)]
  exact hname

end Listed

/-! ## What can be stored and looked for -/

namespace Kept

variable {root place : Path} {region key : String} {response : Response} {tree : Tree}
  {result : Except StorageError Unit × Tree}

theorem found_region (hleads : Leads root place)
    (hhas : (answer root (.has region) tree).1 = .ok true) :
    tree.findDirectory (regionPath root region) = .ok (regionPlace place region) := by
  change (perform (hasRegion root region) tree).1 = .ok true at hhas
  rcases perform_hasRegion_cases root region tree with ⟨here, hfound, _⟩ | ⟨_, hnone | ⟨_, hnone⟩⟩
  · rw [hfound, hleads.eq_regionPlace hfound]
  · rw [hnone] at hhas
    cases hhas
  · rw [hnone] at hhas
    cases hhas

variable (h : Kept place tree) (hregion : region ≠ "")
  (hfound : tree.findDirectory (regionPath root region) = .ok (regionPlace place region))

include h hregion

/-- In the directory of a region nothing is in the way of a file but the length of its name. -/
theorem obstacle?_eq (name : String) : obstacle? tree (regionPlace place region) name =
    if name.utf8ByteSize ≤ Tree.maxName then none else some .nameTooLong := by
  have hfile : tree.node? (regionPlace place region ++ [name]) ≠ some .directory := by
    intro hnode
    rw [regionPlace_append hregion] at hnode
    exact absurd (h.shallow _ hnode) (by simp)
  by_cases hfits : name.utf8ByteSize ≤ Tree.maxName
  · rw [if_pos hfits, obstacle?_eq_none_iff]
    exact ⟨hfits, hfile⟩
  · rw [if_neg hfits]
    exact if_pos (Nat.not_le.mp hfits)

theorem part_free (part : Part) (hsought : key.utf8ByteSize ≤ longestSought) :
    obstacle? tree (regionPlace place region) (fileName part key) = none := by
  rw [h.obstacle?_eq hregion, if_pos ((fileName_fits_iff part key).mpr hsought)]

theorem staged_free (hshort : key.utf8ByteSize ≤ longestStored) :
    obstacle? tree (regionPlace place region) (stagedName key) = none := by
  rw [h.obstacle?_eq hregion, if_pos ((stagedName_fits_iff key).mpr hshort)]

include hfound

/-- A key that is short enough is stored. -/
theorem put_of_short (hshort : key.utf8ByteSize ≤ longestStored)
    (hends : PutEnds root region key response tree result) :
    result = (.ok (), entered (regionPlace place region) key response tree) := by
  have hfile := fun part => h.part_free hregion part (Nat.le_trans hshort stored_le_sought)
  have hstage := h.staged_free hregion hshort
  cases hends with
  | closed hnone => exact absurd hfound (hnone _)
  | unwritten hfound' hbody =>
    cases hfound.symm.trans hfound'
    cases (hfile .body).symm.trans hbody
  | unstaged hfound' _ hstaged =>
    cases hfound.symm.trans hfound'
    cases hstage.symm.trans hstaged
  | unnamed hfound' _ _ hname =>
    cases hfound.symm.trans hfound'
    cases (hfile .metadata).symm.trans hname
  | entered hfound' =>
    cases hfound.symm.trans hfound'
    rfl

/-- A key that is too long is refused for its length, if only after the body has been written. -/
theorem put_of_long (hlong : longestStored < key.utf8ByteSize)
    (hends : PutEnds root region key response tree result) :
    result = (.error (.disk .nameTooLong),
      if key.utf8ByteSize ≤ longestSought then written (regionPlace place region) key response tree
      else tree) := by
  have hfile := h.obstacle?_eq hregion (fileName .body key)
  have hstage : obstacle? tree (regionPlace place region) (stagedName key) =
      some .nameTooLong := by
    rw [h.obstacle?_eq hregion, if_neg fun hfits =>
      Nat.not_le.mpr hlong ((stagedName_fits_iff key).mp hfits)]
  cases hends with
  | closed hnone => exact absurd hfound (hnone _)
  | unwritten hfound' hbody =>
    cases hfound.symm.trans hfound'
    rw [hbody] at hfile
    split at hfile
    · cases hfile
    next hfits =>
      cases hfile
      rw [if_neg fun hsought => hfits ((fileName_fits_iff .body key).mpr hsought)]
  | unstaged hfound' hbody hstaged =>
    cases hfound.symm.trans hfound'
    cases hstage.symm.trans hstaged
    rw [hbody] at hfile
    split at hfile
    next hfits => rw [if_pos ((fileName_fits_iff .body key).mp hfits)]
    · cases hfile
  | unnamed hfound' _ hstaged =>
    cases hfound.symm.trans hfound'
    cases hstage.symm.trans hstaged
  | entered hfound' _ hstaged =>
    cases hfound.symm.trans hfound'
    cases hstage.symm.trans hstaged

/-- After a key has been stored the region is where it was. -/
theorem found_entered (hshort : key.utf8ByteSize ≤ longestStored) (response : Response) :
    (entered (regionPlace place region) key response tree).findDirectory (regionPath root region) =
      .ok (regionPlace place region) :=
  findDirectory_entered hfound (h.part_free hregion .body (Nat.le_trans hshort stored_le_sought))
    (h.staged_free hregion hshort)
    (h.part_free hregion .metadata (Nat.le_trans hshort stored_le_sought))

/-- A key that has been put is found. -/
theorem find_entered (hshort : key.utf8ByteSize ≤ longestStored) (response : Response) :
    (perform (find root region key) (entered (regionPlace place region) key response tree)).1 =
      .ok (some response) := by
  have hstanding := h.found_entered hregion hfound hshort response
  have hbytes : ∀ part, fileBytes (entered (regionPlace place region) key response tree)
      (regionPath root region ++ [fileName part key]) = .ok (part.bytes response) := by
    intro part
    exact fileBytes_of_file hstanding (moves_fileName part key)
      ((fileName_fits_iff part key).mpr (Nat.le_trans hshort stored_le_sought))
      (node?_entered_part _ _ _ _ part)
  exact find_of_fileBytes (hbytes .metadata) (hbytes .body)

/-- A key that has been put is listed, with those that were. -/
theorem keys_entered (hshort : key.utf8ByteSize ≤ longestStored) (response : Response) :
    ∃ before after, (perform (keys root region) tree).1 = .ok before ∧
      (perform (keys root region) (entered (regionPlace place region) key response tree)).1 =
        .ok after ∧ ∀ name, name ∈ after ↔ name = key ∨ name ∈ before := by
  refine ⟨keysIn tree (regionPlace place region),
    keysIn (entered (regionPlace place region) key response tree) (regionPlace place region),
    ?_, ?_, fun name => mem_keysIn_entered⟩
  · rw [perform_keys, hfound]
  · rw [perform_keys, h.found_entered hregion hfound hshort response]

/-- After a key has been refused for its length the region is where it was, and lists the same. -/
theorem found_of_long (hlong : longestStored < key.utf8ByteSize)
    (hends : PutEnds root region key response tree result) :
    result.2.findDirectory (regionPath root region) = .ok (regionPlace place region) ∧
      (perform (keys root region) result.2).1 = (perform (keys root region) tree).1 := by
  rw [h.put_of_long hregion hfound hlong hends]
  dsimp only
  split
  next hsought =>
    have hbody := h.part_free hregion .body hsought
    exact ⟨findDirectory_written hfound hbody, keys_written hfound hbody response⟩
  next => exact ⟨hfound, rfl⟩

/-- A key that is far too long is not even looked for. -/
theorem find_of_long (hlong : longestSought < key.utf8ByteSize) :
    (perform (find root region key) tree).1 = .error (.disk .nameTooLong) := by
  have hmetadata : fileBytes tree (metadataPath root region key) = .error .nameTooLong := by
    refine (fileBytes_of_obstacle hfound (moves_fileName .metadata key) ?_).1
    rw [h.obstacle?_eq hregion, if_neg fun hfits =>
      Nat.not_le.mpr hlong ((fileName_fits_iff .metadata key).mp hfits)]
  rw [perform_find, hmetadata]
  rfl

/-- Any other key is found or not, without a failure; one that cannot be stored is not. -/
theorem exists_find (hsought : key.utf8ByteSize ≤ longestSought) :
    ∃ entry, (perform (find root region key) tree).1 = .ok entry ∧
      (longestStored < key.utf8ByteSize → entry = none) := by
  have hfits : ∀ part, (fileName part key).utf8ByteSize ≤ Tree.maxName := fun part =>
    (fileName_fits_iff part key).mpr hsought
  cases hnode : tree.node? (regionPlace place region ++ [fileName .metadata key]) with
  | none =>
    have hmetadata : fileBytes tree (metadataPath root region key) = .error .notFound :=
      fileBytes_of_none hfound (moves_fileName .metadata key) (hfits .metadata) hnode
    refine ⟨none, ?_, fun _ => rfl⟩
    rw [perform_find, hmetadata]
    rfl
  | some node =>
    rw [regionPlace_append hregion] at hnode
    obtain ⟨hshort, ⟨stored, rfl⟩, body, hbody⟩ := h.whole _ _ _ hnode
    rw [← regionPlace_append hregion] at hnode hbody
    refine ⟨_, find_of_fileBytes
      (fileBytes_of_file hfound (moves_fileName .metadata key) (hfits .metadata) hnode)
      (fileBytes_of_file hfound (moves_fileName .body key) (hfits .body) hbody), fun hlong => ?_⟩
    exact absurd ((length_encode_le_iff key).mp hshort) (Nat.not_le.mpr hlong)

/-- A key that cannot be stored is not found. -/
theorem find_of_unstorable (hlong : longestStored < key.utf8ByteSize) :
    (perform (find root region key) tree).1 =
      if key.utf8ByteSize ≤ longestSought then .ok none else .error (.disk .nameTooLong) := by
  split
  next hsought =>
    obtain ⟨entry, hfind, hnone⟩ := h.exists_find hregion hfound hsought
    rw [hfind, hnone hlong]
  next hbeyond => exact h.find_of_long hregion hfound (Nat.not_le.mp hbeyond)

end Kept

end AssetCache.Storage.Files
