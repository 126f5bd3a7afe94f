import AssetCache.Proofs.Storage.Files
import AssetCache.Proofs.Storage.Putting

/-!
# What stands in the directory of a storage, whatever was called

Calls may name any region and any key: names that are too long for a disk, and the empty region,
whose directory is that of the storage itself. Whatever was called from an empty directory on,
directories stand at most one deep below it, and wherever there are metadata they are those of a
response, under a key that is not too long, with a body beside them (`Kept`).

The paths of a storage lead below its directory only by a region and a file (`Leads`), even while
the directory itself is missing. Every call keeps `Kept` (`kept_answer`), and so does every run.
-/

set_option autoImplicit false

namespace AssetCache.Disk.Tree

variable {path here there : Path} {names : Path}

/-- Names that may stay but do not go up lead on. -/
theorem goal_of_onward : ∀ {names : Path} (here : Path), (∀ name ∈ names, Onward name) →
    goal here names = here ++ landing names
  | [], here, _ => by
    rw [landing, List.filter_nil, List.append_nil]
    rfl
  | name :: rest, here, honward => by
    have hrest := fun other hother => honward other (List.mem_cons_of_mem name hother)
    show goal (move here name) rest = _
    cases hstays : staysPut name with
    | true => rw [move_of_stays hstays, landing_of_stays hstays, goal_of_onward here hrest]
    | false =>
      rw [move_of_moves hstays (honward name List.mem_cons_self).1, landing_of_moves hstays,
        goal_of_onward _ hrest, List.append_cons here name (landing rest)]

theorem prefix_of_mem_route : ∀ {names here : Path}, (∀ name ∈ names, Onward name) →
    there ∈ route here names → ∃ front, front <+: landing names ∧ there = here ++ front
  | [], here, _, hthere => by
    rw [List.mem_singleton.mp hthere]
    exact ⟨[], List.nil_prefix, (List.append_nil here).symm⟩
  | name :: rest, here, honward, hthere => by
    have hrest := fun other hother => honward other (List.mem_cons_of_mem name hother)
    rcases List.mem_cons.mp hthere with rfl | hthere
    · exact ⟨[], List.nil_prefix, (List.append_nil there).symm⟩
    · cases hstays : staysPut name with
      | true =>
        rw [move_of_stays hstays] at hthere
        rw [landing_of_stays hstays]
        exact prefix_of_mem_route hrest hthere
      | false =>
        rw [move_of_moves hstays (honward name List.mem_cons_self).1] at hthere
        obtain ⟨front, hfront, rfl⟩ := prefix_of_mem_route hrest hthere
        rw [landing_of_moves hstays]
        refine ⟨name :: front, List.cons_prefix_cons.mpr ⟨rfl, hfront⟩, ?_⟩
        rw [List.append_assoc]
        rfl

end AssetCache.Disk.Tree

namespace AssetCache.Storage.Files

open Disk (Path Node Tree)
open Disk.Tree (Bare landing route goal move)
open Text.Base64Url (encode encode_empty encode_injective)

/-! ## Paths of a storage -/

/-- A path ends at a place and passes nothing below it. -/
structure Leads (root place : Path) : Prop where
  ends : goal [] root = place
  above : ∀ there ∈ route [] root, ∀ rest, rest ≠ [] → there ≠ place ++ rest

/-- A directory in which nothing was stored is bare, and its path leads there. -/
theorem Untouched.leads {fresh : Tree} {root place : Path} (h : Untouched fresh root place) :
    Leads root place ∧ Bare fresh place := by
  cases h with
  | empty hfound hbare =>
    obtain ⟨hwalk, hplace⟩ := Tree.findDirectory_eq_ok_iff.mp hfound
    refine ⟨⟨(Tree.eq_goal_of_walkFrom hwalk).symm, ?_⟩, hbare⟩
    intro there hthere rest hrest heq
    have hdirectory : fresh.node? there = some .directory := by
      rcases Tree.directory_of_mem_route hwalk hthere with rfl | hdirectory
      · exact hplace
      · exact hdirectory
    rw [heq, hbare rest hrest] at hdirectory
    cases hdirectory
  | @missing base above names name hbase hname hnone honward =>
    obtain ⟨hwalk, habove⟩ := Tree.findDirectory_eq_ok_iff.mp hbase
    have hwhole : ∀ other ∈ name :: names, Tree.Onward other := by
      intro other hother
      rcases List.mem_cons.mp hother with rfl | hother
      · exact ⟨hname.notUp, hname.short⟩
      · exact honward other hother
    have hlanding : landing (name :: names) = name :: landing names :=
      Tree.landing_of_moves hname.moves names
    have hbare : Bare fresh (above ++ name :: landing names) := by
      intro rest _
      rw [List.append_assoc]
      exact hnone _
    refine ⟨⟨?_, ?_⟩, hbare⟩
    · rw [Tree.goal_append, ← Tree.eq_goal_of_walkFrom hwalk, Tree.goal_of_onward above hwhole,
        hlanding]
    · intro there hthere rest hrest heq
      rcases (Tree.mem_route_append base []).mp hthere with hthere | hthere
      · have hdirectory : fresh.node? there = some .directory := by
          rcases Tree.directory_of_mem_route hwalk hthere with rfl | hdirectory
          · exact habove
          · exact hdirectory
        rw [List.append_assoc] at heq
        exact not_below_missing hdirectory hnone rfl heq
      · rw [← Tree.eq_goal_of_walkFrom hwalk] at hthere
        obtain ⟨front, hfront, rfl⟩ := Tree.prefix_of_mem_route hwhole hthere
        rw [List.append_assoc, ← hlanding] at heq
        have hlength := congrArg List.length (List.append_cancel_left heq)
        have hle := hfront.length_le
        rw [List.length_append] at hlength
        exact hrest (List.length_eq_zero_iff.mp (by omega))

/-- The place of a region's directory; that of the empty region is the storage's. -/
def regionPlace (place : Path) (region : String) : Path :=
  if region = "" then place else regionPath place region

theorem regionPlace_append {region : String} (hregion : region ≠ "") (place : Path)
    (name : String) : regionPlace place region ++ [name] = place ++ [encode region, name] := by
  rw [regionPlace, if_neg hregion, regionPath_append]

theorem move_encode (place : Path) (region : String) :
    move place (encode region) = regionPlace place region := by
  unfold regionPlace
  by_cases hregion : region = ""
  · rw [if_pos hregion, hregion, encode_empty]
    rfl
  · have hdot : ∀ name : String, '.' ∈ name.toList → encode region ≠ name := fun name hmem heq =>
      (Text.Base64Url.ascii_of_mem_encode (heq ▸ hmem)).2 rfl
    have hmoves : Disk.Tree.staysPut (encode region) = false := by
      rw [Disk.Tree.staysPut, Bool.or_eq_false_iff]
      exact ⟨beq_false_of_ne (Text.Base64Url.encode_ne_empty hregion),
        beq_false_of_ne (hdot "." (by decide))⟩
    rw [if_neg hregion, Tree.move_of_moves hmoves (hdot ".." (by decide))]
    rfl

namespace Leads

variable {root place there : Path} {region name : String}

theorem goal_region (h : Leads root place) (region : String) :
    goal [] (regionPath root region) = regionPlace place region := by
  rw [regionPath, Tree.goal_append, h.ends]
  exact move_encode place region

/-- On the way to the directory of a region nothing is passed below that of the storage but itself. -/
theorem mem_route_region (h : Leads root place) (hthere : there ∈ route [] (regionPath root region)) :
    (∀ rest, rest ≠ [] → there ≠ place ++ rest) ∨ there = regionPlace place region := by
  rcases (Tree.mem_route_append root []).mp hthere with hthere | hthere
  · exact .inl (h.above there hthere)
  · rcases Tree.mem_route_singleton.mp hthere with hthere | hthere
    · exact .inl (h.above there (hthere ▸ Tree.goal_mem_route root []))
    · rw [h.ends, move_encode] at hthere
      exact .inr hthere

theorem mem_route_name (h : Leads root place)
    (hname : Disk.Tree.staysPut name = false ∧ name ≠ "..")
    (hthere : there ∈ route [] (regionPath root region ++ [name])) :
    (∀ rest, rest ≠ [] → there ≠ place ++ rest) ∨ there = regionPlace place region ∨
      there = regionPlace place region ++ [name] := by
  rcases (Tree.mem_route_append (regionPath root region) []).mp hthere with hthere | hthere
  · exact (h.mem_route_region hthere).imp_right .inl
  · rw [h.goal_region] at hthere
    rcases Tree.mem_route_singleton.mp hthere with hthere | hthere
    · exact .inr (.inl hthere)
    · rw [Tree.move_of_moves hname.1 hname.2] at hthere
      exact .inr (.inr hthere)

end Leads

/-- The directory of a region is not two deep below that of the storage. -/
theorem regionPlace_ne (place : Path) (region first second : String) :
    regionPlace place region ≠ place ++ [first, second] := by
  unfold regionPlace
  split
  · intro heq
    have hlength := congrArg List.length heq
    rw [List.length_append] at hlength
    simp at hlength
  · intro heq
    cases List.append_cancel_left heq

/-! ## What every call keeps -/

/-- What stands below the directory of a storage, as far as it matters for what can be stored. -/
structure Kept (place : Path) (tree : Tree) : Prop where
  /-- There are no directories but those of regions. -/
  shallow : ∀ rest, tree.node? (place ++ rest) = some .directory → rest.length ≤ 1
  /-- Where there are metadata they can be read, and there is a body. -/
  whole : ∀ first key node, tree.node? (place ++ [first, fileName .metadata key]) = some node →
    (encode key).length ≤ maxKey ∧ (∃ response : Response, node = .file response.metadataBytes) ∧
      ∃ body, tree.node? (place ++ [first, fileName .body key]) = some (.file body)

theorem Kept.of_bare {place : Path} {tree : Tree} (h : Bare tree place) : Kept place tree where
  shallow rest hnode := by
    cases rest with
    | nil => exact Nat.zero_le 1
    | cons name more =>
      rw [h _ (List.cons_ne_nil _ _)] at hnode
      cases hnode
  whole first key node hnode := by
    rw [h _ (List.cons_ne_nil _ _)] at hnode
    cases hnode

theorem append_pair_eq {here place : Path} {first second name : String}
    (h : here ++ [name] = place ++ [first, second]) : here = place ++ [first] ∧ name = second := by
  have hsplit : place ++ [first, second] = (place ++ [first]) ++ [second] := List.append_cons _ _ _
  exact List.append_singleton_inj.mp (h.trans hsplit)

namespace Kept

variable {place path : Path} {tree : Tree}

/-- A file that is written keeps what is kept if it is no metadata file, or one as it should be. -/
theorem insert_file (h : Kept place tree) {bytes : Bytes}
    (hentry : ∀ first key, path = place ++ [first, fileName .metadata key] →
      (encode key).length ≤ maxKey ∧ (∃ response : Response, bytes = response.metadataBytes) ∧
        ∃ body, tree.node? (place ++ [first, fileName .body key]) = some (.file body)) :
    Kept place (tree.insert path (.file bytes)) where
  shallow rest hnode := by
    by_cases hpath : place ++ rest = path
    · cases rest with
      | nil => exact Nat.zero_le 1
      | cons name more =>
        rw [hpath, Tree.node?_insert_self] at hnode
        · cases hnode
        · rw [← hpath]
          simp
    · rw [Tree.node?_insert_of_ne _ _ hpath] at hnode
      exact h.shallow rest hnode
  whole first key node hnode := by
    have hbody : ∀ body, tree.node? (place ++ [first, fileName .body key]) = some (.file body) →
        ∃ body', (tree.insert path (.file bytes)).node? (place ++ [first, fileName .body key]) =
          some (.file body') := by
      intro body hbody
      by_cases hpath : place ++ [first, fileName .body key] = path
      · exact ⟨bytes, hpath ▸ Tree.node?_insert_self _ _ (by simp)⟩
      · exact ⟨body, (Tree.node?_insert_of_ne _ _ hpath).trans hbody⟩
    by_cases hpath : place ++ [first, fileName .metadata key] = path
    · obtain ⟨hshort, ⟨response, rfl⟩, body, hfile⟩ := hentry first key hpath.symm
      rw [← hpath, Tree.node?_insert_self _ _ (by simp)] at hnode
      cases hnode
      exact ⟨hshort, ⟨response, rfl⟩, hbody body hfile⟩
    · rw [Tree.node?_insert_of_ne _ _ hpath] at hnode
      obtain ⟨hshort, hresponse, body, hfile⟩ := h.whole first key node hnode
      exact ⟨hshort, hresponse, hbody body hfile⟩

/-- What is taken away keeps what is kept if no body is taken from its metadata. -/
theorem filter (h : Kept place tree) {keep : Path → Bool}
    (hbody : ∀ first key bytes,
      tree.node? (place ++ [first, fileName .body key]) = some (.file bytes) →
        keep (place ++ [first, fileName .metadata key]) = true →
          tree.node? (place ++ [first, fileName .metadata key]) ≠ none →
            keep (place ++ [first, fileName .body key]) = true) :
    Kept place (tree.filter keep) where
  shallow rest hnode := by
    cases rest with
    | nil => exact Nat.zero_le 1
    | cons name more =>
      rw [Tree.node?_filter _ _ (by simp)] at hnode
      split at hnode
      · exact h.shallow _ hnode
      · cases hnode
  whole first key node hnode := by
    rw [Tree.node?_filter _ _ (by simp)] at hnode
    split at hnode
    next hkeep =>
      obtain ⟨hshort, hresponse, body, hfile⟩ := h.whole first key node hnode
      have hthere : tree.node? (place ++ [first, fileName .metadata key]) ≠ none := by
        rw [hnode]
        exact Option.some_ne_none node
      refine ⟨hshort, hresponse, body, ?_⟩
      rw [Tree.node?_filter_of_keep _ (hbody first key body hfile hkeep hthere), hfile]
    next => cases hnode

/-- A body is taken away only where there are no metadata. -/
theorem erase (h : Kept place tree)
    (hbody : ∀ first key, path = place ++ [first, fileName .body key] →
      tree.node? (place ++ [first, fileName .metadata key]) = none) :
    Kept place (tree.erase path) := by
  refine h.filter fun first key bytes _ _ hthere => ?_
  rw [bne_iff_ne]
  intro heq
  exact hthere (hbody first key heq.symm)

/-- Directories are created where the paths of regions pass. -/
theorem created (h : Kept place tree) {root : Path} (hleads : Leads root place) (region : String) :
    Kept place (tree.createFrom [] (regionPath root region)).2 := by
  have hroute : ∀ rest, rest.length ≠ 0 → rest.length ≠ 1 →
      place ++ rest ∉ route [] (regionPath root region) := by
    intro rest hzero hone hmem
    have hrest : rest ≠ [] := fun heq => hzero (heq ▸ rfl)
    rcases hleads.mem_route_region hmem with hnot | heq
    · exact hnot rest hrest rfl
    · unfold regionPlace at heq
      split at heq
      · exact hrest (List.append_right_eq_self.mp heq)
      · exact hone (congrArg List.length (List.append_cancel_left heq))
  have hdeep : ∀ first second, (tree.createFrom [] (regionPath root region)).2.node?
      (place ++ [first, second]) = tree.node? (place ++ [first, second]) := by
    intro first second
    rcases Tree.node?_createFrom (place ++ [first, second]) (regionPath root region) [] tree with
      hsame | ⟨hmem, _⟩
    · exact hsame
    · exact absurd hmem (hroute _ (by simp) (by simp))
  constructor
  · intro rest hnode
    rcases Tree.node?_createFrom (place ++ rest) (regionPath root region) [] tree with
      hsame | ⟨hmem, _⟩
    · exact h.shallow rest (hsame ▸ hnode)
    · by_contra hlong
      exact hroute rest (by omega) (by omega) hmem
  · intro first key node hnode
    rw [hdeep] at hnode ⊢
    exact h.whole first key node hnode

/-- A region is deleted with all that is in its directory. -/
theorem deleted (h : Kept place tree) {there : Path} (hthere : tree.node? there = some .directory) :
    Kept place (tree.filter fun path => !Tree.isUnder there path) := by
  refine h.filter fun first key bytes hfile hkeep _ => ?_
  rw [Bool.not_eq_true', Bool.eq_false_iff] at hkeep ⊢
  intro hunder
  have hsplit : ∀ name, place ++ [first, name] = (place ++ [first]) ++ [name] :=
    fun name => List.append_cons _ _ _
  unfold Tree.isUnder at hkeep hunder
  rw [List.isPrefixOf_iff_prefix, hsplit, List.prefix_concat_iff] at hunder
  rcases hunder with heq | hunder
  · rw [heq, ← hsplit, hfile] at hthere
    cases hthere
  · apply hkeep
    rw [List.isPrefixOf_iff_prefix, hsplit]
    exact hunder.trans (List.prefix_append _ _)

/-! ## One call -/

/-- However far a put gets, no metadata are without a body. -/
theorem put (h : Kept place tree) {root : Path} {region key : String} {response : Response}
    {result : Except StorageError Unit × Tree}
    (hends : PutEnds root region key response tree result) : Kept place result.2 := by
  have hwritten : ∀ here, Kept place (written here key response tree) := fun here =>
    h.insert_file fun first key' heq => absurd (append_pair_eq heq).2 (body_ne_metadata key key')
  have hstaged : ∀ here, Kept place (staged here key response tree) := fun here =>
    (hwritten here).insert_file fun first key' heq =>
      absurd (append_pair_eq heq).2.symm (fileName_ne_stagedName .metadata key' key)
  cases hends with
  | closed hnone => exact h
  | unwritten hfound hbody => exact h
  | @unstaged here refusal => exact hwritten here
  | @unnamed here refusal => exact hstaged here
  | @entered here hfound hbody hstage hname =>
    have hhidden : Kept place ((staged here key response tree).erase (here ++ [stagedName key])) :=
      (hstaged here).erase fun first key' heq =>
        absurd (append_pair_eq heq).2.symm (fileName_ne_stagedName .body key' key)
    refine hhidden.insert_file fun first key' heq => ?_
    obtain ⟨hhere, hnames⟩ := append_pair_eq heq
    obtain rfl := (fileName_injective hnames).2
    have hshort := (Disk.Tree.obstacle?_eq_none_iff.mp hstage).1
    rw [utf8ByteSize_stagedName] at hshort
    refine ⟨?_, ⟨response, rfl⟩, response.body, ?_⟩
    · unfold Tree.maxName at hshort
      unfold maxKey
      split at hshort
      next hempty =>
        rw [hempty, encode_empty]
        decide
      next => omega
    · have hsplit : place ++ [first, fileName .body key] = here ++ [fileName .body key] := by
        rw [hhere, List.append_cons]
      have hapart := names_apart here (fileName_ne_stagedName .body key key)
      rw [hsplit, Tree.node?_erase_of_ne _ hapart, staged, Tree.node?_insert_of_ne _ _ hapart,
        written, Tree.node?_insert_self _ _ (by simp)]

/-- The body of an entry is removed where its metadata are gone. -/
theorem removeBody (h : Kept place tree) {root : Path} {region key : String} (existed : Bool)
    (hnone : ∀ here, tree.findDirectory (regionPath root region) = .ok here →
      tree.node? (here ++ [fileName .metadata key]) = none) :
    Kept place (perform (removeFile (bodyPath root region key) >>= fun _ => pure existed) tree).2 := by
  have hremove := perform_removeFile (bodyPath root region key) tree
  cases hbody : tree.findFile (bodyPath root region key) with
  | error error =>
    rw [hbody] at hremove
    cases error with
    | notFound => exact (congrArg Prod.snd (perform_bind _ hremove)).symm ▸ h
    | _ => exact (congrArg Prod.snd (perform_bind_error _ hremove)).symm ▸ h
  | ok found =>
    obtain ⟨there, bytes⟩ := found
    rw [hbody] at hremove
    obtain ⟨here, hfound, rfl⟩ := Tree.findDirectory_of_findFile (moves_fileName .body key) hbody
    have herased : Kept place (tree.erase (here ++ [fileName .body key])) := by
      refine h.erase fun first key' heq => ?_
      obtain ⟨hhere, hnames⟩ := append_pair_eq heq
      obtain rfl := (fileName_injective hnames).2
      rw [← hnone here hfound, hhere, List.append_assoc]
      rfl
    exact (congrArg Prod.snd (perform_bind _ hremove)).symm ▸ herased

theorem remove (h : Kept place tree) (root : Path) (region key : String) :
    Kept place (perform (Files.remove root region key) tree).2 := by
  have hremove := perform_removeFile (metadataPath root region key) tree
  rw [Files.remove]
  cases hmetadata : tree.findFile (metadataPath root region key) with
  | error error =>
    rw [hmetadata] at hremove
    cases error with
    | notFound =>
      rw [perform_bind _ hremove]
      refine h.removeBody false fun here hfound => ?_
      have hfile : tree.findFile (metadataPath root region key) = _ :=
        Disk.Tree.findFile_name hfound (moves_fileName .metadata key)
      rw [hmetadata] at hfile
      split at hfile
      · cases hfile
      · split at hfile
        · cases hfile
        · cases hfile
        next hnode => exact hnode
    | _ => exact (congrArg Prod.snd (perform_bind_error _ hremove)).symm ▸ h
  | ok found =>
    obtain ⟨there, bytes⟩ := found
    rw [hmetadata] at hremove
    obtain ⟨here, hfound, rfl⟩ :=
      Tree.findDirectory_of_findFile (moves_fileName .metadata key) hmetadata
    have herased : Kept place (tree.erase (here ++ [fileName .metadata key])) :=
      h.erase fun first key' heq =>
        absurd (append_pair_eq heq).2.symm (body_ne_metadata key' key)
    have hfile : tree.node? (here ++ [fileName .metadata key]) ≠ some .directory := by
      rw [(Tree.of_findFile hmetadata).2]
      exact fun heq => by cases heq
    rw [perform_bind _ hremove]
    refine herased.removeBody true fun here' hfound' => ?_
    -- the directory is the same, for only a file was taken away
    cases (Tree.findDirectory_mono (Tree.keeps_erase hfile) hfound).symm.trans hfound'
    rw [Tree.node?_erase _ _ (by simp), if_pos rfl]

end Kept

section Runs

variable {root place : Path} {tree : Tree}

/-- What only asks the disk leaves it as it is. -/
theorem perform_bind_snd {α β : Type} {step : Step α} (next : α → Step β)
    (hstep : (perform step tree).2 = tree) (hnext : ∀ value, (perform (next value) tree).2 = tree) :
    (perform (step >>= next) tree).2 = tree := by
  cases hresult : perform step tree with
  | mk result after =>
    rw [hresult] at hstep
    change after = tree at hstep
    subst hstep
    cases result with
    | ok value => rw [perform_bind _ hresult, hnext value]
    | error error => rw [perform_bind_error _ hresult]

/-- Whatever is called, the directory of a storage stays as it should be. -/
theorem kept_answer (hleads : Leads root place) (h : Kept place tree) (call : Call) :
    Kept place (answer root call tree).2 := by
  cases call with
  | create region =>
    have hcreate : (answer root (.create region) tree).2 =
        (tree.createFrom [] (regionPath root region)).2 := rfl
    rw [hcreate]
    exact h.created hleads region
  | has region =>
    have hhas : (perform (hasRegion root region) tree).2 = tree := by
      rw [perform_hasRegion]
      split <;> rfl
    exact hhas.symm ▸ h
  | delete region =>
    have hdelete := perform_deleteRegion root region tree
    show Kept place (perform (deleteRegion root region) tree).2
    rw [hdelete]
    cases hfound : tree.findDirectory (regionPath root region) with
    | ok there => exact h.deleted (Tree.findDirectory_eq_ok_iff.mp hfound).2
    | error error => cases error <;> exact h
  | regions =>
    have hlist : (perform (diskOr (.list root) (pure [])) tree).2 = tree := by
      rw [perform_list]
      split <;> rfl
    have hregions : (perform (regions root) tree).2 = tree :=
      perform_bind_snd _ hlist fun _ => rfl
    exact hregions.symm ▸ h
  | find region key =>
    have hfind : (perform (find root region key) tree).2 = tree := by
      rw [perform_find]
    exact hfind.symm ▸ h
  | put region key response => exact h.put (putEnds root region key response tree)
  | remove region key => exact h.remove root region key
  | keys region =>
    have hkeys : (perform (keys root region) tree).2 = tree := by
      rw [perform_keys]
    exact hkeys.symm ▸ h

/-- Whatever was called from an empty directory on, its directory is as it should be. -/
theorem kept_run (hleads : Leads root place) : ∀ (calls : List Call) {tree : Tree},
    Kept place tree → Kept place ((inTurn calls).run (answer root) tree).2
  | [], _, h => h
  | call :: rest, tree, h => by
    rw [run_inTurn_cons]
    exact kept_run hleads rest (kept_answer hleads h call)

end Runs

end AssetCache.Storage.Files
