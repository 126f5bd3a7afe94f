import AssetCache.Proofs.Json.Stored
import AssetCache.Proofs.Storage.Memory
import AssetCache.Proofs.Storage.Names

/-!
# What a storage keeps in its directory

A directory holds what is in memory if below it stands exactly what the regions and
entries in memory amount to (`Holds`): a directory for each region, and in it a file for
each part of an entry. `Standing` says this of a directory on a disk, and that the disk
is otherwise as it was.

Then come the two halves of a simulation, for one region or entry each: what is read from
such a disk, and which changes to it keep up with memory.
-/

set_option autoImplicit false

namespace AssetCache.Storage.Files

open Disk (Path Node Tree Listed)
open Disk.Tree (Plain Bare Keeps landing)
open Text.Base64Url (encode decode? decode?_encode encode_injective)

/-! ## What stands in the directory -/

/-- The file of a part of an entry. -/
def filePath (root : Path) (region : String) (part : Part) (key : String) : Path :=
  regionPath root region ++ [fileName part key]

theorem filePath_injective {root : Path} {region : String} {part part' : Part} {key key' : String}
    (h : filePath root region part key = filePath root region part' key') :
    part = part' ∧ key = key' :=
  fileName_injective (List.cons.inj (List.append_cancel_left h)).1

theorem filePath_ne_nil (root : Path) (region : String) (part : Part) (key : String) :
    filePath root region part key ≠ [] :=
  List.append_ne_nil_of_right_ne_nil _ (List.cons_ne_nil _ _)

theorem filePath_body_ne_metadata (root : Path) (region key : String) :
    filePath root region .body key ≠ filePath root region .metadata key := fun heq => by
  cases (filePath_injective heq).1

theorem filePath_ne_stagedPath (root : Path) (region : String) (part : Part) (key key' : String) :
    filePath root region part key ≠ stagedPath root region key' := fun heq =>
  fileName_ne_stagedName part key key' (List.cons.inj (List.append_cancel_left heq)).1

/-- What stands in the directory of a region stands below that of the storage. -/
theorem regionPath_append (root : Path) (region : String) (more : Path) :
    regionPath root region ++ more = root ++ encode region :: more := by
  rw [regionPath, List.append_assoc]
  rfl

/-- What stands below the directory of a storage that holds what is in memory. -/
inductive Holds (memory : Memory) : Path → Node → Prop
  | region {region : String} :
      memory.contains region = true → Holds memory [encode region] .directory
  | file {region key : String} {response : Response} (part : Part) :
      (Memory.entries memory region).get? key = some response →
        Holds memory [encode region, fileName part key] (.file (part.bytes response))

section Holds

variable {memory : Memory} {region key : String} {node : Node}

theorem holds_region_iff :
    Holds memory [encode region] node ↔ memory.contains region = true ∧ node = .directory := by
  constructor
  · intro h
    generalize hrest : [encode region] = rest at h
    cases h with
    | region hcontains =>
      rw [encode_injective (List.cons.inj hrest).1]
      exact ⟨hcontains, rfl⟩
    | file part hget => cases (List.cons.inj hrest).2
  · rintro ⟨hcontains, rfl⟩
    exact .region hcontains

theorem holds_file_iff {part : Part} :
    Holds memory [encode region, fileName part key] node ↔
      ∃ response, (Memory.entries memory region).get? key = some response ∧
        node = .file (part.bytes response) := by
  constructor
  · intro h
    generalize hrest : [encode region, fileName part key] = rest at h
    cases h with
    | region hcontains => cases (List.cons.inj hrest).2
    | @file region' key' response part' hget =>
      obtain ⟨hregion, hrest⟩ := List.cons.inj hrest
      obtain ⟨rfl, rfl⟩ := fileName_injective (List.cons.inj hrest).1
      obtain rfl := encode_injective hregion
      exact ⟨response, hget, rfl⟩
  · rintro ⟨response, hget, rfl⟩
    exact .file part hget

theorem not_holds_staged : ¬ Holds memory [encode region, stagedName key] node := by
  intro h
  generalize hrest : [encode region, stagedName key] = rest at h
  cases h with
  | region hcontains => cases (List.cons.inj hrest).2
  | file part hget =>
    exact fileName_ne_stagedName part _ _ (List.cons.inj (List.cons.inj hrest).2).1.symm

/-- A region that is not there has no directory, nor anything in it. -/
theorem not_holds_of_absent (habsent : memory.get? region = none) (more : Path) :
    ¬ Holds memory (encode region :: more) node := by
  intro h
  generalize hrest : encode region :: more = rest at h
  cases h with
  | region hcontains =>
    rw [Table.contains, ← encode_injective (List.cons.inj hrest).1, habsent] at hcontains
    cases hcontains
  | file part hget =>
    rw [← encode_injective (List.cons.inj hrest).1, Memory.entries_of_get?_none habsent] at hget
    cases hget

/-- Two storages that agree on what a path names have the same standing there. -/
theorem holds_congr {memory' : Memory} {rest : Path}
    (hregions : ∀ region, rest = [encode region] →
      memory.contains region = memory'.contains region)
    (hentries : ∀ region part key, rest = [encode region, fileName part key] →
      (Memory.entries memory region).get? key = (Memory.entries memory' region).get? key) :
    Holds memory rest node ↔ Holds memory' rest node := by
  constructor
  · intro h
    cases h with
    | region hcontains => exact .region ((hregions _ rfl).symm.trans hcontains)
    | file part hget => exact .file part ((hentries _ part _ rfl).symm.trans hget)
  · intro h
    cases h with
    | region hcontains => exact .region ((hregions _ rfl).trans hcontains)
    | file part hget => exact .file part ((hentries _ part _ rfl).trans hget)

end Holds

/-! ## Listings -/

/-- The names that are read off a listing are those of a table, if each is written in one way. -/
theorem ascending_children {α : Type} (tree : Tree) (path : Path) {table : Table α}
    {read : Listed → Option String} (write : String → String)
    (hread : ∀ listed ∈ tree.children path, ∀ name, read listed = some name →
      listed.name = write name ∧ table.contains name = true)
    (hwrite : ∀ name, table.contains name = true →
      ∃ listed ∈ tree.children path, read listed = some name) :
    Listing.ascending ((tree.children path).filterMap read) = table.keys :=
  Listing.ascending_filterMap write (tree.children_pairwise path) hread hwrite

/-! ## Disks that hold what is in memory -/

/-- A disk on which a directory holds what is in memory, and that is else as it was. -/
structure Standing (before : Tree) (root place : Path) (memory : Memory) (tree : Tree) : Prop where
  rooted : before.findDirectory root = .ok place
  bare : Bare before place
  outside : ∀ path, (∀ rest, rest ≠ [] → path ≠ place ++ rest) → tree.node? path = before.node? path
  holds : ∀ rest, rest ≠ [] → ∀ node,
    tree.node? (place ++ rest) = some node ↔ Holds memory rest node

namespace Standing

variable {before tree changed : Tree} {root place : Path} {memory memory' : Memory}
  {region key : String}

/-- The directory is still found, for nothing on the way to it is below it. -/
theorem found (h : Standing before root place memory tree) :
    tree.findDirectory root = .ok place := by
  refine Tree.findDirectory_mono (fun path hpath => ?_) h.rooted
  rw [h.outside path fun rest hrest heq => ?_]
  · exact hpath
  · rw [heq, h.bare rest hrest] at hpath
    cases hpath

/-- Changes below the directory that memory follows. -/
theorem update (h : Standing before root place memory tree)
    (houtside : ∀ path, (∀ rest, rest ≠ [] → path ≠ place ++ rest) →
      changed.node? path = tree.node? path)
    (hholds : ∀ rest, rest ≠ [] → ∀ node,
      changed.node? (place ++ rest) = some node ↔ Holds memory' rest node) :
    Standing before root place memory' changed :=
  ⟨h.rooted, h.bare, fun path hpath => (houtside path hpath).trans (h.outside path hpath), hholds⟩

theorem node?_region (h : Standing before root place memory tree) (region : String) :
    tree.node? (regionPath place region) =
      if memory.contains region then some .directory else none := by
  refine Option.ext fun node => ?_
  rw [regionPath, h.holds _ (List.cons_ne_nil _ _), holds_region_iff]
  cases hcontains : memory.contains region with
  | true => exact ⟨fun hboth => hboth.2 ▸ rfl, fun heq => ⟨rfl, (Option.some.inj heq).symm⟩⟩
  | false => exact ⟨fun hboth => (by cases hboth.1), fun heq => (by cases heq)⟩

theorem node?_file (h : Standing before root place memory tree) (region : String) (part : Part)
    (key : String) :
    tree.node? (filePath place region part key) =
      ((Memory.entries memory region).get? key).map
        fun response => .file (part.bytes response) := by
  refine Option.ext fun node => ?_
  rw [filePath, regionPath_append, h.holds _ (List.cons_ne_nil _ _), holds_file_iff,
    Option.map_eq_some_iff]
  refine exists_congr fun response => and_congr_right fun _ => ?_
  exact eq_comm

theorem file_ne_directory (h : Standing before root place memory tree) (part : Part) :
    tree.node? (filePath place region part key) ≠ some .directory := by
  rw [h.node?_file]
  cases (Memory.entries memory region).get? key with
  | none => exact fun heq => by cases heq
  | some response => exact fun heq => by cases heq

/-- Staged files do not outlast a call. -/
theorem node?_staged (h : Standing before root place memory tree) (region key : String) :
    tree.node? (stagedPath place region key) = none := by
  refine Option.eq_none_iff_forall_ne_some.mpr fun node hnode => ?_
  rw [stagedPath, regionPath_append, h.holds _ (List.cons_ne_nil _ _)] at hnode
  exact not_holds_staged hnode

/-! ## What is read -/

/-- The directory of a region is found if the region is there. -/
theorem found_region (h : Standing before root place memory tree) (hregion : Plain (encode region))
    (hcontains : memory.contains region = true) :
    tree.findDirectory (regionPath root region) = .ok (regionPath place region) := by
  refine Tree.findDirectory_child h.found hregion ?_
  rw [show place ++ [encode region] = regionPath place region from rfl, h.node?_region,
    if_pos hcontains]

/-- Without a region nothing is found in its directory, nor the directory itself. -/
theorem find_missing (h : Standing before root place memory tree) (hregion : Plain (encode region))
    (hcontains : memory.contains region = false) (more : Path) :
    tree.find (regionPath root region ++ more) = .error .notFound := by
  rw [regionPath_append]
  refine Tree.find_missing h.found hregion ?_ more
  rw [show place ++ [encode region] = regionPath place region from rfl, h.node?_region,
    if_neg (by rw [hcontains]; decide)]

theorem find_region (h : Standing before root place memory tree) (hregion : Plain (encode region)) :
    tree.find (regionPath root region) =
      if memory.contains region then .ok (regionPath place region, .directory)
      else .error .notFound := by
  rw [show regionPath root region = root ++ [encode region] from rfl,
    Tree.find_child h.found hregion,
    show place ++ [encode region] = regionPath place region from rfl, h.node?_region]
  cases memory.contains region with
  | true => rfl
  | false => rfl

/-- The file of a part is found if the entry is there. -/
theorem findFile_part (h : Standing before root place memory tree) (hregion : Plain (encode region))
    {part : Part} (hfile : Plain (fileName part key)) :
    tree.findFile (filePath root region part key) =
      match (Memory.entries memory region).get? key with
      | some response => .ok (filePath place region part key, part.bytes response)
      | none => .error .notFound := by
  cases hcontains : memory.contains region with
  | false =>
    rw [Memory.entries_of_get?_none ((Table.contains_eq_false_iff _ _).mp hcontains)]
    exact Tree.findFile_of_find_error (h.find_missing hregion hcontains [fileName part key])
  | true =>
    have hnode := h.node?_file region part key
    have hfind := Tree.find_child (h.found_region hregion hcontains) hfile
    rw [filePath] at hnode
    rw [hnode] at hfind
    cases hget : (Memory.entries memory region).get? key with
    | none =>
      rw [hget] at hfind
      exact Tree.findFile_of_find_error hfind
    | some response =>
      rw [hget] at hfind
      exact Tree.findFile_of_find hfind

/-- A directory lists its regions. -/
theorem listed_regions (h : Standing before root place memory tree) :
    Listing.ascending ((tree.children place).filterMap fun entry =>
      if entry.isDirectory then decode? entry.name else none) = memory.keys := by
  refine ascending_children tree place encode (fun listed hlisted name hname => ?_)
    fun region hcontains => ?_
  · obtain ⟨node, hnode, hdirectory⟩ := (Tree.mem_children_iff _ _ _).mp hlisted
    rw [h.holds [listed.name] (List.cons_ne_nil _ _)] at hnode
    generalize hrest : [listed.name] = rest at hnode
    cases hnode with
    | file part hget => cases (List.cons.inj hrest).2
    | region hcontains =>
      rw [hdirectory, (List.cons.inj hrest).1, decode?_encode] at hname
      cases hname
      exact ⟨(List.cons.inj hrest).1, hcontains⟩
  · refine ⟨⟨encode region, true⟩, (Tree.mem_children_iff _ _ _).mpr ⟨.directory, ?_, rfl⟩, ?_⟩
    · exact (h.holds _ (List.cons_ne_nil _ _) _).mpr (.region hcontains)
    · exact decode?_encode region

/-- The directory of a region lists its keys. -/
theorem listed_keys (h : Standing before root place memory tree) (region : String) :
    Listing.ascending ((tree.children (regionPath place region)).filterMap fun entry =>
      keyOfName? entry.name) = (Memory.entries memory region).keys := by
  refine ascending_children tree (regionPath place region) (fileName .metadata)
    (fun listed hlisted name hname => ?_) fun key hcontains => ?_
  · obtain ⟨node, hnode, _⟩ := (Tree.mem_children_iff _ _ _).mp hlisted
    rw [regionPath_append, h.holds _ (List.cons_ne_nil _ _)] at hnode
    generalize hrest : [encode region, listed.name] = rest at hnode
    cases hnode with
    | region hcontains => cases (List.cons.inj hrest).2
    | @file region' key' response part hget =>
      obtain ⟨hregion, hfile⟩ := List.cons.inj hrest
      obtain rfl := encode_injective hregion
      rw [(List.cons.inj hfile).1] at hname ⊢
      cases part with
      | body =>
        rw [keyOfName?_body] at hname
        cases hname
      | metadata =>
        rw [keyOfName?_metadata] at hname
        cases hname
        exact ⟨rfl, (Table.contains_eq_true_iff _ _).mpr ⟨response, hget⟩⟩
  · obtain ⟨response, hget⟩ := (Table.contains_eq_true_iff _ _).mp hcontains
    have hlisted : ⟨fileName .metadata key, false⟩ ∈ tree.children (regionPath place region) := by
      refine (Tree.mem_children_iff _ _ _).mpr ⟨.file response.metadataBytes, ?_, by simp⟩
      rw [regionPath_append]
      exact (h.holds _ (List.cons_ne_nil _ _) _).mpr (.file .metadata hget)
    exact ⟨_, hlisted, keyOfName?_metadata key⟩

/-! ## What is changed -/

/-- A region that is not there is opened by a directory. -/
theorem opened (h : Standing before root place memory tree) (habsent : memory.get? region = none) :
    Standing before root place (memory.insert region .empty)
      (tree.insert (regionPath place region) .directory) := by
  refine h.update (fun path hpath => ?_) fun rest hrest node => ?_
  · exact Tree.node?_insert_of_ne _ _ (hpath _ (List.cons_ne_nil _ _))
  by_cases hself : rest = [encode region]
  · subst hself
    rw [← regionPath, Tree.node?_insert_self _ _ (by simp [regionPath]), holds_region_iff,
      Table.contains_insert]
    simp [eq_comm]
  · have hne : place ++ rest ≠ regionPath place region := fun heq =>
      hself (List.append_cancel_left heq)
    rw [Tree.node?_insert_of_ne _ _ hne, h.holds rest hrest]
    refine holds_congr (fun other heq => ?_) fun other part key heq => ?_
    · have hother : region ≠ other := fun hsame => hself (hsame ▸ heq)
      rw [Table.contains, Table.contains, Table.get?_insert_of_ne _ _ hother]
    · -- no entry is in a region that has just been opened
      by_cases hother : region = other
      · subst hother
        rw [Memory.entries_of_get?_none habsent,
          Memory.entries_of_get? (Table.get?_insert_self _ _ _)]
      · rw [Memory.entries_congr (Table.get?_insert_of_ne _ _ hother)]

/-- A region is deleted with all that is in its directory. -/
theorem deleted (h : Standing before root place memory tree) (region : String) :
    Standing before root place (memory.erase region)
      (tree.filter fun path => !Tree.isUnder (regionPath place region) path) := by
  have hunder : ∀ path, Tree.isUnder (regionPath place region) path = true ↔
      ∃ more, path = place ++ encode region :: more := by
    intro path
    rw [Tree.isUnder, List.isPrefixOf_iff_prefix]
    constructor
    · rintro ⟨more, rfl⟩
      exact ⟨more, regionPath_append place region more⟩
    · rintro ⟨more, rfl⟩
      exact ⟨more, regionPath_append place region more⟩
  refine h.update (fun path hpath => ?_) fun rest hrest node => ?_
  · refine Tree.node?_filter_of_keep _ ?_
    rw [Bool.not_eq_true', Bool.eq_false_iff]
    intro hin
    obtain ⟨more, heq⟩ := (hunder path).mp hin
    exact hpath _ (List.cons_ne_nil _ _) heq
  rw [Tree.node?_filter _ _ (List.append_ne_nil_of_right_ne_nil _ hrest)]
  cases hin : Tree.isUnder (regionPath place region) (place ++ rest) with
  | true =>
    obtain ⟨more, heq⟩ := (hunder _).mp hin
    obtain rfl := List.append_cancel_left heq
    have habsent : (memory.erase region).get? region = none := by
      rw [Table.get?_erase, if_pos rfl]
    refine ⟨fun hnode => (by cases hnode), fun hholds => ?_⟩
    exact absurd hholds (not_holds_of_absent habsent more)
  | false =>
    have hother : ∀ other more, rest = encode other :: more →
        (memory.erase region).get? other = memory.get? other := by
      intro other more heq
      rw [Table.get?_erase, if_neg]
      rintro rfl
      rw [(hunder _).mpr ⟨more, by rw [heq]⟩] at hin
      cases hin
    rw [Bool.not_false, if_pos rfl, h.holds rest hrest]
    refine holds_congr (fun other heq => ?_) fun other part key heq => ?_
    · rw [Table.contains, Table.contains, hother other _ heq]
    · rw [Memory.entries_congr (hother other _ heq)]

/-- An entry is written or removed by the files of its parts alone. -/
theorem entered (h : Standing before root place memory tree) {table table' : Table Response}
    (entry : Option Response) (hget : memory.get? region = some table)
    (htable : ∀ other, table'.get? other = if key = other then entry else table.get? other)
    (hparts : ∀ part, changed.node? (filePath place region part key) =
      entry.map fun response => .file (part.bytes response))
    (hothers : ∀ path, (∀ part, path ≠ filePath place region part key) →
      changed.node? path = tree.node? path) :
    Standing before root place (memory.insert region table') changed := by
  have hentries : ∀ other, Memory.entries (memory.insert region table') other =
      if other = region then table' else Memory.entries memory other := by
    intro other
    split
    next heq =>
      subst heq
      exact Memory.entries_of_get? (Table.get?_insert_self _ _ _)
    next hne => exact Memory.entries_congr (Table.get?_insert_of_ne _ _ (Ne.symm hne))
  refine h.update (fun path hpath => hothers path fun part heq => ?_) fun rest hrest node => ?_
  · exact hpath _ (List.cons_ne_nil _ _) (heq.trans (regionPath_append place region _))
  by_cases hself : ∃ part, rest = [encode region, fileName part key]
  · obtain ⟨part, rfl⟩ := hself
    rw [← regionPath_append, ← filePath, hparts, holds_file_iff, hentries, if_pos rfl, htable,
      if_pos rfl, Option.map_eq_some_iff]
    exact exists_congr fun response => and_congr_right fun _ => eq_comm
  · have hne : ∀ part, place ++ rest ≠ filePath place region part key := fun part heq =>
      hself ⟨part, List.append_cancel_left (heq.trans (regionPath_append place region _))⟩
    rw [hothers _ hne, h.holds rest hrest]
    refine holds_congr (fun other heq => ?_) fun other part key' heq => ?_
    · rw [Table.contains_insert]
      by_cases hother : region = other
      · subst hother
        rw [Table.contains, hget, beq_self_eq_true]
        rfl
      · rw [beq_false_of_ne hother, Bool.false_or]
    · rw [hentries]
      split
      next hother =>
        subst hother
        rw [htable, if_neg, Memory.entries_of_get? hget]
        rintro rfl
        exact hself ⟨part, heq⟩
      · rfl

/-- An entry is removed with the files of its parts. -/
theorem removed (h : Standing before root place memory tree) {table : Table Response}
    (hget : memory.get? region = some table)
    (hparts : ∀ part, changed.node? (filePath place region part key) = none)
    (hothers : ∀ path, (∀ part, path ≠ filePath place region part key) →
      changed.node? path = tree.node? path) :
    Standing before root place (memory.insert region (table.erase key)) changed := by
  refine h.entered none hget (fun other => ?_) hparts hothers
  rw [Table.get?_erase]
  by_cases heq : other = key
  · rw [if_pos heq, if_pos heq.symm]
  · rw [if_neg heq, if_neg (Ne.symm heq)]

end Standing

end AssetCache.Storage.Files
