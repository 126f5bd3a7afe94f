import AssetCache.Disk.Tree

/-!
# File trees by what stands where

What the operations on a tree do is said here by `node?` alone: the node under each
path after the operation. Walking a path only asks which of the places on the way are
directories, so a tree with more directories is walked to the same places
(`walkFrom_mono`), and a path in two parts is walked part by part (`walkFrom_append`).
-/

set_option autoImplicit false

namespace AssetCache.Disk.Tree

variable {tree other : Tree} {path here place more : Path} {node : Node} {name : String}

/-! ## Nodes -/

theorem node?_of_ne_nil (tree : Tree) (h : path ≠ []) :
    tree.node? path = (tree.nodes.find? fun entry => entry.1 == path).map Prod.snd := by
  rw [node?, if_neg fun hempty => h (List.isEmpty_iff.mp hempty)]

/-- What is listed under a path is what stands there. -/
theorem mem_nodes_iff (tree : Tree) (h : path ≠ []) :
    (path, node) ∈ tree.nodes ↔ tree.node? path = some node := by
  obtain ⟨nodes, unique⟩ := tree
  rw [node?_of_ne_nil _ h]
  show (path, node) ∈ nodes ↔ (nodes.find? fun entry => entry.1 == path).map Prod.snd = some node
  induction nodes with
  | nil => exact ⟨fun hmem => (by cases hmem), fun heq => (by cases heq)⟩
  | cons entry nodes ih =>
    have hunique := List.nodup_cons.mp unique
    rw [List.mem_cons, List.find?_cons]
    cases hentry : entry.1 == path with
    | true =>
      obtain rfl : entry.1 = path := eq_of_beq hentry
      -- no other entry has this path
      refine ⟨fun hmem => ?_, fun heq => .inl (Prod.ext rfl (Option.some.inj heq).symm)⟩
      rcases hmem with heq | hmem
      · rw [← heq]
        rfl
      · exact absurd (List.mem_map.mpr ⟨_, hmem, rfl⟩) hunique.1
    | false =>
      rw [← ih hunique.2]
      refine ⟨fun hmem => hmem.resolve_left fun heq => ?_, .inr⟩
      rw [← heq, beq_self_eq_true] at hentry
      cases hentry

theorem node?_filter (tree : Tree) (keep : Path → Bool) (h : path ≠ []) :
    (tree.filter keep).node? path = if keep path then tree.node? path else none := by
  refine Option.ext fun node => ?_
  rw [← mem_nodes_iff _ h]
  show (path, node) ∈ tree.nodes.filter (fun entry => keep entry.1) ↔ _
  rw [List.mem_filter, mem_nodes_iff _ h]
  split
  next hkeep => exact ⟨fun hboth => hboth.1, fun hnode => ⟨hnode, hkeep⟩⟩
  next hkeep => exact ⟨fun hboth => absurd hboth.2 hkeep, fun hnode => by cases hnode⟩

theorem node?_erase (tree : Tree) (removed : Path) (h : path ≠ []) :
    (tree.erase removed).node? path = if path = removed then none else tree.node? path := by
  rw [erase, node?_filter _ _ h]
  by_cases heq : path = removed
  · simp [heq]
  · simp [heq]

theorem node?_insert (tree : Tree) (added : Path) (node : Node) (h : path ≠ []) :
    (tree.insert added node).node? path = if path = added then some node else tree.node? path := by
  rw [node?_of_ne_nil _ h]
  show (((added, node) :: (tree.filter (· != added)).nodes).find? _).map Prod.snd = _
  rw [List.find?_cons]
  by_cases heq : path = added
  · rw [if_pos heq, heq]
    simp
  · rw [if_neg heq, beq_false_of_ne (Ne.symm heq)]
    rw [← node?_of_ne_nil (tree.filter (· != added)) h]
    exact (node?_erase tree added h).trans (if_neg heq)

theorem node?_insert_self (tree : Tree) (node : Node) (h : path ≠ []) :
    (tree.insert path node).node? path = some node := by
  rw [node?_insert _ _ _ h, if_pos rfl]

theorem node?_insert_of_ne (tree : Tree) {added : Path} (node : Node) (h : path ≠ added) :
    (tree.insert added node).node? path = tree.node? path := by
  cases path with
  | nil => rfl
  | cons name rest => rw [node?_insert _ _ _ (List.cons_ne_nil _ _), if_neg h]

theorem node?_erase_of_ne (tree : Tree) {removed : Path} (h : path ≠ removed) :
    (tree.erase removed).node? path = tree.node? path := by
  cases path with
  | nil => rfl
  | cons name rest => rw [node?_erase _ _ (List.cons_ne_nil _ _), if_neg h]

theorem node?_filter_of_keep (tree : Tree) {keep : Path → Bool} (h : keep path = true) :
    (tree.filter keep).node? path = tree.node? path := by
  cases path with
  | nil => rfl
  | cons name rest => rw [node?_filter _ _ (List.cons_ne_nil _ _), if_pos h]

/-! ## Walking -/

/-- A name that leads to what it names: it neither stays nor goes up, and is not too long. -/
structure Plain (name : String) : Prop where
  moves : staysPut name = false
  notUp : name ≠ ".."
  short : name.utf8ByteSize ≤ maxName

theorem walkFrom_append (tree : Tree) (more : Path) : ∀ (path here : Path),
    tree.walkFrom here (path ++ more) =
      (tree.walkFrom here path).bind fun there => tree.walkFrom there more
  | [], _ => rfl
  | name :: rest, here => by
    rw [List.cons_append, walkFrom, walkFrom]
    split
    · rfl
    · rfl
    · split
      · exact walkFrom_append tree more rest here
      · split
        · exact walkFrom_append tree more rest here.dropLast
        · split
          · rfl
          · exact walkFrom_append tree more rest (here ++ [name])

/-- Every directory of one tree is one of another. -/
def Keeps (tree other : Tree) : Prop :=
  ∀ path, tree.node? path = some .directory → other.node? path = some .directory

/-- What is walked to is walked to still if directories stay directories. -/
theorem walkFrom_mono (h : Keeps tree other) : ∀ {path here : Path},
    tree.walkFrom here path = .ok place → other.walkFrom here path = .ok place
  | [], _, hwalk => hwalk
  | name :: rest, here, hwalk => by
    rw [walkFrom] at hwalk ⊢
    split at hwalk
    · cases hwalk
    · cases hwalk
    next hhere =>
      rw [h here hhere]
      dsimp only
      split at hwalk
      next hstays =>
        rw [if_pos hstays]
        exact walkFrom_mono h hwalk
      next hstays =>
        rw [if_neg hstays]
        split at hwalk
        next hup =>
          rw [if_pos hup]
          exact walkFrom_mono h hwalk
        next hup =>
          rw [if_neg hup]
          split at hwalk
          · cases hwalk
          next hlong =>
            rw [if_neg hlong]
            exact walkFrom_mono h hwalk

theorem walkFrom_plain (hhere : tree.node? here = some .directory) (hname : Plain name)
    (rest : Path) : tree.walkFrom here (name :: rest) = tree.walkFrom (here ++ [name]) rest := by
  rw [walkFrom, hhere]
  dsimp only
  rw [if_neg (by rw [hname.moves]; decide), if_neg hname.notUp,
    if_neg (Nat.not_lt.mpr hname.short)]

theorem walkFrom_missing (hhere : tree.node? here = none) (name : String) (rest : Path) :
    tree.walkFrom here (name :: rest) = .error .notFound := by
  rw [walkFrom, hhere]

/-! ## Finding -/

theorem find_of_walk (hwalk : tree.walk path = .ok place) :
    tree.find path =
      match tree.node? place with
      | some node => .ok (place, node)
      | none => .error .notFound := by
  rw [find, hwalk]
  rfl

theorem find_of_walk_error {error : Error} (hwalk : tree.walk path = .error error) :
    tree.find path = .error error := by
  rw [find, hwalk]
  rfl

/-- A directory is found where one is walked to. -/
theorem findDirectory_eq_ok_iff :
    tree.findDirectory path = .ok place ↔
      tree.walk path = .ok place ∧ tree.node? place = some .directory := by
  cases hwalk : tree.walk path with
  | error error =>
    rw [findDirectory, find_of_walk_error hwalk]
    exact ⟨fun heq => (by cases heq), fun heq => (by cases heq.1)⟩
  | ok there =>
    rw [findDirectory, find_of_walk hwalk]
    cases hnode : tree.node? there with
    | none =>
      refine ⟨fun heq => (by cases heq), fun ⟨heq, hplace⟩ => ?_⟩
      cases heq
      rw [hnode] at hplace
      cases hplace
    | some node =>
      cases node with
      | file bytes =>
        refine ⟨fun heq => (by cases heq), fun ⟨heq, hplace⟩ => ?_⟩
        cases heq
        rw [hnode] at hplace
        cases hplace
      | directory =>
        refine ⟨fun heq => ?_, fun ⟨heq, _⟩ => ?_⟩
        · cases heq
          exact ⟨rfl, hnode⟩
        · cases heq
          rfl

/-- What is found is found still if directories stay directories. -/
theorem findDirectory_mono (h : Keeps tree other) (hfound : tree.findDirectory path = .ok place) :
    other.findDirectory path = .ok place := by
  obtain ⟨hwalk, hplace⟩ := findDirectory_eq_ok_iff.mp hfound
  exact findDirectory_eq_ok_iff.mpr ⟨walkFrom_mono h hwalk, h place hplace⟩

theorem Plain.ne_empty (hname : Plain name) : name ≠ "" := by
  intro heq
  have := hname.moves
  rw [heq] at this
  cases this

/-- A path that goes on from a directory is walked from its place. -/
theorem walk_append (hroot : tree.findDirectory path = .ok place) (more : Path) :
    tree.walk (path ++ more) = tree.walkFrom place more := by
  rw [walk, walkFrom_append, show tree.walkFrom [] path = _ from
    (findDirectory_eq_ok_iff.mp hroot).1]
  rfl

theorem walk_child (hroot : tree.findDirectory path = .ok place) (hname : Plain name) :
    tree.walk (path ++ [name]) = .ok (place ++ [name]) := by
  rw [walk_append hroot, walkFrom_plain (findDirectory_eq_ok_iff.mp hroot).2 hname]
  rfl

/-- A directory within a directory is found where it stands. -/
theorem findDirectory_child (hroot : tree.findDirectory path = .ok place) (hname : Plain name)
    (hnode : tree.node? (place ++ [name]) = some .directory) :
    tree.findDirectory (path ++ [name]) = .ok (place ++ [name]) :=
  findDirectory_eq_ok_iff.mpr ⟨walk_child hroot hname, hnode⟩

theorem find_child (hroot : tree.findDirectory path = .ok place) (hname : Plain name) :
    tree.find (path ++ [name]) =
      match tree.node? (place ++ [name]) with
      | some node => .ok (place ++ [name], node)
      | none => .error .notFound :=
  find_of_walk (walk_child hroot hname)

theorem find_missing (hroot : tree.findDirectory path = .ok place) (hname : Plain name)
    (hnode : tree.node? (place ++ [name]) = none) (more : Path) :
    tree.find (path ++ name :: more) = .error .notFound := by
  have hwalk : tree.walk (path ++ name :: more) = tree.walkFrom (place ++ [name]) more := by
    rw [walk_append hroot, walkFrom_plain (findDirectory_eq_ok_iff.mp hroot).2 hname]
  cases more with
  | nil => rw [find_of_walk hwalk, hnode]
  | cons next rest => exact find_of_walk_error (hwalk.trans (walkFrom_missing hnode next rest))

/-! ## Files -/

theorem endsInSlash_append (path : Path) (h : name ≠ "") :
    endsInSlash (path ++ [name]) = false := by
  rw [endsInSlash, List.reverse_append, List.reverse_singleton, List.singleton_append]
  split
  next before heq => exact absurd (List.cons.inj heq).1 h
  next => rfl

/-- A file may be put under a plain name in a directory, unless a directory stands there. -/
theorem placeForFile_child (hroot : tree.findDirectory path = .ok place) (hname : Plain name)
    (hnode : tree.node? (place ++ [name]) ≠ some .directory) :
    tree.placeForFile (path ++ [name]) = .ok (place ++ [name]) := by
  rw [placeForFile, endsInSlash_append path hname.ne_empty, walk_child hroot hname]
  show (if tree.node? (place ++ [name]) = some .directory then _ else _) = _
  rw [if_neg hnode]
  rfl

theorem findFile_of_find {bytes : Bytes} (h : tree.find path = .ok (place, .file bytes)) :
    tree.findFile path = .ok (place, bytes) := by
  rw [findFile, h]
  rfl

theorem findFile_of_find_error {error : Error} (h : tree.find path = .error error) :
    tree.findFile path = .error error := by
  rw [findFile, h]
  rfl

theorem findDirectory_of_find_error {error : Error} (h : tree.find path = .error error) :
    tree.findDirectory path = .error error := by
  rw [findDirectory, h]
  rfl

/-! ## Creating directories -/

/-- Along directories that are there nothing is created. -/
theorem createFrom_of_walkFrom (hplace : tree.node? place = some .directory) (more : Path) :
    ∀ {path here : Path}, tree.walkFrom here path = .ok place →
      tree.createFrom here (path ++ more) = tree.createFrom place more
  | [], here, hwalk => by
    cases hwalk
    rfl
  | name :: rest, here, hwalk => by
    rw [walkFrom] at hwalk
    rw [List.cons_append, createFrom]
    split at hwalk
    · cases hwalk
    · cases hwalk
    · split at hwalk
      next hstays =>
        rw [if_pos hstays]
        exact createFrom_of_walkFrom hplace more hwalk
      next hstays =>
        rw [if_neg hstays]
        split at hwalk
        next hup =>
          rw [if_pos hup]
          exact createFrom_of_walkFrom hplace more hwalk
        next hup =>
          rw [if_neg hup]
          split at hwalk
          · cases hwalk
          next hlong =>
            -- what is walked through, or arrived at, is a directory
            have hnext : tree.node? (here ++ [name]) = some .directory := by
              cases rest with
              | nil =>
                cases hwalk
                exact hplace
              | cons next more' =>
                rw [walkFrom] at hwalk
                split at hwalk
                · cases hwalk
                · cases hwalk
                next hdirectory => exact hdirectory
            rw [if_neg hlong, hnext]
            exact createFrom_of_walkFrom hplace more hwalk

theorem createFrom_plain (hname : Plain name) (here rest : Path) :
    tree.createFrom here (name :: rest) =
      match tree.node? (here ++ [name]) with
      | some .directory => tree.createFrom (here ++ [name]) rest
      | some (.file _) => (.error (if rest.isEmpty then .exists_ else .notDirectory), tree)
      | none => (tree.insert (here ++ [name]) .directory).createFrom (here ++ [name]) rest := by
  have hmoves : ¬ staysPut name = true := by
    rw [hname.moves]
    decide
  rw [createFrom]
  exact (if_neg hmoves).trans ((if_neg hname.notUp).trans (if_neg (Nat.not_lt.mpr hname.short)))

/-- Nothing stands below a path. -/
def Bare (tree : Tree) (path : Path) : Prop := ∀ rest, rest ≠ [] → tree.node? (path ++ rest) = none

/-- Where names lead that may stay but do not go up. -/
def landing (names : Path) : Path := names.filter fun name => !staysPut name

theorem keeps_insert (tree : Tree) (path : Path) : Keeps tree (tree.insert path .directory) := by
  intro other hother
  cases other with
  | nil => rfl
  | cons name rest =>
    rw [node?_insert _ _ _ (List.cons_ne_nil _ _)]
    split
    · rfl
    · exact hother

/-- A file that is put where no directory stands takes none away. -/
theorem keeps_insert_file (bytes : Bytes) (hnone : tree.node? path ≠ some .directory) :
    Keeps tree (tree.insert path (.file bytes)) := by
  intro other hother
  have hne : other ≠ path := fun heq => hnone (heq ▸ hother)
  rw [node?_insert_of_ne _ _ hne, hother]

theorem bare_insert (hbare : Bare tree path) : Bare (tree.insert path .directory) path := by
  intro rest hrest
  have hne : path ++ rest ≠ path := fun heq => hrest (List.append_right_eq_self.mp heq)
  rw [node?_insert _ _ _ (List.append_ne_nil_of_right_ne_nil _ hrest), if_neg hne, hbare rest hrest]

/-- A name along which a directory may be created. -/
def Onward (name : String) : Prop := name ≠ ".." ∧ name.utf8ByteSize ≤ maxName

instance (name : String) : Decidable (Onward name) := inferInstanceAs (Decidable (_ ∧ _))

theorem landing_of_stays (hstays : staysPut name = true) (rest : Path) :
    landing (name :: rest) = landing rest :=
  List.filter_cons_of_neg (by simp [hstays])

theorem landing_of_moves (hmoves : staysPut name = false) (rest : Path) :
    landing (name :: rest) = name :: landing rest :=
  List.filter_cons_of_pos (by simp [hmoves])

/-- Names lead where they land if all on the way are directories. -/
theorem walkFrom_landing : ∀ {names here : Path}, (∀ name ∈ names, Onward name) →
    (∀ front, front <+: landing names → tree.node? (here ++ front) = some .directory) →
      tree.walkFrom here names = .ok (here ++ landing names)
  | [], here, _, _ => by
    rw [landing, List.filter_nil, List.append_nil]
    rfl
  | name :: rest, here, honward, hway => by
    have hrest := fun other hother => honward other (List.mem_cons_of_mem name hother)
    have hhere : tree.node? here = some .directory := by
      rw [← hway [] List.nil_prefix, List.append_nil]
    cases hstays : staysPut name with
    | true =>
      rw [landing_of_stays hstays] at hway ⊢
      rw [walkFrom, hhere]
      dsimp only
      rw [if_pos hstays]
      exact walkFrom_landing hrest hway
    | false =>
      obtain ⟨hup, hshort⟩ := honward name List.mem_cons_self
      rw [landing_of_moves hstays] at hway ⊢
      rw [walkFrom_plain hhere ⟨hstays, hup, hshort⟩, List.append_cons here name (landing rest)]
      refine walkFrom_landing hrest fun front hfront => ?_
      rw [List.append_assoc]
      exact hway (name :: front) (List.cons_prefix_cons.mpr ⟨rfl, hfront⟩)

/-- Below a bare directory all directories along some names are created. -/
theorem exists_createFrom : ∀ (names : Path) {tree : Tree} {here : Path},
    (∀ name ∈ names, Onward name) → tree.node? here = some .directory → Bare tree here →
      ∃ grown : Tree,
        (∀ more, tree.createFrom here (names ++ more) =
          grown.createFrom (here ++ landing names) more) ∧
        Keeps tree grown ∧ Bare grown (here ++ landing names) ∧
        ∀ front, front <+: landing names → grown.node? (here ++ front) = some .directory
  | [], tree, here, _, hhere, hbare => by
    refine ⟨tree, fun more => ?_, fun _ h => h, ?_, fun front hfront => ?_⟩
    · rw [landing, List.filter_nil, List.append_nil, List.nil_append]
    · rw [landing, List.filter_nil, List.append_nil]
      exact hbare
    · rw [List.prefix_nil.mp hfront, List.append_nil]
      exact hhere
  | name :: rest, tree, here, honward, hhere, hbare => by
    obtain ⟨hup, hshort⟩ := honward name List.mem_cons_self
    have hrest := fun other hother => honward other (List.mem_cons_of_mem name hother)
    cases hstays : staysPut name with
    | true =>
      obtain ⟨grown, hcreate, hgrown⟩ := exists_createFrom rest hrest hhere hbare
      rw [landing_of_stays hstays]
      refine ⟨grown, fun more => ?_, hgrown⟩
      rw [List.cons_append, createFrom, if_pos hstays, hcreate]
    | false =>
      have hplain : Plain name := ⟨hstays, hup, hshort⟩
      have hnone : tree.node? (here ++ [name]) = none := hbare [name] (List.cons_ne_nil _ _)
      have hmade : (tree.insert (here ++ [name]) .directory).node? (here ++ [name]) =
          some .directory := node?_insert_self _ _ (by simp)
      have hbelow : Bare tree (here ++ [name]) := fun more _ => by
        rw [List.append_assoc]
        exact hbare _ (List.cons_ne_nil _ _)
      obtain ⟨grown, hcreate, hkeeps, hbare', hway⟩ :=
        exists_createFrom rest hrest hmade (bare_insert hbelow)
      have hkeeps' : Keeps tree grown := fun path hpath =>
        hkeeps path (keeps_insert tree _ path hpath)
      rw [landing_of_moves hstays, List.append_cons]
      refine ⟨grown, fun more => ?_, hkeeps', hbare', fun front hfront => ?_⟩
      · rw [List.cons_append, createFrom_plain hplain, hnone, hcreate]
      · rcases List.prefix_cons_iff.mp hfront with rfl | ⟨front', rfl, hfront'⟩
        · rw [List.append_nil]
          exact hkeeps' here hhere
        · rw [List.append_cons]
          exact hway front' hfront'

/-! ## Listing -/

theorem append_singleton_of_getLast? {path : Path} (hlast : path.getLast? = some name)
    (hfront : path.dropLast = place) : path = place ++ [name] := by
  obtain ⟨front, rfl⟩ := List.getLast?_eq_some_iff.mp hlast
  rw [← hfront, List.dropLast_concat]

/-- The entry as which a node is listed, if it stands in a directory. -/
def listed? (place : Path) (entry : Path × Node) : Option Listed :=
  match entry.1.getLast? with
  | some name => if entry.1.dropLast = place then some ⟨name, entry.2 = .directory⟩ else none
  | none => none

theorem path_of_listed? {entry : Path × Node} {listed : Listed}
    (h : listed? place entry = some listed) :
    entry.1 = place ++ [listed.name] ∧ listed.isDirectory = decide (entry.2 = .directory) := by
  rw [listed?] at h
  split at h
  next name hlast =>
    split at h
    next hfront =>
      cases h
      exact ⟨append_singleton_of_getLast? hlast hfront, rfl⟩
    · cases h
  · cases h

/-- A directory lists what stands in it. -/
theorem mem_children_iff (tree : Tree) (place : Path) (listed : Listed) :
    listed ∈ tree.children place ↔ ∃ node, tree.node? (place ++ [listed.name]) = some node ∧
      listed.isDirectory = decide (node = .directory) := by
  have hne : place ++ [listed.name] ≠ [] := by simp
  show listed ∈ tree.nodes.filterMap (listed? place) ↔ _
  rw [List.mem_filterMap]
  constructor
  · rintro ⟨⟨path, node⟩, hmem, hlisted⟩
    obtain ⟨rfl, hdirectory⟩ := path_of_listed? hlisted
    exact ⟨node, (mem_nodes_iff tree hne).mp hmem, hdirectory⟩
  · rintro ⟨node, hnode, hdirectory⟩
    refine ⟨(place ++ [listed.name], node), (mem_nodes_iff tree hne).mpr hnode, ?_⟩
    rw [listed?, List.getLast?_concat, List.dropLast_concat]
    dsimp only
    rw [if_pos rfl, ← hdirectory]

/-- No name is listed twice. -/
theorem children_pairwise (tree : Tree) (place : Path) :
    (tree.children place).Pairwise fun left right => left.name ≠ right.name := by
  have hunique : tree.nodes.Pairwise fun left right => left.1 ≠ right.1 :=
    List.pairwise_map.mp tree.unique
  refine List.Pairwise.filterMap (listed? place) ?_ hunique
  intro left right hne first hfirst second hsecond hname
  refine hne ?_
  rw [(path_of_listed? hfirst).1, (path_of_listed? hsecond).1, hname]

/-! ## Answers -/

/-- A file that is taken away is no directory. -/
theorem keeps_erase (hnone : tree.node? path ≠ some .directory) : Keeps tree (tree.erase path) := by
  intro other hother
  have hne : other ≠ path := fun heq => hnone (heq ▸ hother)
  rw [node?_erase_of_ne _ hne, hother]

/-- A place for a file is where the path leads, and no directory is there. -/
theorem walk_of_placeForFile (h : tree.placeForFile path = .ok place) :
    tree.walk path = .ok place ∧ tree.node? place ≠ some .directory := by
  rw [placeForFile] at h
  split at h
  next =>
    cases hfound : tree.findDirectory (dropSlashes path).dropLast with
    | error error =>
      rw [hfound] at h
      cases h
    | ok above =>
      rw [hfound] at h
      cases h
  next =>
    cases hwalk : tree.walk path with
    | error error =>
      rw [hwalk] at h
      cases h
    | ok there =>
      rw [hwalk] at h
      change (if tree.node? there = some .directory then _ else _) = _ at h
      split at h
      next => cases h
      next hnode =>
        cases h
        exact ⟨rfl, hnode⟩

/-- A file that was written is found with what was written. -/
theorem findFile_written (h : tree.placeForFile path = .ok place) (bytes : Bytes) :
    (tree.insert place (.file bytes)).findFile path = .ok (place, bytes) := by
  obtain ⟨hwalk, hnode⟩ := walk_of_placeForFile h
  have hplace : place ≠ [] := by
    rintro rfl
    exact hnode rfl
  have hkept : (tree.insert place (.file bytes)).walk path = .ok place :=
    walkFrom_mono (keeps_insert_file bytes hnode) hwalk
  apply findFile_of_find
  rw [find_of_walk hkept, node?_insert_self _ _ hplace]

theorem answer_write (hplace : tree.placeForFile path = .ok place) (bytes : Bytes) :
    answer (.write path bytes) tree = (.ok (), tree.insert place (.file bytes)) := by
  rw [answer, hplace]
  rfl

theorem answer_rename {source : Path} {old : Path} {bytes : Bytes}
    (hsource : tree.findFile source = .ok (old, bytes))
    (htarget : tree.placeForFile path = .ok place) :
    answer (.rename source path) tree = (.ok (), (tree.erase old).insert place (.file bytes)) := by
  rw [answer, hsource]
  show tree.settle (tree.placeForFile path >>= _) = _
  rw [htarget]
  rfl

end AssetCache.Disk.Tree
