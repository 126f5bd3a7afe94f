import AssetCache.Proofs.Disk.Tree

/-!
# Where paths lead, whatever the disk

There are no links on a disk, so the places that a path passes, and the one where it ends, are
known from its names alone (`route`, `goal`). A disk decides only how far along its route a path
can be walked. Two disks with the same nodes on the route are walked alike (`walkFrom_congr`), and
what is created on the way to a path is created on its route (`node?_createFrom`).

For a name in a directory that is found, all there is to know is whether the name is too long and
what stands under it: a file is put there unless there is an obstacle (`obstacle?`).
-/

set_option autoImplicit false

namespace AssetCache.Disk.Tree

variable {tree other : Tree} {path here place more there : Path} {node : Node} {name : String}

/-! ## Routes -/

/-- Where a name leads from a place. -/
def move (here : Path) (name : String) : Path :=
  if staysPut name then here else if name = ".." then here.dropLast else here ++ [name]

/-- The places on the way along some names, both ends among them. -/
def route : Path → Path → List Path
  | here, [] => [here]
  | here, name :: rest => here :: route (move here name) rest

/-- Where some names lead. -/
def goal (here path : Path) : Path := path.foldl move here

theorem move_of_stays (h : staysPut name = true) (here : Path) : move here name = here := if_pos h

theorem move_up (here : Path) : move here ".." = here.dropLast := rfl

theorem move_of_moves (h : staysPut name = false) (hup : name ≠ "..") (here : Path) :
    move here name = here ++ [name] := by
  rw [move, if_neg (by rw [h]; decide), if_neg hup]

theorem here_mem_route (here path : Path) : here ∈ route here path := by
  cases path with
  | nil => exact List.mem_singleton_self here
  | cons name rest => exact List.mem_cons_self

theorem goal_append (here path more : Path) : goal here (path ++ more) = goal (goal here path) more :=
  List.foldl_append

theorem mem_route_append : ∀ (path here : Path), there ∈ route here (path ++ more) ↔
    there ∈ route here path ∨ there ∈ route (goal here path) more
  | [], here => by
    rw [List.nil_append, route, List.mem_singleton]
    refine ⟨.inr, fun h => ?_⟩
    rcases h with rfl | h
    · exact here_mem_route _ _
    · exact h
  | name :: rest, here => by
    rw [List.cons_append, route, route, List.mem_cons, List.mem_cons,
      mem_route_append rest, or_assoc]
    rfl

theorem mem_route_singleton : there ∈ route here [name] ↔ there = here ∨ there = move here name := by
  rw [route, route, List.mem_cons, List.mem_singleton]

theorem goal_mem_route : ∀ path here : Path, goal here path ∈ route here path
  | [], here => List.mem_singleton_self here
  | name :: rest, here => List.mem_cons_of_mem here (goal_mem_route rest (move here name))

/-! ## Walking -/

/-- A name that is walked by but is too long for that. -/
def TooLong (name : String) : Prop :=
  staysPut name = false ∧ name ≠ ".." ∧ maxName < name.utf8ByteSize

instance (name : String) : Decidable (TooLong name) := inferInstanceAs (Decidable (_ ∧ _))

/-- One step of a walk. -/
theorem walkFrom_cons (tree : Tree) (here : Path) (name : String) (rest : Path) :
    tree.walkFrom here (name :: rest) =
      match tree.node? here with
      | none => .error .notFound
      | some (.file _) => .error .notDirectory
      | some .directory =>
        if TooLong name then .error .nameTooLong else tree.walkFrom (move here name) rest := by
  rw [walkFrom]
  cases tree.node? here with
  | none => rfl
  | some node =>
    cases node with
    | file bytes => rfl
    | directory =>
      dsimp only
      by_cases hstays : staysPut name = true
      · have hfits : ¬ TooLong name := fun h => by
          rw [h.1] at hstays
          cases hstays
        rw [if_pos hstays, if_neg hfits, move_of_stays hstays]
      · have hmoves : staysPut name = false := Bool.eq_false_iff.mpr hstays
        rw [if_neg hstays]
        by_cases hup : name = ".."
        · subst hup
          rw [if_pos rfl, if_neg fun h => h.2.1 rfl, move_up]
        · rw [if_neg hup, move_of_moves hmoves hup]
          by_cases hlong : maxName < name.utf8ByteSize
          · rw [if_pos hlong, if_pos ⟨hmoves, hup, hlong⟩]
          · rw [if_neg hlong, if_neg fun h => hlong h.2.2]

/-- What is walked to is where the names lead. -/
theorem eq_goal_of_walkFrom : ∀ {path here : Path},
    tree.walkFrom here path = .ok place → place = goal here path
  | [], _, h => (Except.ok.inj h).symm
  | name :: rest, here, h => by
    rw [walkFrom_cons] at h
    split at h
    · cases h
    · cases h
    · split at h
      · cases h
      · have hrest := eq_goal_of_walkFrom h
        exact hrest

/-- All that is passed on a walk is a directory. -/
theorem directory_of_mem_route : ∀ {path here : Path}, tree.walkFrom here path = .ok place →
    there ∈ route here path → there = place ∨ tree.node? there = some .directory
  | [], _, h, hthere => by
    cases h
    exact .inl (List.mem_singleton.mp hthere)
  | name :: rest, here, h, hthere => by
    rw [walkFrom_cons] at h
    split at h
    · cases h
    · cases h
    next hhere =>
      split at h
      · cases h
      · rcases List.mem_cons.mp hthere with rfl | hthere
        · exact .inr hhere
        · exact directory_of_mem_route h hthere

theorem walkFrom_congr : ∀ {path here : Path},
    (∀ there ∈ route here path, other.node? there = tree.node? there) →
      other.walkFrom here path = tree.walkFrom here path
  | [], _, _ => rfl
  | name :: rest, here, h => by
    rw [walkFrom_cons, walkFrom_cons, h here List.mem_cons_self,
      walkFrom_congr fun there hthere => h there (List.mem_cons_of_mem here hthere)]

theorem find_congr (h : ∀ there ∈ route [] path, other.node? there = tree.node? there) :
    other.find path = tree.find path := by
  have hwalk : other.walk path = tree.walk path := walkFrom_congr h
  cases hplace : tree.walk path with
  | error error => rw [find_of_walk_error hplace, find_of_walk_error (hwalk.trans hplace)]
  | ok place =>
    have hsame : other.node? place = tree.node? place := by
      rw [eq_goal_of_walkFrom hplace]
      exact h _ (goal_mem_route path [])
    rw [find_of_walk hplace, find_of_walk (hwalk.trans hplace), hsame]

theorem findFile_congr (h : ∀ there ∈ route [] path, other.node? there = tree.node? there) :
    other.findFile path = tree.findFile path := by
  rw [findFile, findFile, find_congr h]

theorem findDirectory_congr (h : ∀ there ∈ route [] path, other.node? there = tree.node? there) :
    other.findDirectory path = tree.findDirectory path := by
  rw [findDirectory, findDirectory, find_congr h]

/-- A file is found where its path ends. -/
theorem of_findFile {bytes : Bytes} (h : tree.findFile path = .ok (place, bytes)) :
    tree.walk path = .ok place ∧ tree.node? place = some (.file bytes) := by
  cases hwalk : tree.walk path with
  | error error =>
    rw [findFile_of_find_error (find_of_walk_error hwalk)] at h
    cases h
  | ok there =>
    have hfind := find_of_walk hwalk
    cases hnode : tree.node? there with
    | none =>
      rw [hnode] at hfind
      rw [findFile_of_find_error hfind] at h
      cases h
    | some node =>
      rw [hnode] at hfind
      cases node with
      | directory =>
        rw [findFile, hfind] at h
        cases h
      | file bytes' =>
        rw [findFile_of_find hfind] at h
        cases h
        exact ⟨rfl, hnode⟩

/-! ## Creating -/

/-- Directories are created on the route alone, and nothing else is changed. -/
theorem node?_createFrom (there : Path) : ∀ (path here : Path) (tree : Tree),
    (tree.createFrom here path).2.node? there = tree.node? there ∨
      there ∈ route here path ∧ tree.node? there = none ∧
        (tree.createFrom here path).2.node? there = some .directory
  | [], _, _ => .inl rfl
  | name :: rest, here, tree => by
    have hnext : ∀ (tree' : Tree), tree'.node? there = tree.node? there →
        (tree'.createFrom (move here name) rest).2.node? there = tree.node? there ∨
          there ∈ route here (name :: rest) ∧ tree.node? there = none ∧
            (tree'.createFrom (move here name) rest).2.node? there = some .directory := by
      intro tree' hsame
      rcases node?_createFrom there rest (move here name) tree' with h | ⟨hroute, hnone, h⟩
      · exact .inl (h.trans hsame)
      · exact .inr ⟨List.mem_cons_of_mem here hroute, hsame ▸ hnone, h⟩
    rw [createFrom]
    unfold move at hnext
    split
    next hstays =>
      rw [if_pos hstays] at hnext
      exact hnext tree rfl
    next hstays =>
      rw [if_neg hstays] at hnext
      split
      next hup =>
        rw [if_pos hup] at hnext
        exact hnext tree rfl
      next hup =>
        rw [if_neg hup] at hnext
        split
        · exact .inl rfl
        · split
          · exact hnext tree rfl
          · exact .inl rfl
          next hnone =>
            by_cases hthere : there = here ++ [name]
            · -- what is created here stays
              have hmade : (tree.insert (here ++ [name]) .directory).node? there =
                  some .directory := by
                rw [hthere]
                exact node?_insert_self _ _ (by simp)
              have hroute : there ∈ route here (name :: rest) := by
                rw [route, move, if_neg hstays, if_neg hup, ← hthere]
                exact List.mem_cons_of_mem here (here_mem_route _ _)
              refine .inr ⟨hroute, hthere ▸ hnone, ?_⟩
              rcases node?_createFrom there rest (here ++ [name])
                (tree.insert (here ++ [name]) .directory) with h | ⟨_, _, h⟩
              · exact h.trans hmade
              · exact h
            · exact hnext _ (node?_insert_of_ne tree _ hthere)

/-! ## Names in a directory -/

/-- Why no file can be put under a name in a directory. -/
def obstacle? (tree : Tree) (here : Path) (name : String) : Option Error :=
  if maxName < name.utf8ByteSize then some .nameTooLong
  else if tree.node? (here ++ [name]) = some .directory then some .isDirectory
  else none

theorem obstacle?_congr (h : other.node? (here ++ [name]) = tree.node? (here ++ [name])) :
    obstacle? other here name = obstacle? tree here name := by
  unfold obstacle?
  rw [h]

theorem obstacle?_eq_none_iff : obstacle? tree here name = none ↔
    name.utf8ByteSize ≤ maxName ∧ tree.node? (here ++ [name]) ≠ some .directory := by
  unfold obstacle?
  split
  next hlong => exact ⟨fun h => (by cases h), fun h => absurd h.1 (Nat.not_le.mpr hlong)⟩
  next hshort =>
    split
    next hnode => exact ⟨fun h => (by cases h), fun h => absurd hnode h.2⟩
    next hnode => exact ⟨fun _ => ⟨Nat.not_lt.mp hshort, hnode⟩, fun _ => rfl⟩

section Names

variable (hfound : tree.findDirectory path = .ok here)
  (hname : staysPut name = false ∧ name ≠ "..")

include hfound hname

theorem walk_name : tree.walk (path ++ [name]) =
    if maxName < name.utf8ByteSize then .error .nameTooLong else .ok (here ++ [name]) := by
  rw [walk_append hfound, walkFrom_cons, (findDirectory_eq_ok_iff.mp hfound).2,
    move_of_moves hname.1 hname.2]
  dsimp only
  by_cases hlong : maxName < name.utf8ByteSize
  · rw [if_pos hlong, if_pos ⟨hname.1, hname.2, hlong⟩]
  · rw [if_neg hlong, if_neg fun h => hlong h.2.2]
    rfl

theorem findFile_name : tree.findFile (path ++ [name]) =
    if maxName < name.utf8ByteSize then .error .nameTooLong
    else match tree.node? (here ++ [name]) with
      | some (.file bytes) => .ok (here ++ [name], bytes)
      | some .directory => .error .isDirectory
      | none => .error .notFound := by
  have hwalk := walk_name hfound hname
  split
  next hlong =>
    rw [if_pos hlong] at hwalk
    exact findFile_of_find_error (find_of_walk_error hwalk)
  next hshort =>
    rw [if_neg hshort] at hwalk
    rw [findFile, find_of_walk hwalk]
    cases tree.node? (here ++ [name]) with
    | none => rfl
    | some node => cases node <;> rfl

theorem placeForFile_name : tree.placeForFile (path ++ [name]) =
    match obstacle? tree here name with
    | some error => .error error
    | none => .ok (here ++ [name]) := by
  have hempty : name ≠ "" := by
    rintro rfl
    cases hname.1
  have hwalk := walk_name hfound hname
  unfold obstacle?
  rw [placeForFile, endsInSlash_append path hempty]
  by_cases hlong : maxName < name.utf8ByteSize
  · rw [if_pos hlong] at hwalk ⊢
    rw [hwalk]
    rfl
  · rw [if_neg hlong] at hwalk ⊢
    rw [hwalk]
    show (if tree.node? (here ++ [name]) = some .directory then _ else _) = _
    by_cases hnode : tree.node? (here ++ [name]) = some .directory
    · rw [if_pos hnode, if_pos hnode]
      rfl
    · rw [if_neg hnode, if_neg hnode]
      rfl

theorem answer_write_name (bytes : Bytes) : answer (.write (path ++ [name]) bytes) tree =
    match obstacle? tree here name with
    | some error => (.error error, tree)
    | none => (.ok (), tree.insert (here ++ [name]) (.file bytes)) := by
  rw [answer, placeForFile_name hfound hname]
  cases obstacle? tree here name <;> rfl

theorem answer_rename_name {source : Path} {bytes : Bytes}
    (hsource : tree.findFile source = .ok (there, bytes)) :
    answer (.rename source (path ++ [name])) tree =
      match obstacle? tree here name with
      | some error => (.error error, tree)
      | none => (.ok (), (tree.erase there).insert (here ++ [name]) (.file bytes)) := by
  rw [answer, hsource]
  show tree.settle (tree.placeForFile (path ++ [name]) >>= _) = _
  rw [placeForFile_name hfound hname]
  cases obstacle? tree here name <;> rfl

end Names

/-- Where a file is found under a name, its directory is found. -/
theorem findDirectory_of_findFile {bytes : Bytes} (hname : staysPut name = false ∧ name ≠ "..")
    (h : tree.findFile (path ++ [name]) = .ok (place, bytes)) :
    ∃ here, tree.findDirectory path = .ok here ∧ place = here ++ [name] := by
  obtain ⟨hwalk, _⟩ := of_findFile h
  rw [walk, walkFrom_append] at hwalk
  cases hhere : tree.walkFrom [] path with
  | error error =>
    rw [hhere] at hwalk
    cases hwalk
  | ok here =>
    rw [hhere] at hwalk
    change tree.walkFrom here [name] = .ok place at hwalk
    rw [walkFrom_cons, move_of_moves hname.1 hname.2] at hwalk
    split at hwalk
    · cases hwalk
    · cases hwalk
    next hnode =>
      split at hwalk
      · cases hwalk
      · cases hwalk
        exact ⟨here, findDirectory_eq_ok_iff.mpr ⟨hhere, hnode⟩, rfl⟩

end AssetCache.Disk.Tree
