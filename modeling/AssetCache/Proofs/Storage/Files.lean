import AssetCache.Proofs.Program
import AssetCache.Proofs.Storage.Simulation

/-!
# A storage on a disk refines the storage in memory

Storages that are opened one after another in a directory, by whichever paths, answer
all calls as one storage in memory does (`refines_memory`). At first the directory is
empty or missing (`Untouched`).

The induction is over the calls, and `Related` carries it: either nothing was created
yet, or the directory holds what is in memory.
-/

set_option autoImplicit false

namespace AssetCache.Storage.Files

open Disk (Path Tree)
open Disk.Tree (Plain Bare Keeps landing)

/-! ## Directories in which nothing was stored -/

/-- A path leads to a place where nothing is: an empty directory, or one that is yet to be
created below a directory that is there. -/
inductive Untouched (tree : Tree) : Path → Path → Prop
  | empty {root place : Path} :
      tree.findDirectory root = .ok place → Bare tree place → Untouched tree root place
  | missing {base above names : Path} {name : String} :
      tree.findDirectory base = .ok above → Plain name →
        (∀ rest, tree.node? (above ++ name :: rest) = none) →
          (∀ other ∈ names, Tree.Onward other) →
            Untouched tree (base ++ name :: names) (above ++ name :: landing names)

section Untouched

variable {fresh : Tree} {root place : Path}

/-- No directory stands below one that is missing. -/
theorem not_below_missing {above other more : Path} {name first : String}
    (hnode : fresh.node? other = some .directory)
    (hnone : ∀ more, fresh.node? (above ++ name :: more) = none) (hfirst : first = name) :
    other ≠ above ++ first :: more := by
  rintro rfl
  rw [hfirst, hnone more] at hnode
  cases hnode

/-- Two ways to write where the first missing directory is are one. -/
theorem eq_of_missing {above above' rest rest' : Path} {name name' : String}
    (hnode : fresh.node? above = some .directory) (hnode' : fresh.node? above' = some .directory)
    (hnone : ∀ more, fresh.node? (above ++ name :: more) = none)
    (hnone' : ∀ more, fresh.node? (above' ++ name' :: more) = none)
    (h : above ++ name :: rest = above' ++ name' :: rest') :
    above = above' ∧ name = name' ∧ rest = rest' := by
  rcases List.append_eq_append_iff.mp h with ⟨more, habove, hrest⟩ | ⟨more, habove, hrest⟩
  · cases more with
    | nil =>
      rw [List.append_nil] at habove
      exact ⟨habove.symm, List.cons.inj hrest⟩
    | cons first more =>
      exact absurd habove (not_below_missing hnode' hnone (List.cons.inj hrest).1.symm)
  · cases more with
    | nil =>
      rw [List.append_nil] at habove
      exact ⟨habove, (List.cons.inj hrest).1.symm, (List.cons.inj hrest).2.symm⟩
    | cons first more =>
      exact absurd habove (not_below_missing hnode hnone' (List.cons.inj hrest).1.symm)

/-- The directory of a storage that is created with its first region. -/
theorem exists_grown {base above names : Path} {name : String}
    (hbase : fresh.findDirectory base = .ok above) (hname : Plain name)
    (hnone : ∀ rest, fresh.node? (above ++ name :: rest) = none)
    (honward : ∀ other ∈ names, Tree.Onward other) :
    ∃ grown : Tree,
      (∀ more, fresh.createFrom [] (base ++ name :: names ++ more) =
        grown.createFrom (above ++ name :: landing names) more) ∧
      ∀ root, Untouched fresh root (above ++ name :: landing names) →
        Standing grown root (above ++ name :: landing names) .empty grown := by
  obtain ⟨hwalk, habove⟩ := Tree.findDirectory_eq_ok_iff.mp hbase
  have hmade : (fresh.insert (above ++ [name]) .directory).node? (above ++ [name]) =
      some .directory := Tree.node?_insert_self _ _ (by simp)
  have hbelow : Bare fresh (above ++ [name]) := fun more _ => by
    rw [List.append_assoc]
    exact hnone more
  obtain ⟨grown, hcreate, hkeeps, hbare, hway⟩ :=
    Tree.exists_createFrom names honward hmade (Tree.bare_insert hbelow)
  have hkeeps' : Keeps fresh grown := fun path hpath =>
    hkeeps path (Tree.keeps_insert fresh _ path hpath)
  have hplace : above ++ name :: landing names = above ++ [name] ++ landing names :=
    List.append_cons _ _ _
  refine ⟨grown, fun more => ?_, fun root hroot => ?_⟩
  · rw [List.append_assoc, Tree.createFrom_of_walkFrom habove _ hwalk, List.cons_append,
      Tree.createFrom_plain hname, hnone [], hcreate, hplace]
  · generalize hend : above ++ name :: landing names = place at hroot
    cases hroot with
    | empty hfound _ =>
      have hdirectory := (Tree.findDirectory_eq_ok_iff.mp hfound).2
      rw [← hend, hnone] at hdirectory
      cases hdirectory
    | @missing base' above' names' name' hbase' _ hnone' honward' =>
      obtain ⟨rfl, rfl, hlanding⟩ := eq_of_missing habove
        (Tree.findDirectory_eq_ok_iff.mp hbase').2 hnone hnone' hend
      rw [← hlanding, hplace]
      refine Standing.empty (Tree.findDirectory_eq_ok_iff.mpr ⟨?_, ?_⟩) hbare
      · rw [Tree.walk_append (Tree.findDirectory_mono hkeeps' hbase'),
          Tree.walkFrom_plain (hkeeps' above habove) hname, hlanding]
        refine Tree.walkFrom_landing honward' fun front hfront => ?_
        rw [← hlanding] at hfront
        exact hway front hfront
      · exact hway _ (List.prefix_refl _)

/-- A storage whose directory is missing answers as an empty one, and creates nothing but regions. -/
theorem answer_missing {base above names : Path} {name : String}
    (hbase : fresh.findDirectory base = .ok above) (hname : Plain name)
    (hnone : ∀ rest, fresh.node? (above ++ name :: rest) = none) {call : Call}
    (hcreate : ∀ region, call ≠ .create region) :
    answer (base ++ name :: names) call fresh = ((Memory.answer call .empty).1, fresh) ∧
      (Memory.answer call .empty).2 = .empty := by
  have hmissing : ∀ more, fresh.find (base ++ name :: names ++ more) = .error .notFound := by
    intro more
    rw [List.append_assoc]
    exact Tree.find_missing hbase hname (hnone []) (names ++ more)
  cases hcall : call.region? with
  | none =>
    cases call with
    | regions =>
      have hlist : perform (diskOr (.list (base ++ name :: names)) (pure [])) fresh =
          (.ok [], fresh) := by
        have hroot := hmissing []
        rw [List.append_nil] at hroot
        rw [perform_list, Tree.findDirectory_of_find_error hroot]
      refine ⟨(perform_bind _ hlist).trans ?_, rfl⟩
      rw [List.filterMap_nil, Listing.ascending_nil]
      rfl
    | _ => cases hcall
  | some region =>
    refine answer_absent hcall (hcreate region) (fun more => ?_) rfl
    rw [regionPath, List.append_assoc]
    exact hmissing _

end Untouched

/-! ## Runs -/

/-- While calls are made the directory holds what is in memory, once it is there at all. -/
inductive Related (fresh : Tree) (place : Path) : Memory → Tree → Prop
  | untouched : Related fresh place .empty fresh
  | standing {before tree : Tree} {memory : Memory} :
      (∀ root, Untouched fresh root place → Standing before root place memory tree) →
        Related fresh place memory tree

section Runs

variable {fresh tree : Tree} {root place : Path} {memory : Memory}

theorem related_of_standing {before : Tree} {call : Call} (hlegal : Legal call)
    (hroot : Untouched fresh root place)
    (h : ∀ root, Untouched fresh root place → Standing before root place memory tree) :
    (answer root call tree).1 = (Memory.answer call memory).1 ∧
      Related fresh place (Memory.answer call memory).2 (answer root call tree).2 := by
  obtain ⟨hreply, hafter⟩ := (h root hroot).follows hlegal
  exact ⟨hreply, .standing fun root' hroot' => hafter.reopened (h root' hroot').rooted⟩

theorem answer_related (hroot : Untouched fresh root place) {call : Call} (hlegal : Legal call)
    (h : Related fresh place memory tree) :
    (answer root call tree).1 = (Memory.answer call memory).1 ∧
      Related fresh place (Memory.answer call memory).2 (answer root call tree).2 := by
  cases h with
  | standing h => exact related_of_standing hlegal hroot h
  | untouched =>
    have hany := hroot
    cases hroot with
    | empty hfound hbare =>
      have hstanding := Standing.empty hfound hbare
      refine related_of_standing hlegal hany fun root' hroot' => hstanding.reopened ?_
      cases hroot' with
      | empty hfound' _ => exact hfound'
      | missing _ _ hnone _ =>
        have hdirectory := (Tree.findDirectory_eq_ok_iff.mp hfound).2
        rw [hnone] at hdirectory
        cases hdirectory
    | @missing base above names name hbase hname hnone honward =>
      by_cases hcreate : ∃ region, call = .create region
      · obtain ⟨region, rfl⟩ := hcreate
        obtain ⟨grown, hgrown, hstanding⟩ := exists_grown hbase hname hnone honward
        obtain ⟨hwalk, hplace⟩ := Tree.findDirectory_eq_ok_iff.mp (hstanding _ hany).rooted
        -- the call goes on from where the directory has been created
        have hcreated : fresh.createFrom [] (regionPath (base ++ name :: names) region) =
            grown.createFrom [] (regionPath (base ++ name :: names) region) :=
          (hgrown _).trans (Tree.createFrom_of_walkFrom hplace _ hwalk).symm
        have hsame : answer (base ++ name :: names) (.create region) fresh =
            answer (base ++ name :: names) (.create region) grown :=
          congrArg (fun reached => (reached.1.mapError StorageError.disk, reached.2)) hcreated
        rw [hsame]
        exact related_of_standing hlegal hany hstanding
      · obtain ⟨hanswer, hmemory⟩ :=
          answer_missing hbase hname hnone fun region heq => hcreate ⟨region, heq⟩
        rw [hanswer, hmemory]
        exact ⟨rfl, .untouched⟩

/-- A program of calls yields on the disk what it yields in memory. -/
theorem run_related {α : Type} (hroot : Untouched fresh root place)
    {program : Program Storage.signature α} (honly : program.Only Legal)
    (h : Related fresh place memory tree) :
    (program.run (answer root) tree).1 = (program.run Memory.answer memory).1 ∧
      Related fresh place (program.run Memory.answer memory).2
        (program.run (answer root) tree).2 := by
  induction honly generalizing memory tree with
  | done value => exact ⟨rfl, h⟩
  | @call request next hlegal _ ih =>
    obtain ⟨hreply, hafter⟩ := answer_related hroot hlegal h
    have hmemory : (Program.call request next).run Memory.answer memory =
        (next (answer root request tree).1).run Memory.answer (Memory.answer request memory).2 := by
      rw [hreply]
      rfl
    rw [hmemory]
    exact ih _ hafter

end Runs

/-! ## Sessions -/

/-- Make calls one after another, and note what each is answered. -/
def inTurn : List Call → Program Storage.signature (List ((call : Call) × Reply call))
  | [] => .done []
  | call :: rest => .call call fun reply =>
    (inTurn rest).bind fun replies => .done (⟨call, reply⟩ :: replies)

/-- A storage that is opened in a directory, and the calls that are made on it. -/
structure Session where
  root : Path
  calls : List Call

/-- What calls are answered in sessions on one disk, each begun where the last has left it. -/
def replies : List Session → Tree → List ((call : Call) × Reply call)
  | [], _ => []
  | session :: rest, tree =>
    ((inTurn session.calls).run (answer session.root) tree).1 ++
      replies rest ((inTurn session.calls).run (answer session.root) tree).2

theorem only_inTurn : ∀ {calls : List Call}, (∀ call ∈ calls, Legal call) →
    (inTurn calls).Only Legal
  | [], _ => .done _
  | call :: _, hlegal =>
    .call (hlegal call List.mem_cons_self) fun _ =>
      (only_inTurn fun other hother => hlegal other (List.mem_cons_of_mem call hother)).bind
        fun _ => .done _

theorem run_inTurn_cons {σ : Type} (ask : (call : Call) → σ → Reply call × σ) (call : Call)
    (rest : List Call) (s : σ) :
    (inTurn (call :: rest)).run ask s =
      (⟨call, (ask call s).1⟩ :: ((inTurn rest).run ask (ask call s).2).1,
        ((inTurn rest).run ask (ask call s).2).2) :=
  Program.run_bind ask _ (inTurn rest) (ask call s).2

/-- To make some calls and then others is to make them all. -/
theorem run_inTurn_append {σ : Type} (ask : (call : Call) → σ → Reply call × σ)
    (later : List Call) : ∀ (calls : List Call) (s : σ),
      (inTurn (calls ++ later)).run ask s =
        (((inTurn calls).run ask s).1 ++
            ((inTurn later).run ask ((inTurn calls).run ask s).2).1,
          ((inTurn later).run ask ((inTurn calls).run ask s).2).2)
  | [], _ => rfl
  | call :: rest, s => by
    rw [List.cons_append, run_inTurn_cons, run_inTurn_append ask later rest, run_inTurn_cons]
    rfl

theorem replies_related {fresh : Tree} {place : Path} : ∀ {sessions : List Session}
    {memory : Memory} {tree : Tree},
      (∀ session ∈ sessions, Untouched fresh session.root place) →
        (∀ session ∈ sessions, ∀ call ∈ session.calls, Legal call) →
          Related fresh place memory tree →
            replies sessions tree =
              ((inTurn (sessions.flatMap Session.calls)).run Memory.answer memory).1
  | [], _, _, _, _, _ => rfl
  | session :: rest, memory, tree, hroots, hlegal, h => by
    obtain ⟨hreplies, hafter⟩ := run_related (hroots session List.mem_cons_self)
      (only_inTurn (hlegal session List.mem_cons_self)) h
    have hrest := replies_related
      (fun other hother => hroots other (List.mem_cons_of_mem session hother))
      (fun other hother => hlegal other (List.mem_cons_of_mem session hother)) hafter
    rw [replies, List.flatMap_cons, run_inTurn_append, hreplies, hrest]

/-- Storages that are opened one after another in a directory in which nothing was stored answer
every call as one storage in memory does that gets all the calls, by whichever paths they lead
to the directory. -/
theorem refines_memory (fresh : Tree) (place : Path) (sessions : List Session)
    (hroots : ∀ session ∈ sessions, Untouched fresh session.root place)
    (hlegal : ∀ session ∈ sessions, ∀ call ∈ session.calls, Legal call) :
    replies sessions fresh =
      ((inTurn (sessions.flatMap Session.calls)).run Memory.answer .empty).1 :=
  replies_related hroots hlegal .untouched

/-- An entry under the empty key, in a directory that is created and then found by another path. -/
theorem refines_memory_of_reopened :
    let response : Response := ⟨404, .empty, [7]⟩
    let sessions : List Session := [⟨["cache"], [.create "app", .put "app" "" response]⟩,
      ⟨["cache", "."], [.keys "app", .find "app" "", .put "tmp" "" response]⟩]
    (∀ session ∈ sessions, Untouched .empty session.root ["cache"]) ∧
      (∀ session ∈ sessions, ∀ call ∈ session.calls, Legal call) ∧
        replies sessions .empty = [⟨.create "app", .ok ()⟩, ⟨.put "app" "" response, .ok ()⟩,
          ⟨.keys "app", .ok [""]⟩, ⟨.find "app" "", .ok (some response)⟩,
          ⟨.put "tmp" "" response, .error (.regionMissing "tmp")⟩] := by
  intro response sessions
  have hmissing : ∀ names, (∀ other ∈ names, Tree.Onward other) →
      Untouched .empty ([] ++ "cache" :: names) ([] ++ "cache" :: landing names) :=
    fun names honward => .missing rfl ⟨by decide, by decide, by decide⟩ (fun _ => rfl) honward
  have hroots : ∀ session ∈ sessions, Untouched .empty session.root ["cache"] := by
    intro session hsession
    rcases List.mem_cons.mp hsession with rfl | hsession
    · exact hmissing [] (by decide)
    · rw [List.mem_singleton.mp hsession]
      exact hmissing ["."] (by decide)
  have hlegal : ∀ session ∈ sessions, ∀ call ∈ session.calls, Legal call := by decide
  exact ⟨hroots, hlegal, refines_memory .empty ["cache"] sessions hroots hlegal⟩

end AssetCache.Storage.Files
