import AssetCache.CommandLine.Session
import AssetCache.Proofs.Disk.Tree
import AssetCache.Proofs.Program.Attempts
import AssetCache.Proofs.Settings.Template
import AssetCache.Proofs.Text.Utf8

/-!
# Settings that were created are found again

A file of settings is created in a directory for an origin that is accepted, and a later command
that is started there looks for it. The search begins in the directory itself (`candidates_cons`),
but it passes over a file that cannot be loaded and goes on to the directories above. So whether
the file is used hangs on what its text gives in TOML (`loaded_of_created`).

The origin stands in the text as it was given, without escapes. The command uses the file and sees
the origin in it exactly if every character of the origin stands for itself there
(`created_isReadBack_iff`). An origin may be accepted without that
(`quoted_is_not_read_back`).
-/

set_option autoImplicit false

namespace AssetCache.Settings

open CommandLine (Session Voice)
open Disk (Tree Location.join Location.names Location.isAbsolute)
open Toml (Verbatim)

/-! ## Attempts on a disk -/

section Attempts

variable {ε δ α β : Type} {tree : Tree}

/-- What an attempt on a disk comes to, and the disk after it. -/
def perform (attempt : Attempt Disk.signature ε α) (tree : Tree) : Except ε α × Tree :=
  Program.run Tree.answer attempt.run tree

theorem perform_bind (attempt : Attempt Disk.signature ε α)
    (next : α → Attempt Disk.signature ε β) :
    perform (attempt >>= next) tree =
      match (perform attempt tree).1 with
      | .ok value => perform (next value) (perform attempt tree).2
      | .error error => (.error error, (perform attempt tree).2) :=
  Attempt.run_bind (S := Disk.signature) Tree.answer attempt next tree

theorem perform_mapFailure (wrap : δ → ε) (attempt : Attempt Disk.signature δ α) :
    perform (Attempt.mapFailure wrap attempt) tree =
      ((perform attempt tree).1.mapError wrap, (perform attempt tree).2) :=
  Attempt.run_mapFailure (S := Disk.signature) Tree.answer wrap attempt tree

theorem perform_lift (program : Program Disk.signature α) :
    perform (ExceptT.lift program : Attempt Disk.signature ε α) tree =
      (.ok (program.run Tree.answer tree).1, (program.run Tree.answer tree).2) :=
  Attempt.run_lift (S := Disk.signature) Tree.answer program tree

theorem perform_ask (call : Disk.Call) :
    perform (Disk.ask call) tree = Tree.answer call tree := rfl

end Attempts

/-! ## Loading and looking -/

/-- What it comes to that a file is loaded. -/
def loaded (tree : Tree) (directory file : String) : Except LoadError Settings :=
  if file.isEmpty then .error (.unreadable file .notFound)
  else
    match tree.findFile (Location.names (Location.join directory file)) with
    | .error error => .error (.unreadable file error)
    | .ok (_, bytes) =>
      match Bytes.text? bytes with
      | none => .error (.unreadable file .notText)
      | some text => ofText file text

/-- To load a file leaves the disk as it is. -/
theorem perform_load (directory file : String) (tree : Tree) :
    perform (load directory file) tree = (loaded tree directory file, tree) := by
  rw [load, perform_bind, perform_mapFailure, readLocation, loaded]
  cases file.isEmpty with
  | true => rfl
  | false =>
    rw [if_neg Bool.false_ne_true, if_neg Bool.false_ne_true, perform_ask, Tree.answer]
    cases tree.findFile (Location.names (Location.join directory file)) with
    | error error => rfl
    | ok found =>
      obtain ⟨place, bytes⟩ := found
      dsimp only [Except.map, Except.mapError]
      cases Bytes.text? bytes with
      | none => rfl
      | some text => rfl

theorem run_isThere (location : String) (tree : Tree) :
    Program.run Tree.answer (isThere location) tree =
      ((tree.find (Location.names location)).isOk, tree) := by
  show (((tree.find (Location.names location)).map _).isOk, tree) = _
  cases tree.find (Location.names location) <;> rfl

/-- A file is looked at and loaded if it is there; else the next one is. -/
theorem run_firstOf_cons (directory file : String) (rest : List String) (tree : Tree) :
    Program.run Tree.answer (firstOf directory (file :: rest)) tree =
      if (tree.find (Location.names file)).isOk then
        match loaded tree directory file with
        | .ok settings => (some (settings, file), tree)
        | .error _ => Program.run Tree.answer (firstOf directory rest) tree
      else Program.run Tree.answer (firstOf directory rest) tree := by
  have hload : Program.run Tree.answer (load directory file).run tree = _ :=
    perform_load directory file tree
  rw [firstOf]
  refine (Program.run_bind Tree.answer _ (isThere file) tree).trans ?_
  rw [run_isThere]
  cases (tree.find (Location.names file)).isOk with
  | false => rfl
  | true =>
    refine (Program.run_bind Tree.answer _ (load directory file).run tree).trans ?_
    rw [hload]
    cases loaded tree directory file with
    | error error => rfl
    | ok settings => rfl

/-- What a search comes to was loaded from the file that it names, and the disk stays as it is. -/
theorem run_firstOf (directory : String) (tree : Tree) : ∀ files : List String,
    (Program.run Tree.answer (firstOf directory files) tree).2 = tree ∧
      ∀ settings file, (Program.run Tree.answer (firstOf directory files) tree).1 =
        some (settings, file) → loaded tree directory file = .ok settings
  | [] => ⟨rfl, fun _ _ h => by cases h⟩
  | file :: rest => by
    rw [run_firstOf_cons]
    split
    · cases hload : loaded tree directory file with
      | error error => exact run_firstOf directory tree rest
      | ok settings =>
        refine ⟨rfl, fun other name h => ?_⟩
        cases h
        exact hload
    · exact run_firstOf directory tree rest

/-- What is looked for first. -/
theorem candidates_cons (directory : String) :
    ∃ rest, candidates directory = Location.join directory "sw.toml" :: rest := by
  obtain ⟨above, habove⟩ : ∃ above, Disk.Location.ancestors directory = directory :: above := by
    rw [Disk.Location.ancestors]
    cases directory.length with
    | zero => exact ⟨[], rfl⟩
    | succ steps =>
      rw [Disk.Location.upward]
      cases Disk.Location.parent? directory with
      | none => exact ⟨[], rfl⟩
      | some parent => exact ⟨_, rfl⟩
  exact ⟨_, by rw [candidates, habove]; rfl⟩

/-! ## Locations -/

section Locations

variable {directory location : String}

theorem isEmpty_of_isAbsolute (h : Location.isAbsolute location = true) :
    location.isEmpty = false := by
  rw [Bool.eq_false_iff]
  intro hempty
  rw [String.isEmpty_iff.mp hempty] at h
  cases h

/-- A location that begins at the root is the same as seen from every directory. -/
theorem join_of_isAbsolute (h : Location.isAbsolute location = true) :
    Location.join directory location = location := by
  rw [Disk.Location.join, h]
  rfl

/-- The location of the file begins at the root, as that of the directory does. -/
theorem exists_toList_join (h : Location.isAbsolute directory = true) :
    ∃ more, (Location.join directory "sw.toml").toList = '/' :: more ++ "sw.toml".toList := by
  obtain ⟨names, hnames⟩ := List.head?_eq_some_iff.mp (beq_iff_eq.mp h)
  rw [Disk.Location.join, isEmpty_of_isAbsolute h]
  split
  next hboth => cases hboth
  next =>
    split
    next => exact ⟨names, by rw [String.toList_append, hnames]⟩
    next => exact ⟨names ++ ['/'], by
      rw [String.toList_append, String.toList_append, hnames]; simp⟩

theorem isAbsolute_join (h : Location.isAbsolute directory = true) :
    Location.isAbsolute (Location.join directory "sw.toml") = true := by
  obtain ⟨more, hlist⟩ := exists_toList_join h
  rw [Disk.Location.isAbsolute, hlist]
  rfl

/-- The file is not taken for one in JSON. -/
theorem isSuffixOf_join (h : Location.isAbsolute directory = true) :
    ".json".toList.isSuffixOf (Location.join directory "sw.toml").toList = false := by
  rw [Bool.eq_false_iff]
  intro hsuffix
  obtain ⟨more, hlist⟩ := exists_toList_join h
  obtain ⟨front, hfront⟩ := List.isSuffixOf_iff_suffix.mp hsuffix
  have hlast := congrArg List.getLast? hfront
  rw [hlist, List.getLast?_append, List.getLast?_append] at hlast
  exact absurd (Option.some.inj hlast) (by decide)

end Locations

/-! ## Writing -/

section Writing

variable {tree after : Tree} {directory origin file : String} {force : Bool}

/-- A file that was created is where it should be, for an origin that is accepted. -/
theorem of_perform_create (h : perform (create directory origin force) tree = (.ok file, after)) :
    file = Location.join directory "sw.toml" ∧
      (∃ config, (Config.ofOrigin origin).validate = .ok config) ∧
      ∃ place, after.findFile (Location.names file) =
        .ok (place, Bytes.ofText (template origin)) := by
  rw [create, perform_bind, perform_lift, run_isThere] at h
  dsimp only at h
  split at h
  · cases h
  · cases hvalid : (Config.ofOrigin origin).validate with
    | error error =>
      rw [hvalid] at h
      cases h
    | ok config =>
      rw [hvalid] at h
      dsimp only at h
      rw [perform_bind, perform_mapFailure, perform_ask] at h
      cases hplace : tree.placeForFile (Location.names (Location.join directory "sw.toml")) with
      | error error =>
        rw [Tree.answer, hplace] at h
        cases h
      | ok place =>
        rw [Tree.answer_write hplace] at h
        cases h
        exact ⟨rfl, ⟨config, rfl⟩, place, Tree.findFile_written hplace _⟩

/-- What is loaded from the file is what its text gives in TOML. -/
theorem loaded_of_created (hdirectory : Location.isAbsolute directory = true)
    (h : perform (create directory origin force) tree = (.ok file, after)) :
    loaded after directory file =
      match ofToml? (template origin) with
      | some settings => .ok settings
      | none => .error (.invalidToml file) := by
  obtain ⟨rfl, _, place, hfound⟩ := of_perform_create h
  have habsolute := isAbsolute_join hdirectory
  rw [loaded, isEmpty_of_isAbsolute habsolute, join_of_isAbsolute habsolute, hfound]
  dsimp only
  rw [Bytes.text?_ofText, if_neg Bool.false_ne_true]
  dsimp only
  rw [ofText, isSuffixOf_join hdirectory]
  rfl

end Writing

/-! ## What a command starts with -/

section Starting

variable {tree after : Tree} {directory origin file : String} {force : Bool}

/-- A command is started with what the search finds, or with the defaults. -/
theorem perform_start (directory : String) (voice : Voice) (tree : Tree) :
    perform (Session.start directory none voice) tree =
      (.ok (match (Program.run Tree.answer (find directory) tree).1 with
        | some (settings, file) => ⟨directory, settings, some file, voice⟩
        | none => ⟨directory, .default, none, voice⟩), tree) := by
  have hkept : (Program.run Tree.answer (find directory) tree).2 = tree :=
    (run_firstOf directory tree _).1
  refine (perform_bind _ _).trans ?_
  rw [perform_lift, hkept]
  cases (Program.run Tree.answer (find directory) tree).1 with
  | none => rfl
  | some found => rfl

/-- A command that is started after the file was created uses it if the origin needs no escapes. -/
theorem start_of_verbatim (hdirectory : Location.isAbsolute directory = true)
    (h : perform (create directory origin force) tree = (.ok file, after)) (voice : Voice)
    (hverbatim : ∀ c ∈ origin.toList, Verbatim c) :
    perform (Session.start directory none voice) after =
      (.ok ⟨directory, { default with worker := .ofOrigin origin }, some file, voice⟩, after) := by
  have hload := loaded_of_created hdirectory h
  rw [ofToml?_template hverbatim] at hload
  obtain ⟨hfile, _, place, hfound⟩ := of_perform_create h
  have hthere : (after.find (Location.names file)).isOk = true := by
    cases hfind : after.find (Location.names file) with
    | error error =>
      rw [Tree.findFile, hfind] at hfound
      cases hfound
    | ok found => rfl
  obtain ⟨rest, hrest⟩ := candidates_cons directory
  rw [perform_start, find, hrest, ← hfile, run_firstOf_cons, hthere, hload]
  rfl

/-- A command that is started after the file was created and uses it sees the origin only if that
needs no escapes. -/
theorem verbatim_of_start (hdirectory : Location.isAbsolute directory = true)
    (h : perform (create directory origin force) tree = (.ok file, after)) {voice : Voice}
    {session : Session}
    (hstart : (perform (Session.start directory none voice) after).1 = .ok session)
    (hfile : session.file = some file) (horigin : session.settings.worker.origin = origin) :
    ∀ c ∈ origin.toList, Verbatim c := by
  obtain ⟨_, ⟨config, hvalid⟩, _⟩ := of_perform_create h
  rw [perform_start] at hstart
  cases hfound : (Program.run Tree.answer (find directory) after).1 with
  | none =>
    rw [hfound] at hstart
    cases hstart
    cases hfile
  | some found =>
    obtain ⟨settings, name⟩ := found
    have hload := (run_firstOf directory after _).2 settings name hfound
    rw [hfound] at hstart
    cases hstart
    cases hfile
    rw [loaded_of_created hdirectory h] at hload
    cases hread : ofToml? (template origin) with
    | none =>
      rw [hread] at hload
      cases hload
    | some read =>
      rw [hread] at hload
      cases hload
      exact verbatim_of_ofToml? hread horigin (not_mark_of_validate hvalid)

/-- The file holds a document, and a command that is started in the directory uses that very file
and sees the origin in it, with the default names, as a configuration that comes to the given
one. -/
def IsReadBack (tree : Tree) (directory file origin : String) (config : Config) (voice : Voice) :
    Prop :=
  (∃ place text, tree.findFile (Location.names file) = .ok (place, Bytes.ofText text) ∧
    (Toml.Document.parse? text).isSome = true) ∧
  ∃ session, perform (Session.start directory none voice) tree = (.ok session, tree) ∧
    session.file = some file ∧ session.settings.worker = .ofOrigin origin ∧
    session.settings.worker.validate = .ok config

/-- A file that was created stands in the directory for an origin that is accepted, and it is read
back exactly if the origin needs no escapes. -/
theorem created_isReadBack_iff (hdirectory : Location.isAbsolute directory = true)
    (hcreated : perform (create directory origin force) tree = (.ok file, after)) (voice : Voice) :
    file = Location.join directory "sw.toml" ∧
      ∃ config, (Config.ofOrigin origin).validate = .ok config ∧
        (IsReadBack after directory file origin config voice ↔
          ∀ c ∈ origin.toList, Verbatim c) := by
  obtain ⟨hfile, ⟨config, hvalid⟩, place, hfound⟩ := of_perform_create hcreated
  refine ⟨hfile, config, hvalid, ?_, fun hverbatim => ⟨⟨place, _, hfound, ?_⟩, ?_⟩⟩
  · rintro ⟨-, session, hstart, hname, hworker, -⟩
    exact verbatim_of_start hdirectory hcreated (congrArg Prod.fst hstart) hname
      (congrArg Config.origin hworker)
  · obtain ⟨members, hparse, -⟩ := Option.bind_eq_some_iff.mp (ofToml?_template hverbatim)
    rw [hparse]
    rfl
  · exact ⟨_, start_of_verbatim hdirectory hcreated voice hverbatim, rfl, rfl, hvalid⟩

/-- The origin of a machine's own address is written and read back. -/
theorem created_isReadBack_iff_of_loopback :
    ∃ after, perform (create "/" "http://[::1]" false) Tree.empty = (.ok "/sw.toml", after) ∧
      ∃ config, (Config.ofOrigin "http://[::1]").validate = .ok config ∧
        IsReadBack after "/" "/sw.toml" "http://[::1]" config ⟨false, false⟩ := by
  obtain ⟨after, hcreated⟩ : ∃ after,
      perform (create "/" "http://[::1]" false) Tree.empty = (.ok "/sw.toml", after) := ⟨_, rfl⟩
  obtain ⟨-, config, hvalid, hiff⟩ := created_isReadBack_iff (by decide) hcreated ⟨false, false⟩
  exact ⟨after, hcreated, config, hvalid, hiff.mpr (by decide)⟩

/-- An origin with a quotation mark in its user information is accepted and written, and it is not
read back. -/
theorem quoted_is_not_read_back :
    ∃ after, perform (create "/" "http://\"@[::1]" false) Tree.empty = (.ok "/sw.toml", after) ∧
      ∀ config voice, ¬ IsReadBack after "/" "/sw.toml" "http://\"@[::1]" config voice := by
  obtain ⟨after, hcreated⟩ : ∃ after,
      perform (create "/" "http://\"@[::1]" false) Tree.empty = (.ok "/sw.toml", after) := ⟨_, rfl⟩
  refine ⟨after, hcreated, ?_⟩
  rintro config voice ⟨-, session, hstart, hname, hworker, -⟩
  have hverbatim := verbatim_of_start (by decide) hcreated (congrArg Prod.fst hstart) hname
    (congrArg Config.origin hworker)
  exact absurd (hverbatim '"' (by decide)) (by decide)

end Starting

end AssetCache.Settings
