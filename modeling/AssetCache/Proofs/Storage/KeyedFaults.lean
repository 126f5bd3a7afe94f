import AssetCache.Proofs.KeyValue.Faults
import AssetCache.Proofs.Program.Steps
import AssetCache.Proofs.Storage.Keyed

/-!
# A storage in a key-value store whose calls may fail

Any call of the host may fail without effect, also in the middle of a write or of a deletion.
What is kept then is not what any storage in memory holds: a body may be without its metadata,
and a region that is being deleted may have lost some of its entries.

It is `Consistent` all the same: metadata can be read, and with it there are its body and the
marker of its region. For a body is written before its metadata and removed after it, and a
marker is removed last. There is one lemma for each operation, from any table that is consistent
(`Copes`), and so the table is consistent after every host call of whatever storage calls
(`consistent_under_faults`). A reader of it finds no entry broken, and a deletion that was
interrupted can be made again.

Bodies that lost their metadata are not removed by deleting the region.
-/

set_option autoImplicit false

namespace AssetCache.Storage.Keyed

open Files (inTurn)
open KeyValue (Answers Host Reliable)

variable {α β : Type} {table : Table Bytes} {region key name : String}

/-! ## What is kept whatever fails -/

/-- Metadata that can be read, with its body and the marker of its region beside it. -/
structure Backed (table : Table Bytes) (region key : String) (metadata : Bytes) : Prop where
  readable : ∃ response, Response.ofMetadata metadata = .ok response
  body : table.contains (bodyName region key) = true
  marker : table.contains (markerName region) = true

/-- A table as operations leave it, wherever they are interrupted. -/
structure Consistent (table : Table Bytes) : Prop where
  /-- There are no names but those of regions. -/
  named : ∀ name, table.contains name = true → ∃ region, NameOf region name
  backed : ∀ region key metadata, table.get? (metadataName region key) = some metadata →
    Backed table region key metadata

namespace Consistent

theorem empty : Consistent .empty where
  named _ := nofun
  backed _ _ _ := nofun

/-- Without its marker a region has no metadata. -/
theorem contains_metadata_of_absent (h : Consistent table)
    (habsent : table.contains (markerName region) = false) (key : String) :
    table.contains (metadataName region key) = false := by
  rw [Bool.eq_false_iff]
  intro hcontains
  obtain ⟨metadata, hget⟩ := (Table.contains_eq_true_iff _ _).mp hcontains
  rw [(h.backed region key metadata hget).marker] at habsent
  cases habsent

/-- Metadata may be added that is backed already, and anything else that has a name. -/
theorem insert (h : Consistent table) (hname : NameOf region name) {value : Bytes}
    (hbacked : ∀ key, name = metadataName region key → Backed table region key value) :
    Consistent (table.insert name value) := by
  have hmore : ∀ {region key metadata}, Backed table region key metadata →
      Backed (table.insert name value) region key metadata := fun hold => by
    refine ⟨hold.readable, ?_, ?_⟩
    · rw [Table.contains_insert, hold.body, Bool.or_true]
    · rw [Table.contains_insert, hold.marker, Bool.or_true]
  refine ⟨fun found hfound => ?_, fun other key metadata hget => ?_⟩
  · rw [Table.contains_insert, Bool.or_eq_true, beq_iff_eq] at hfound
    rcases hfound with rfl | hfound
    · exact ⟨region, hname⟩
    · exact h.named found hfound
  · rw [Table.get?_insert] at hget
    split at hget
    next heq =>
      cases hget
      subst heq
      obtain rfl := hname.region_unique (.metadata key)
      exact hmore (hbacked key rfl)
    next => exact hmore (h.backed other key metadata hget)

/-- A name may be taken out that backs no metadata. -/
theorem erase (h : Consistent table)
    (hfree : ∀ region key, table.contains (metadataName region key) = true →
      name ≠ bodyName region key ∧ name ≠ markerName region) :
    Consistent (table.erase name) := by
  refine ⟨fun found hfound => ?_, fun region key metadata hget => ?_⟩
  · exact h.named found (Table.contains_erase_iff.mp hfound).2
  · rw [Table.get?_erase] at hget
    split at hget
    next => cases hget
    next =>
      have hold := h.backed region key metadata hget
      obtain ⟨hbody, hmarker⟩ := hfree region key
        ((Table.contains_eq_true_iff _ _).mpr ⟨metadata, hget⟩)
      exact ⟨hold.readable, Table.contains_erase_iff.mpr ⟨hbody.symm, hold.body⟩,
        Table.contains_erase_iff.mpr ⟨hmarker.symm, hold.marker⟩⟩

/-- The keys that are read off the names are those that have metadata. -/
theorem mem_listed_iff (h : Consistent table) {names : List String}
    (hperm : names.Perm table.keys) :
    key ∈ Listing.ascending (names.filterMap (decodedBehind? (metadataStart region))) ↔
      table.contains (metadataName region key) = true := by
  rw [(Listing.ascending_perm _).mem_iff, List.mem_filterMap, ← Table.mem_keys_iff,
    ← hperm.mem_iff]
  refine ⟨fun ⟨name, hname, hdecoded⟩ => ?_, fun hname =>
    ⟨_, hname, decodedBehind?_metadataName.mpr ⟨rfl, rfl⟩⟩⟩
  obtain ⟨other, hother⟩ := h.named name ((table.mem_keys_iff name).mp (hperm.mem_iff.mp hname))
  cases hother with
  | marker =>
    rw [decodedBehind?_metadata_of_head? (head?_markerName _) (by decide)] at hdecoded
    cases hdecoded
  | metadata key' =>
    obtain ⟨rfl, rfl⟩ := decodedBehind?_metadataName.mp hdecoded
    exact hname
  | body key' =>
    rw [decodedBehind?_metadata_of_head? (head?_bodyName _ _) (by decide)] at hdecoded
    cases hdecoded

end Consistent

/-! ## Steps on a host that may fail -/

/-- Which failures there may be. -/
structure Faults where
  /-- Whether calls of the host may fail. -/
  mayFail : Prop
  expected : StorageError → Prop
  expected_of_host : mayFail → ∀ reason, expected (.callFailed reason)

namespace Faults

/-- Nothing fails. -/
def none : Faults := ⟨False, fun _ => False, fun h => h.elim⟩

/-- Calls of the host may fail, and nothing else. -/
def ofHost : Faults :=
  ⟨True, fun error => ∃ reason, error = .callFailed reason, fun _ reason => ⟨reason, rfl⟩⟩

/-- Anything may fail. -/
def any : Faults := ⟨True, fun _ => True, fun _ _ => trivial⟩

end Faults

variable {faults : Faults}

/-- However the host answers, the table is consistent all along, and at the end the value is good
or the failure was to be expected. -/
def Copes (faults : Faults) (step : Step α) (table : Table Bytes)
    (good : α → Table Bytes → Prop) : Prop :=
  Program.Safely (Answers faults.mayFail) Consistent
    (fun result after =>
      match result with
      | .ok value => good value after
      | .error error => faults.expected error)
    step.run table

namespace Copes

variable {good good' : α → Table Bytes → Prop} {post : β → Table Bytes → Prop} {step : Step α}
  {next : α → Step β}

theorem pure {value : α} (h : Consistent table) (hgood : good value table) :
    Copes faults (Pure.pure value) table good :=
  ⟨h, hgood⟩

theorem throw {error : StorageError} (h : Consistent table) (hexpected : faults.expected error) :
    Copes faults (MonadExcept.throw error : Step α) table good :=
  ⟨h, hexpected⟩

theorem mono (h : Copes faults step table good)
    (himp : ∀ value after, Consistent after → good value after → good' value after) :
    Copes faults step table good' := by
  refine Program.Safely.mono h fun result after hafter hresult => ?_
  cases result with
  | ok value => exact himp value after hafter hresult
  | error error => exact hresult

/-- A failure ends the whole, and otherwise the next step begins in any end of the first. -/
theorem bind (h : Copes faults step table good)
    (hnext : ∀ value middle, Consistent middle → good value middle →
      Copes faults (next value) middle post) :
    Copes faults (step >>= next) table post := by
  refine Program.Safely.bind h fun result middle hmiddle hresult => ?_
  cases result with
  | ok value => exact hnext value middle hmiddle hresult
  | error error => exact ⟨hmiddle, hresult⟩

/-- A call of the host fails without effect, or the next step begins where it leads. -/
theorem ask {call : KeyValue.Call} {next : call.Value → Step β} (hcall : call ≠ .names)
    (h : Consistent table)
    (hnext : Copes faults (next (Host.answerEntries call table).1)
      (Host.answerEntries call table).2 post) :
    Copes faults (host call >>= next) table post := by
  refine ⟨h, fun reply after hreply => ?_⟩
  cases hreply with
  | failed reason hfail => exact ⟨h, faults.expected_of_host hfail reason⟩
  | answered => exact hnext
  | listed => exact absurd rfl hcall

theorem get {next : Option Bytes → Step β} (h : Consistent table)
    (hnext : Copes faults (next (table.get? name)) table post) :
    Copes faults (host (.get name) >>= next) table post :=
  .ask nofun h hnext

theorem exists_ {next : Bool → Step β} (h : Consistent table)
    (hnext : Copes faults (next (table.contains name)) table post) :
    Copes faults (host (.exists_ name) >>= next) table post :=
  .ask nofun h hnext

theorem set {next : Unit → Step β} {value : Bytes} (h : Consistent table)
    (hnext : Copes faults (next ()) (table.insert name value) post) :
    Copes faults (host (.set name value) >>= next) table post :=
  .ask nofun h hnext

theorem delete {next : Unit → Step β} (h : Consistent table)
    (hnext : Copes faults (next ()) (table.erase name) post) :
    Copes faults (host (.delete name) >>= next) table post :=
  .ask nofun h hnext

/-- The names may be listed in any order. -/
theorem names {next : List String → Step β} (h : Consistent table)
    (hnext : ∀ names : List String, names.Perm table.keys →
      Copes faults (next names) table post) :
    Copes faults (host .names >>= next) table post := by
  refine ⟨h, fun reply after hreply => ?_⟩
  cases hreply with
  | failed reason hfail => exact ⟨h, faults.expected_of_host hfail reason⟩
  | answered hcall => exact absurd rfl hcall
  | listed hperm => exact hnext _ hperm

/-- A step that is the last. -/
theorem last (h : Copes faults (step >>= Pure.pure) table good) : Copes faults step table good := by
  rwa [bind_pure] at h

/-- Where a step on a host that may fail can end. -/
theorem of_steps (h : Copes .ofHost step table good) {result : Except StorageError α}
    {after : Table Bytes}
    (hsteps : Program.Steps (Answers True) (step.run, table) (.done result, after)) :
    (∃ value, result = .ok value ∧ good value after) ∨
      ∃ reason, result = .error (.callFailed reason) := by
  have hresult := (Program.Safely.of_steps h hsteps).2
  cases result with
  | ok value => exact .inl ⟨value, rfl, hresult⟩
  | error error =>
    obtain ⟨reason, rfl⟩ := hresult
    exact .inr ⟨reason, rfl⟩

/-- On a store that does not fail a step ends in a value that is good. -/
theorem perform {σ : Type} (store : Reliable σ) (s : σ)
    (h : Copes .none step (store.entries s) good) :
    Consistent (store.entries (perform store step s).2) ∧
      ∃ value, (perform store step s).1 = .ok value ∧
        good value (store.entries (perform store step s).2) := by
  obtain ⟨hafter, hresult⟩ := Program.Safely.run (KeyValue.answers_of_reliable False store) s h
  refine ⟨hafter, ?_⟩
  change match (Keyed.perform store step s).1 with
    | .ok value => good value (store.entries (Keyed.perform store step s).2)
    | .error _ => False at hresult
  cases hvalue : (Keyed.perform store step s).1 with
  | ok value =>
    rw [hvalue] at hresult
    exact ⟨value, rfl, hresult⟩
  | error error =>
    rw [hvalue] at hresult
    exact hresult.elim

/-! Steps of which only one value is good. -/

variable {value : α}

theorem eq_of_steps (h : Copes .ofHost step table fun found _ => found = value)
    {result : Except StorageError α} {after : Table Bytes}
    (hsteps : Program.Steps (Answers True) (step.run, table) (.done result, after)) :
    result = .ok value ∨ ∃ reason, result = .error (.callFailed reason) := by
  rcases h.of_steps hsteps with ⟨_, hvalue, rfl⟩ | hfailed
  · exact .inl hvalue
  · exact .inr hfailed

theorem perform_eq {σ : Type} (store : Reliable σ) (s : σ)
    (h : Copes .none step (store.entries s) fun found _ => found = value) :
    (Keyed.perform store step s).1 = .ok value := by
  obtain ⟨_, _, hvalue, rfl⟩ := h.perform store s
  exact hvalue

end Copes

/-! ## One operation -/

theorem copes_exists (h : Consistent table) (name : String) :
    Copes faults (host (.exists_ name)) table fun found after =>
      found = table.contains name ∧ after = table :=
  .last (.exists_ h (.pure h ⟨rfl, rfl⟩))

theorem copes_create (h : Consistent table) (region : String) :
    Copes faults (create region) table fun _ _ => True := by
  refine .exists_ h ?_
  split
  · exact .pure h trivial
  · refine .last (.set h (.pure (h.insert .marker fun key heq => ?_) trivial))
    exact absurd heq markerName_ne_metadataName

/-- The keys are those that have metadata. -/
theorem copes_keys (h : Consistent table) (region : String) :
    Copes faults (keys region) table fun found after =>
      (∀ key, key ∈ found ↔ table.contains (metadataName region key) = true) ∧ after = table :=
  .names h fun _ hperm => .pure h ⟨fun _ => h.mem_listed_iff hperm, rfl⟩

theorem copes_regions (h : Consistent table) :
    Copes faults regions table fun _ _ => True :=
  .names h fun _ _ => .pure h trivial

/-- What has metadata is read back with its body, and what has none is not there. -/
theorem copes_find (h : Consistent table) (region key : String) :
    Copes faults (find region key) table fun found after =>
      found.isSome = table.contains (metadataName region key) ∧ after = table := by
  refine .get h ?_
  rw [Table.contains]
  cases hmetadata : table.get? (metadataName region key) with
  | none => exact .pure h ⟨rfl, rfl⟩
  | some metadata =>
    obtain ⟨⟨response, hresponse⟩, hbody, _⟩ := h.backed region key metadata hmetadata
    obtain ⟨body, hbody⟩ := (Table.contains_eq_true_iff _ _).mp hbody
    dsimp only
    rw [hresponse]
    refine .get h ?_
    rw [hbody]
    exact .pure h ⟨rfl, rfl⟩

/-- The body is there before the metadata is. -/
theorem copes_put (h : Consistent table) (region key : String) (response : Response)
    (hmissing : faults.expected (.regionMissing region)) :
    Copes faults (put region key response) table fun _ _ => True := by
  refine .exists_ h ?_
  split
  next hmarker =>
    have hwritten : Consistent (table.insert (bodyName region key) response.body) :=
      h.insert (.body key) fun other heq => absurd heq.symm metadataName_ne_bodyName
    refine .set h (.last (.set hwritten (.pure ?_ trivial)))
    refine hwritten.insert (.metadata key) fun other heq => ?_
    obtain ⟨-, rfl⟩ := metadataName_inj.mp heq
    refine ⟨⟨_, Response.ofMetadata_metadataBytes response⟩, ?_, ?_⟩
    · rw [Table.contains_insert, beq_self_eq_true, Bool.true_or]
    · rw [Table.contains_insert, hmarker, Bool.or_true]
  next => exact .throw h hmissing

/-- The metadata is gone before the body is. -/
theorem copes_erase (h : Consistent table) (region key : String) :
    Copes faults (erase region key) table fun _ after =>
      ∀ other, after.contains (metadataName region other) = true →
        other ≠ key ∧ table.contains (metadataName region other) = true := by
  have hmiddle : Consistent (table.erase (metadataName region key)) := h.erase fun other key' _ =>
    ⟨metadataName_ne_bodyName, markerName_ne_metadataName.symm⟩
  refine .delete h (.last (.delete hmiddle (.pure (hmiddle.erase fun other key' hcontains => ?_) ?_)))
  · refine ⟨fun heq => ?_, markerName_ne_bodyName.symm⟩
    obtain ⟨rfl, rfl⟩ := bodyName_inj.mp heq
    exact (Table.contains_erase_iff.mp hcontains).1 rfl
  · intro other hcontains
    obtain ⟨hne, hbefore⟩ := Table.contains_erase_iff.mp (Table.contains_erase_iff.mp hcontains).2
    exact ⟨fun heq => hne (heq ▸ rfl), hbefore⟩

theorem copes_remove (h : Consistent table) (region key : String) :
    Copes faults (remove region key) table fun _ _ => True :=
  .exists_ h ((copes_erase h region key).bind fun _ _ hafter _ => .pure hafter trivial)

/-- Entries are erased until none of the region has metadata. -/
theorem copes_erase_all (region : String) (keys : List String) :
    ∀ {table : Table Bytes}, Consistent table →
      (∀ key, table.contains (metadataName region key) = true → key ∈ keys) →
      Copes faults (keys.forM (erase region)) table fun _ after =>
        ∀ key, after.contains (metadataName region key) = false := by
  induction keys with
  | nil =>
    intro table h hkeys
    exact .pure h fun key => Bool.eq_false_iff.mpr fun hkey => List.not_mem_nil (hkeys key hkey)
  | cons key rest ih =>
    intro table h hkeys
    refine (copes_erase h region key).bind fun _ middle hmiddle herased => ?_
    refine ih hmiddle fun other hother => ?_
    obtain ⟨hne, hbefore⟩ := herased other hother
    exact (List.mem_cons.mp (hkeys other hbefore)).resolve_left hne

/-- The marker is removed when no entry of the region has metadata. -/
theorem copes_delete (h : Consistent table) (region : String) :
    Copes faults (delete region) table fun _ after =>
      after.contains (markerName region) = false := by
  refine .exists_ h ((copes_keys h region).bind fun found middle hmiddle hfound => ?_)
  obtain ⟨hkeys, rfl⟩ := hfound
  refine (copes_erase_all region found hmiddle fun key => (hkeys key).mpr).bind
    fun _ last hlast hnone => .delete hlast (.pure (hlast.erase ?_) ?_)
  · intro other key hcontains
    refine ⟨markerName_ne_bodyName, fun heq => ?_⟩
    obtain rfl := markerName_inj.mp heq
    rw [hnone key] at hcontains
    cases hcontains
  · exact Bool.eq_false_iff.mpr fun hmarker => (Table.contains_erase_iff.mp hmarker).1 rfl

/-- Whatever a call does and wherever it is interrupted, the table stays consistent. -/
theorem copes_meaning (h : Consistent table) (call : Call) :
    Copes .any (ExceptT.mk (meaning call)) table fun _ _ => True := by
  cases call with
  | create region => exact copes_create h region
  | has region => exact (copes_exists h _).mono fun _ _ _ _ => trivial
  | delete region => exact (copes_delete h region).mono fun _ _ _ _ => trivial
  | regions => exact copes_regions h
  | find region key => exact (copes_find h region key).mono fun _ _ _ _ => trivial
  | put region key response => exact copes_put h region key response trivial
  | remove region key => exact copes_remove h region key
  | keys region => exact (copes_keys h region).mono fun _ _ _ _ => trivial

/-! ## Regions that are not there -/

section Absent

variable (h : Consistent table) (habsent : table.contains (markerName region) = false)
include h habsent

theorem copes_keys_absent : Copes faults (keys region) table fun found _ => found = [] := by
  refine (copes_keys h region).mono fun found _ _ hfound => ?_
  refine List.eq_nil_iff_forall_not_mem.mpr fun key hkey => ?_
  rw [hfound.1 key, h.contains_metadata_of_absent habsent] at hkey
  cases hkey

theorem copes_find_absent (key : String) :
    Copes faults (find region key) table fun found _ => found = none := by
  refine (copes_find h region key).mono fun found _ _ hfound => ?_
  rw [h.contains_metadata_of_absent habsent, Option.isSome_eq_false_iff,
    Option.isNone_iff_eq_none] at hfound
  exact hfound.1

end Absent

/-- A store that does not fail tells of a region that is not there. -/
structure Gone {σ : Type} (store : Reliable σ) (region : String) (s : σ) : Prop where
  has : (answer store (.has region) s).1 = .ok false
  keys : (answer store (.keys region) s).1 = .ok []
  find : ∀ key, (answer store (.find region key) s).1 = .ok none

theorem gone_of_absent {σ : Type} (store : Reliable σ) (s : σ)
    (h : Consistent (store.entries s))
    (habsent : (store.entries s).contains (markerName region) = false) :
    Gone store region s where
  has := ((copes_exists h _).mono fun _ _ _ hfound => hfound.1.trans habsent).perform_eq store s
  keys := (copes_keys_absent h habsent).perform_eq store s
  find key := (copes_find_absent h habsent key).perform_eq store s

/-! ## Whatever calls are made -/

/-- A storage call may end so on a host that may fail. -/
abbrev Ends (call : Call) (table : Table Bytes) (reply : Reply call) (after : Table Bytes) : Prop :=
  Program.Steps (Answers True) (meaning call, table) (.done reply, after)

/-- A storage call failed since a call of the host did. -/
def HostFailed {call : Call} (reply : Reply call) : Prop :=
  ∃ reason, reply = .error (.callFailed reason)

/-- Whatever storage calls are made and whichever calls of the host fail, the table is consistent
after each call of the host. So no entry is found broken, a region that is not there is found
empty, and a deletion that does not fail leaves the region absent and empty. -/
theorem consistent_under_faults (program : Program Storage.signature α)
    {rest : Program KeyValue.signature α}
    (hsteps : Program.Steps (Answers True) (program.lower meaning, .empty) (rest, table)) :
    Consistent table ∧
    (∀ region key reply after, Ends (.find region key) table reply after →
      (∃ found, reply = .ok found) ∨ HostFailed reply) ∧
    (∀ region after, Ends (.has region) table (.ok false) after →
      (∀ reply after, Ends (.keys region) table reply after → reply = .ok [] ∨ HostFailed reply) ∧
      ∀ key reply after, Ends (.find region key) table reply after →
        reply = .ok none ∨ HostFailed reply) ∧
    ∀ (σ : Type) (steady : Reliable σ) (s : σ) (region : String), steady.entries s = table →
      (∀ key, ∃ found, (answer steady (.find region key) s).1 = .ok found) ∧
      ((answer steady (.has region) s).1 = .ok false → Gone steady region s) ∧
      (∃ existed, (answer steady (.delete region) s).1 = .ok existed) ∧
      Gone steady region (answer steady (.delete region) s).2 := by
  have h : Consistent table := by
    refine (Program.Safely.of_steps (Program.Safely.lower (fun call table htable => ?_) program
      .empty .empty) hsteps).keeps_start
    exact Program.Safely.mono (copes_meaning htable call) fun _ _ _ _ => trivial
  refine ⟨h, fun region key reply after hends => ?_, fun region after hhas => ?_, ?_⟩
  · rcases (copes_find h region key).of_steps hends with ⟨found, hfound, _⟩ | hfailed
    · exact .inl ⟨found, hfound⟩
    · exact .inr hfailed
  · obtain ⟨_, hvalue, hfound, _⟩ := ((copes_exists h _).of_steps hhas).resolve_right nofun
    cases hvalue
    exact ⟨fun reply after hends => (copes_keys_absent h hfound.symm).eq_of_steps hends,
      fun key reply after hends => (copes_find_absent h hfound.symm key).eq_of_steps hends⟩
  · rintro σ steady s region rfl
    refine ⟨fun key => ?_, fun hhas => gone_of_absent steady s h ?_, ?_⟩
    · obtain ⟨_, found, hvalue, _⟩ := (copes_find h region key).perform steady s
      exact ⟨found, hvalue⟩
    · obtain ⟨_, found, hvalue, rfl, _⟩ := (copes_exists h (markerName region)).perform steady s
      exact Except.ok.inj (hvalue.symm.trans hhas)
    · obtain ⟨hafter, existed, hvalue, habsent⟩ := (copes_delete h region).perform steady s
      exact ⟨⟨existed, hvalue⟩, gone_of_absent steady _ hafter habsent⟩

/-- A deletion that is interrupted between the metadata of an entry and its body. -/
theorem consistent_under_faults_of_interrupted :
    let response : Response := ⟨200, .empty, [7]⟩
    let calls : List Call := [.create "r", .put "r" "k" response, .delete "r"]
    let written := ((Table.empty.insert (markerName "r") [0x31]).insert (bodyName "r" "k")
      [7]).insert (metadataName "r" "k") response.metadataBytes
    let table := written.erase (metadataName "r" "k")
    Program.Steps (Answers True) ((inTurn calls).lower meaning, .empty)
      (.done [⟨.create "r", .ok ()⟩, ⟨.put "r" "k" response, .ok ()⟩,
        ⟨.delete "r", .error (.callFailed "down")⟩], table) ∧
    Ends (.has "x") table (.ok false) table ∧
    (∀ reply after, Ends (.keys "x") table reply after → reply = .ok [] ∨ HostFailed reply) ∧
    Gone Host.reliable "r" (answer Host.reliable (.delete "r") ⟨⟨table, []⟩, rfl⟩).2 := by
  intro response calls written table
  have hlisted : Listing.ascending (written.keys.filterMap
      (decodedBehind? (metadataStart "r"))) = ["k"] := by
    rw [show written.keys.filterMap (decodedBehind? (metadataStart "r")) = ["k"] by
      decide +kernel]
    exact List.mergeSort_singleton _
  have hsteps : Program.Steps (Answers True) ((inTurn calls).lower meaning, .empty)
      (.done [⟨.create "r", .ok ()⟩, ⟨.put "r" "k" response, .ok ()⟩,
        ⟨.delete "r", .error (.callFailed "down")⟩], table) := by
    -- the region is created, the entry is put, and the deletion finds the marker
    iterate 6 refine .head (.call (Answers.answered nofun)) ?_
    refine .head (.call (Answers.listed (List.Perm.refl written.keys))) ?_
    dsimp only [Program.bind, ExceptT.bindCont, Except.mapError]
    rw [hlisted]
    refine .head (.call (Answers.answered nofun)) ?_
    exact .head (.call (Answers.failed "down" trivial)) .refl
  have hhas : Ends (.has "x") table (.ok false) table :=
    .head (.call (Answers.answered nofun)) .refl
  obtain ⟨_, _, habsent, hsteady⟩ := consistent_under_faults (inTurn calls) hsteps
  exact ⟨hsteps, hhas, (habsent "x" table hhas).1,
    (hsteady _ Host.reliable ⟨⟨table, []⟩, rfl⟩ "r" rfl).2.2.2⟩

end AssetCache.Storage.Keyed
