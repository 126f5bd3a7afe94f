import AssetCache.Proofs.Json.Stored
import AssetCache.Proofs.KeyValue.Reliable
import AssetCache.Proofs.Storage.Files
import AssetCache.Proofs.Storage.KeyedNames

/-!
# A storage in a key-value store refines the storage in memory

A storage in a key-value store that does not fail answers all calls as a storage in memory
does (`follows_memory`). The store may list its names in any order.

The table that the store keeps holds a marker for each region in memory, metadata and a
body for each entry, and nothing else (`Holds`). There is one lemma for each call: from a
table that holds what is in memory it ends in the answer of memory, and in a table that
holds what is in memory then.

From the same relation it follows that regions are apart: an operation on one leaves what
is kept of any other, and is answered as if there were no other.
-/

set_option autoImplicit false

namespace AssetCache.Storage.Keyed

open Files (inTurn run_inTurn_cons run_inTurn_append)
open KeyValue (Reliable Host)

/-! ## Steps on a store -/

section Steps

variable {σ α β : Type} {store : Reliable σ}

/-- The answer to a call, and the store after it. -/
def answer (store : Reliable σ) (call : Call) (s : σ) : Reply call × σ :=
  (meaning call).run store.answer s

/-- What comes of a step, and the store after it. -/
def perform (store : Reliable σ) (step : Step α) (s : σ) : Except StorageError α × σ :=
  step.run.run store.answer s

/-- From every state in which a table is kept, a step ends so, and another table is kept. -/
def Settles (store : Reliable σ) (step : Step α) (before : Table Bytes)
    (result : Except StorageError α) (after : Table Bytes) : Prop :=
  ∀ s, store.entries s = before →
    (perform store step s).1 = result ∧ store.entries (perform store step s).2 = after

namespace Settles

variable {before middle after : Table Bytes} {result : Except StorageError β}

theorem pure {value : α} : Settles store (Pure.pure value) before (.ok value) before :=
  fun _ hs => ⟨rfl, hs⟩

theorem throw {error : StorageError} :
    Settles store (MonadExcept.throw error : Step α) before (.error error) before :=
  fun _ hs => ⟨rfl, hs⟩

theorem bind {step : Step α} {next : α → Step β} {value : α}
    (h : Settles store step before (.ok value) middle)
    (hnext : Settles store (next value) middle result after) :
    Settles store (step >>= next) before result after := by
  intro s hs
  obtain ⟨hvalue, hmiddle⟩ := h s hs
  have hbind : perform store (step >>= next) s =
      perform store (next value) (perform store step s).2 := by
    refine (Program.run_bind store.answer _ step.run s).trans ?_
    rw [show (step.run.run store.answer s).1 = _ from hvalue]
    rfl
  rw [hbind]
  exact hnext _ hmiddle

/-- A call other than the listing does what it does to a table. -/
theorem host {call : KeyValue.Call} (hcall : call ≠ .names) :
    Settles store (host call) before (.ok (Host.answerEntries call before).1)
      (Host.answerEntries call before).2 := by
  rintro s rfl
  refine ⟨?_, store.entries_answer call s⟩
  show ((store.answer call s).1).mapError StorageError.callFailed = _
  rw [store.reply_eq call s hcall]
  rfl

/-- The names that are listed are those of the table, in one order or another. -/
theorem names {next : List String → Step β}
    (h : ∀ names : List String, names.Perm before.keys →
      Settles store (next names) before result after) :
    Settles store (Keyed.host .names >>= next) before result after := by
  rintro s rfl
  obtain ⟨names, hnames, hperm⟩ := store.listed s
  have hbind : perform store (Keyed.host .names >>= next) s =
      perform store (next names) (store.answer .names s).2 := by
    show (ExceptT.bindCont next
      (((store.answer .names s).1).mapError StorageError.callFailed)).run store.answer
        (store.answer .names s).2 = _
    rw [hnames]
    rfl
  rw [hbind]
  exact h names hperm _ (store.entries_answer .names s)

end Settles

end Steps

/-! ## What is kept of what is in memory -/

/-- A table that holds what is in memory, and nothing else. -/
structure Holds (memory : Memory) (table : Table Bytes) : Prop where
  marker : ∀ region, table.get? (markerName region) =
    if memory.contains region then some [0x31] else none
  metadata : ∀ region key, table.get? (metadataName region key) =
    ((Memory.entries memory region).get? key).map Response.metadataBytes
  body : ∀ region key, table.get? (bodyName region key) =
    ((Memory.entries memory region).get? key).map Response.body
  others : ∀ name, (∀ region, ¬ NameOf region name) → table.get? name = none

namespace Holds

variable {memory memory' : Memory} {table table' : Table Bytes} {region key : String}

theorem empty : Holds .empty .empty where
  marker _ := rfl
  metadata _ _ := rfl
  body _ _ := rfl
  others _ _ := rfl

theorem contains_marker (h : Holds memory table) (region : String) :
    table.contains (markerName region) = memory.contains region := by
  rw [Table.contains, h.marker]
  cases memory.contains region with
  | true => rfl
  | false => rfl

theorem contains_metadata (h : Holds memory table) (region key : String) :
    table.contains (metadataName region key) = (Memory.entries memory region).contains key := by
  rw [Table.contains, h.metadata, Option.isSome_map]
  rfl

/-- A name that is kept is the marker of a region or belongs to an entry. -/
theorem cases_of_mem_keys (h : Holds memory table) {name : String} (hname : name ∈ table.keys) :
    (∃ region, name = markerName region ∧ memory.contains region = true) ∨
    (∃ region key, name = metadataName region key ∧
      (Memory.entries memory region).contains key = true) ∨
    ∃ region key, name = bodyName region key := by
  by_cases hany : ∃ region, NameOf region name
  · obtain ⟨region, hregion⟩ := hany
    rw [Table.mem_keys_iff] at hname
    cases hregion with
    | marker => exact .inl ⟨region, rfl, (h.contains_marker region).symm.trans hname⟩
    | metadata key =>
      exact .inr (.inl ⟨region, key, rfl, (h.contains_metadata region key).symm.trans hname⟩)
    | body key => exact .inr (.inr ⟨region, key, rfl⟩)
  · have hnone := h.others name fun region hregion => hany ⟨region, hregion⟩
    exact absurd hname ((table.get?_eq_none_iff name).mp hnone)

/-- What is kept of a region is known from the region in memory. -/
theorem get?_congr (h : Holds memory table) (h' : Holds memory' table')
    (hregion : memory'.get? region = memory.get? region) {name : String}
    (hname : NameOf region name) : table'.get? name = table.get? name := by
  have hentries := Memory.entries_congr hregion
  cases hname with
  | marker => rw [h.marker, h'.marker, Table.contains, Table.contains, hregion]
  | metadata key => rw [h.metadata, h'.metadata, hentries]
  | body key => rw [h.body, h'.body, hentries]

/-- Of a region that is not there nothing is kept. -/
theorem get?_of_absent (h : Holds memory table) (habsent : memory.get? region = none)
    {name : String} (hname : NameOf region name) : table.get? name = none :=
  empty.get?_congr h habsent hname

/-! ### Listings -/

theorem pairwise_of_perm {names : List String} (hperm : names.Perm table.keys) :
    names.Pairwise fun left right => id left ≠ id right :=
  hperm.nodup_iff.mpr table.keys_nodup

/-- The regions are listed by their markers. -/
theorem listed_regions (h : Holds memory table) {names : List String}
    (hperm : names.Perm table.keys) :
    Listing.ascending (names.filterMap (decodedBehind? "region:")) = memory.keys := by
  refine Listing.ascending_filterMap markerName (pairwise_of_perm hperm)
    (fun name hname found hfound => ?_) fun region hregion => ?_
  · rcases h.cases_of_mem_keys (hperm.mem_iff.mp hname) with
      ⟨region, rfl, hregion⟩ | ⟨region, key, rfl, _⟩ | ⟨region, key, rfl⟩
    · rw [decodedBehind?_markerName] at hfound
      obtain rfl := Option.some.inj hfound
      exact ⟨rfl, hregion⟩
    · rw [decodedBehind?_region_of_head? (head?_metadataName _ _) (by decide)] at hfound
      cases hfound
    · rw [decodedBehind?_region_of_head? (head?_bodyName _ _) (by decide)] at hfound
      cases hfound
  · refine ⟨markerName region, hperm.mem_iff.mpr ?_, decodedBehind?_markerName region⟩
    rw [Table.mem_keys_iff, h.contains_marker, hregion]

/-- The keys of a region are listed by their metadata. -/
theorem listed_keys (h : Holds memory table) {names : List String}
    (hperm : names.Perm table.keys) (region : String) :
    Listing.ascending (names.filterMap (decodedBehind? (metadataStart region))) =
      (Memory.entries memory region).keys := by
  refine Listing.ascending_filterMap (metadataName region) (pairwise_of_perm hperm)
    (fun name hname found hfound => ?_) fun key hkey => ?_
  · rcases h.cases_of_mem_keys (hperm.mem_iff.mp hname) with
      ⟨other, rfl, _⟩ | ⟨other, key, rfl, hkey⟩ | ⟨other, key, rfl⟩
    · rw [decodedBehind?_metadata_of_head? (head?_markerName _) (by decide)] at hfound
      cases hfound
    · obtain ⟨rfl, rfl⟩ := decodedBehind?_metadataName.mp hfound
      exact ⟨rfl, hkey⟩
    · rw [decodedBehind?_metadata_of_head? (head?_bodyName _ _) (by decide)] at hfound
      cases hfound
  · refine ⟨metadataName region key, hperm.mem_iff.mpr ?_,
      decodedBehind?_metadataName.mpr ⟨rfl, rfl⟩⟩
    rw [Table.mem_keys_iff, h.contains_metadata, hkey]

/-! ### Changes -/

/-- A change to one region keeps up with memory if it does so for the names of that region. -/
theorem update (h : Holds memory table)
    (hmemory : ∀ other, other ≠ region → memory'.get? other = memory.get? other)
    (htable : ∀ name, ¬ NameOf region name → table'.get? name = table.get? name)
    (hmarker : table'.get? (markerName region) =
      if memory'.contains region then some [0x31] else none)
    (hmetadata : ∀ key, table'.get? (metadataName region key) =
      ((Memory.entries memory' region).get? key).map Response.metadataBytes)
    (hbody : ∀ key, table'.get? (bodyName region key) =
      ((Memory.entries memory' region).get? key).map Response.body) :
    Holds memory' table' := by
  have hother : ∀ {other name}, other ≠ region → NameOf other name →
      table'.get? name = table.get? name := fun hne hname =>
    htable _ fun hregion => hne (hname.region_unique hregion)
  refine ⟨fun other => ?_, fun other key => ?_, fun other key => ?_, fun name hname => ?_⟩
  · by_cases hne : other = region
    · rw [hne, hmarker]
    · rw [hother hne .marker, h.marker, Table.contains, Table.contains, hmemory other hne]
  · by_cases hne : other = region
    · rw [hne, hmetadata]
    · rw [hother hne (.metadata key), h.metadata, Memory.entries_congr (hmemory other hne)]
  · by_cases hne : other = region
    · rw [hne, hbody]
    · rw [hother hne (.body key), h.body, Memory.entries_congr (hmemory other hne)]
  · rw [htable name (hname region), h.others name hname]

/-- A region is opened. -/
theorem opened (h : Holds memory table) (region : String) :
    Holds (Memory.opened memory region) (table.insert (markerName region) [0x31]) := by
  refine h.update (fun other hne => Memory.get?_opened_of_ne memory hne.symm) (fun name hname => ?_)
    ?_ (fun key => ?_) fun key => ?_
  · exact Table.get?_insert_of_ne _ _ fun heq => hname (heq ▸ .marker)
  · rw [Table.get?_insert_self, Table.contains, Memory.get?_opened_self]
    rfl
  · rw [Table.get?_insert_of_ne _ _ markerName_ne_metadataName, Memory.entries_opened, h.metadata]
  · rw [Table.get?_insert_of_ne _ _ markerName_ne_bodyName, Memory.entries_opened, h.body]

/-- An entry is put: its body is set, then its metadata. -/
theorem entered (h : Holds memory table) {old : Table Response}
    (hget : memory.get? region = some old) (key : String) (response : Response) :
    Holds (memory.insert region (old.insert key response))
      ((table.insert (bodyName region key) response.body).insert (metadataName region key)
        response.metadataBytes) := by
  have hentries : Memory.entries memory region = old := Memory.entries_of_get? hget
  refine h.update (fun other hne => Table.get?_insert_of_ne _ _ hne.symm) (fun name hname => ?_)
    ?_ (fun other => ?_) fun other => ?_
  · have hmetadata : metadataName region key ≠ name := fun heq => hname (heq ▸ .metadata key)
    have hbody : bodyName region key ≠ name := fun heq => hname (heq ▸ .body key)
    rw [Table.get?_insert_of_ne _ _ hmetadata, Table.get?_insert_of_ne _ _ hbody]
  · rw [Table.get?_insert_of_ne _ _ markerName_ne_metadataName.symm,
      Table.get?_insert_of_ne _ _ markerName_ne_bodyName.symm, h.marker, Table.contains_insert,
      Table.contains, hget]
    simp
  · rw [Table.get?_insert, Table.get?_insert_of_ne _ _ metadataName_ne_bodyName.symm, h.metadata,
      Memory.entries_insert, if_pos rfl, Table.get?_insert, hentries]
    by_cases hkey : key = other <;> simp [hkey]
  · rw [Table.get?_insert_of_ne _ _ metadataName_ne_bodyName, Table.get?_insert, h.body,
      Memory.entries_insert, if_pos rfl, Table.get?_insert, hentries]
    by_cases hkey : key = other <;> simp [hkey]

/-- An entry is erased, whether it is there or not. -/
theorem erased (h : Holds memory table) (region key : String) :
    Holds (Memory.answer (.remove region key) memory).2
      ((table.erase (metadataName region key)).erase (bodyName region key)) := by
  have hframe : ∀ other, other ≠ region →
      (Memory.answer (.remove region key) memory).2.get? other = memory.get? other :=
    fun other hne => Memory.answer_frame _ memory fun heq => hne (Option.some.inj heq).symm
  refine h.update hframe (fun name hname => ?_) ?_ (fun other => ?_) fun other => ?_
  · have hmetadata : name ≠ metadataName region key := fun heq => hname (heq ▸ .metadata key)
    have hbody : name ≠ bodyName region key := fun heq => hname (heq ▸ .body key)
    rw [Table.get?_erase, if_neg hbody, Table.get?_erase, if_neg hmetadata]
  · rw [Table.get?_erase, if_neg markerName_ne_bodyName, Table.get?_erase,
      if_neg markerName_ne_metadataName, h.marker, Memory.contains_answer_remove]
  · rw [Table.get?_erase, if_neg metadataName_ne_bodyName, Table.get?_erase, h.metadata,
      Memory.entries_answer_remove, Table.get?_erase]
    by_cases hkey : other = key <;> simp [hkey]
  · rw [Table.get?_erase, Table.get?_erase, if_neg metadataName_ne_bodyName.symm, h.body,
      Memory.entries_answer_remove, Table.get?_erase]
    by_cases hkey : other = key <;> simp [hkey]

/-! ### A region without entries -/

/-- A region is deleted when all its entries have been erased and its marker is. -/
theorem deleted (h : Holds memory table) (hempty : Memory.entries memory region = .empty) :
    Holds (memory.erase region) (table.erase (markerName region)) := by
  have hframe : ∀ other, other ≠ region → (memory.erase region).get? other = memory.get? other :=
    fun other hne => by rw [Table.get?_erase, if_neg hne]
  refine h.update hframe (fun name hname => ?_) ?_ (fun key => ?_) fun key => ?_
  · have hmarker : name ≠ markerName region := fun heq => hname (heq ▸ .marker)
    rw [Table.get?_erase, if_neg hmarker]
  · rw [Table.get?_erase, if_pos rfl, Table.contains, Table.get?_erase, if_pos rfl]
    rfl
  · rw [Table.get?_erase, if_neg markerName_ne_metadataName.symm, h.metadata, hempty,
      Memory.entries_erase, if_pos rfl]
  · rw [Table.get?_erase, if_neg markerName_ne_bodyName.symm, h.body, hempty,
      Memory.entries_erase, if_pos rfl]

end Holds

/-! ## One call -/

section Calls

variable {σ : Type} {store : Reliable σ} {memory : Memory} {table : Table Bytes}
  {region key : String}

/-- A call answers as memory does, and what is kept keeps up with it. -/
def Follows (store : Reliable σ) (call : Call) (memory : Memory) (table : Table Bytes) : Prop :=
  ∃ after, Settles store (ExceptT.mk (meaning call)) table (Memory.answer call memory).1 after ∧
    Holds (Memory.answer call memory).2 after

/-- The answer to a host call that asks whether a name is there. -/
theorem settles_exists (store : Reliable σ) (table : Table Bytes) (name : String) :
    Settles store (host (.exists_ name)) table (.ok (table.contains name)) table :=
  .host nofun

theorem settles_get (store : Reliable σ) (table : Table Bytes) (name : String) :
    Settles store (host (.get name)) table (.ok (table.get? name)) table :=
  .host nofun

theorem settles_set (store : Reliable σ) (table : Table Bytes) (name : String) (value : Bytes) :
    Settles store (host (.set name value)) table (.ok ()) (table.insert name value) :=
  .host nofun

theorem settles_delete (store : Reliable σ) (table : Table Bytes) (name : String) :
    Settles store (host (.delete name)) table (.ok ()) (table.erase name) :=
  .host nofun

theorem follows_create (h : Holds memory table) (region : String) :
    Follows store (.create region) memory table := by
  have hexists := settles_exists store table (markerName region)
  rw [h.contains_marker] at hexists
  rw [Follows, Memory.answer_create]
  cases hcontains : memory.contains region with
  | true =>
    rw [hcontains] at hexists
    rw [Memory.opened, if_pos hcontains]
    exact ⟨table, .bind hexists .pure, h⟩
  | false =>
    rw [hcontains] at hexists
    exact ⟨_, .bind hexists (settles_set store table _ _), h.opened region⟩

theorem follows_has (h : Holds memory table) (region : String) :
    Follows store (.has region) memory table := by
  have hexists := settles_exists store table (markerName region)
  rw [h.contains_marker] at hexists
  exact ⟨table, hexists, h⟩

theorem follows_regions (h : Holds memory table) : Follows store .regions memory table := by
  refine ⟨table, .names fun names hperm => ?_, h⟩
  rw [h.listed_regions hperm]
  exact .pure

/-- The keys of a region are those of memory, and the listing changes nothing. -/
theorem settles_keys (store : Reliable σ) (h : Holds memory table) (region : String) :
    Settles store (keys region) table (.ok (Memory.entries memory region).keys) table := by
  refine .names fun names hperm => ?_
  rw [h.listed_keys hperm]
  exact .pure

theorem follows_keys (h : Holds memory table) (region : String) :
    Follows store (.keys region) memory table :=
  ⟨table, settles_keys store h region, h⟩

/-- An entry is read back from its metadata and its body. -/
theorem follows_find (h : Holds memory table) (region key : String) :
    Follows store (.find region key) memory table := by
  have hmetadata := settles_get store table (metadataName region key)
  have hbody := settles_get store table (bodyName region key)
  rw [h.metadata] at hmetadata
  rw [h.body] at hbody
  refine ⟨table, ?_, h⟩
  rw [Memory.answer]
  cases hget : (Memory.entries memory region).get? key with
  | none =>
    rw [hget] at hmetadata
    exact .bind hmetadata .pure
  | some response =>
    rw [hget] at hmetadata hbody
    refine .bind hmetadata ?_
    dsimp only [Option.map_some]
    rw [Response.ofMetadata_metadataBytes]
    exact .bind hbody .pure

/-- A write sets the body and then the metadata, if the region is there. -/
theorem follows_put (h : Holds memory table) (region key : String) (response : Response) :
    Follows store (.put region key response) memory table := by
  have hexists := settles_exists store table (markerName region)
  rw [h.contains_marker] at hexists
  cases hget : memory.get? region with
  | none =>
    rw [Table.contains, hget] at hexists
    rw [Follows, Memory.answer_put_missing hget]
    exact ⟨table, .bind hexists .throw, h⟩
  | some old =>
    rw [Table.contains, hget] at hexists
    rw [Follows, Memory.answer_put hget]
    refine ⟨_, .bind hexists ?_, h.entered hget key response⟩
    exact .bind (settles_set store table _ _) (settles_set store _ _ _)

theorem settles_erase (store : Reliable σ) (table : Table Bytes) (region key : String) :
    Settles store (erase region key) table (.ok ())
      ((table.erase (metadataName region key)).erase (bodyName region key)) :=
  .bind (settles_delete store table _) (settles_delete store _ _)

theorem follows_remove (h : Holds memory table) (region key : String) :
    Follows store (.remove region key) memory table := by
  have hexists := settles_exists store table (metadataName region key)
  rw [h.contains_metadata] at hexists
  have hanswer : (Memory.answer (.remove region key) memory).1 =
      .ok ((Memory.entries memory region).contains key) := by
    cases hget : memory.get? region with
    | none => rw [Memory.answer_remove_missing hget, Memory.entries_of_get?_none hget]; rfl
    | some old => rw [Memory.answer_remove hget, Memory.entries_of_get? hget]
  rw [Follows, hanswer]
  exact ⟨_, .bind hexists (.bind (settles_erase store table region key) .pure),
    h.erased region key⟩

/-! ### Deleting a region -/

/-- What is in memory when some entries of a region have been removed. -/
def removedAll (region : String) (keys : List String) (memory : Memory) : Memory :=
  keys.foldl (fun memory key => (Memory.answer (.remove region key) memory).2) memory

theorem get?_removedAll_of_ne {other : String} (hne : other ≠ region) (keys : List String) :
    ∀ memory : Memory, (removedAll region keys memory).get? other = memory.get? other := by
  induction keys with
  | nil => intro memory; rfl
  | cons key rest ih =>
    intro memory
    refine (ih _).trans (Memory.answer_frame _ memory fun heq => ?_)
    exact hne (Option.some.inj heq).symm

theorem get?_entries_removedAll (keys : List String) (name : String) : ∀ memory : Memory,
    (Memory.entries (removedAll region keys memory) region).get? name =
      if name ∈ keys then none else (Memory.entries memory region).get? name := by
  induction keys with
  | nil => intro memory; rfl
  | cons key rest ih =>
    intro memory
    refine (ih _).trans ?_
    rw [Memory.entries_answer_remove, Table.get?_erase]
    by_cases hkey : name = key <;> simp [hkey]

/-- Without the entries of all its keys a region is empty. -/
theorem entries_removedAll_keys (memory : Memory) (region : String) :
    Memory.entries (removedAll region (Memory.entries memory region).keys memory) region =
      .empty := by
  refine Table.ext_get? fun name => ?_
  rw [get?_entries_removedAll, Table.get?_empty]
  split
  · rfl
  next hname => exact (Table.get?_eq_none_iff _ _).mpr hname

/-- Entries are erased one after the other, and memory removes them alike. -/
theorem settles_erase_all (store : Reliable σ) (region : String) (keys : List String) :
    ∀ {memory : Memory} {table : Table Bytes}, Holds memory table →
      ∃ after, Settles store (keys.forM (erase region)) table (.ok ()) after ∧
        Holds (removedAll region keys memory) after := by
  induction keys with
  | nil => intro memory table h; exact ⟨table, .pure, h⟩
  | cons key rest ih =>
    intro memory table h
    obtain ⟨after, hrest, hafter⟩ := ih (h.erased region key)
    exact ⟨after, .bind (settles_erase store table region key) hrest, hafter⟩

/-- A region is deleted with all its entries. -/
theorem follows_delete (h : Holds memory table) (region : String) :
    Follows store (.delete region) memory table := by
  have hexists := settles_exists store table (markerName region)
  rw [h.contains_marker] at hexists
  let keys := (Memory.entries memory region).keys
  obtain ⟨middle, herase, hmiddle⟩ := settles_erase_all store region keys h
  have hmemory : (removedAll region keys memory).erase region = memory.erase region := by
    refine Table.ext_get? fun other => ?_
    rw [Table.get?_erase, Table.get?_erase]
    split
    · rfl
    next hne => exact get?_removedAll_of_ne hne keys memory
  have hdeleted := hmiddle.deleted (entries_removedAll_keys memory region)
  rw [hmemory] at hdeleted
  refine ⟨_, .bind hexists (.bind (settles_keys store h region) (.bind herase ?_)), hdeleted⟩
  exact .bind (settles_delete store middle _) .pure

/-- One call on the store is one call in memory. -/
theorem follows (store : Reliable σ) (h : Holds memory table) (call : Call) :
    Follows store call memory table := by
  cases call with
  | create region => exact follows_create h region
  | has region => exact follows_has h region
  | delete region => exact follows_delete h region
  | regions => exact follows_regions h
  | find region key => exact follows_find h region key
  | put region key response => exact follows_put h region key response
  | remove region key => exact follows_remove h region key
  | keys region => exact follows_keys h region

theorem answer_follows (store : Reliable σ) (s : σ) (h : Holds memory (store.entries s))
    (call : Call) :
    (answer store call s).1 = (Memory.answer call memory).1 ∧
      Holds (Memory.answer call memory).2 (store.entries (answer store call s).2) := by
  obtain ⟨after, hsettles, hafter⟩ := follows store h call
  obtain ⟨hreply, hentries⟩ := hsettles s rfl
  exact ⟨hreply, hentries ▸ hafter⟩

end Calls

/-! ## The host calls that are made -/

section Only

variable {region : String}

/-- A host call that lists all names or is about a name of a region. -/
def Concerns (region : String) : KeyValue.Call → Prop
  | .get name => NameOf region name
  | .set name _ => NameOf region name
  | .delete name => NameOf region name
  | .exists_ name => NameOf region name
  | .names => True

theorem only_host {call : KeyValue.Call} (h : Concerns region call) :
    Program.Only (S := KeyValue.signature) (Concerns region) (host call).run :=
  .call h fun _ => .done _

theorem only_keys (region : String) :
    Program.Only (S := KeyValue.signature) (Concerns region) (keys region).run :=
  Attempt.only_bind (only_host trivial) fun _ => Attempt.only_pure _

theorem only_erase (region key : String) :
    Program.Only (S := KeyValue.signature) (Concerns region) (erase region key).run :=
  Attempt.only_bind (only_host (NameOf.metadata key)) fun _ => only_host (NameOf.body key)

theorem only_erase_all (region : String) : ∀ keys : List String,
    Program.Only (S := KeyValue.signature) (Concerns region) (keys.forM (erase region)).run
  | [] => Attempt.only_pure _
  | key :: rest => Attempt.only_bind (only_erase region key) fun _ => only_erase_all region rest

/-- A call about a region touches the names of no other, whatever the host answers. -/
theorem only_meaning {call : Call} (hcall : call.region? = some region) :
    (meaning call).Only (Concerns region) := by
  have hmarker : Concerns region (.exists_ (markerName region)) := NameOf.marker
  cases call with
  | create name =>
    cases hcall
    refine Attempt.only_bind (only_host hmarker) fun found => ?_
    cases found with
    | true => exact Attempt.only_pure _
    | false => exact only_host NameOf.marker
  | has name =>
    cases hcall
    exact only_host hmarker
  | delete name =>
    cases hcall
    refine Attempt.only_bind (only_host hmarker) fun _ => ?_
    refine Attempt.only_bind (only_keys region) fun keys => ?_
    refine Attempt.only_bind (only_erase_all region keys) fun _ => ?_
    exact Attempt.only_bind (only_host NameOf.marker) fun _ => Attempt.only_pure _
  | regions => cases hcall
  | find name key =>
    cases hcall
    refine Attempt.only_bind (only_host (NameOf.metadata key)) fun found => ?_
    cases found with
    | none => exact Attempt.only_pure _
    | some bytes =>
      dsimp only
      cases Response.ofMetadata bytes with
      | error fault => exact Attempt.only_throw _
      | ok response =>
        refine Attempt.only_bind (only_host (NameOf.body key)) fun body => ?_
        cases body with
        | none => exact Attempt.only_throw _
        | some body => exact Attempt.only_pure _
  | put name key response =>
    cases hcall
    refine Attempt.only_bind (only_host hmarker) fun found => ?_
    cases found with
    | true =>
      exact Attempt.only_bind (only_host (NameOf.body key)) fun _ =>
        only_host (NameOf.metadata key)
    | false => exact Attempt.only_throw _
  | remove name key =>
    cases hcall
    refine Attempt.only_bind (only_host (NameOf.metadata key)) fun _ => ?_
    exact Attempt.only_bind (only_erase region key) fun _ => Attempt.only_pure _
  | keys name =>
    cases hcall
    exact only_keys region

end Only

/-! ## Runs -/

section Runs

variable {σ : Type}

/-- A program of calls yields on the store what it yields in memory. -/
theorem run_follows {α : Type} (store : Reliable σ) (program : Program Storage.signature α) :
    ∀ {memory : Memory} {s : σ}, Holds memory (store.entries s) →
      (program.run (answer store) s).1 = (program.run Memory.answer memory).1 ∧
        Holds (program.run Memory.answer memory).2
          (store.entries (program.run (answer store) s).2) := by
  induction program with
  | done value => intro memory s h; exact ⟨rfl, h⟩
  | call request next ih =>
    intro memory s h
    obtain ⟨hreply, hafter⟩ := answer_follows store s h request
    have hmemory : (Program.call request next).run Memory.answer memory =
        (next (answer store request s).1).run Memory.answer (Memory.answer request memory).2 := by
      rw [hreply]
      rfl
    rw [hmemory]
    exact ih _ hafter

/-- What is in memory after some calls. -/
abbrev memoryAfter (calls : List Call) : Memory := ((inTurn calls).run Memory.answer .empty).2

/-- What a region is after some calls hangs only on those about it. -/
theorem get?_run_filter (region : String) (calls : List Call) : ∀ {memory memory' : Memory},
    memory'.get? region = memory.get? region →
      ((inTurn (calls.filter fun call => call.region? == some region)).run Memory.answer
          memory').2.get? region =
        ((inTurn calls).run Memory.answer memory).2.get? region := by
  induction calls with
  | nil => intro memory memory' h; exact h
  | cons call rest ih =>
    intro memory memory' h
    rw [run_inTurn_cons]
    by_cases hcall : call.region? = some region
    · rw [List.filter_cons_of_pos (by simp [hcall]), run_inTurn_cons]
      exact ih (Memory.answer_congr hcall h).2
    · rw [List.filter_cons_of_neg (by simp [hcall])]
      exact ih (h.trans (Memory.answer_frame call memory hcall).symm)

/-- A storage in a store that does not fail and keeps nothing yet answers every call as one in
memory does. A call on a region asks the host for names of that region alone, is answered as if no
call had been about another, leaves all that is kept of any other, and if it deletes the region
nothing is kept of that. -/
theorem follows_memory (store : Reliable σ) {start : σ} (hstart : store.entries start = .empty)
    (calls : List Call) :
    let replies := fun calls => ((inTurn calls).run (answer store) start).1
    let after := fun calls => ((inTurn calls).run (answer store) start).2
    replies calls = ((inTurn calls).run Memory.answer .empty).1 ∧
    ∀ call region, call.region? = some region →
      (meaning call).Only (Concerns region) ∧
      (answer store call (after calls)).1 =
        (answer store call (after (calls.filter fun past => past.region? == some region))).1 ∧
      (∀ other name, other ≠ region → NameOf other name →
        (store.entries (answer store call (after calls)).2).get? name =
          (store.entries (after calls)).get? name) ∧
      (call = .delete region → ∀ name, NameOf region name →
        (store.entries (answer store call (after calls)).2).get? name = none) := by
  intro replies after
  have hempty : Holds .empty (store.entries start) := hstart ▸ .empty
  have hafter : ∀ calls, Holds (memoryAfter calls) (store.entries (after calls)) :=
    fun calls => (run_follows store (inTurn calls) hempty).2
  refine ⟨(run_follows store (inTurn calls) hempty).1, fun call region hcall => ?_⟩
  obtain ⟨hreply, hlater⟩ := answer_follows store (after calls) (hafter calls) call
  refine ⟨only_meaning hcall, ?_, fun other name hne hname => ?_, ?_⟩
  · obtain ⟨hreply', _⟩ := answer_follows store _ (hafter (calls.filter _)) call
    rw [hreply, hreply']
    exact (Memory.answer_congr hcall (get?_run_filter region calls rfl).symm).1
  · refine (hafter calls).get?_congr hlater ?_ hname
    exact Memory.answer_frame call _ fun heq => hne (Option.some.inj (heq.symm.trans hcall))
  · rintro rfl name hname
    refine hlater.get?_of_absent ?_ hname
    show (Table.erase (memoryAfter calls) region).get? region = none
    rw [Table.get?_erase, if_pos rfl]

/-- Regions whose names hold colons or nothing, in a host that was empty. -/
theorem follows_memory_of_colons :
    let start : { host : Host // host.failing = [] } := ⟨.empty, rfl⟩
    let response : Response := ⟨404, .empty, [7]⟩
    let calls : List Call := [.create ":", .create "", .put "" ":" response,
      .put "a" "" response, .keys ":", .delete ":", .find "" ":"]
    Host.reliable.entries start = .empty ∧
      ((inTurn calls).run (answer Host.reliable) start).1 =
        [⟨.create ":", .ok ()⟩, ⟨.create "", .ok ()⟩, ⟨.put "" ":" response, .ok ()⟩,
          ⟨.put "a" "" response, .error (.regionMissing "a")⟩, ⟨.keys ":", .ok []⟩,
          ⟨.delete ":", .ok true⟩, ⟨.find "" ":", .ok (some response)⟩] :=
  ⟨rfl, (follows_memory Host.reliable rfl _).1⟩

end Runs

end AssetCache.Storage.Keyed
