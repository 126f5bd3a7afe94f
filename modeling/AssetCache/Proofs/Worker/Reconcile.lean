import AssetCache.Proofs.Worker.Strict
import AssetCache.Worker.Activate

/-!
# What bringing the content up to date does

`reconcile` is taken apart here into reading the record, eviction, copying and
promotion. Of each part four things are said: it is strict, its storage calls are some
of a short list (`Upkeep`), it claims clients once or never, and where no call is
refused it ends in one value and one storage.

The last of these is an equation about tables for each part. Eviction is a filter
(`settles_evict`), copying lays the staged entries over the content
(`settles_copyEach`).
-/

set_option autoImplicit false

namespace AssetCache.Worker

open Storage (Memory)

variable {worker : Worker} {memory : Memory}

/-! ## Copying, call by call -/

/-- Copy the entries of some keys, one after the other. -/
def copyEach (target source : String) : List String → Step (List String)
  | [] => return []
  | key :: rest => do
    match ← store (.find source key) with
    | none => copyEach target source rest
    | some response =>
      store (.put target key response)
      let copied ← copyEach target source rest
      return key :: copied

/-- To copy a region is to list its keys and to copy one entry after the other. -/
theorem copyInto_eq (target source : String) :
    onStorage (Storage.copyInto target source) =
      store (.keys source) >>= copyEach target source := by
  rw [Storage.copyInto, onStorage_bind]
  refine congrArg _ (funext fun keys => ?_)
  induction keys with
  | nil => rfl
  | cons key rest ih =>
    rw [List.mapM_cons, bind_assoc, bind_assoc, onStorage_bind, copyEach]
    refine congrArg _ (funext fun found => ?_)
    cases found with
    | none =>
      rw [pure_bind, bind_assoc]
      exact ih
    | some response =>
      rw [bind_assoc, onStorage_bind]
      refine congrArg _ (funext fun _ => ?_)
      rw [pure_bind, bind_assoc, ← ih, onStorage_bind, onStorage_bind, bind_assoc]
      rfl

/-! ## Ends at the first failure -/

theorem strict_readRecord (worker : Worker) : Strict worker.readRecord.run := by
  refine Strict.bind (Strict.store _) fun found => ?_
  cases found with
  | none => exact Strict.pure _
  | some response =>
    dsimp only
    cases Manifest.ofBytes response.body with
    | ok manifest => exact Strict.pure _
    | error fault => exact Strict.throw _

theorem strict_evict (worker : Worker) (previous : Manifest) :
    ∀ urls, Strict (worker.evict previous urls).run
  | [] => Strict.pure _
  | url :: rest => by
    rw [evict]
    split
    · exact Strict.bind (strict_evict worker previous rest) fun _ => Strict.pure _
    · exact Strict.bind (Strict.store _) fun _ =>
        Strict.bind (strict_evict worker previous rest) fun _ => Strict.pure _

theorem strict_copyEach (target source : String) :
    ∀ keys, Strict (copyEach target source keys).run
  | [] => Strict.pure _
  | key :: rest => by
    refine Strict.bind (Strict.store _) fun found => ?_
    cases found with
    | none => exact strict_copyEach target source rest
    | some response =>
      exact Strict.bind (Strict.store _) fun _ =>
        Strict.bind (strict_copyEach target source rest) fun _ => Strict.pure _

theorem strict_promote (worker : Worker) : Strict worker.promote.run := by
  rw [promote, copyInto_eq]
  refine Strict.bind (Strict.bind (Strict.store _) fun keys => strict_copyEach _ _ keys)
    fun _ => ?_
  refine Strict.bind (Strict.store _) fun _ => Strict.bind (Strict.store _) fun _ => ?_
  exact Strict.bind (Strict.act fun call heq => by cases heq) fun _ => Strict.pure _

/-- The first storage call that fails ends the reconciliation. -/
theorem strict_reconcile (worker : Worker) : Strict worker.reconcile.run := by
  refine Strict.bind (Strict.store _) fun _ => Strict.bind (Strict.store _) fun _ =>
    Strict.bind (Strict.store _) fun _ => Strict.bind (strict_readRecord worker) fun found => ?_
  cases found with
  | none =>
    exact Strict.bind (Strict.store _) fun _ => Strict.bind (Strict.store _) fun _ =>
      Strict.bind (strict_promote worker) fun _ => Strict.pure _
  | some previous =>
    exact Strict.bind (Strict.store _) fun urls =>
      Strict.bind (strict_evict worker previous urls) fun _ =>
        Strict.bind (strict_promote worker) fun _ => Strict.pure _

/-! ## The calls that are made -/

theorem content_mem (worker : Worker) : worker.content ∈ worker.config.regions.all :=
  .head _

theorem temp_mem (worker : Worker) : worker.temp ∈ worker.config.regions.all :=
  .tail _ (.head _)

theorem records_mem (worker : Worker) : worker.records ∈ worker.config.regions.all :=
  .tail _ (.tail _ (.head _))

/-- The storage calls that a reconciliation may make: it writes to the content and the record. -/
inductive Upkeep (worker : Worker) : Storage.Call → Prop
  | create {region : String} : region ∈ worker.config.regions.all → Upkeep worker (.create region)
  | delete {region : String} : region ∈ worker.config.regions.all → Upkeep worker (.delete region)
  | find {region : String} (key : String) : region ∈ worker.config.regions.all →
      Upkeep worker (.find region key)
  | keys {region : String} : region ∈ worker.config.regions.all → Upkeep worker (.keys region)
  | remove (url : String) : Upkeep worker (.remove worker.content url)
  | copy (url : String) (response : Response) : Upkeep worker (.put worker.content url response)
  | record : Upkeep worker
      (.put worker.records worker.recordUrl (.json worker.build.resources.toBytes))

theorem Upkeep.within {call : Storage.Call} (h : Upkeep worker call) :
    Within worker.config.regions.all (.storage call) := by
  cases h with
  | create hregion => exact ⟨_, hregion, rfl⟩
  | delete hregion => exact ⟨_, hregion, rfl⟩
  | find key hregion => exact ⟨_, hregion, rfl⟩
  | keys hregion => exact ⟨_, hregion, rfl⟩
  | remove url => exact ⟨_, worker.content_mem, rfl⟩
  | copy url response => exact ⟨_, worker.content_mem, rfl⟩
  | record => exact ⟨_, worker.records_mem, rfl⟩

/-- Nothing is written to what is staged. -/
theorem Upkeep.region_of_put {region url : String} {response : Response}
    (h : Upkeep worker (.put region url response)) :
    region = worker.content ∨ region = worker.records := by
  cases h with
  | copy => exact .inl rfl
  | record => exact .inr rfl

section Calls

variable {ok : Action → Prop} (hstore : ∀ call, Upkeep worker call → ok (.storage call))
include hstore

theorem only_readRecord : Program.Only (S := signature) ok worker.readRecord.run := by
  refine Attempt.only_bind (only_store (hstore _ (.find _ worker.records_mem))) fun found => ?_
  cases found with
  | none => exact Attempt.only_pure _
  | some response =>
    dsimp only
    cases Manifest.ofBytes response.body with
    | ok manifest => exact Attempt.only_pure _
    | error fault => exact Attempt.only_throw _

theorem only_evict (previous : Manifest) :
    ∀ urls, Program.Only (S := signature) ok (worker.evict previous urls).run
  | [] => Attempt.only_pure _
  | url :: rest => by
    rw [evict]
    split
    · exact Attempt.only_bind (only_evict previous rest) fun _ => Attempt.only_pure _
    · exact Attempt.only_bind (only_store (hstore _ (.remove url))) fun _ =>
        Attempt.only_bind (only_evict previous rest) fun _ => Attempt.only_pure _

theorem only_copyEach :
    ∀ keys, Program.Only (S := signature) ok (copyEach worker.content worker.temp keys).run
  | [] => Attempt.only_pure _
  | key :: rest => by
    refine Attempt.only_bind (only_store (hstore _ (.find key worker.temp_mem))) fun found => ?_
    cases found with
    | none => exact only_copyEach rest
    | some response =>
      exact Attempt.only_bind (only_store (hstore _ (.copy key response))) fun _ =>
        Attempt.only_bind (only_copyEach rest) fun _ => Attempt.only_pure _

theorem only_promote (hclaim : ok .claimClients) :
    Program.Only (S := signature) ok worker.promote.run := by
  rw [promote, copyInto_eq]
  refine Attempt.only_bind (Attempt.only_bind (only_store (hstore _ (.keys worker.temp_mem)))
    (only_copyEach hstore)) fun _ => ?_
  refine Attempt.only_bind (only_store (hstore _ (.delete worker.temp_mem))) fun _ => ?_
  refine Attempt.only_bind (only_store (hstore _ .record)) fun _ => ?_
  exact Attempt.only_bind (only_stepAct hclaim) fun _ => Attempt.only_pure _

/-- A reconciliation makes no other storage calls, and may claim clients. -/
theorem only_reconcile (hclaim : ok .claimClients) :
    Program.Only (S := signature) ok worker.reconcile.run := by
  refine Attempt.only_bind (only_store (hstore _ (.create worker.content_mem))) fun _ => ?_
  refine Attempt.only_bind (only_store (hstore _ (.create worker.temp_mem))) fun _ => ?_
  refine Attempt.only_bind (only_store (hstore _ (.create worker.records_mem))) fun _ => ?_
  refine Attempt.only_bind (only_readRecord hstore) fun found => ?_
  cases found with
  | none =>
    refine Attempt.only_bind (only_store (hstore _ (.delete worker.content_mem))) fun _ => ?_
    refine Attempt.only_bind (only_store (hstore _ (.create worker.content_mem))) fun _ => ?_
    exact Attempt.only_bind (only_promote hstore hclaim) fun _ => Attempt.only_pure _
  | some previous =>
    refine Attempt.only_bind (only_store (hstore _ (.keys worker.content_mem))) fun urls => ?_
    refine Attempt.only_bind (only_evict hstore previous urls) fun _ => ?_
    exact Attempt.only_bind (only_promote hstore hclaim) fun _ => Attempt.only_pure _

end Calls

/-- The storage calls of a reconciliation stay within the three regions. -/
theorem within_reconcile (worker : Worker) :
    Program.Only (S := signature) (Within worker.config.regions.all) worker.reconcile.run :=
  only_reconcile (fun _ hcall => hcall.within) trivial

/-- All of a promotion but its last action. -/
theorem claims_promote (worker : Worker) : Claims worker.promote 1 := by
  have hstore : ∀ {call : Storage.Call}, Claims (store call) 0 := fun {call} =>
    Claims.of_only (only_store fun heq => by cases heq)
  rw [promote, copyInto_eq]
  refine Claims.bind (Claims.bind hstore fun keys => ?_) fun copied => ?_
  · exact Claims.of_only (only_copyEach (fun _ _ heq => by cases heq) keys)
  · exact Claims.bind hstore fun _ => Claims.bind hstore fun _ =>
      Claims.map (fun _ => copied) Claims.claimClients

/-- Clients are claimed once if the reconciliation succeeds, and else never. -/
theorem claims_reconcile (worker : Worker) : Claims worker.reconcile 1 := by
  have hstore : ∀ {call : Storage.Call}, Claims (store call) 0 := fun {call} =>
    Claims.of_only (only_store fun heq => by cases heq)
  refine Claims.bind hstore fun _ => Claims.bind hstore fun _ => Claims.bind hstore fun _ =>
    Claims.bind (.of_only (only_readRecord fun _ _ heq => by cases heq)) fun found => ?_
  cases found with
  | none =>
    exact Claims.bind hstore fun _ => Claims.bind hstore fun _ =>
      Claims.map Activation.fresh (claims_promote worker)
  | some previous =>
    refine Claims.bind hstore fun urls => ?_
    refine Claims.bind (.of_only (only_evict (fun _ _ heq => by cases heq) previous urls))
      fun sorted => ?_
    exact Claims.map (Activation.upgraded sorted.1 sorted.2) (claims_promote worker)

/-! ## Where no call is refused -/

/-- What is recorded, as far as it can be read. -/
def recorded? (worker : Worker) (memory : Memory) : Option (Except Json.Fault Manifest) :=
  ((Memory.entries memory worker.records).get? worker.recordUrl).map fun response =>
    Manifest.ofBytes response.body

/-- Reading the record ends in what is recorded. -/
theorem settles_readRecord (worker : Worker) (memory : Memory) :
    Settles worker.readRecord memory
      (match worker.recorded? memory with
        | none => .ok none
        | some (.ok manifest) => .ok (some manifest)
        | some (.error fault) => .error (.record fault)) memory := by
  have hfind : Settles (store (.find worker.records worker.recordUrl)) memory
      (.ok ((Memory.entries memory worker.records).get? worker.recordUrl)) memory :=
    .store rfl
  rw [recorded?]
  cases hentry : (Memory.entries memory worker.records).get? worker.recordUrl with
  | none =>
    rw [hentry] at hfind
    exact .bind hfind .pure
  | some response =>
    rw [hentry] at hfind
    refine .bind hfind ?_
    dsimp only [Option.map_some]
    cases Manifest.ofBytes response.body with
    | ok manifest => exact .pure
    | error fault => exact .throw

/-- To take out one name and then others is to take out all of them. -/
theorem filter_erase {α : Type} (table : Table α) (name : String) (dropped : List String) :
    (table.erase name).filter (fun u => !dropped.contains u) =
      table.filter fun u => !(name :: dropped).contains u := by
  refine Table.ext_get? fun u => ?_
  rw [Table.get?_filter, Table.get?_filter, Table.get?_erase, List.contains_cons]
  by_cases h : u = name
  · simp [h]
  · simp [h]

/-- Eviction splits the URLs by whether they are reusable and takes out those that are not. -/
theorem settles_evict (worker : Worker) (previous : Manifest) (urls : List String) :
    ∀ (memory : Memory) {table : Table Response}, memory.get? worker.content = some table →
      Settles (worker.evict previous urls) memory
        (.ok (urls.filter (fun u => !worker.isReusable previous u),
          urls.filter (worker.isReusable previous)))
        (memory.insert worker.content (table.filter fun u =>
          !(urls.filter fun u => !worker.isReusable previous u).contains u)) := by
  induction urls with
  | nil =>
    intro memory table hget
    have hall : table.filter (fun u => !([] : List String).contains u) = table :=
      Table.ext_get? fun u => by rw [Table.get?_filter]; rfl
    show Settles _ memory _ (memory.insert worker.content (table.filter _))
    rw [List.filter_nil, hall, Table.insert_of_get? hget]
    exact .pure
  | cons url rest ih =>
    intro memory table hget
    rw [evict]
    cases hreusable : worker.isReusable previous url with
    | true =>
      rw [if_pos rfl, List.filter_cons_of_neg (by simp [hreusable]),
        List.filter_cons_of_pos hreusable]
      exact .bind (ih memory hget) .pure
    | false =>
      rw [if_neg Bool.false_ne_true, List.filter_cons_of_pos (by simp [hreusable]),
        List.filter_cons_of_neg (by simp [hreusable])]
      have hrest := ih (memory.insert worker.content (table.erase url))
        (Table.get?_insert_self _ _ _)
      rw [Table.insert_insert, filter_erase] at hrest
      exact .bind (.store (Memory.answer_remove hget)) (.bind hrest .pure)

/-- Copying lays the entries that are copied over what the target held. -/
theorem settles_copyEach {target source : String} (hne : target ≠ source) {staged : Table Response}
    (pairs : List (String × Response)) :
    ∀ {memory : Memory} {table : Table Response}, memory.get? target = some table →
      Memory.entries memory source = staged →
      (∀ pair ∈ pairs, staged.get? pair.1 = some pair.2) →
      Settles (copyEach target source (pairs.map Prod.fst)) memory (.ok (pairs.map Prod.fst))
        (memory.insert target (table.insertAll pairs)) := by
  induction pairs with
  | nil =>
    intro memory table hget _ _
    rw [Table.insertAll, List.foldl_nil, Table.insert_of_get? hget]
    exact .pure
  | cons pair rest ih =>
    intro memory table hget hsource hpairs
    have hfind : Memory.answer (.find source pair.1) memory = (.ok (some pair.2), memory) := by
      rw [Memory.answer, hsource, hpairs pair List.mem_cons_self]
    have hframe : Memory.entries (memory.insert target (table.insert pair.1 pair.2)) source =
        staged := by
      rw [← hsource]
      exact Memory.entries_congr (Table.get?_insert_of_ne _ _ hne)
    have hrest := ih (Table.get?_insert_self _ _ _) hframe fun p hp =>
      hpairs p (List.mem_cons_of_mem _ hp)
    rw [Table.insert_insert] at hrest
    exact .bind (.store hfind) (.bind (.store (Memory.answer_put hget)) (.bind hrest .pure))

/-- Names without a repetition are pairwise distinct. -/
theorem ne_of_nodup (h : worker.config.regions.all.Nodup) :
    worker.content ≠ worker.temp ∧ worker.content ≠ worker.records ∧
      worker.temp ≠ worker.records := by
  obtain ⟨hcontent, hrest⟩ := List.nodup_cons.mp h
  obtain ⟨htemp, _⟩ := List.nodup_cons.mp hrest
  refine ⟨fun heq => hcontent ?_, fun heq => hcontent ?_, fun heq => htemp ?_⟩
  · exact List.mem_cons.mpr (.inl heq)
  · exact List.mem_cons_of_mem _ (List.mem_cons.mpr (.inl heq))
  · exact List.mem_cons.mpr (.inl heq)

/-- A promotion lays what is staged over the content, drops it and records the manifest. -/
theorem settles_promote (h : worker.config.regions.all.Nodup)
    {table staged records : Table Response}
    (hcontent : memory.get? worker.content = some table)
    (htemp : memory.get? worker.temp = some staged)
    (hrecords : memory.get? worker.records = some records) :
    Settles worker.promote memory (.ok staged.keys)
      (((memory.insert worker.content (table.insertAll staged.entries)).erase worker.temp).insert
        worker.records (records.insert worker.recordUrl (.json worker.build.resources.toBytes))) := by
  obtain ⟨hct, hcr, htr⟩ := ne_of_nodup h
  have hstaged : Memory.entries memory worker.temp = staged := Memory.entries_of_get? htemp
  have hkeys : Settles (store (.keys worker.temp)) memory (.ok staged.keys) memory :=
    .store (by rw [Memory.answer, hstaged])
  have hcopy := settles_copyEach hct staged.entries hcontent hstaged fun pair hpair =>
    staged.mem_entries_iff.mp hpair
  have hrecords' :
      ((memory.insert worker.content (table.insertAll staged.entries)).erase worker.temp).get?
        worker.records = some records := by
    rw [Table.get?_erase, if_neg (Ne.symm htr), Table.get?_insert_of_ne _ _ hcr, hrecords]
  rw [promote, copyInto_eq]
  refine .bind (.bind hkeys hcopy) (.bind (.store rfl) ?_)
  exact .bind (.store (Memory.answer_put hrecords')) (.bind .claimClients .pure)

/-- What a promotion leaves, given the content it arrives at. -/
structure Promoted (worker : Worker) (before : Memory) (content : Table Response)
    (after : Memory) : Prop where
  content : after.get? worker.content = some content
  temp : after.get? worker.temp = none
  records : after.get? worker.records = some ((Memory.entries before worker.records).insert
    worker.recordUrl (.json worker.build.resources.toBytes))
  /-- Regions that are none of the three are as before. -/
  others : ∀ region ∉ worker.config.regions.all, after.get? region = before.get? region

/-- A storage in which the three regions have been opened. -/
def opened (worker : Worker) (memory : Memory) : Memory :=
  Memory.opened (Memory.opened (Memory.opened memory worker.content) worker.temp) worker.records

/-- Opening the three regions changes the entries of none. -/
theorem entries_opened (worker : Worker) (memory : Memory) (region : String) :
    Memory.entries (worker.opened memory) region = Memory.entries memory region := by
  rw [opened, Memory.entries_opened, Memory.entries_opened, Memory.entries_opened]

/-- Each of the three regions is there once they have been opened. -/
theorem get?_opened (h : worker.config.regions.all.Nodup) (memory : Memory) {region : String}
    (hregion : region ∈ worker.config.regions.all) :
    (worker.opened memory).get? region = some (Memory.entries memory region) := by
  obtain ⟨hct, hcr, htr⟩ := ne_of_nodup h
  rcases hregion with _ | ⟨_, _ | ⟨_, _ | ⟨_, hnil⟩⟩⟩
  · show (worker.opened memory).get? worker.content = some (Memory.entries memory worker.content)
    rw [opened, Memory.get?_opened_of_ne _ (Ne.symm hcr), Memory.get?_opened_of_ne _ (Ne.symm hct),
      Memory.get?_opened_self]
  · show (worker.opened memory).get? worker.temp = some (Memory.entries memory worker.temp)
    rw [opened, Memory.get?_opened_of_ne _ (Ne.symm htr), Memory.get?_opened_self,
      Memory.entries_opened]
  · show (worker.opened memory).get? worker.records = some (Memory.entries memory worker.records)
    rw [opened, Memory.get?_opened_self, Memory.entries_opened, Memory.entries_opened]
  · cases hnil

theorem get?_opened_of_notMem (memory : Memory) {region : String}
    (hregion : region ∉ worker.config.regions.all) :
    (worker.opened memory).get? region = memory.get? region := by
  have hne : ∀ name ∈ worker.config.regions.all, name ≠ region := fun name hname heq =>
    hregion (heq ▸ hname)
  rw [opened, Memory.get?_opened_of_ne _ (hne _ worker.records_mem),
    Memory.get?_opened_of_ne _ (hne _ worker.temp_mem),
    Memory.get?_opened_of_ne _ (hne _ worker.content_mem)]

/-- A promotion from opened regions, whatever was made of the content in between. -/
theorem exists_promoted (h : worker.config.regions.all.Nodup) (memory : Memory)
    (middle : Memory) {table : Table Response}
    (hcontent : middle.get? worker.content = some table)
    (hmiddle : ∀ region, region ≠ worker.content →
      middle.get? region = (worker.opened memory).get? region) :
    ∃ after, Settles worker.promote middle (.ok (Memory.entries memory worker.temp).keys) after ∧
      Promoted worker memory
        (table.insertAll (Memory.entries memory worker.temp).entries) after := by
  obtain ⟨hct, hcr, htr⟩ := ne_of_nodup h
  have htemp := (hmiddle _ (Ne.symm hct)).trans (get?_opened h memory worker.temp_mem)
  have hrecords := (hmiddle _ (Ne.symm hcr)).trans (get?_opened h memory worker.records_mem)
  refine ⟨_, settles_promote h hcontent htemp hrecords, ?_, ?_, ?_, fun region hregion => ?_⟩
  · rw [Table.get?_insert_of_ne _ _ (Ne.symm hcr), Table.get?_erase, if_neg hct,
      Table.get?_insert_self]
  · rw [Table.get?_insert_of_ne _ _ (Ne.symm htr), Table.get?_erase, if_pos rfl]
  · exact Table.get?_insert_self _ _ _
  · have hne : ∀ name ∈ worker.config.regions.all, name ≠ region := fun name hname heq =>
      hregion (heq ▸ hname)
    rw [Table.get?_insert_of_ne _ _ (hne _ worker.records_mem), Table.get?_erase,
      if_neg (Ne.symm (hne _ worker.temp_mem)),
      Table.get?_insert_of_ne _ _ (hne _ worker.content_mem),
      hmiddle _ (Ne.symm (hne _ worker.content_mem)), get?_opened_of_notMem memory hregion]

theorem recorded?_opened (worker : Worker) (memory : Memory) :
    worker.recorded? (worker.opened memory) = worker.recorded? memory := by
  rw [recorded?, entries_opened]
  rfl

/-- Without a record the content becomes what was staged. -/
theorem settles_reconcile_fresh (h : worker.config.regions.all.Nodup) (memory : Memory)
    (hrecord : worker.recorded? memory = none) :
    ∃ after, Settles worker.reconcile memory
        (.ok (.fresh (Memory.entries memory worker.temp).keys)) after ∧
      Promoted worker memory (Memory.entries memory worker.temp) after := by
  have hread := settles_readRecord worker (worker.opened memory)
  rw [recorded?_opened, hrecord] at hread
  -- the content is deleted and opened again, so it is empty when the copying begins
  have herased : ((worker.opened memory).erase worker.content).get? worker.content = none := by
    rw [Table.get?_erase, if_pos rfl]
  have hempty : (Memory.opened ((worker.opened memory).erase worker.content)
      worker.content).get? worker.content = some .empty := by
    rw [Memory.get?_opened_self, Memory.entries_of_get?_none herased]
  obtain ⟨after, hpromote, hafter⟩ := exists_promoted h memory _ hempty fun region hne => by
    rw [Memory.get?_opened_of_ne _ (Ne.symm hne), Table.get?_erase, if_neg hne]
  rw [show Table.empty.insertAll (Memory.entries memory worker.temp).entries = _ from
    Table.ofList_entries _] at hafter
  refine ⟨after, ?_, hafter⟩
  exact .bind (.store rfl) (.bind (.store rfl) (.bind (.store rfl) (.bind hread
    (.bind (.store rfl) (.bind (.store rfl) (.bind hpromote .pure))))))

/-- With a record that can be read the content keeps what is reusable under what was staged. -/
theorem settles_reconcile_upgraded (h : worker.config.regions.all.Nodup) (memory : Memory)
    {previous : Manifest} (hrecord : worker.recorded? memory = some (.ok previous)) :
    ∃ after, Settles worker.reconcile memory
        (.ok (.upgraded
          ((Memory.entries memory worker.content).keys.filter fun u =>
            !worker.isReusable previous u)
          ((Memory.entries memory worker.content).keys.filter (worker.isReusable previous))
          (Memory.entries memory worker.temp).keys)) after ∧
      Promoted worker memory
        (((Memory.entries memory worker.content).filter (worker.isReusable previous)).insertAll
          (Memory.entries memory worker.temp).entries) after := by
  have hread := settles_readRecord worker (worker.opened memory)
  rw [recorded?_opened, hrecord] at hread
  have hcontent := get?_opened h memory worker.content_mem
  have hkeys : Settles (store (.keys worker.content)) (worker.opened memory)
      (.ok (Memory.entries memory worker.content).keys) (worker.opened memory) :=
    .store (by rw [Memory.answer, entries_opened])
  have hevict := settles_evict worker previous (Memory.entries memory worker.content).keys _
    hcontent
  -- every key has been looked at, so what is left is what is reusable
  have hkept : (Memory.entries memory worker.content).filter (fun u =>
      !((Memory.entries memory worker.content).keys.filter fun u =>
        !worker.isReusable previous u).contains u) =
      (Memory.entries memory worker.content).filter (worker.isReusable previous) := by
    refine Table.ext_get? fun u => ?_
    rw [Table.get?_filter, Table.get?_filter]
    cases hget : (Memory.entries memory worker.content).get? u with
    | none => rw [ite_self, ite_self]
    | some response =>
      have hmem : u ∈ (Memory.entries memory worker.content).keys := by
        rw [Table.mem_keys_iff, Table.contains, hget]
        rfl
      cases hreusable : worker.isReusable previous u <;> simp [hmem, hreusable]
  rw [hkept] at hevict
  obtain ⟨after, hpromote, hafter⟩ := exists_promoted h memory
    ((worker.opened memory).insert worker.content _)
    (Table.get?_insert_self _ _ _) fun region hne => Table.get?_insert_of_ne _ _ (Ne.symm hne)
  refine ⟨after, ?_, hafter⟩
  exact .bind (.store rfl) (.bind (.store rfl) (.bind (.store rfl) (.bind hread
    (.bind hkeys (.bind hevict (.bind hpromote .pure))))))

/-- A record that cannot be read ends the reconciliation, whatever else there is. -/
theorem settles_reconcile_unreadable (worker : Worker) (memory : Memory) {fault : Json.Fault}
    (hrecord : worker.recorded? memory = some (.error fault)) :
    Settles worker.reconcile memory (.error (.record fault)) (worker.opened memory) := by
  have hread := settles_readRecord worker (worker.opened memory)
  rw [recorded?_opened, hrecord] at hread
  exact .bind (.store rfl) (.bind (.store rfl) (.bind (.store rfl) (.bind_error hread)))

end AssetCache.Worker
