import AssetCache.Proofs.Listing
import AssetCache.Storage.Memory

/-!
# What the calls of a storage in memory do

A call changes no region but the one that it is about (`answer_frame`), and sees no other
(`answer_congr`). What it does to that region is said by one equation a call, about the
table of its entries.
-/

set_option autoImplicit false

namespace AssetCache.Storage.Memory

variable {memory : Memory} {region other key : String} {response : Response}

/-! ## Regions -/

/-- A storage in which a region has been opened. -/
def opened (memory : Memory) (region : String) : Memory :=
  if memory.contains region then memory else memory.insert region .empty

theorem answer_create (memory : Memory) (region : String) :
    answer (.create region) memory = (.ok (), opened memory region) := rfl

/-- A region that has been opened holds what it held. -/
theorem get?_opened_self (memory : Memory) (region : String) :
    (opened memory region).get? region = some (entries memory region) := by
  unfold opened entries
  split
  next h =>
    obtain ⟨table, htable⟩ := (Table.contains_eq_true_iff _ _).mp h
    rw [htable]
    rfl
  next h =>
    rw [Bool.not_eq_true, Table.contains_eq_false_iff] at h
    rw [Table.get?_insert_self, h]
    rfl

theorem get?_opened_of_ne (memory : Memory) (h : region ≠ other) :
    (opened memory region).get? other = memory.get? other := by
  unfold opened
  split
  · rfl
  · exact Table.get?_insert_of_ne _ _ h

/-- Opening a region changes the entries of none. -/
theorem entries_opened (memory : Memory) (region other : String) :
    entries (opened memory region) other = entries memory other := by
  by_cases h : region = other
  · subst h
    rw [entries, get?_opened_self]
    rfl
  · rw [entries, get?_opened_of_ne memory h]
    rfl

theorem entries_of_get? {table : Table Response} (h : memory.get? region = some table) :
    entries memory region = table := by
  rw [entries, h]
  rfl

theorem entries_of_get?_none (h : memory.get? region = none) : entries memory region = .empty := by
  rw [entries, h]
  rfl

theorem entries_congr {memory' : Memory} (h : memory'.get? region = memory.get? region) :
    entries memory' region = entries memory region := by
  rw [entries, h]
  rfl

theorem entries_insert (memory : Memory) (region other : String) (table : Table Response) :
    entries (memory.insert region table) other =
      if region = other then table else entries memory other := by
  rw [entries, Table.get?_insert]
  split <;> rfl

theorem entries_erase (memory : Memory) (region other : String) :
    entries (memory.erase region) other =
      if other = region then .empty else entries memory other := by
  rw [entries, Table.get?_erase]
  split <;> rfl

/-! ## Entries -/

/-- A write to a region that is there. -/
theorem answer_put {table : Table Response} (h : memory.get? region = some table) :
    answer (.put region key response) memory =
      (.ok (), memory.insert region (table.insert key response)) := by
  simp only [answer, h]

theorem answer_put_missing (h : memory.get? region = none) :
    answer (.put region key response) memory = (.error (.regionMissing region), memory) := by
  simp only [answer, h]

theorem answer_remove {table : Table Response} (h : memory.get? region = some table) :
    answer (.remove region key) memory =
      (.ok (table.contains key), memory.insert region (table.erase key)) := by
  simp only [answer, h]

theorem answer_remove_missing (h : memory.get? region = none) :
    answer (.remove region key) memory = (.ok false, memory) := by
  simp only [answer, h]

/-- A region stays when an entry of it is removed, and is not made by it. -/
theorem contains_answer_remove (memory : Memory) (region key : String) :
    (answer (.remove region key) memory).2.contains region = memory.contains region := by
  cases hget : memory.get? region with
  | none => rw [answer_remove_missing hget]
  | some table =>
    rw [answer_remove hget, (Table.contains_eq_true_iff _ _).mpr ⟨table, hget⟩]
    exact (Table.contains_eq_true_iff _ _).mpr ⟨_, Table.get?_insert_self _ _ _⟩

theorem entries_answer_remove (memory : Memory) (region key : String) :
    entries (answer (.remove region key) memory).2 region = (entries memory region).erase key := by
  cases hget : memory.get? region with
  | none => rw [answer_remove_missing hget, entries_of_get?_none hget]; rfl
  | some table =>
    rw [answer_remove hget, entries_of_get? hget, entries_of_get? (Table.get?_insert_self _ _ _)]

/-! ## Frames -/

/-- A call changes no region but the one that it is about. -/
theorem answer_frame (call : Call) (memory : Memory) (h : call.region? ≠ some region) :
    (answer call memory).2.get? region = memory.get? region := by
  have hne : ∀ name, call.region? = some name → name ≠ region := fun name hname heq =>
    h (heq ▸ hname)
  cases call with
  | create name => exact get?_opened_of_ne memory (hne name rfl)
  | has name => rfl
  | delete name =>
    show (memory.erase name).get? region = _
    rw [Table.get?_erase, if_neg fun heq => hne name rfl heq.symm]
  | regions => rfl
  | find name key => rfl
  | put name key response =>
    cases hget : memory.get? name with
    | none => rw [answer_put_missing hget]
    | some table => rw [answer_put hget, Table.get?_insert_of_ne _ _ (hne name rfl)]
  | remove name key =>
    cases hget : memory.get? name with
    | none => rw [answer_remove_missing hget]
    | some table => rw [answer_remove hget, Table.get?_insert_of_ne _ _ (hne name rfl)]
  | keys name => rfl

/-- A call sees no region but the one that it is about. -/
theorem answer_congr {memory' : Memory} {call : Call} (hcall : call.region? = some region)
    (h : memory'.get? region = memory.get? region) :
    (answer call memory').1 = (answer call memory).1 ∧
      (answer call memory').2.get? region = (answer call memory).2.get? region := by
  have hcontains : memory'.contains region = memory.contains region := by
    rw [Table.contains, Table.contains, h]
  have hentries := entries_congr h
  cases call with
  | create name =>
    cases hcall
    rw [answer_create, answer_create, get?_opened_self, get?_opened_self, hentries]
    exact ⟨rfl, rfl⟩
  | has name =>
    cases hcall
    rw [answer, answer, hcontains]
    exact ⟨rfl, h⟩
  | delete name =>
    cases hcall
    rw [answer, answer, hcontains, Table.get?_erase, Table.get?_erase, if_pos rfl, if_pos rfl]
    exact ⟨rfl, rfl⟩
  | regions => cases hcall
  | find name key =>
    cases hcall
    rw [answer, answer, hentries]
    exact ⟨rfl, h⟩
  | put name key response =>
    cases hcall
    cases hget : memory.get? region with
    | none =>
      rw [answer_put_missing hget, answer_put_missing (h.trans hget)]
      exact ⟨rfl, h⟩
    | some table =>
      rw [answer_put hget, answer_put (h.trans hget), Table.get?_insert_self,
        Table.get?_insert_self]
      exact ⟨rfl, rfl⟩
  | remove name key =>
    cases hcall
    cases hget : memory.get? region with
    | none =>
      rw [answer_remove_missing hget, answer_remove_missing (h.trans hget)]
      exact ⟨rfl, h⟩
    | some table =>
      rw [answer_remove hget, answer_remove (h.trans hget), Table.get?_insert_self,
        Table.get?_insert_self]
      exact ⟨rfl, rfl⟩
  | keys name =>
    cases hcall
    rw [answer, answer, hentries]
    exact ⟨rfl, h⟩

end AssetCache.Storage.Memory
