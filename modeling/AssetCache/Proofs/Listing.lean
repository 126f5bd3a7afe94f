import AssetCache.Storage.Listing
import AssetCache.Table

/-!
# Tables and their listings

A table is made again from its entries (`ofList_entries`), its entries may be laid
over another table (`get?_insertAll_entries`), and any list that holds its names once
each is, brought into ascending order, the list of its names (`ascending_eq_keys`). The
names may also have to be read off what they are written in (`ascending_filterMap`).
-/

set_option autoImplicit false

namespace AssetCache

variable {α : Type}

/-! ## Entries in ascending order -/

/-- An entry behind all others is put at the end. -/
theorem insertEntry_eq_append {name : String} {value : α} {entries : List (String × α)}
    (h : ∀ entry ∈ entries, entry.1 < name) :
    insertEntry name value entries = entries ++ [(name, value)] := by
  induction entries with
  | nil => rfl
  | cons entry entries ih =>
    have hlt : entry.1 < name := h entry List.mem_cons_self
    rw [insertEntry, if_neg (String.lt_asymm hlt), if_pos hlt,
      ih fun e he => h e (List.mem_cons_of_mem _ he)]
    rfl

theorem lookupEntry_append (name : String) (front back : List (String × α)) :
    lookupEntry name (front ++ back) = (lookupEntry name front).or (lookupEntry name back) := by
  induction front with
  | nil => rfl
  | cons entry front ih =>
    rw [List.cons_append, lookupEntry, lookupEntry]
    by_cases hname : entry.1 = name
    · rw [if_pos hname, if_pos hname]
      rfl
    · rw [if_neg hname, if_neg hname, ih]

namespace Table

/-- Entries that come in ascending order are added at the end. -/
theorem entries_insertAll (pairs : List (String × α)) :
    ∀ table : Table α, Ascending (table.entries ++ pairs) →
      (table.insertAll pairs).entries = table.entries ++ pairs := by
  induction pairs with
  | nil => intro table _; exact (List.append_nil _).symm
  | cons pair pairs ih =>
    intro table h
    have hlast : ∀ entry ∈ table.entries, entry.1 < pair.1 := fun entry he =>
      (List.pairwise_append.mp h).2.2 entry he pair List.mem_cons_self
    have hentries : (table.insert pair.1 pair.2).entries = table.entries ++ [pair] :=
      insertEntry_eq_append hlast
    have happend : table.entries ++ pair :: pairs = table.entries ++ [pair] ++ pairs := by simp
    show ((table.insert pair.1 pair.2).insertAll pairs).entries = _
    rw [happend] at h ⊢
    rw [ih _ (by rw [hentries]; exact h), hentries]

/-- A table is made again from its entries. -/
theorem ofList_entries (table : Table α) : ofList table.entries = table :=
  ext_entries (entries_insertAll table.entries .empty table.ascending)

theorem get?_eq_none_iff (table : Table α) (name : String) :
    table.get? name = none ↔ name ∉ table.keys := by
  rw [mem_keys_iff, contains]
  cases table.get? name <;> simp

theorem contains_eq_true_iff (table : Table α) (name : String) :
    table.contains name = true ↔ ∃ value, table.get? name = some value := by
  rw [contains, Option.isSome_iff_exists]

theorem contains_eq_false_iff (table : Table α) (name : String) :
    table.contains name = false ↔ table.get? name = none := by
  rw [contains, Option.isSome_eq_false_iff, Option.isNone_iff_eq_none]

theorem keys_nodup (table : Table α) : table.keys.Nodup :=
  table.keys_ascending.imp fun {a b} (h : a < b) (heq : a = b) => String.lt_irrefl b (heq ▸ h)

theorem contains_insert (table : Table α) (name other : String) (value : α) :
    (table.insert name value).contains other = (name == other || table.contains other) := by
  rw [contains, get?_insert, contains]
  by_cases h : name = other
  · simp [h]
  · rw [if_neg h, beq_false_of_ne h, Bool.false_or]

theorem contains_erase_iff {table : Table α} {name other : String} :
    (table.erase name).contains other = true ↔ other ≠ name ∧ table.contains other = true := by
  rw [contains, get?_erase, contains]
  by_cases h : other = name <;> simp [h]

/-- What is kept is listed as it was. -/
theorem keys_filter (table : Table α) (keep : String → Bool) :
    (table.filter keep).keys = table.keys.filter keep := by
  rw [keys, filter, keys, List.filter_map]
  rfl

theorem filter_filter (table : Table α) (first second : String → Bool) :
    (table.filter first).filter second = table.filter fun name => first name && second name := by
  refine ext_get? fun name => ?_
  rw [get?_filter, get?_filter, get?_filter]
  cases first name <;> cases second name <;> rfl

/-! ## Tables over tables -/

/-- Pairs of distinct names are laid over what was there. -/
theorem get?_insertAll {pairs : List (String × α)} (h : Ascending pairs) (name : String) :
    ∀ table : Table α,
      (table.insertAll pairs).get? name = (lookupEntry name pairs).or (table.get? name) := by
  induction pairs with
  | nil => intro table; rfl
  | cons pair pairs ih =>
    intro table
    have hpairs := List.pairwise_cons.mp h
    show ((table.insert pair.1 pair.2).insertAll pairs).get? name = _
    rw [ih hpairs.2, get?_insert, lookupEntry]
    by_cases hname : pair.1 = name
    · have hnone : lookupEntry name pairs = none :=
        lookupEntry_eq_none fun entry he heq =>
          String.lt_irrefl _ (heq ▸ hname ▸ hpairs.1 entry he)
      rw [hnone, if_pos hname, if_pos hname]
      rfl
    · rw [if_neg hname, if_neg hname]

/-- A table laid over another hides it where both have a value. -/
theorem get?_insertAll_entries (table upper : Table α) (name : String) :
    (table.insertAll upper.entries).get? name = (upper.get? name).or (table.get? name) :=
  get?_insertAll upper.ascending name table

/-- Of several pairs with one name the last one counts. -/
theorem get?_insertAll_reverse (pairs : List (String × α)) (name : String) :
    ∀ table : Table α,
      (table.insertAll pairs).get? name = (lookupEntry name pairs.reverse).or (table.get? name) := by
  induction pairs with
  | nil => intro table; rfl
  | cons pair pairs ih =>
    intro table
    show ((table.insert pair.1 pair.2).insertAll pairs).get? name = _
    rw [ih, get?_insert, List.reverse_cons, lookupEntry_append, Option.or_assoc]
    congr 1
    rw [lookupEntry]
    by_cases hname : pair.1 = name
    · rw [if_pos hname, if_pos hname]
      rfl
    · rw [if_neg hname, if_neg hname]
      rfl

theorem get?_ofList (pairs : List (String × α)) (name : String) :
    (ofList pairs).get? name = lookupEntry name pairs.reverse := by
  rw [ofList, get?_insertAll_reverse, get?_empty, Option.or_none]

theorem insert_insert (table : Table α) (name : String) (old new : α) :
    (table.insert name old).insert name new = table.insert name new := by
  refine ext_get? fun other => ?_
  rw [get?_insert, get?_insert, get?_insert]
  split <;> rfl

theorem insert_of_get? {table : Table α} {name : String} {value : α}
    (h : table.get? name = some value) : table.insert name value = table := by
  refine ext_get? fun other => ?_
  rw [get?_insert]
  split
  next heq => rw [← heq, h]
  next => rfl

end Table

/-! ## Listings -/

namespace Storage.Listing

theorem ascending_perm (names : List String) : (ascending names).Perm names :=
  List.mergeSort_perm names _

theorem ascending_nil : ascending [] = [] := List.mergeSort_nil

theorem ascending_pairwise (names : List String) : (ascending names).Pairwise (· ≤ ·) := by
  have h : (ascending names).Pairwise fun a b => decide (a ≤ b) = true :=
    List.pairwise_mergeSort
    (fun a b c hab hbc => by
      simp only [decide_eq_true_eq] at hab hbc ⊢
      exact String.le_trans hab hbc)
    (fun a b => by
      simp only [Bool.or_eq_true, decide_eq_true_eq]
      exact String.le_total a b)
    names
  exact h.imp fun hab => of_decide_eq_true hab

/-- The names of a table, each once in any order, are listed as the table lists them. -/
theorem ascending_eq_keys {names : List String} {table : Table α} (hnodup : names.Nodup)
    (hmem : ∀ name, name ∈ names ↔ table.contains name = true) :
    ascending names = table.keys := by
  have hperm : (ascending names).Perm table.keys := by
    refine (ascending_perm names).trans ?_
    refine (List.perm_ext_iff_of_nodup hnodup table.keys_nodup).mpr fun name => ?_
    rw [hmem, table.mem_keys_iff]
  refine hperm.eq_of_pairwise (fun a b _ _ => String.le_antisymm) (ascending_pairwise names) ?_
  exact table.keys_ascending.imp fun h => String.not_lt.mp (String.lt_asymm h)

/-- The names of a table that are read off items, each of which is written in one way. -/
theorem ascending_filterMap {β : Type} {items : List β} {nameOf : β → String}
    {read : β → Option String} {table : Table α} (write : String → String)
    (hdistinct : items.Pairwise fun left right => nameOf left ≠ nameOf right)
    (hread : ∀ item ∈ items, ∀ name, read item = some name →
      nameOf item = write name ∧ table.contains name = true)
    (hwrite : ∀ name, table.contains name = true → ∃ item ∈ items, read item = some name) :
    ascending (items.filterMap read) = table.keys := by
  refine ascending_eq_keys ?_ fun name => ?_
  · refine List.Pairwise.filterMap _ ?_ (List.Pairwise.and_mem.mp hdistinct)
    intro left right hboth first hfirst second hsecond heq
    obtain ⟨hleft, hright, hne⟩ := hboth
    refine hne ?_
    rw [(hread left hleft first hfirst).1, (hread right hright second hsecond).1, heq]
  · rw [List.mem_filterMap]
    refine ⟨fun hlisted => ?_, hwrite name⟩
    obtain ⟨item, hitem, hname⟩ := hlisted
    exact (hread item hitem name hname).2

end Storage.Listing

end AssetCache
