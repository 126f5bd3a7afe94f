/-!
# Finite maps from names

A `Table` holds one value per name and lists its names in ascending order of
code points, which is also the order of their UTF-8 bytes. The order is a field
of the type, so two tables that answer every look-up alike are equal
(`Table.ext_get?`).

Every operation is described by what it does to `get?`; nothing outside this
module looks at how `insert` walks the entries.
-/

set_option autoImplicit false

namespace AssetCache

variable {α : Type}

/-! ## Entry lists -/

/-- Names of an entry list ascend strictly. -/
abbrev Ascending (entries : List (String × α)) : Prop :=
  entries.Pairwise fun a b => a.1 < b.1

/-- Put an entry at its place in an ascending list, replacing one of the same name. -/
def insertEntry (name : String) (value : α) : List (String × α) → List (String × α)
  | [] => [(name, value)]
  | (n, v) :: rest =>
    if name < n then (name, value) :: (n, v) :: rest
    else if n < name then (n, v) :: insertEntry name value rest
    else (name, value) :: rest

theorem mem_insertEntry {name : String} {value : α} {entry : String × α} :
    ∀ {entries : List (String × α)},
      entry ∈ insertEntry name value entries → entry = (name, value) ∨ entry ∈ entries
  | [], h => by simp only [insertEntry, List.mem_singleton] at h; exact .inl h
  | (n, v) :: rest, h => by
    unfold insertEntry at h
    split at h
    · exact (List.mem_cons.mp h)
    · split at h
      · rcases List.mem_cons.mp h with rfl | h
        · exact .inr (.head _)
        · exact (mem_insertEntry h).imp_right (.tail _)
      · exact (List.mem_cons.mp h).imp_right (.tail _)

theorem eq_of_not_lt {a b : String} (h : ¬ a < b) (h' : ¬ b < a) : a = b :=
  String.le_antisymm (String.not_lt.mp h') (String.not_lt.mp h)

theorem ascending_insertEntry {name : String} {value : α} :
    ∀ {entries : List (String × α)},
      Ascending entries → Ascending (insertEntry name value entries)
  | [], _ => List.pairwise_singleton _ _
  | (n, v) :: rest, h => by
    have hhead := (List.pairwise_cons.mp h).1
    have htail := (List.pairwise_cons.mp h).2
    unfold insertEntry
    split
    next hlt =>
      refine List.pairwise_cons.mpr ⟨fun e he => ?_, h⟩
      rcases List.mem_cons.mp he with rfl | he
      · exact hlt
      · exact String.lt_trans hlt (hhead e he)
    next hge =>
      split
      next hgt =>
        refine List.pairwise_cons.mpr ⟨fun e he => ?_, ascending_insertEntry htail⟩
        rcases mem_insertEntry he with rfl | he
        · exact hgt
        · exact hhead e he
      next hle =>
        refine List.pairwise_cons.mpr ⟨fun e he => ?_, htail⟩
        exact eq_of_not_lt hge hle ▸ hhead e he

/-- The value of the first entry of a name. -/
def lookupEntry (name : String) : List (String × α) → Option α
  | [] => none
  | (n, v) :: rest => if n = name then some v else lookupEntry name rest

theorem lookupEntry_insertEntry (name other : String) (value : α) :
    ∀ entries : List (String × α),
      lookupEntry other (insertEntry name value entries) =
        if name = other then some value else lookupEntry other entries
  | [] => by simp [insertEntry, lookupEntry]
  | (n, v) :: rest => by
    unfold insertEntry
    split
    · simp [lookupEntry]
    next hge =>
      split
      next hgt =>
        have hne : n ≠ name := fun h => String.lt_irrefl _ (h ▸ hgt)
        simp only [lookupEntry, lookupEntry_insertEntry name other value rest]
        by_cases hn : n = other
        · subst hn; simp [Ne.symm hne]
        · simp [hn]
      next hle =>
        obtain rfl := eq_of_not_lt hge hle
        by_cases hn : name = other <;> simp [lookupEntry, hn]

theorem lookupEntry_eq_none {name : String} :
    ∀ {entries : List (String × α)},
      (∀ entry ∈ entries, entry.1 ≠ name) → lookupEntry name entries = none
  | [], _ => rfl
  | (n, v) :: rest, h => by
    simp only [lookupEntry, if_neg (h (n, v) (.head _))]
    exact lookupEntry_eq_none fun e he => h e (.tail _ he)

theorem lookupEntry_of_mem {name : String} {value : α} :
    ∀ {entries : List (String × α)},
      Ascending entries → (name, value) ∈ entries → lookupEntry name entries = some value
  | (n, v) :: rest, h, hm => by
    rcases List.mem_cons.mp hm with heq | hm
    · cases heq; simp [lookupEntry]
    · have hlt : n < name := (List.pairwise_cons.mp h).1 _ hm
      have hne : n ≠ name := fun he => String.lt_irrefl _ (he ▸ hlt)
      simp only [lookupEntry, if_neg hne]
      exact lookupEntry_of_mem (List.pairwise_cons.mp h).2 hm

theorem mem_of_lookupEntry {name : String} {value : α} :
    ∀ {entries : List (String × α)},
      lookupEntry name entries = some value → (name, value) ∈ entries
  | (n, v) :: rest, h => by
    unfold lookupEntry at h
    split at h
    next heq => cases h; exact heq ▸ .head _
    next => exact .tail _ (mem_of_lookupEntry h)

theorem lookupEntry_filter (keep : String → Bool) (name : String) :
    ∀ entries : List (String × α),
      lookupEntry name (entries.filter fun e => keep e.1) =
        if keep name then lookupEntry name entries else none
  | [] => by simp [lookupEntry]
  | (n, v) :: rest => by
    have ih := lookupEntry_filter keep name rest
    by_cases hn : n = name
    · subst hn
      by_cases hk : keep n = true
      · simp [hk, lookupEntry]
      · simp [hk, ih]
    · by_cases hk : keep n = true
      · simp [hk, lookupEntry, hn, ih]
      · simp [hk, lookupEntry, hn, ih]

/-- Ascending lists that answer every look-up alike are the same list. -/
theorem eq_of_lookupEntry_eq :
    ∀ {left right : List (String × α)},
      Ascending left → Ascending right →
      (∀ name, lookupEntry name left = lookupEntry name right) → left = right
  | [], [], _, _, _ => rfl
  | [], (n, v) :: _, _, _, h => by simpa [lookupEntry] using h n
  | (n, v) :: _, [], _, _, h => by simpa [lookupEntry] using h n
  | (n, v) :: left, (m, w) :: right, hl, hr, h => by
    have hl' := List.pairwise_cons.mp hl
    have hr' := List.pairwise_cons.mp hr
    have hnm : n = m := by
      refine eq_of_not_lt (fun hlt => ?_) (fun hlt => ?_)
      · have hmem : (n, v) ∈ (m, w) :: right :=
          mem_of_lookupEntry ((h n).symm.trans (by simp [lookupEntry]))
        rcases List.mem_cons.mp hmem with heq | hmem
        · cases heq; exact String.lt_irrefl _ hlt
        · exact String.lt_asymm hlt (hr'.1 _ hmem)
      · have hmem : (m, w) ∈ (n, v) :: left :=
          mem_of_lookupEntry ((h m).trans (by simp [lookupEntry]))
        rcases List.mem_cons.mp hmem with heq | hmem
        · cases heq; exact String.lt_irrefl _ hlt
        · exact String.lt_asymm hlt (hl'.1 _ hmem)
    subst hnm
    have hvw : v = w := by simpa [lookupEntry] using h n
    subst hvw
    refine congrArg _ (eq_of_lookupEntry_eq hl'.2 hr'.2 fun name => ?_)
    by_cases hname : n = name
    · subst hname
      rw [lookupEntry_eq_none fun e he heq => String.lt_irrefl _ (heq ▸ hl'.1 e he),
        lookupEntry_eq_none fun e he heq => String.lt_irrefl _ (heq ▸ hr'.1 e he)]
    · simpa [lookupEntry, hname] using h name

/-! ## Tables -/

/-- A finite map from names, listed in ascending order of names. -/
structure Table (α : Type) where
  entries : List (String × α)
  ascending : Ascending entries

namespace Table

theorem ext_entries {left right : Table α} (h : left.entries = right.entries) : left = right := by
  cases left; cases right; cases h; rfl

instance [DecidableEq α] : DecidableEq (Table α) := fun left right =>
  if h : left.entries = right.entries then .isTrue (ext_entries h)
  else .isFalse fun heq => h (heq ▸ rfl)

/-- The table of no names. -/
def empty : Table α := ⟨[], .nil⟩

instance : EmptyCollection (Table α) := ⟨empty⟩
instance : Inhabited (Table α) := ⟨empty⟩

/-- The value of a name. -/
def get? (table : Table α) (name : String) : Option α := lookupEntry name table.entries

/-- Whether a name has a value. -/
def contains (table : Table α) (name : String) : Bool := (table.get? name).isSome

/-- Give a name a value, in place of any it had. -/
def insert (table : Table α) (name : String) (value : α) : Table α :=
  ⟨insertEntry name value table.entries, ascending_insertEntry table.ascending⟩

/-- Keep the names that pass a test. -/
def filter (table : Table α) (keep : String → Bool) : Table α :=
  ⟨table.entries.filter fun e => keep e.1, table.ascending.filter _⟩

/-- Take a name out. -/
def erase (table : Table α) (name : String) : Table α := table.filter (· != name)

/-- All names, ascending. -/
def keys (table : Table α) : List String := table.entries.map Prod.fst

/-- How many names have a value. -/
def size (table : Table α) : Nat := table.entries.length

/-- Whether no name has a value. -/
def isEmpty (table : Table α) : Bool := table.entries.isEmpty

/-- Insert pairs from left to right: of two with one name the later stays. -/
def insertAll (table : Table α) (pairs : List (String × α)) : Table α :=
  pairs.foldl (fun t p => t.insert p.1 p.2) table

/-- The table of some pairs, of which the last of a name counts. -/
def ofList (pairs : List (String × α)) : Table α := empty.insertAll pairs

/-! ### What each operation does to `get?` -/

@[simp] theorem get?_empty (name : String) : (empty : Table α).get? name = none := rfl

theorem get?_insert (table : Table α) (name other : String) (value : α) :
    (table.insert name value).get? other =
      if name = other then some value else table.get? other :=
  lookupEntry_insertEntry name other value table.entries

@[simp] theorem get?_insert_self (table : Table α) (name : String) (value : α) :
    (table.insert name value).get? name = some value := by
  simp [get?_insert]

theorem get?_insert_of_ne (table : Table α) {name other : String} (value : α)
    (h : name ≠ other) : (table.insert name value).get? other = table.get? other := by
  simp [get?_insert, h]

theorem get?_filter (table : Table α) (keep : String → Bool) (name : String) :
    (table.filter keep).get? name = if keep name then table.get? name else none :=
  lookupEntry_filter keep name table.entries

theorem get?_erase (table : Table α) (name other : String) :
    (table.erase name).get? other = if other = name then none else table.get? other := by
  rw [erase, get?_filter]
  by_cases h : other = name <;> simp [h]

/-- Tables that answer every look-up alike are equal. -/
theorem ext_get? {left right : Table α} (h : ∀ name, left.get? name = right.get? name) :
    left = right :=
  ext_entries (eq_of_lookupEntry_eq left.ascending right.ascending h)

theorem mem_entries_iff (table : Table α) {name : String} {value : α} :
    (name, value) ∈ table.entries ↔ table.get? name = some value :=
  ⟨lookupEntry_of_mem table.ascending, mem_of_lookupEntry⟩

theorem mem_keys_iff (table : Table α) (name : String) :
    name ∈ table.keys ↔ table.contains name = true := by
  simp only [keys, List.mem_map, contains, Option.isSome_iff_exists]
  constructor
  · rintro ⟨⟨_, value⟩, hm, rfl⟩
    exact ⟨value, table.mem_entries_iff.mp hm⟩
  · rintro ⟨value, h⟩
    exact ⟨(name, value), table.mem_entries_iff.mpr h, rfl⟩

/-- Names are listed strictly ascending, so none twice. -/
theorem keys_ascending (table : Table α) : table.keys.Pairwise (· < ·) :=
  List.pairwise_map.mpr table.ascending

end Table

end AssetCache
