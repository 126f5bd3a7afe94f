import Mathlib.Data.List.Sort
import AssetCache.Manifest.Basic
import AssetCache.Proofs.Listing

/-!
# The difference of two manifests

A difference is made by going through the current manifest, key after key, and comparing each hash
with the one before; `Sorted` says what has been sorted in so far, one step keeps it
(`Sorted.step`), and so does the whole run. Whether a key is unchanged is asked elsewhere too, of
one key at a time (`Manifest.isUnchangedSince`). That the two comparisons come to the same is
`mem_unchanged_iff`.

A difference shares the keys of both manifests out: those of the current one are added,
changed or unchanged, and those of the previous one removed, changed or unchanged
(`ManifestDiff.splits_current`, `ManifestDiff.splits_previous`). Each list is said once by
the two hashes of a key (`mem_added_iff` and its like), and everything else is read off
these. Looked at backwards, what was added is removed and the rest stays where it is
(`between_swap`).

`isEmpty` looks at three lists of four; it holds of equal manifests alone, for a key that is
in none of the three has one hash in both or is in neither.
-/

set_option autoImplicit false

namespace AssetCache

/-! ## Sharing names out -/

/-- Ascending lists that share some names out: each name is in one of them, and in one only. -/
structure Splits (names : List String) (parts : List (List String)) : Prop where
  ascending : ∀ part ∈ parts, part.Pairwise (· < ·)
  disjoint : parts.Pairwise fun left right => ∀ name ∈ left, name ∉ right
  covers : ∀ name, name ∈ names ↔ ∃ part ∈ parts, name ∈ part

/-- Ascending lists of the same names are one list. -/
theorem eq_of_ascending {left right : List String} (hleft : left.Pairwise (· < ·))
    (hright : right.Pairwise (· < ·)) (h : ∀ name, name ∈ left ↔ name ∈ right) : left = right :=
  hleft.eq_of_mem_iff hright h

/-! ## Names of the entries that pass a test -/

namespace Table

variable {α : Type} (table : Table α) (test : String × α → Bool)

theorem mem_names_iff {name : String} :
    name ∈ (table.entries.filter test).map Prod.fst ↔
      ∃ value, table.get? name = some value ∧ test (name, value) = true := by
  simp only [List.mem_map, List.mem_filter, Prod.exists, exists_and_right, exists_eq_right,
    mem_entries_iff]

theorem names_ascending : ((table.entries.filter test).map Prod.fst).Pairwise (· < ·) :=
  table.keys_ascending.sublist (List.filter_sublist.map Prod.fst)

end Table

namespace Manifest

variable {previous current : Manifest} {key : String}

/-- A key is unchanged if both manifests list it with one hash. -/
theorem isUnchangedSince_iff :
    current.isUnchangedSince previous key = true ↔
      ∃ hash, previous.hash? key = some hash ∧ current.hash? key = some hash := by
  unfold isUnchangedSince
  cases hnew : current.hash? key with
  | none => simp
  | some new =>
    cases hold : previous.hash? key with
    | none => simp
    | some old => simp

theorem isUnchangedSince_comm (previous current : Manifest) (key : String) :
    current.isUnchangedSince previous key = previous.isUnchangedSince current key := by
  rw [Bool.eq_iff_iff, isUnchangedSince_iff, isUnchangedSince_iff]
  simp only [and_comm]

theorem contains_of_isUnchangedSince (h : current.isUnchangedSince previous key = true) :
    previous.contains key = true := by
  obtain ⟨hash, hprevious, _⟩ := isUnchangedSince_iff.mp h
  exact (Table.contains_eq_true_iff _ _).mpr ⟨hash, hprevious⟩

end Manifest

namespace ManifestDiff

variable {previous current : Manifest} {key : String}

/-! ## Sorting in -/

/-- The entries that were gone through are sorted in by the hash that each key had before. -/
structure Sorted (previous : Manifest) (seen : List (String × String)) (diff : ManifestDiff) :
    Prop where
  added : diff.added = (seen.filter fun e => previous.hash? e.1 == none).map Prod.fst
  changed : diff.changed = (seen.filter fun e => (previous.hash? e.1).any (· != e.2)).map Prod.fst
  unchanged : diff.unchanged = (seen.filter fun e => previous.hash? e.1 == some e.2).map Prod.fst

namespace Sorted

variable {seen : List (String × String)} {diff : ManifestDiff}

/-- One entry more is sorted in behind the others: into one list, and the other two stay. -/
theorem step (h : Sorted previous seen diff) (entry : String × String) :
    Sorted previous (seen ++ [entry]) (sortIn previous diff entry) := by
  obtain ⟨hadded, hchanged, hunchanged⟩ := h
  unfold sortIn
  cases hold : previous.hash? entry.1 with
  | none => constructor <;> simp [hadded, hchanged, hunchanged, hold]
  | some old =>
    by_cases hsame : old = entry.2
    · constructor <;> simp [hadded, hchanged, hunchanged, hold, hsame]
    · constructor <;> simp [hadded, hchanged, hunchanged, hold, hsame]

/-- What has been sorted in stays so as the rest of the entries is gone through. -/
theorem run (h : Sorted previous seen diff) (entries : List (String × String)) :
    Sorted previous (seen ++ entries) (entries.foldl (sortIn previous) diff) := by
  induction entries generalizing seen diff with
  | nil => rwa [List.append_nil]
  | cons entry entries ih =>
    rw [List.foldl_cons, List.append_cons]
    exact ih (h.step entry)

end Sorted

theorem sorted_between (previous current : Manifest) :
    Sorted previous current.entries (between previous current) := by
  have hstart : Sorted previous [] ⟨[], [], [], []⟩ := ⟨rfl, rfl, rfl⟩
  obtain ⟨hadded, hchanged, hunchanged⟩ := hstart.run current.entries
  exact ⟨hadded, hchanged, hunchanged⟩

/-! ## What each list holds -/

theorem mem_added_iff :
    key ∈ (between previous current).added ↔
      current.contains key = true ∧ previous.contains key = false := by
  rw [(sorted_between previous current).added, Table.mem_names_iff, Table.contains_eq_true_iff,
    Table.contains_eq_false_iff]
  simp only [beq_iff_eq, exists_and_right]
  rfl

theorem mem_removed_iff :
    key ∈ (between previous current).removed ↔
      previous.contains key = true ∧ current.contains key = false := by
  simp only [between, List.mem_filter, Table.mem_keys_iff, Bool.not_eq_true']

/-- Sorted in as unchanged are the keys of which it is said one at a time that they are. -/
theorem mem_unchanged_iff :
    key ∈ (between previous current).unchanged ↔
      current.isUnchangedSince previous key = true := by
  rw [(sorted_between previous current).unchanged, Table.mem_names_iff,
    Manifest.isUnchangedSince_iff]
  simp only [beq_iff_eq, and_comm]
  rfl

theorem mem_changed_iff :
    key ∈ (between previous current).changed ↔ current.contains key = true ∧
      previous.contains key = true ∧ current.isUnchangedSince previous key = false := by
  rw [(sorted_between previous current).changed, Table.mem_names_iff, Table.contains_eq_true_iff,
    Table.contains_eq_true_iff, ← Bool.not_eq_true, Manifest.isUnchangedSince_iff]
  simp only [Manifest.hash?]
  cases current.get? key with
  | none => simp
  | some new =>
    cases previous.get? key with
    | none => simp
    | some old => simpa using ne_comm

/-- The keys of each list ascend. -/
theorem ascending (previous current : Manifest) :
    let diff := between previous current
    diff.added.Pairwise (· < ·) ∧ diff.removed.Pairwise (· < ·) ∧
      diff.changed.Pairwise (· < ·) ∧ diff.unchanged.Pairwise (· < ·) := by
  obtain ⟨hadded, hchanged, hunchanged⟩ := sorted_between previous current
  dsimp only
  rw [hadded, hchanged, hunchanged]
  exact ⟨current.names_ascending _, previous.keys_ascending.filter _, current.names_ascending _,
    current.names_ascending _⟩

/-! ## The two partitions -/

/-- Looked at backwards, what was added is removed, and what was removed added. -/
theorem between_swap (previous current : Manifest) :
    between current previous =
      let diff := between previous current
      ⟨diff.removed, diff.added, diff.changed, diff.unchanged⟩ := by
  obtain ⟨hadded, hremoved, hchanged, hunchanged⟩ := ascending previous current
  obtain ⟨hadded', hremoved', hchanged', hunchanged'⟩ := ascending current previous
  have hsame := Manifest.isUnchangedSince_comm previous current
  have hadd : (between current previous).added = (between previous current).removed :=
    eq_of_ascending hadded' hremoved fun key => by rw [mem_added_iff, mem_removed_iff]
  have hremove : (between current previous).removed = (between previous current).added :=
    eq_of_ascending hremoved' hadded fun key => by rw [mem_removed_iff, mem_added_iff]
  have hchange : (between current previous).changed = (between previous current).changed :=
    eq_of_ascending hchanged' hchanged fun key => by
      rw [mem_changed_iff, mem_changed_iff, hsame, and_left_comm]
  have hkeep : (between current previous).unchanged = (between previous current).unchanged :=
    eq_of_ascending hunchanged' hunchanged fun key => by
      rw [mem_unchanged_iff, mem_unchanged_iff, hsame]
  dsimp only
  rw [← hadd, ← hremove, ← hchange, ← hkeep]

/-- The keys of the current manifest are added, changed or unchanged. -/
theorem splits_current (previous current : Manifest) :
    let diff := between previous current
    Splits current.keys [diff.added, diff.changed, diff.unchanged] := by
  obtain ⟨hadded, _, hchanged, hunchanged⟩ := ascending previous current
  constructor
  · exact List.forall_mem_cons.mpr ⟨hadded, List.forall_mem_cons.mpr ⟨hchanged,
      List.forall_mem_singleton.mpr hunchanged⟩⟩
  · simp only [List.pairwise_cons, List.mem_cons, List.not_mem_nil, or_false, forall_eq_or_imp,
      forall_eq, mem_added_iff, mem_changed_iff, mem_unchanged_iff]
    refine ⟨⟨fun key hadd hchange => ?_, fun key hadd hkeep => ?_⟩,
      fun key hchange hkeep => ?_, fun _ h => h.elim, List.Pairwise.nil⟩
    · rw [hadd.2] at hchange
      cases hchange.2.1
    · rw [Manifest.contains_of_isUnchangedSince hkeep] at hadd
      cases hadd.2
    · rw [hkeep] at hchange
      cases hchange.2.2
  · intro key
    simp only [List.mem_cons, List.not_mem_nil, or_false, exists_eq_or_imp, exists_eq_left,
      Table.mem_keys_iff, mem_added_iff, mem_changed_iff, mem_unchanged_iff]
    constructor
    · intro hlisted
      cases hkeep : current.isUnchangedSince previous key with
      | true => exact .inr (.inr rfl)
      | false =>
        cases hold : previous.contains key with
        | true => exact .inr (.inl ⟨hlisted, rfl, rfl⟩)
        | false => exact .inl ⟨hlisted, rfl⟩
    · rintro (hadd | hchange | hkeep)
      · exact hadd.1
      · exact hchange.1
      · rw [Manifest.isUnchangedSince_comm] at hkeep
        exact Manifest.contains_of_isUnchangedSince hkeep

/-- The keys of the previous manifest are removed, changed or unchanged. -/
theorem splits_previous (previous current : Manifest) :
    let diff := between previous current
    Splits previous.keys [diff.removed, diff.changed, diff.unchanged] := by
  have hsplits := splits_current current previous
  rw [between_swap] at hsplits
  exact hsplits

/-! ## Manifests without a difference -/

/-- A key that is in none of the three lists is listed alike in both manifests. -/
theorem get?_eq_of_not_mem (hadded : key ∉ (between previous current).added)
    (hremoved : key ∉ (between previous current).removed)
    (hchanged : key ∉ (between previous current).changed) :
    previous.get? key = current.get? key := by
  rw [mem_added_iff] at hadded
  rw [mem_removed_iff] at hremoved
  rw [mem_changed_iff] at hchanged
  cases hunchanged : current.isUnchangedSince previous key with
  | true =>
    obtain ⟨hash, hprevious, hcurrent⟩ := Manifest.isUnchangedSince_iff.mp hunchanged
    exact hprevious.trans hcurrent.symm
  | false =>
    cases hold : previous.contains key with
    | true =>
      cases hnew : current.contains key with
      | true => exact absurd ⟨hnew, hold, hunchanged⟩ hchanged
      | false => exact absurd ⟨hold, hnew⟩ hremoved
    | false =>
      cases hnew : current.contains key with
      | true => exact absurd ⟨hnew, hold⟩ hadded
      | false =>
        rw [(Table.contains_eq_false_iff _ _).mp hold, (Table.contains_eq_false_iff _ _).mp hnew]

/-- Nothing was added, removed or changed exactly if the manifests are equal. -/
theorem isEmpty_iff : (between previous current).isEmpty = true ↔ previous = current := by
  unfold isEmpty
  simp only [Bool.and_eq_true, List.isEmpty_iff, List.eq_nil_iff_forall_not_mem]
  constructor
  · rintro ⟨⟨hadded, hremoved⟩, hchanged⟩
    apply Table.ext_get?
    intro key
    exact get?_eq_of_not_mem (hadded key) (hremoved key) (hchanged key)
  · rintro rfl
    simp only [mem_added_iff, mem_removed_iff, mem_changed_iff]
    refine ⟨⟨fun key h => ?_, fun key h => ?_⟩, fun key ⟨hlisted, _, hchanged⟩ => ?_⟩
    · rw [h.1] at h
      cases h.2
    · rw [h.1] at h
      cases h.2
    · obtain ⟨hash, hget⟩ := (Table.contains_eq_true_iff _ _).mp hlisted
      rw [Manifest.isUnchangedSince_iff.mpr ⟨hash, hget, hget⟩] at hchanged
      cases hchanged

end ManifestDiff

end AssetCache
