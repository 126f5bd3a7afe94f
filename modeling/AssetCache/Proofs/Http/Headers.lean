import AssetCache.Http.Response

/-!
# Headers that are set and headers that are read

Setting a header goes by its name as it is spelled, reading one goes by its name without regard
to letter case, and of several spellings the first in the order of names is read. So a header
that was set is read back unless the response had one whose spelling comes before; in that case
the other one is read as before. Headers of other names are read as before in any case
(`header?_withHeader`).
-/

set_option autoImplicit false

namespace AssetCache

variable {α : Type}

/-- An entry in front of others, none of which is of a name before its own, is the first to pass a
test on names if it passes at all. -/
theorem find?_cons_of_behind (test : String → Bool) {name : String} {value : α}
    {entries others : List (String × α)} (hbehind : ∀ entry ∈ entries, ¬ entry.1 < name)
    (hothers : test name = false → others.find? (fun entry => test entry.1) =
      entries.find? fun entry => test entry.1) :
    ((name, value) :: others).find? (fun entry => test entry.1) =
      if test name = true ∧ ∀ entry ∈ entries, test entry.1 = true → ¬ entry.1 < name
      then some (name, value) else entries.find? fun entry => test entry.1 := by
  rw [List.find?_cons]
  cases htest : test name with
  | true => exact (if_pos ⟨rfl, fun entry hentry _ => hbehind entry hentry⟩).symm
  | false =>
    rw [if_neg fun h => nomatch h.1]
    exact hothers htest

/-- The first entry that passes a test on names, once another entry has been put at its place:
the new one, unless one that comes before passes. -/
theorem find?_insertEntry (test : String → Bool) (name : String) (value : α) :
    ∀ {entries : List (String × α)}, Ascending entries →
      (insertEntry name value entries).find? (fun entry => test entry.1) =
        if test name = true ∧ ∀ entry ∈ entries, test entry.1 = true → ¬ entry.1 < name
        then some (name, value) else entries.find? fun entry => test entry.1
  | [], _ => find?_cons_of_behind test (fun _ h => nomatch h) fun _ => rfl
  | (n, v) :: rest, hascending => by
    obtain ⟨hhead, htail⟩ := List.pairwise_cons.mp hascending
    rw [insertEntry]
    split
    next hbefore =>
      refine find?_cons_of_behind test (fun entry hentry => ?_) fun _ => rfl
      rcases List.mem_cons.mp hentry with rfl | hentry
      · exact String.lt_asymm hbefore
      · exact String.lt_asymm (String.lt_trans hbefore (hhead entry hentry))
    next hnotBefore =>
      split
      next hbehind =>
        -- the entry in front stays there, and passes or not whatever follows
        rw [List.find?_cons, List.find?_cons]
        cases hfirst : test n with
        | true => exact (if_neg fun h => h.2 (n, v) List.mem_cons_self hfirst hbehind).symm
        | false =>
          dsimp only
          rw [find?_insertEntry test name value htail]
          simp only [List.forall_mem_cons, hfirst, Bool.false_eq_true, false_imp_iff, true_and]
      next hnotBehind =>
        obtain rfl := eq_of_not_lt hnotBefore hnotBehind
        refine find?_cons_of_behind test (fun entry hentry => ?_) fun htest => ?_
        · rcases List.mem_cons.mp hentry with rfl | hentry
          · exact String.lt_irrefl name
          · exact String.lt_asymm (hhead entry hentry)
        · rw [List.find?_cons, htest]

namespace Response

open Text.Ascii (same)

/-- Spellings of a name are the spellings of any other spelling of it. -/
theorem same_iff_of_same {name asked other : String} (h : same name asked = true) :
    same other asked = true ↔ same other name = true := by
  unfold same at h ⊢
  rw [beq_iff_eq] at h
  rw [beq_iff_eq, beq_iff_eq, h]

/-- A header that was set is read under every spelling of its name, unless the response has one
of a spelling that comes before: then that one is read as before. Other names are read as before. -/
theorem header?_withHeader (response : Response) (name value asked : String) :
    (response.withHeader name value).header? asked =
      if same name asked = true ∧
        ∀ other ∈ response.headers.keys, same other name = true → ¬ other < name
      then some value else response.header? asked := by
  have hfind := find?_insertEntry (fun other => same other asked) name value
    response.headers.ascending
  unfold header?
  rw [show (response.withHeader name value).headers.entries =
    insertEntry name value response.headers.entries from rfl, hfind]
  by_cases hsame : same name asked = true
  · simp only [hsame, true_and, same_iff_of_same hsame, Table.keys, List.forall_mem_map]
    split <;> rfl
  · simp only [hsame, false_and, if_false, Bool.false_eq_true]

/-- Capital letters come before small ones: the header that was there is read, and not the one
that was set. -/
theorem earlier_spelling_is_read :
    let response : Response := ⟨200, Table.empty.insert "Content-Type" "text/html", []⟩
    same "content-type" "content-type" = true ∧
      (response.withHeader "content-type" "text/css").header? "content-type" = some "text/html" ∧
      (response.withHeader "content-type" "text/css").header? "content-type" ≠ some "text/css" := by
  decide

end Response

end AssetCache
