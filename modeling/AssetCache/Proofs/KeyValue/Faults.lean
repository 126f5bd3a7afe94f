import AssetCache.Proofs.KeyValue.Reliable

/-!
# Key-value stores that may fail

Any call to a store may fail, at any time and for any reason, and has no effect then. A call
that does not fail does to what is kept what it does to a table. `Answers` says so of one call,
with failures allowed or not; without failures it is what a reliable store answers
(`answers_of_reliable`).
-/

set_option autoImplicit false

namespace AssetCache.KeyValue

/-- How a call may be answered, and what is kept afterwards. -/
inductive Answers (mayFail : Prop) :
    (call : Call) → Table Bytes → Reply call → Table Bytes → Prop
  | failed {call : Call} {table : Table Bytes} (reason : String) :
      mayFail → Answers mayFail call table (.error reason) table
  | answered {call : Call} {table : Table Bytes} : call ≠ .names →
      Answers mayFail call table (.ok (Host.answerEntries call table).1)
        (Host.answerEntries call table).2
  /-- The names are listed once each, in any order. -/
  | listed {table : Table Bytes} {names : List String} :
      names.Perm table.keys → Answers mayFail .names table (.ok names) table

theorem answers_of_reliable {σ : Type} (mayFail : Prop) (store : Reliable σ) (call : Call)
    (s : σ) :
    Answers mayFail call (store.entries s) (store.answer call s).1
      (store.entries (store.answer call s).2) := by
  rw [store.entries_answer]
  by_cases hcall : call = .names
  · subst hcall
    obtain ⟨names, hnames, hperm⟩ := store.listed s
    rw [hnames]
    exact .listed hperm
  · rw [store.reply_eq call s hcall]
    exact .answered hcall

end AssetCache.KeyValue
