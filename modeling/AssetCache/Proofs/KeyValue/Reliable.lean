import AssetCache.KeyValue.Host

/-!
# Key-value stores that do not fail

A store is `Reliable` if it keeps a table of byte strings and no call of it fails. How it
keeps the table is its own affair, and so is the order in which it lists names, which may
change from one listing to the next.

A host whose list of failing calls is empty is such a store (`Host.reliable`).
-/

set_option autoImplicit false

namespace AssetCache.KeyValue

/-- A store that keeps a table and answers every call. -/
structure Reliable (σ : Type) where
  answer : (call : Call) → σ → Reply call × σ
  /-- What is kept. -/
  entries : σ → Table Bytes
  /-- A call does to what is kept what it does to a table. -/
  entries_answer : ∀ call s, entries (answer call s).2 = (Host.answerEntries call (entries s)).2
  /-- All calls but the listing are answered out of what is kept. -/
  reply_eq : ∀ call s, call ≠ .names →
    (answer call s).1 = .ok (Host.answerEntries call (entries s)).1
  /-- The names are listed once each. -/
  listed : ∀ s, ∃ names : List String,
    (answer .names s).1 = .ok names ∧ names.Perm (entries s).keys

namespace Host

theorem answer_of_reliable {host : Host} (h : host.failing = []) (call : Call) :
    answer call host = (.ok (answerEntries call host.entries).1,
      { host with entries := (answerEntries call host.entries).2 }) := by
  simp [answer, h]

/-- A host of which no call fails. -/
def reliable : Reliable { host : Host // host.failing = [] } where
  answer call host := ((answer call host.1).1, ⟨(answer call host.1).2, by
    rw [answer_of_reliable host.2]
    exact host.2⟩)
  entries host := host.1.entries
  entries_answer call host :=
    congrArg (fun answered => answered.2.entries) (answer_of_reliable host.2 call)
  reply_eq call host _ := congrArg Prod.fst (answer_of_reliable host.2 call)
  listed host := ⟨host.1.entries.keys,
    congrArg Prod.fst (answer_of_reliable host.2 .names), .refl _⟩

end Host

end AssetCache.KeyValue
