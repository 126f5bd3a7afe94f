import AssetCache.Program

/-!
# Calls that a program may come to make

`Program.Only ok program` says of a tree that every call in it passes the test `ok`,
whatever the answers are. What every such call keeps, the run keeps (`Only.run_keeps`).
-/

set_option autoImplicit false

namespace AssetCache

namespace Program

variable {S : Signature} {α β σ : Type}

/-- Every call that a program may come to make passes a test. -/
inductive Only (ok : S.Call → Prop) : Program S α → Prop
  | done (value : α) : Only ok (.done value)
  | call {request : S.Call} {next : S.Reply request → Program S α} :
    ok request → (∀ reply, Only ok (next reply)) → Only ok (.call request next)

namespace Only

variable {ok : S.Call → Prop}

theorem bind {program : Program S α} {next : α → Program S β} (h : Only ok program)
    (hnext : ∀ value, Only ok (next value)) : Only ok (program.bind next) := by
  induction h with
  | done value => exact hnext value
  | call hok _ ih => exact .call hok ih

theorem perform {request : S.Call} (h : ok request) : Only ok (Program.perform request) :=
  .call h fun reply => .done reply

theorem mono {ok' : S.Call → Prop} {program : Program S α} (h : Only ok program)
    (himp : ∀ request, ok request → ok' request) : Only ok' program := by
  induction h with
  | done value => exact .done value
  | call hok _ ih => exact .call (himp _ hok) ih

/-- What every call of a program keeps is kept by a run of it. -/
theorem run_keeps {answer : (request : S.Call) → σ → S.Reply request × σ}
    {program : Program S α} (h : Only ok program) (keeps : σ → Prop)
    (hstep : ∀ request s, ok request → keeps s → keeps (answer request s).2) :
    ∀ s, keeps s → keeps (program.run answer s).2 := by
  induction h with
  | done value => intro s hs; exact hs
  | call hok _ ih => intro s hs; exact ih _ _ (hstep _ s hok hs)

end Only

end Program

namespace Attempt

variable {S : Signature} {ε α β : Type} {ok : S.Call → Prop}

theorem only_pure (value : α) :
    Program.Only ok (Pure.pure value : Attempt S ε α).run := .done _

theorem only_throw (error : ε) :
    Program.Only ok (MonadExcept.throw error : Attempt S ε α).run := .done _

/-- One attempt after another makes only calls of the two. -/
theorem only_bind {attempt : Attempt S ε α} {next : α → Attempt S ε β}
    (h : Program.Only ok attempt.run) (hnext : ∀ value, Program.Only ok (next value).run) :
    Program.Only ok (attempt >>= next).run := by
  refine Program.Only.bind h fun result => ?_
  cases result with
  | ok value => exact hnext value
  | error error => exact .done _

end Attempt

end AssetCache
