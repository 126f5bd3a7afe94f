import Mathlib.Logic.Relation
import AssetCache.Program

/-!
# Programs whose calls may be answered in several ways

Where it is not fixed how a call is answered, `answers` says which replies and next states are
possible. A program then goes on by steps, one for each call (`Step`), and may come to many
states and ends.

`Safely keeps post` says of a program that `keeps` holds in every state it may come to and
`post` in every end. It is proved along the program (`bind`, `lower`), and holds of whatever
steps lead to (`of_steps`), as it does of a run where the answers are fixed (`run`).

That there is an end, or an answer at all, is not said here.
-/

set_option autoImplicit false

namespace AssetCache.Program

variable {S T : Signature} {α β σ τ : Type}
  {answers : (request : S.Call) → σ → S.Reply request → σ → Prop}

/-- One call is answered in one of the ways in which it may be. -/
inductive Step (answers : (request : S.Call) → σ → S.Reply request → σ → Prop) :
    Program S α × σ → Program S α × σ → Prop
  | call {request : S.Call} {next : S.Reply request → Program S α} {s s' : σ}
      {reply : S.Reply request} :
      answers request s reply s' → Step answers (.call request next, s) (next reply, s')

/-- Any number of calls are answered. -/
abbrev Steps (answers : (request : S.Call) → σ → S.Reply request → σ → Prop) :
    Program S α × σ → Program S α × σ → Prop :=
  Relation.ReflTransGen (Step answers)

/-- However the calls are answered, a state is kept within bounds all along, and at the end so are
the value and the state. -/
def Safely (answers : (request : S.Call) → σ → S.Reply request → σ → Prop) (keeps : σ → Prop)
    (post : α → σ → Prop) : Program S α → σ → Prop
  | .done value, s => keeps s ∧ post value s
  | .call request next, s => keeps s ∧ ∀ reply s', answers request s reply s' →
      Safely answers keeps post (next reply) s'

namespace Safely

variable {keeps : σ → Prop} {post post' : α → σ → Prop} {program rest : Program S α} {s s' : σ}

theorem keeps_start (h : Safely answers keeps post program s) : keeps s := by
  cases program with
  | done value => exact h.1
  | call request next => exact h.1

theorem mono (h : Safely answers keeps post program s)
    (himp : ∀ value s', keeps s' → post value s' → post' value s') :
    Safely answers keeps post' program s := by
  induction program generalizing s with
  | done value => exact ⟨h.1, himp value s h.1 h.2⟩
  | call request next ih =>
    exact ⟨h.1, fun reply s' hreply => ih reply (h.2 reply s' hreply)⟩

/-- One program after another: the second begins in any end of the first. -/
theorem bind {next : α → Program S β} {last : β → σ → Prop}
    (h : Safely answers keeps post program s)
    (hnext : ∀ value s', keeps s' → post value s' → Safely answers keeps last (next value) s') :
    Safely answers keeps last (program.bind next) s := by
  induction program generalizing s with
  | done value => exact hnext value s h.1 h.2
  | call request more ih =>
    exact ⟨h.1, fun reply s' hreply => ih reply (h.2 reply s' hreply)⟩

/-- If the meaning of each call keeps a state within bounds, so does a lowered program. -/
theorem lower {meaning : (request : T.Call) → Program S (T.Reply request)}
    (h : ∀ request s, keeps s → Safely answers keeps (fun _ _ => True) (meaning request) s) :
    ∀ (program : Program T β) (s : σ), keeps s →
      Safely answers keeps (fun _ _ => True) (program.lower meaning) s
  | .done _, _, hs => ⟨hs, trivial⟩
  | .call request next, s, hs =>
    (h request s hs).bind fun reply s' hs' _ => lower h (next reply) s' hs'

theorem step (h : Safely answers keeps post program s)
    (hstep : Step answers (program, s) (rest, s')) : Safely answers keeps post rest s' := by
  cases hstep with
  | call hreply => exact h.2 _ _ hreply

/-- What is safe is so wherever steps lead. -/
theorem of_steps (h : Safely answers keeps post program s)
    (hsteps : Steps answers (program, s) (rest, s')) : Safely answers keeps post rest s' := by
  generalize hlater : (rest, s') = later at hsteps
  induction hsteps generalizing rest s' with
  | refl => cases hlater; exact h
  | tail _ hstep ih => cases hlater; exact (ih rfl).step hstep

/-- A run is one of the ways to answer, if each of its answers is. -/
theorem run {answer : (request : S.Call) → τ → S.Reply request × τ} {view : τ → σ}
    (hanswer : ∀ request t, answers request (view t) (answer request t).1
      (view (answer request t).2)) (t : τ) (h : Safely answers keeps post program (view t)) :
    keeps (view (program.run answer t).2) ∧
      post (program.run answer t).1 (view (program.run answer t).2) := by
  induction program generalizing t with
  | done value => exact h
  | call request next ih => exact ih _ _ (h.2 _ _ (hanswer request t))

end Safely

end AssetCache.Program
