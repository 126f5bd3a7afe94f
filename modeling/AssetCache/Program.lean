/-!
# Programs over a signature of calls

A `Signature` lists the calls that a piece of code may make on its surroundings
and the type of each answer. A `Program` is a tree: it either is done with a
value, or makes one call and goes on with the answer. It says what is called and
in which order, and nothing about what the calls do; that is the business of an
interpreter.

Two interpreters are here. `Program.run` answers each call from a state, and
`Program.lower` replaces each call by a program over another signature. Running a
lowered program is running the program with the composed answers (`run_lower`).
-/

set_option autoImplicit false

namespace AssetCache

/-- The calls a program may make, and the type of the answer to each. -/
structure Signature where
  Call : Type
  Reply : Call → Type

/-- A tree of calls that ends in a value. -/
inductive Program (S : Signature) (α : Type) : Type where
  /-- Nothing more is called. -/
  | done (value : α)
  /-- Make a call, then go on with its answer. -/
  | call (request : S.Call) (next : S.Reply request → Program S α)

namespace Program

variable {S T : Signature} {α β γ σ : Type}

/-- Run one program and go on with its value. -/
def bind : Program S α → (α → Program S β) → Program S β
  | .done value, k => k value
  | .call request next, k => .call request fun reply => (next reply).bind k

instance : Monad (Program S) where
  pure := .done
  bind := bind

/-- The program that makes one call and ends with its answer. -/
def perform (request : S.Call) : Program S (S.Reply request) := .call request .done

theorem bind_done : ∀ program : Program S α, program.bind .done = program
  | .done _ => rfl
  | .call request next => congrArg (Program.call request) (funext fun r => bind_done (next r))

theorem bind_assoc (k : α → Program S β) (l : β → Program S γ) :
    ∀ program : Program S α, (program.bind k).bind l = program.bind fun a => (k a).bind l
  | .done _ => rfl
  | .call request next =>
    congrArg (Program.call request) (funext fun r => bind_assoc k l (next r))

instance : LawfulMonad (Program S) :=
  LawfulMonad.mk' (Program S) bind_done (fun _ _ => rfl) (fun p k l => bind_assoc k l p)

/-- Answer every call from a state that the answers may change. -/
def run (answer : (request : S.Call) → σ → S.Reply request × σ) : Program S α → σ → α × σ
  | .done value, s => (value, s)
  | .call request next, s => (next (answer request s).1).run answer (answer request s).2

/-- Replace every call by a program over another signature. -/
def lower (meaning : (request : S.Call) → Program T (S.Reply request)) :
    Program S α → Program T α
  | .done value => .done value
  | .call request next => (meaning request).bind fun reply => (next reply).lower meaning

@[simp] theorem run_done (answer : (request : S.Call) → σ → S.Reply request × σ)
    (value : α) (s : σ) : (Program.done value).run answer s = (value, s) := rfl

theorem run_bind (answer : (request : S.Call) → σ → S.Reply request × σ)
    (k : α → Program S β) :
    ∀ (program : Program S α) (s : σ),
      (program.bind k).run answer s =
        (k (program.run answer s).1).run answer (program.run answer s).2
  | .done _, _ => rfl
  | .call _ next, _ => run_bind answer k (next _) _

/-- Running a lowered program is running the program with the composed answers. -/
theorem run_lower (meaning : (request : S.Call) → Program T (S.Reply request))
    (answer : (request : T.Call) → σ → T.Reply request × σ) :
    ∀ (program : Program S α) (s : σ),
      (program.lower meaning).run answer s =
        program.run (fun request s => (meaning request).run answer s) s
  | .done _, _ => rfl
  | .call request next, s => by
    rw [lower, run_bind]
    exact run_lower meaning answer (next _) _

end Program

/-- A program that may end in a failure. -/
abbrev Attempt (S : Signature) (ε α : Type) : Type := ExceptT ε (Program S) α

namespace Attempt

variable {S : Signature} {ε δ α : Type}

/-- Make a call whose answer may be a failure of another kind, and end on that failure. -/
def perform (request : S.Call) (reply : S.Reply request → Except δ α) (wrap : δ → ε) :
    Attempt S ε α :=
  ExceptT.mk (Program.call request fun r => .done ((reply r).mapError wrap))

/-- Run an attempt and hand its outcome, failure or value, to what follows. -/
def outcome (attempt : Attempt S δ α) : Attempt S ε (Except δ α) :=
  ExceptT.mk (attempt.run.bind fun result => .done (.ok result))

/-- Carry a failure over into another kind. -/
def mapFailure (wrap : δ → ε) (attempt : Attempt S δ α) : Attempt S ε α :=
  ExceptT.mk (attempt.run.bind fun result => .done (result.mapError wrap))

end Attempt

end AssetCache
