import AssetCache.Program

/-!
# Runs of attempts

A run of an attempt comes to a failure or to a value, and leaves a state. What follows an attempt
is run from the state that it leaves if there is a value (`run_bind`), and not at all otherwise.
-/

set_option autoImplicit false

namespace AssetCache.Attempt

variable {S : Signature} {ε δ α β σ : Type}

theorem run_bind (answer : (request : S.Call) → σ → S.Reply request × σ)
    (attempt : Attempt S ε α) (next : α → Attempt S ε β) (s : σ) :
    Program.run answer (attempt >>= next).run s =
      match (Program.run answer attempt.run s).1 with
      | .ok value => Program.run answer (next value).run (Program.run answer attempt.run s).2
      | .error error => (.error error, (Program.run answer attempt.run s).2) := by
  refine (Program.run_bind answer (ExceptT.bindCont next) attempt.run s).trans ?_
  cases (Program.run answer attempt.run s).1 with
  | ok value => rfl
  | error error => rfl

theorem run_mapFailure (answer : (request : S.Call) → σ → S.Reply request × σ) (wrap : δ → ε)
    (attempt : Attempt S δ α) (s : σ) :
    Program.run answer (mapFailure wrap attempt).run s =
      ((Program.run answer attempt.run s).1.mapError wrap,
        (Program.run answer attempt.run s).2) :=
  Program.run_bind answer _ attempt.run s

/-- A program that cannot fail comes to its value. -/
theorem run_lift (answer : (request : S.Call) → σ → S.Reply request × σ) (program : Program S α)
    (s : σ) :
    Program.run answer (ExceptT.lift program : Attempt S ε α).run s =
      (.ok (program.run answer s).1, (program.run answer s).2) :=
  Program.run_bind answer _ program s

end AssetCache.Attempt
