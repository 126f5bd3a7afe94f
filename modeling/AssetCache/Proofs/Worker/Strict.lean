import AssetCache.Proofs.Worker.Surroundings

/-!
# Programs that end at the first failure

A program is `Strict` if a storage call that fails is the last thing it does, and its
failure that of the call. Of such a program, surroundings that refuse calls add only
ends of one kind: either the first call that failed ended it, or no call failed and
the run is the one in calm surroundings (`Strict.run_cases`). So an exact account of
a strict program needs only its calm run.

Two further readings of a program are here: within which regions its storage calls
stay (`Within`), and how often it tells the host to claim clients (`Claims`).
-/

set_option autoImplicit false

namespace AssetCache.Worker

open Storage (Memory)

variable {α β : Type}

/-! ## Strictness -/

/-- A failing storage call is the last thing that a program does. -/
inductive Strict : Routine (Except WorkerError α) → Prop
  | done (result : Except WorkerError α) : Strict (.done result)
  | storage {call : Storage.Call} {next : Storage.Reply call → Routine (Except WorkerError α)} :
    (∀ error, next (.error error) = .done (.error (.storage error))) →
      (∀ value, Strict (next (.ok value))) → Strict (Program.call (Action.storage call) next)
  | other {action : Action} {next : action.Reply → Routine (Except WorkerError α)} :
    (∀ call, action ≠ .storage call) → (∀ reply, Strict (next reply)) →
      Strict (Program.call action next)

namespace Strict

theorem pure (value : α) : Strict (Pure.pure value : Step α).run := .done _

theorem throw (error : WorkerError) : Strict (MonadExcept.throw error : Step α).run := .done _

theorem bind {step : Step α} {next : α → Step β} (h : Strict step.run)
    (hnext : ∀ value, Strict (next value).run) : Strict (step >>= next).run := by
  have key : ∀ program : Routine (Except WorkerError α), Strict program →
      Strict (program.bind (ExceptT.bindCont next)) := by
    intro program h
    induction h with
    | done result =>
      cases result with
      | ok value => exact hnext value
      | error error => exact .done _
    | storage hends _ ih =>
      refine .storage (fun error => ?_) ih
      rw [hends]
      rfl
    | other hother _ ih => exact .other hother ih
  exact key _ h

theorem store (call : Storage.Call) : Strict (Worker.store call).run :=
  .storage (fun _ => rfl) fun _ => .done _

theorem act {action : Action} (h : ∀ call, action ≠ .storage call) :
    Strict (stepAct action).run :=
  .other h fun _ => .done _

/-- A call fails, refused or not, or is answered as it is if none is refused. -/
theorem answer_storage_cases (around : Surroundings) (call : Storage.Call) (scene : Scene) :
    (∃ error memory, around.answer (.storage call) scene =
      (.error error, scene.after (.storage call) (.error error) memory)) ∨
    ∃ value memory, around.answer (.storage call) scene =
        (.ok value, scene.after (.storage call) (.ok value) memory) ∧
      around.calm.answer (.storage call) scene = around.answer (.storage call) scene := by
  cases hrefuse : around.refuse scene.deeds.length call with
  | some error =>
    refine .inl ⟨error, scene.memory, ?_⟩
    simp only [Surroundings.answer, Surroundings.reply, hrefuse]
  | none =>
    cases hreply : (Memory.answer call scene.memory).1 with
    | error error =>
      refine .inl ⟨error, (Memory.answer call scene.memory).2, ?_⟩
      simp only [Surroundings.answer, Surroundings.reply, hrefuse, hreply]
    | ok value =>
      refine .inr ⟨value, (Memory.answer call scene.memory).2, ?_, ?_⟩
      · simp only [Surroundings.answer, Surroundings.reply, hrefuse, hreply]
      · simp only [Surroundings.answer, Surroundings.reply, hrefuse, Surroundings.calm]

/-- Other actions are answered as they are if no call is refused, and are no failures. -/
theorem answer_other (around : Surroundings) {action : Action}
    (hother : ∀ call, action ≠ .storage call) (scene : Scene) :
    around.calm.answer action scene = around.answer action scene ∧
      (around.answer action scene).2.failures = scene.failures := by
  have hfailures : (around.answer action scene).2.failures = scene.failures ++
      [(⟨action, (around.answer action scene).1⟩ : Deed)].filterMap Deed.failure? :=
    List.filterMap_append
  rw [hfailures]
  cases action with
  | storage call => exact absurd rfl (hother call)
  | _ => exact ⟨rfl, List.append_nil _⟩

/-- A run of a strict program ends at the first failing call, or meets none. -/
theorem run_cases {program : Routine (Except WorkerError α)} (h : Strict program)
    (around : Surroundings) : ∀ scene : Scene,
      (∃ error, (around.run program scene).1 = .error (.storage error) ∧
        (around.run program scene).2.failures = scene.failures ++ [error]) ∨
      (around.run program scene = around.calm.run program scene ∧
        (around.run program scene).2.failures = scene.failures) := by
  induction h with
  | done result => intro scene; exact .inr ⟨rfl, rfl⟩
  | @storage call next hends _ ih =>
    intro scene
    have hrun : ∀ around' : Surroundings,
        around'.run (Program.call (Action.storage call) next) scene =
          around'.run (next (around'.answer (.storage call) scene).1)
            (around'.answer (.storage call) scene).2 := fun _ => rfl
    rcases answer_storage_cases around call scene with
      ⟨error, memory, hfirst⟩ | ⟨value, memory, hfirst, hcalm⟩
    · refine .inl ⟨error, ?_⟩
      rw [hrun, hfirst, hends]
      exact ⟨rfl, List.filterMap_append⟩
    · have hfailures : (scene.after (.storage call) (.ok value) memory).failures =
          scene.failures := List.filterMap_append.trans (List.append_nil _)
      rw [hrun around, hrun around.calm, hcalm, hfirst, ← hfailures]
      exact ih value _
  | @other action next hother _ ih =>
    intro scene
    obtain ⟨hcalm, hfailures⟩ := answer_other around hother scene
    have hrun : ∀ around' : Surroundings, around'.run (Program.call action next) scene =
        around'.run (next (around'.answer action scene).1)
          (around'.answer action scene).2 := fun _ => rfl
    rw [hrun around, hrun around.calm, hcalm, ← hfailures]
    exact ih _ _

end Strict

/-! ## Regions -/

/-- A storage call, if an action is one, is about one of some regions. -/
def Within (regions : List String) : Action → Prop
  | .storage call => ∃ region ∈ regions, call.region? = some region
  | _ => True

theorem only_store {ok : Action → Prop} {call : Storage.Call} (h : ok (.storage call)) :
    Program.Only (S := signature) ok (store call).run :=
  .call h fun _ => .done _

theorem only_stepAct {ok : Action → Prop} {action : Action} (h : ok action) :
    Program.Only (S := signature) ok (stepAct action).run :=
  .call h fun _ => .done _

/-- A program that stays within some regions changes no other. -/
theorem get?_of_within {regions : List String} {routine : Routine α}
    (h : Program.Only (S := signature) (Within regions) routine) {region : String}
    (hregion : region ∉ regions) (around : Surroundings) (scene : Scene) :
    (around.run routine scene).2.memory.get? region = scene.memory.get? region := by
  refine h.run_keeps (fun s => s.memory.get? region = scene.memory.get? region)
    (fun action s hwithin hs => ?_) scene rfl
  rw [← hs]
  cases action with
  | storage call =>
    obtain ⟨name, hname, hcall⟩ := hwithin
    have hne : call.region? ≠ some region := by
      rw [hcall]
      exact fun heq => hregion (Option.some.inj heq ▸ hname)
    show (around.reply s.deeds.length (.storage call) s.memory).2.get? region = _
    rw [Surroundings.reply]
    cases around.refuse s.deeds.length call with
    | some error => rfl
    | none => exact Memory.answer_frame call s.memory hne
  | _ => rfl

/-! ## Claims -/

/-- How often a program tells the host to claim clients if it ends in a value; else never. -/
def Claims (step : Step α) (count : Nat) : Prop :=
  ∀ (around : Surroundings) (scene : Scene),
    (around.perform step scene).2.claims =
      scene.claims + if (around.perform step scene).1.isOk then count else 0

/-- Actions other than to claim clients. -/
def IsNoClaim (action : Action) : Prop := action ≠ .claimClients

theorem claims_run {routine : Routine α}
    (h : Program.Only (S := signature) IsNoClaim routine) (around : Surroundings)
    (scene : Scene) : (around.run routine scene).2.claims = scene.claims := by
  refine h.run_keeps (fun s => s.claims = scene.claims) (fun action s hno hs => ?_)
    scene rfl
  rw [← hs]
  show (s.deeds ++ [(⟨action, _⟩ : Deed)]).countP Deed.isClaim = _
  rw [List.countP_append]
  cases action with
  | claimClients => exact absurd rfl hno
  | _ => rfl

namespace Claims

theorem of_only {step : Step α} (h : Program.Only (S := signature) IsNoClaim step.run) :
    Claims step 0 := by
  intro around scene
  rw [ite_self]
  exact claims_run h around scene

theorem claimClients : Claims (stepAct .claimClients) 1 := by
  intro around scene
  show (scene.deeds ++ [(⟨.claimClients, ()⟩ : Deed)]).countP Deed.isClaim = _
  rw [List.countP_append]
  rfl

/-- What comes before the claims makes none. -/
theorem bind {step : Step α} {next : α → Step β} {count : Nat} (h : Claims step 0)
    (hnext : ∀ value, Claims (next value) count) : Claims (step >>= next) count := by
  intro around scene
  have hstep := h around scene
  rw [ite_self] at hstep
  rw [Surroundings.perform_bind]
  cases (around.perform step scene).1 with
  | ok value =>
    show (around.perform (next value) (around.perform step scene).2).2.claims = _
    rw [hnext value around, hstep]
    rfl
  | error error => exact hstep

/-- A value is made of the value of a program. -/
theorem map {step : Step α} {count : Nat} (f : α → β) (h : Claims step count) :
    Claims (step >>= fun value => Pure.pure (f value)) count := by
  intro around scene
  have hstep := h around scene
  rw [Surroundings.perform_bind]
  cases hresult : (around.perform step scene).1 with
  | ok value =>
    rw [hresult] at hstep
    exact hstep
  | error error =>
    rw [hresult] at hstep
    exact hstep

end Claims

end AssetCache.Worker
