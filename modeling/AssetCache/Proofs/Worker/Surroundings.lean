import AssetCache.Proofs.Program
import AssetCache.Proofs.Storage.Memory
import AssetCache.Worker.Action

/-!
# What a worker meets

A worker's programs are run here over a storage in memory, in surroundings of which
nothing is fixed: any storage call may be refused, and the network may answer
anything. A refused call has no effect. A `Scene` is the storage with all that was
done in it, in order, so that what a worker told its host can be asked afterwards.

Three ways to speak of a run:

- `Surroundings.perform` is the run itself, a function of the scene;
- `Ensures` says what holds of every end of a program from a storage, whatever was
  done before; its rules follow the program;
- `Settles` is the case in which no call is refused and the end is one.

What is not here is more than one program at a time.
-/

set_option autoImplicit false

namespace AssetCache.Worker

open Storage (Memory)

variable {α β : Type}

/-! ## Scenes -/

/-- An action with the reply it got. -/
abbrev Deed : Type := (action : Action) × action.Reply

namespace Deed

/-- The storage call that a deed is. -/
def call? : Deed → Option Storage.Call
  | ⟨.storage call, _⟩ => some call
  | _ => none

/-- Why a storage call failed. -/
def failure? : Deed → Option StorageError
  | ⟨.storage _, .error error⟩ => some error
  | _ => none

/-- Whether the host was told to claim clients. -/
def isClaim : Deed → Bool
  | ⟨.claimClients, _⟩ => true
  | _ => false

end Deed

/-- A storage in memory, and all that was done. -/
structure Scene where
  memory : Memory
  /-- What was done, in order. -/
  deeds : List Deed

namespace Scene

/-- A storage with which nothing has been done. -/
def start (memory : Memory) : Scene := ⟨memory, []⟩

/-- A scene in which one thing more has been done. -/
def after (scene : Scene) (action : Action) (reply : action.Reply) (memory : Memory) : Scene :=
  ⟨memory, scene.deeds ++ [⟨action, reply⟩]⟩

/-- Why storage calls failed. -/
def failures (scene : Scene) : List StorageError := scene.deeds.filterMap Deed.failure?

/-- How often the host was told to claim clients. -/
def claims (scene : Scene) : Nat := scene.deeds.countP Deed.isClaim

end Scene

/-! ## Surroundings -/

/-- How actions are replied to; each reply may hang on how much has been done before. -/
structure Surroundings where
  /-- Why a storage call is refused, if it is. -/
  refuse : Nat → Storage.Call → Option StorageError
  respond : Nat → Request → Fetch.Result
  arrive : Nat → (requests : List Request) → Arrivals requests

namespace Surroundings

/-- The reply to an action, and the storage after it. -/
def reply (around : Surroundings) (count : Nat) :
    (action : Action) → Memory → action.Reply × Memory
  | .storage call, memory =>
    match around.refuse count call with
    | some error => (.error error, memory)
    | none => Memory.answer call memory
  | .fetch request, memory => (around.respond count request, memory)
  | .fetchAll requests, memory => (around.arrive count requests, memory)
  | .skipWaiting, memory => ((), memory)
  | .claimClients, memory => ((), memory)
  | .log _, memory => ((), memory)
  | .beginActivation, memory => ((), memory)
  | .endActivation, memory => ((), memory)

/-- The reply to an action in a scene, and the scene after it. -/
def answer (around : Surroundings) (action : Action) (scene : Scene) : action.Reply × Scene :=
  let (reply, memory) := around.reply scene.deeds.length action scene.memory
  (reply, scene.after action reply memory)

/-- The same surroundings, but no storage call is refused. -/
def calm (around : Surroundings) : Surroundings := { around with refuse := fun _ _ => none }

/-- The network answers nothing, and a storage call is refused for one reason or none. -/
def offline (refused : Option StorageError) : Surroundings where
  refuse := fun _ _ => refused
  respond := fun _ request => .error (.request request.url "offline")
  arrive := fun _ requests =>
    ⟨requests.map fun request => ⟨0, .error (.request request.url "offline")⟩, List.length_map _⟩

/-- A network that serves one response, and a storage that refuses nothing. -/
def serving (response : Response) : Surroundings where
  refuse := fun _ _ => none
  respond := fun _ _ => .ok response
  arrive := fun _ requests => ⟨requests.map fun _ => ⟨0, .ok response⟩, List.length_map _⟩

/-- Run a program that cannot fail. -/
def run (around : Surroundings) (routine : Routine α) (scene : Scene) : α × Scene :=
  Program.run around.answer routine scene

/-- Run a program that may fail. -/
def perform (around : Surroundings) (step : Step α) (scene : Scene) :
    Except WorkerError α × Scene :=
  around.run step.run scene

variable {around : Surroundings} {scene : Scene}

theorem run_bind (routine : Routine α) (next : α → Routine β) :
    around.run (routine.bind next) scene =
      around.run (next (around.run routine scene).1) (around.run routine scene).2 :=
  Program.run_bind _ _ _ _

/-- What follows an attempt is done only if the attempt ended in a value. -/
theorem perform_bind (step : Step α) (next : α → Step β) :
    around.perform (step >>= next) scene =
      match (around.perform step scene).1 with
      | .ok value => around.perform (next value) (around.perform step scene).2
      | .error error => (.error error, (around.perform step scene).2) := by
  show around.run (step.run.bind _) scene = _
  rw [run_bind]
  show around.run (ExceptT.bindCont next (around.perform step scene).1)
    (around.perform step scene).2 = _
  cases (around.perform step scene).1 with
  | ok value => rfl
  | error error => rfl

theorem perform_stepAct (action : Action) :
    around.perform (stepAct action) scene =
      (.ok (around.answer action scene).1, (around.answer action scene).2) := rfl

theorem perform_store (call : Storage.Call) :
    around.perform (store call) scene =
      ((around.answer (.storage call) scene).1.mapError .storage,
        (around.answer (.storage call) scene).2) := rfl

/-- What follows an action is done in the scene after it. -/
theorem perform_stepAct_bind (action : Action) (next : action.Reply → Step β) :
    around.perform (stepAct action >>= next) scene =
      around.perform (next (around.answer action scene).1) (around.answer action scene).2 := rfl

/-- What follows a storage call that is refused is not done. -/
theorem perform_store_bind_of_refused {call : Storage.Call} {refusal : StorageError}
    (h : around.refuse scene.deeds.length call = some refusal) (next : call.Value → Step β) :
    around.perform (store call >>= next) scene =
      (.error (.storage refusal),
        scene.after (.storage call) (.error refusal) scene.memory) := by
  rw [perform_bind, perform_store, answer, reply, h]
  rfl

/-- What follows a storage call that is answered is done with the answer. -/
theorem perform_store_bind_of_answered {call : Storage.Call} {value : call.Value} {after : Memory}
    (h : around.refuse scene.deeds.length call = none)
    (hanswer : Memory.answer call scene.memory = (.ok value, after)) (next : call.Value → Step β) :
    around.perform (store call >>= next) scene =
      around.perform (next value) (scene.after (.storage call) (.ok value) after) := by
  rw [perform_bind, perform_store, answer, reply, h]
  dsimp only
  rw [hanswer]
  rfl

end Surroundings

/-! ## Programs over the storage -/

/-- To use the storage twice is to do one program over it after the other. -/
theorem onStorage_bind (attempt : Attempt Storage.signature StorageError α)
    (next : α → Attempt Storage.signature StorageError β) :
    onStorage (attempt >>= next) = onStorage attempt >>= fun value => onStorage (next value) := by
  have key : ∀ program : Program Storage.signature (Except StorageError α),
      onStorage (ExceptT.mk program >>= next) =
        onStorage (ExceptT.mk program) >>= fun value => onStorage (next value) := by
    intro program
    induction program with
    | done result =>
      cases result with
      | ok value => rfl
      | error error => rfl
    | call request rest ih =>
      exact congrArg (fun tree => (ExceptT.mk (Program.call (Action.storage request) tree) : Step β))
        (funext fun reply => ih reply)
  exact key attempt

/-! ## Every end of a program -/

/-- What holds of every end of a program from a storage, whatever was done before. -/
def Ensures (around : Surroundings) (step : Step α) (before : Memory)
    (post : Except WorkerError α → Memory → Prop) : Prop :=
  ∀ deeds, post (around.perform step ⟨before, deeds⟩).1
    (around.perform step ⟨before, deeds⟩).2.memory

namespace Ensures

variable {around : Surroundings} {before : Memory} {post : Except WorkerError α → Memory → Prop}

theorem pure {value : α} (h : post (.ok value) before) :
    Ensures around (Pure.pure value) before post :=
  fun _ => h

theorem throw {error : WorkerError} (h : post (.error error) before) :
    Ensures around (MonadExcept.throw error) before post :=
  fun _ => h

theorem mono {step : Step α} {post' : Except WorkerError α → Memory → Prop}
    (h : Ensures around step before post) (himp : ∀ result after, post result after →
      post' result after) : Ensures around step before post' :=
  fun deeds => himp _ _ (h deeds)

/-- One program after another: the second starts where the first ends in a value. -/
theorem bind {step : Step β} {next : β → Step α}
    (h : Ensures around step before fun result after =>
      match result with
      | .ok value => Ensures around (next value) after post
      | .error error => post (.error error) after) :
    Ensures around (step >>= next) before post := by
  intro deeds
  have hstep := h deeds
  rw [Surroundings.perform_bind]
  cases hresult : (around.perform step ⟨before, deeds⟩).1 with
  | ok value =>
    rw [hresult] at hstep
    exact hstep (around.perform step ⟨before, deeds⟩).2.deeds
  | error error =>
    rw [hresult] at hstep
    exact hstep

/-- A storage call is refused without effect, or does what it does. -/
theorem store {call : Storage.Call} {post : Except WorkerError call.Value → Memory → Prop}
    (refused : ∀ count error, around.refuse count call = some error →
      post (.error (.storage error)) before)
    (answered : post ((Memory.answer call before).1.mapError .storage)
      (Memory.answer call before).2) :
    Ensures around (Worker.store call) before post := by
  intro deeds
  rw [Surroundings.perform_store, Surroundings.answer, Surroundings.reply]
  cases hrefuse : around.refuse deeds.length call with
  | some error => exact refused deeds.length error hrefuse
  | none => exact answered

/-- A storage call whose failure is looked at. -/
theorem attemptStore {call : Storage.Call}
    {post : Except WorkerError (Storage.Reply call) → Memory → Prop}
    (refused : ∀ count error, around.refuse count call = some error →
      post (.ok (.error error)) before)
    (answered : post (.ok (Memory.answer call before).1) (Memory.answer call before).2) :
    Ensures around (stepAct (.storage call)) before post := by
  intro deeds
  rw [Surroundings.perform_stepAct, Surroundings.answer, Surroundings.reply]
  cases hrefuse : around.refuse deeds.length call with
  | some error => exact refused deeds.length error hrefuse
  | none => exact answered

theorem fetch {request : Request} {post : Except WorkerError Fetch.Result → Memory → Prop}
    (h : ∀ count, post (.ok (around.respond count request)) before) :
    Ensures around (stepAct (.fetch request)) before post :=
  fun deeds => h deeds.length

theorem fetchBatch {requests : List Request}
    {post : Except WorkerError (Except FetchError (List (Request × Response))) → Memory → Prop}
    (h : ∀ count, post (.ok (Fetch.Batch.outcome requests (around.arrive count requests).1))
      before) :
    Ensures around (Worker.fetchBatch requests) before post :=
  fun deeds => h deeds.length

theorem skipWaiting {post : Except WorkerError Unit → Memory → Prop} (h : post (.ok ()) before) :
    Ensures around (stepAct .skipWaiting) before post :=
  fun _ => h

theorem claimClients {post : Except WorkerError Unit → Memory → Prop} (h : post (.ok ()) before) :
    Ensures around (stepAct .claimClients) before post :=
  fun _ => h

theorem note {event : Event} {level : Log.Level} {message : String} {fields : Log.Fields}
    {key : Option String} {post : Except WorkerError Unit → Memory → Prop}
    (h : post (.ok ()) before) :
    Ensures around (stepNote event level message fields key) before post :=
  fun _ => h

end Ensures

/-! ## The one end of a program where nothing is refused -/

/-- Where no storage call is refused, a program ends so from a storage. -/
def Settles (step : Step α) (before : Memory) (result : Except WorkerError α) (after : Memory) :
    Prop :=
  ∀ around : Surroundings,
    Ensures around.calm step before fun result' after' => result' = result ∧ after' = after

namespace Settles

variable {before middle after : Memory} {result : Except WorkerError β}

theorem pure {value : α} : Settles (Pure.pure value) before (.ok value) before :=
  fun _ => .pure ⟨rfl, rfl⟩

theorem throw {error : WorkerError} :
    Settles (MonadExcept.throw error : Step α) before (.error error) before :=
  fun _ => .throw ⟨rfl, rfl⟩

/-- What follows a program that settles starts from where that ends. -/
theorem bind_ensures {around : Surroundings} {step : Step α} {next : α → Step β} {value : α}
    {post : Except WorkerError β → Memory → Prop} (h : Settles step before (.ok value) middle)
    (hnext : Ensures around.calm (next value) middle post) :
    Ensures around.calm (step >>= next) before post := by
  refine .bind ((h around).mono fun result' after' heq => ?_)
  obtain ⟨rfl, rfl⟩ := heq
  exact hnext

theorem bind {step : Step α} {next : α → Step β} {value : α}
    (h : Settles step before (.ok value) middle)
    (hnext : Settles (next value) middle result after) :
    Settles (step >>= next) before result after :=
  fun around => bind_ensures h (hnext around)

theorem bind_error {step : Step α} {next : α → Step β} {error : WorkerError}
    (h : Settles step before (.error error) after) :
    Settles (step >>= next) before (.error error) after := by
  intro around
  refine .bind ((h around).mono fun result' after' heq => ?_)
  obtain ⟨rfl, rfl⟩ := heq
  exact ⟨rfl, rfl⟩

theorem store {call : Storage.Call} {value : call.Value}
    (h : Memory.answer call before = (.ok value, after)) :
    Settles (Worker.store call) before (.ok value) after := by
  intro around
  refine .store (fun count error hrefuse => ?_) ?_
  · cases hrefuse
  · rw [h]
    exact ⟨rfl, rfl⟩

theorem claimClients : Settles (stepAct .claimClients) before (.ok ()) before :=
  fun _ => .claimClients ⟨rfl, rfl⟩

end Settles

end AssetCache.Worker
