import Mathlib.Logic.Relation
import AssetCache.Proofs.Worker.Deploys
import AssetCache.Proofs.Worker.Serving

/-!
# Operations that interleave

Here any number of operations, of any number of workers of one configuration, are under
way over one storage. Each is what is left of its program, and one step of one of them
is one storage call, one answer of the network or one word to the host. A storage call
may be refused at any time, and then has no effect.

The fetches of a batch are answered one by one, and other operations go on in between.
A batch ends when all of it is answered, or when one fetch of it has failed; what has
not been answered then is never heard of.

An operation that goes through without interruption, in any surroundings, is one of the
cases (`Operation.steps`), so what holds of every world that is reached holds of those.

Activations of one worker do not take turns here. So there are more worlds than an
actual host can come to, and nothing is said of when a step is taken or whether.
-/

set_option autoImplicit false

namespace AssetCache.Worker

open Storage (Memory)

/-- A request with the response that the network gave to it. -/
abbrev Answer : Type := Request × Response

/-- The answer that an exchange is, if it is one. -/
def answers : Exchange → List Answer
  | (request, .ok response) => [(request, response)]
  | (_, .error _) => []

/-- Whether an action is a word to the host or to the log. -/
def Action.IsWord : Action → Prop
  | .storage _ => False
  | .fetch _ => False
  | .fetchAll _ => False
  | _ => True

/-- An operation that is under way. -/
structure Task where
  /-- What is left of its program. -/
  rest : Routine Unit
  /-- What has been answered of the batch that it waits for, by position. -/
  arrived : Nat → Option Exchange

/-- A task of which nothing has been answered that it has not used. -/
def Task.ready (rest : Routine Unit) : Task := ⟨rest, fun _ => none⟩

/-- A step of a task: the storage before and after, and what the network answered. -/
inductive Task.Step (memory : Memory) : Task → Memory → List Answer → Task → Prop
  | refused {call : Storage.Call} {next : Storage.Reply call → Routine Unit}
      {arrived : Nat → Option Exchange} (error : StorageError) :
      Step memory ⟨.call (.storage call) next, arrived⟩ memory [] (.ready (next (.error error)))
  | stored {call : Storage.Call} {next : Storage.Reply call → Routine Unit}
      {arrived : Nat → Option Exchange} :
      Step memory ⟨.call (.storage call) next, arrived⟩ (Memory.answer call memory).2 []
        (.ready (next (Memory.answer call memory).1))
  | fetched {request : Request} {next : Fetch.Result → Routine Unit}
      {arrived : Nat → Option Exchange} (result : Fetch.Result) :
      Step memory ⟨.call (.fetch request) next, arrived⟩ memory (answers (request, result))
        (.ready (next result))
  /-- One fetch of a batch is answered. -/
  | arrives {requests : List Request} {next : Arrivals requests → Routine Unit}
      {arrived : Nat → Option Exchange} {i : Nat} {request : Request} (result : Fetch.Result) :
      requests[i]? = some request → arrived i = none →
        Step memory ⟨.call (.fetchAll requests) next, arrived⟩ memory (answers (request, result))
          ⟨.call (.fetchAll requests) next,
            fun j => if j = i then some (request, result) else arrived j⟩
  /-- All of a batch has been answered. -/
  | completed {requests : List Request} {next : Arrivals requests → Routine Unit}
      {arrived : Nat → Option Exchange} (arrivals : Arrivals requests) :
      (∀ i exchange, (batchExchanges requests arrivals.1)[i]? = some exchange →
        arrived i = some exchange) →
        Step memory ⟨.call (.fetchAll requests) next, arrived⟩ memory [] (.ready (next arrivals))
  /-- One fetch of a batch has failed. -/
  | aborted {requests : List Request} {next : Arrivals requests → Routine Unit}
      {arrived : Nat → Option Exchange} {request : Request} {result : Fetch.Result} {i : Nat}
      {error : FetchError} (arrivals : Arrivals requests) :
      (∀ i exchange, arrived i = some exchange →
        (batchExchanges requests arrivals.1)[i]? = some exchange) →
      arrived i = some (request, result) → Fetch.requireSuccess request result = .error error →
      Fetch.Batch.outcome requests arrivals.1 = .error error →
        Step memory ⟨.call (.fetchAll requests) next, arrived⟩ memory [] (.ready (next arrivals))
  | told {action : Action} {next : action.Reply → Routine Unit}
      {arrived : Nat → Option Exchange} (reply : action.Reply) :
      action.IsWord →
        Step memory ⟨.call action next, arrived⟩ memory [] (.ready (next reply))

/-- The program of an operation, whatever it ends in. -/
def Operation.routine (worker : Worker) : Operation → Routine Unit
  | .install => worker.install.run.bind fun _ => .done ()
  | .activate => worker.activate.bind fun _ => .done ()
  | .handleFetch request => (worker.handleFetch request).run.bind fun _ => .done ()
  | .handleMessage payload => (worker.handleMessage payload).run.bind fun _ => .done ()
  | .downloadOffline => worker.downloadOffline.run.bind fun _ => .done ()

/-- A storage in memory with the operations under way, and all that the network answered. -/
structure World where
  memory : Memory
  tasks : List Task
  answered : List Answer

namespace World

/-- Nothing is stored and nothing under way. -/
def initial : World := ⟨.empty, [], []⟩

/-- A worker of a configuration begins an operation, or one that is under way goes on. -/
inductive Step (config : Config) : World → World → Prop
  | begin {memory : Memory} {tasks : List Task} {answered : List Answer} (worker : Worker)
      (operation : Operation) : worker.config = config →
        Step config ⟨memory, tasks, answered⟩
          ⟨memory, tasks ++ [.ready (operation.routine worker)], answered⟩
  | proceed {memory after : Memory} {front back : List Task} {task later : Task}
      {answered fresh : List Answer} : task.Step memory after fresh later →
        Step config ⟨memory, front ++ task :: back, answered⟩
          ⟨after, front ++ later :: back, answered ++ fresh⟩

/-- Any number of steps lead from one world to another. -/
abbrev Steps (config : Config) : World → World → Prop := Relation.ReflTransGen (Step config)

/-- A world that may be come to. -/
abbrev Reached (config : Config) (world : World) : Prop := Steps config initial world

end World

/-! ## Runs without interruption -/

/-- Any number of steps of one task, with all that the network answered in them. -/
inductive Task.Steps (memory : Memory) (task : Task) : Memory → List Answer → Task → Prop
  | refl : Steps memory task memory [] task
  | tail {middle after : Memory} {next later : Task} {fresh more : List Answer} :
      Steps memory task middle fresh next → next.Step middle after more later →
        Steps memory task after (fresh ++ more) later

namespace Task.Steps

variable {memory middle after : Memory} {task next later : Task} {fresh more : List Answer}

theorem single (h : task.Step memory after fresh later) : task.Steps memory after fresh later :=
  .tail .refl h

theorem trans (h : task.Steps memory middle fresh next)
    (hnext : next.Steps middle after more later) :
    task.Steps memory after (fresh ++ more) later := by
  induction hnext with
  | refl => exact (List.append_nil fresh).symm ▸ h
  | tail _ hlast ih =>
    rw [← List.append_assoc]
    exact ih.tail hlast

/-- The other operations may stay as they are while one goes on. -/
theorem world (h : task.Steps memory after fresh later) (config : Config) (front back : List Task)
    (answered : List Answer) :
    World.Steps config ⟨memory, front ++ task :: back, answered⟩
      ⟨after, front ++ later :: back, answered ++ fresh⟩ := by
  induction h with
  | refl => rw [List.append_nil]
  | tail _ hlast ih =>
    rw [← List.append_assoc]
    exact ih.tail (.proceed hlast)

/-- The fetches of a batch may be answered in order, one after the other. -/
theorem arrivals (memory : Memory) {requests : List Request}
    (next : Arrivals requests → Routine Unit) (arrivals : Arrivals requests) :
    ∀ count ≤ requests.length,
      (Task.ready (.call (.fetchAll requests) next)).Steps memory memory
        (((batchExchanges requests arrivals.1).take count).flatMap answers)
        ⟨.call (.fetchAll requests) next, fun i =>
          if i < count then (batchExchanges requests arrivals.1)[i]? else none⟩ := by
  intro count
  induction count with
  | zero => exact fun _ => .refl
  | succ count ih =>
    intro hcount
    have hlength : count < arrivals.1.length := by
      rw [arrivals.2]
      exact hcount
    have hexchange : (batchExchanges requests arrivals.1)[count]? =
        some (requests[count], arrivals.1[count].result) := by
      simp [batchExchanges, List.getElem?_zip_eq_some, hlength]
    -- the next fetch to be answered is the one at this position
    have harrived : (fun i => if i < count + 1 then (batchExchanges requests arrivals.1)[i]?
        else none) = fun i => if i = count then some (requests[count], arrivals.1[count].result)
          else if i < count then (batchExchanges requests arrivals.1)[i]? else none := by
      funext i
      rcases Nat.lt_trichotomy i count with hlt | rfl | hgt
      · rw [if_pos (by omega), if_neg (by omega), if_pos hlt]
      · rw [if_pos (by omega), if_pos rfl, hexchange]
      · rw [if_neg (by omega), if_neg (by omega), if_neg (by omega)]
    rw [harrived, List.take_add_one, hexchange, List.flatMap_append]
    refine (ih (Nat.le_of_succ_le hcount)).tail ?_
    rw [Option.toList_some, List.flatMap_singleton]
    exact .arrives _ (List.getElem?_eq_getElem _) (if_neg (Nat.lt_irrefl _))

/-- A batch may be answered in full before anything else is done. -/
theorem fetchAll (memory : Memory) {requests : List Request}
    (next : Arrivals requests → Routine Unit) (arrivals : Arrivals requests) :
    (Task.ready (.call (.fetchAll requests) next)).Steps memory memory
      ((batchExchanges requests arrivals.1).flatMap answers) (.ready (next arrivals)) := by
  have hlength : (batchExchanges requests arrivals.1).length = requests.length := by
    simp [batchExchanges, arrivals.2]
  have hall := Steps.arrivals memory next arrivals requests.length (Nat.le_refl _)
  rw [List.take_of_length_le (Nat.le_of_eq hlength)] at hall
  have hlast := hall.tail (.completed arrivals fun i exchange hexchange => by
    rw [if_pos (hlength ▸ (List.getElem?_eq_some_iff.mp hexchange).1)]
    exact hexchange)
  rwa [List.append_nil] at hlast

/-- An action may be replied to as any surroundings do, before anything else is done. -/
theorem answer (around : Surroundings) (scene : Scene) (action : Action)
    (next : action.Reply → Routine Unit) :
    (Task.ready (.call action next)).Steps scene.memory (around.answer action scene).2.memory
      ((Deed.exchanges ⟨action, (around.answer action scene).1⟩).flatMap answers)
      (.ready (next (around.answer action scene).1)) := by
  cases action with
  | storage call =>
    show Task.Steps _ _ (around.reply scene.deeds.length (.storage call) scene.memory).2 _
      (.ready (next (around.reply scene.deeds.length (.storage call) scene.memory).1))
    rw [Surroundings.reply]
    cases around.refuse scene.deeds.length call with
    | some error => exact .single (.refused error)
    | none => exact .single .stored
  | fetch request =>
    show Task.Steps _ _ _ (answers (request, around.respond scene.deeds.length request) ++ []) _
    rw [List.append_nil]
    exact .single (.fetched _)
  | fetchAll requests => exact fetchAll _ next _
  | _ =>
    refine .single (.told _ ?_)
    trivial

/-- To run a program without interruption is one of the ways in which it may go on. -/
theorem run (around : Surroundings) (routine : Routine Unit) : ∀ scene : Scene, ∃ sent,
    (around.run routine scene).2.exchanges = scene.exchanges ++ sent ∧
      (Task.ready routine).Steps scene.memory (around.run routine scene).2.memory
        (sent.flatMap answers) (.ready (.done ())) := by
  induction routine with
  | done value => exact fun scene => ⟨[], (List.append_nil _).symm, .refl⟩
  | call action next ih =>
    intro scene
    obtain ⟨sent, hsent, hrest⟩ :=
      ih (around.answer action scene).1 (around.answer action scene).2
    refine ⟨Deed.exchanges ⟨action, (around.answer action scene).1⟩ ++ sent, ?_, ?_⟩
    · rw [← List.append_assoc]
      exact hsent.trans (congrArg (· ++ sent) (Scene.exchanges_after _ _ _ _))
    · rw [List.flatMap_append]
      exact (answer around scene action next).trans hrest

end Task.Steps

/-- An operation may go through without interruption, in any surroundings. -/
theorem Operation.steps (operation : Operation) (worker : Worker) (around : Surroundings)
    (memory : Memory) : ∃ fresh, (Task.ready (operation.routine worker)).Steps memory
      (operation.after worker around memory) fresh (.ready (.done ())) := by
  have hafter : operation.after worker around memory =
      (around.run (operation.routine worker) (Scene.start memory)).2.memory := by
    cases operation <;> rw [routine, Surroundings.run_bind] <;> rfl
  obtain ⟨sent, _, hsteps⟩ := Task.Steps.run around (operation.routine worker) (Scene.start memory)
  rw [hafter]
  exact ⟨_, hsteps⟩

/-- An operation that has begun may be overtaken by another before it goes on. -/
theorem reached_overtaken (around : Surroundings) (worker : Worker)
    (operation overtaking : Operation) : ∃ answered, World.Reached worker.config
      ⟨operation.after worker around (overtaking.after worker around .empty),
        [.ready (.done ()), .ready (.done ())], answered⟩ := by
  let waiting := Task.ready (operation.routine worker)
  have hbegun : World.Reached worker.config
      ⟨.empty, [waiting, .ready (overtaking.routine worker)], []⟩ :=
    (Relation.ReflTransGen.single (.begin worker operation rfl)).tail (.begin worker _ rfl)
  obtain ⟨_, hfirst⟩ := overtaking.steps worker around .empty
  obtain ⟨_, hsecond⟩ := operation.steps worker around (overtaking.after worker around .empty)
  exact ⟨_, (hbegun.trans (hfirst.world worker.config [waiting] [] [])).trans
    (hsecond.world worker.config [] [.ready (.done ())] _)⟩

end AssetCache.Worker
