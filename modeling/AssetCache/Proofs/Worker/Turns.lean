import Mathlib.Data.Fintype.Card
import Mathlib.Logic.Relation
import AssetCache.Proofs.Worker.Record

/-!
# Activations that take turns

Any number of activations of one worker are under way over one storage, and between any
two actions of one the others may go on. Each waits for a lock before it does anything,
and holds it until it is over; who gets the lock next is not fixed. Of the lock no more
is assumed than that it is given to one at a time.

So activations do not overlap: one that has the lock runs as it would run alone
(`Orderly.step`), and when all have ended the storage, what was done and what was reported
are those of as many activations in succession (`Orderly.of_reached`). `turns_of_activations`
adds what is reported then if no storage call is refused: from the second turn on nothing
is copied, and from the third on nothing is evicted.

Neither says what other operations do in between: those do not wait for the lock.
-/

set_option autoImplicit false

namespace AssetCache.Worker

open Storage (Memory)

variable {worker : Worker} {around : Surroundings} {memory : Memory} {n : Nat}

/-! ## Activations under way -/

/-- A number of activations under way over one storage. -/
structure Queue (n : Nat) where
  scene : Scene
  /-- The activation that has the lock. -/
  holder : Option (Fin n)
  /-- What is left of each. -/
  tasks : Fin n → Routine Activation
  /-- Those that have been given the lock, in order. -/
  order : List (Fin n)

namespace Queue

/-- None of the activations of a worker has done anything. -/
def start (worker : Worker) (memory : Memory) : Queue n :=
  ⟨.start memory, none, fun _ => worker.activate, []⟩

/-- One of the activations does what it does next. -/
inductive Step (around : Surroundings) : Queue n → Queue n → Prop
  /-- The lock is free, and is given to one that waits for it. -/
  | acquire {queue : Queue n} {i : Fin n} {next : Unit → Routine Activation} :
      queue.tasks i = .call .beginActivation next → queue.holder = none →
        Step around queue ⟨(around.answer .beginActivation queue.scene).2, some i,
          Function.update queue.tasks i (next ()), queue.order ++ [i]⟩
  | release {queue : Queue n} {i : Fin n} {next : Unit → Routine Activation} :
      queue.tasks i = .call .endActivation next →
        Step around queue ⟨(around.answer .endActivation queue.scene).2, none,
          Function.update queue.tasks i (next ()), queue.order⟩
  /-- Anything else is done whoever has the lock. -/
  | act {queue : Queue n} {i : Fin n} {action : Action} {next : action.Reply → Routine Activation} :
      queue.tasks i = .call action next →
        action ≠ .beginActivation → action ≠ .endActivation →
          Step around queue ⟨(around.answer action queue.scene).2, queue.holder,
            Function.update queue.tasks i (next (around.answer action queue.scene).1),
            queue.order⟩

/-- Any number of steps lead from one state of the activations to another. -/
abbrev Steps (around : Surroundings) : Queue n → Queue n → Prop :=
  Relation.ReflTransGen (Step around)

/-- The activations may come to this. -/
abbrev Reached (around : Surroundings) (worker : Worker) (memory : Memory) (queue : Queue n) :
    Prop :=
  Steps around (start worker memory) queue

/-- All of the activations have ended. -/
def Over (queue : Queue n) : Prop := ∀ i, ∃ outcome, queue.tasks i = .done outcome

end Queue

/-! ## Activations in succession -/

/-- The scene after a number of activations, each begun when the one before has ended. -/
def afterTurns (around : Surroundings) (worker : Worker) (memory : Memory) : Nat → Scene
  | 0 => .start memory
  | k + 1 => (around.run worker.activate (afterTurns around worker memory k)).2

/-- What is reported by the activation that comes after a number of others. -/
def turn (around : Surroundings) (worker : Worker) (memory : Memory) (k : Nat) : Activation :=
  (around.run worker.activate (afterTurns around worker memory k)).1

/-! ## With the lock -/

/-- What is left of an activation that has the lock: it gives it back, and is over then. -/
inductive Holding : Routine Activation → Prop
  | release {next : Unit → Routine Activation} (outcome : Activation) :
      next () = .done outcome → Holding (.call .endActivation next)
  | act {action : Action} {next : action.Reply → Routine Activation} :
      action ≠ .beginActivation → action ≠ .endActivation → (∀ reply, Holding (next reply)) →
        Holding (.call action next)

/-- Actions that neither take the lock nor give it back. -/
def LeavesLock (action : Action) : Prop := action ≠ .beginActivation ∧ action ≠ .endActivation

theorem Holding.bind {α : Type} {routine : Routine α} {next : α → Routine Activation}
    (h : Program.Only (S := signature) LeavesLock routine) (hnext : ∀ value, Holding (next value)) :
    Holding (routine.bind next) := by
  induction h with
  | done value => exact hnext value
  | call hleaves _ ih => exact .act hleaves.1 hleaves.2 ih

theorem leavesLock_log (note : Log.Note) : LeavesLock (.log note) :=
  ⟨nofun, nofun⟩

theorem leavesLock_storage (call : Storage.Call) : LeavesLock (.storage call) :=
  ⟨nofun, nofun⟩

/-- The last action of an activation gives the lock back. -/
theorem holding_conclude (worker : Worker) (result : Except WorkerError Activation) :
    Holding (worker.conclude result) := by
  cases result with
  | ok outcome =>
    exact .bind (only_noteActivation leavesLock_log outcome) fun _ => .release outcome rfl
  | error error =>
    refine .bind (.perform (leavesLock_log _)) fun _ => ?_
    refine .bind (only_clear leavesLock_log _ fun _ _ => leavesLock_storage _) fun _ => ?_
    exact .release (.reset error.message) rfl

theorem holding_locked (worker : Worker) : Holding worker.locked :=
  .bind (only_reconcile (fun call _ => leavesLock_storage call)
    ⟨nofun, nofun⟩) (holding_conclude worker)

/-! ## One at a time -/

/-- Some activations have ended, and each as in succession. -/
def Queue.Ended (around : Surroundings) (worker : Worker) (memory : Memory) (queue : Queue n)
    (served : List (Fin n)) : Prop :=
  served.map queue.tasks =
    (List.range served.length).map fun k => .done (turn around worker memory k)

/-- Those without the lock have ended or not begun; one with it runs as it would alone. -/
structure Orderly (around : Surroundings) (worker : Worker) (memory : Memory) (queue : Queue n) :
    Prop where
  once : queue.order.Nodup
  waiting : ∀ i ∉ queue.order, queue.tasks i = worker.activate
  turns :
    match queue.holder with
    | none => queue.Ended around worker memory queue.order ∧
        queue.scene = afterTurns around worker memory queue.order.length
    | some i => ∃ served, queue.order = served ++ [i] ∧ queue.Ended around worker memory served ∧
        Holding (queue.tasks i) ∧ around.run (queue.tasks i) queue.scene =
          around.run worker.activate (afterTurns around worker memory served.length)

variable {queue queue' : Queue n}

namespace Queue.Ended

variable {served : List (Fin n)} {i : Fin n}

theorem done (h : queue.Ended around worker memory served) (hi : i ∈ served) :
    ∃ outcome, queue.tasks i = .done outcome := by
  have hmem := List.mem_map_of_mem (f := queue.tasks) hi
  rw [show served.map queue.tasks = _ from h] at hmem
  obtain ⟨k, _, hk⟩ := List.mem_map.mp hmem
  exact ⟨_, hk.symm⟩

/-- What another activation does changes nothing for those that have ended. -/
theorem update (h : queue.Ended around worker memory served) (hi : i ∉ served)
    (rest : Routine Activation) (htasks : queue'.tasks = Function.update queue.tasks i rest) :
    queue'.Ended around worker memory served := by
  refine Eq.trans (List.map_congr_left fun j hj => ?_) h
  rw [htasks]
  exact Function.update_of_ne (fun heq : j = i => hi (heq ▸ hj)) _ _

/-- One more has ended, in its turn. -/
theorem snoc (h : queue.Ended around worker memory served)
    (hi : queue.tasks i = .done (turn around worker memory served.length)) :
    queue.Ended around worker memory (served ++ [i]) := by
  rw [Ended, List.map_append, List.length_append, List.length_singleton, List.range_succ,
    List.map_append, show served.map queue.tasks = _ from h]
  exact congrArg (_ ++ [·]) hi

end Queue.Ended

namespace Orderly

theorem start (around : Surroundings) (worker : Worker) (memory : Memory) :
    Orderly around worker memory (Queue.start worker memory : Queue n) where
  once := .nil
  waiting := fun _ _ => rfl
  turns := ⟨rfl, rfl⟩

/-- An activation that has not had the lock has not begun. -/
theorem notMem_of_acquire (h : Orderly around worker memory queue) {i : Fin n}
    {next : Unit → Routine Activation} (htask : queue.tasks i = .call .beginActivation next)
    (hholder : queue.holder = none) : i ∉ queue.order := by
  intro hmem
  have hturns := h.turns
  rw [hholder] at hturns
  obtain ⟨outcome, hdone⟩ := hturns.1.done hmem
  rw [htask] at hdone
  cases hdone

/-- Only the activation that has the lock does anything but wait for it. -/
theorem holder_of_call (h : Orderly around worker memory queue) {i : Fin n} {action : Action}
    {next : action.Reply → Routine Activation} (htask : queue.tasks i = .call action next)
    (haction : action ≠ .beginActivation) :
    queue.holder = some i ∧ ∃ served, queue.order = served ++ [i] ∧ i ∉ served ∧
      queue.Ended around worker memory served ∧ Holding (.call action next) ∧
      around.run (next (around.answer action queue.scene).1) (around.answer action queue.scene).2 =
        around.run worker.activate (afterTurns around worker memory served.length) := by
  have hmem : i ∈ queue.order := by
    by_contra hnot
    have hwaits := h.waiting i hnot
    rw [htask, activate_eq_call] at hwaits
    cases hwaits
    exact haction rfl
  have hturns := h.turns
  cases hholder : queue.holder with
  | none =>
    rw [hholder] at hturns
    obtain ⟨outcome, hdone⟩ := hturns.1.done hmem
    rw [htask] at hdone
    cases hdone
  | some j =>
    rw [hholder] at hturns
    obtain ⟨served, horder, hended, hholding, hrun⟩ := hturns
    have honce := h.once
    rw [horder] at hmem honce
    rcases List.mem_append.mp hmem with hserved | hlast
    · obtain ⟨outcome, hdone⟩ := hended.done hserved
      rw [htask] at hdone
      cases hdone
    · obtain rfl := List.mem_singleton.mp hlast
      rw [htask] at hholding hrun
      exact ⟨rfl, served, horder, List.disjoint_singleton.mp honce.disjoint,
        hended, hholding, hrun⟩

/-- What one that has had the lock does changes nothing for those that wait for it. -/
theorem waiting_update (h : Orderly around worker memory queue) {i : Fin n}
    (hi : i ∈ queue.order) (rest : Routine Activation) (j : Fin n) (hj : j ∉ queue.order) :
    Function.update queue.tasks i rest j = worker.activate :=
  (Function.update_of_ne (fun heq : j = i => hj (heq ▸ hi)) _ _).trans (h.waiting j hj)

/-- Whatever is done next, the activations stay in order. -/
theorem step (h : Orderly around worker memory queue) (hstep : Queue.Step around queue queue') :
    Orderly around worker memory queue' := by
  cases hstep with
  | @acquire i next htask hholder =>
    have hnot := h.notMem_of_acquire htask hholder
    have hwaits := h.waiting i hnot
    have hturns := h.turns
    rw [hholder] at hturns
    rw [activate_eq_call, htask] at hwaits
    cases hwaits
    refine ⟨?_, fun j hj => ?_, queue.order, rfl, hturns.1.update hnot _ rfl, ?_, ?_⟩
    · exact h.once.append (List.nodup_singleton i) (List.disjoint_singleton.mpr hnot)
    · obtain ⟨hj, hne⟩ := not_or.mp (mt List.mem_append.mpr hj)
      rw [← h.waiting j hj]
      exact Function.update_of_ne (fun heq => hne (List.mem_singleton.mpr heq)) _ _
    · dsimp only
      rw [Function.update_self]
      exact holding_locked worker
    · dsimp only
      rw [Function.update_self, activate_eq_call, ← hturns.2]
      rfl
  | @release i next htask =>
    obtain ⟨_, served, horder, hnot, hended, hholding, hrun⟩ := h.holder_of_call htask nofun
    have hmem : i ∈ queue.order := horder ▸ List.mem_append_right _ (.head _)
    cases hholding with
    | act _ hend _ => exact absurd rfl hend
    | release outcome hlast =>
      rw [hlast] at hrun ⊢
      have hturn : outcome = turn around worker memory served.length := congrArg Prod.fst hrun
      refine ⟨h.once, h.waiting_update hmem _, ?_, ?_⟩
      · rw [horder]
        refine (hended.update hnot _ rfl).snoc ?_
        rw [← hturn]
        exact Function.update_self _ _ _
      · rw [horder, List.length_append]
        exact congrArg Prod.snd hrun
  | @act i action next htask hbegin hend =>
    obtain ⟨hholder, served, horder, hnot, hended, hholding, hrun⟩ :=
      h.holder_of_call htask hbegin
    have hmem : i ∈ queue.order := horder ▸ List.mem_append_right _ (.head _)
    refine ⟨h.once, h.waiting_update hmem _, ?_⟩
    rw [hholder]
    dsimp only
    rw [Function.update_self]
    refine ⟨served, horder, hended.update hnot _ rfl, ?_, hrun⟩
    cases hholding with
    | release => exact absurd rfl hend
    | act _ _ hnext => exact hnext _

theorem steps (h : Orderly around worker memory queue) (hsteps : Queue.Steps around queue queue') :
    Orderly around worker memory queue' := by
  induction hsteps with
  | refl => exact h
  | tail _ hstep ih => exact ih.step hstep

/-- Activations that are under way together are always in order. -/
theorem of_reached (h : Queue.Reached around worker memory queue) :
    Orderly around worker memory queue :=
  (start around worker memory).steps h

/-- When all have ended, all has been done in succession. -/
theorem of_over (h : Orderly around worker memory queue) (hover : queue.Over) :
    queue.order.Perm (List.finRange n) ∧ queue.Ended around worker memory queue.order ∧
      queue.scene = afterTurns around worker memory n := by
  have hall : ∀ i, i ∈ queue.order := by
    intro i
    by_contra hnot
    obtain ⟨outcome, hdone⟩ := hover i
    have hwaits := h.waiting i hnot
    rw [hdone, activate_eq_call] at hwaits
    cases hwaits
  have hperm : queue.order.Perm (List.finRange n) :=
    (List.perm_ext_iff_of_nodup h.once (List.nodup_finRange n)).mpr fun i =>
      ⟨fun _ => List.mem_finRange i, fun _ => hall i⟩
  have hturns := h.turns
  cases hholder : queue.holder with
  | none =>
    rw [hholder] at hturns
    have hlength : queue.order.length = n := hperm.length_eq.trans List.length_finRange
    refine ⟨hperm, hturns.1, ?_⟩
    rw [hturns.2, hlength]
  | some i =>
    rw [hholder] at hturns
    obtain ⟨_, _, _, hholding, _⟩ := hturns
    obtain ⟨outcome, hdone⟩ := hover i
    rw [hdone] at hholding
    cases hholding

end Orderly

/-! ## None is kept waiting -/

namespace Queue

/-- One that has the lock can go through without interruption, and the lock is free then. -/
theorem steps_of_holding {routine : Routine Activation} (h : Holding routine)
    (around : Surroundings) : ∀ (queue : Queue n) (i : Fin n), queue.tasks i = routine →
      Steps around queue ⟨(around.run routine queue.scene).2, none,
        Function.update queue.tasks i (.done (around.run routine queue.scene).1),
        queue.order⟩ := by
  induction h with
  | @release next outcome hlast =>
    intro queue i htask
    have hstep : Step around queue _ := .release htask
    have hrun : around.run (.call .endActivation next) queue.scene =
        around.run (next ()) (around.answer .endActivation queue.scene).2 := rfl
    rw [hlast] at hstep hrun
    rw [hrun]
    exact .single hstep
  | @act action next hbegin hend hnext ih =>
    intro queue i htask
    have hrest := ih (around.answer action queue.scene).1
      ⟨(around.answer action queue.scene).2, queue.holder,
        Function.update queue.tasks i (next (around.answer action queue.scene).1), queue.order⟩ i
      (Function.update_self _ _ _)
    dsimp only at hrest
    rw [Function.update_idem] at hrest
    exact .head (.act htask hbegin hend) hrest

/-- If the lock is free, one that waits for it can go through without interruption. -/
theorem steps_activate (around : Surroundings) (queue : Queue n) {i : Fin n}
    (htask : queue.tasks i = worker.activate) (hholder : queue.holder = none) :
    Steps around queue ⟨(around.run worker.activate queue.scene).2, none,
      Function.update queue.tasks i (.done (around.run worker.activate queue.scene).1),
      queue.order ++ [i]⟩ := by
  rw [activate_eq_call] at htask
  have hrest := steps_of_holding (holding_locked worker) around
    ⟨(around.answer .beginActivation queue.scene).2, some i,
      Function.update queue.tasks i worker.locked, queue.order ++ [i]⟩ i (Function.update_self _ _ _)
  dsimp only at hrest
  rw [Function.update_idem] at hrest
  exact .head (.acquire htask hholder) (activate_eq_call worker ▸ hrest)

end Queue

namespace Orderly

/-- If the lock is free, those that have not begun can go through one after the other. -/
theorem exists_over_of_free {queue : Queue n} (h : Orderly around worker memory queue)
    (hholder : queue.holder = none) : ∃ final, Queue.Steps around queue final ∧ final.Over := by
  by_cases hover : queue.Over
  · exact ⟨queue, .refl, hover⟩
  · obtain ⟨i, hi⟩ := not_forall.mp hover
    have hnot : i ∉ queue.order := fun hmem => by
      have hturns := h.turns
      rw [hholder] at hturns
      exact hi (hturns.1.done hmem)
    have hsteps := Queue.steps_activate around queue (h.waiting i hnot) hholder
    have hlater := h.steps hsteps
    have hlength := List.Nodup.length_le_card hlater.once
    have hfewer : n - (queue.order ++ [i]).length < n - queue.order.length := by
      rw [Fintype.card_fin, List.length_append, List.length_singleton] at hlength
      rw [List.length_append, List.length_singleton]
      omega
    obtain ⟨final, hmore, hfinal⟩ := hlater.exists_over_of_free rfl
    exact ⟨final, hsteps.trans hmore, hfinal⟩
termination_by n - queue.order.length
decreasing_by exact hfewer

/-- However far the activations have come, all of them can end. -/
theorem exists_over (h : Orderly around worker memory queue) :
    ∃ final, Queue.Steps around queue final ∧ final.Over := by
  cases hholder : queue.holder with
  | none => exact h.exists_over_of_free hholder
  | some i =>
    have hturns := h.turns
    rw [hholder] at hturns
    obtain ⟨_, _, _, hholding, _⟩ := hturns
    have hsteps := Queue.steps_of_holding hholding around queue i rfl
    obtain ⟨final, hmore, hfinal⟩ := (h.steps hsteps).exists_over_of_free rfl
    exact ⟨final, hsteps.trans hmore, hfinal⟩

end Orderly

/-! ## What is reported -/

/-- Where no storage call is refused, an activation reports what it finds and promotes it. -/
theorem run_activate_calm (h : worker.config.regions.all.Nodup) (around : Surroundings)
    (scene : Scene) {previous : Option Manifest}
    (hrecord : worker.recorded? scene.memory = previous.map .ok) :
    (around.calm.run worker.activate scene).1 = worker.report previous scene.memory ∧
      Promoted worker scene.memory (worker.renewed previous scene.memory)
        (around.calm.run worker.activate scene).2.memory ∧
      (around.calm.run worker.activate scene).2.claims = scene.claims + 1 := by
  let begun := (around.calm.answer .beginActivation scene).2
  obtain ⟨after, hsettles, hpromoted⟩ : ∃ after,
      Settles worker.reconcile scene.memory (.ok (worker.report previous scene.memory)) after ∧
        Promoted worker scene.memory (worker.renewed previous scene.memory) after := by
    cases previous with
    | none => exact settles_reconcile_fresh h scene.memory hrecord
    | some previous => exact settles_reconcile_upgraded h scene.memory hrecord
  have hmemory : (⟨scene.memory, begun.deeds⟩ : Scene) = begun := rfl
  obtain ⟨hresult, hafter⟩ := hsettles around begun.deeds
  rw [hmemory] at hresult hafter
  have hclaims := claims_reconcile worker around.calm begun
  have hbegun : begun.claims = scene.claims :=
    claims_run (.perform fun heq => by cases heq) around.calm scene
  have hrun := run_locked worker around.calm begun
  rw [← run_activate_eq] at hrun
  obtain ⟨houtcome, hlast⟩ := run_conclude_ok worker around.calm
    (worker.report previous scene.memory) (around.calm.perform worker.reconcile begun).2
  rw [hresult, hbegun] at hclaims
  rw [hrun, claims_conclude, hresult, houtcome, hlast, hafter]
  exact ⟨rfl, hpromoted, hclaims⟩

/-- The manifest that is recorded when a turn comes, given what was recorded at first. -/
def onRecord (worker : Worker) (previous : Option Manifest) : Nat → Option Manifest
  | 0 => previous
  | _ + 1 => some worker.build.resources

section Succession

variable (h : worker.config.regions.all.Nodup) (around : Surroundings)
  {previous : Option Manifest} (hrecord : worker.recorded? memory = previous.map .ok)
include h hrecord

theorem recorded?_afterTurns (k : Nat) :
    worker.recorded? (afterTurns around.calm worker memory k).memory =
      (worker.onRecord previous k).map .ok := by
  induction k with
  | zero => exact hrecord
  | succ k ih =>
    obtain ⟨_, hpromoted, _⟩ := run_activate_calm h around _ ih
    rw [afterTurns, onRecord]
    exact recorded?_of_recordOf? (recordOf?_of_promoted hpromoted)

/-- Each turn reports what the one before it has left, and promotes it. -/
theorem turn_eq (k : Nat) :
    turn around.calm worker memory k =
        worker.report (worker.onRecord previous k) (afterTurns around.calm worker memory k).memory ∧
      Promoted worker (afterTurns around.calm worker memory k).memory
        (worker.renewed (worker.onRecord previous k) (afterTurns around.calm worker memory k).memory)
        (afterTurns around.calm worker memory (k + 1)).memory ∧
      (afterTurns around.calm worker memory (k + 1)).claims =
        (afterTurns around.calm worker memory k).claims + 1 := by
  rw [turn, afterTurns]
  exact run_activate_calm h around _ (recorded?_afterTurns h around hrecord k)

theorem claims_afterTurns : ∀ k, (afterTurns around.calm worker memory k).claims = k
  | 0 => rfl
  | k + 1 =>
    (turn_eq h around hrecord k).2.2.trans (congrArg (· + 1) (claims_afterTurns k))

/-- After the first turn nothing is staged. -/
theorem staged_afterTurns (k : Nat) :
    Memory.entries (afterTurns around.calm worker memory (k + 1)).memory worker.temp = .empty :=
  Memory.entries_of_get?_none (turn_eq h around hrecord k).2.1.temp

/-- After the second turn all of the content is what this build would keep. -/
theorem isReusable_afterTurns (k : Nat) : ∀ url ∈
    (Memory.entries (afterTurns around.calm worker memory (k + 2)).memory worker.content).keys,
      worker.isReusable worker.build.resources url = true := by
  intro url hurl
  have hcontent := Memory.entries_of_get? (turn_eq h around hrecord (k + 1)).2.1.content
  rw [hcontent, Table.mem_keys_iff, Table.contains, onRecord, renewed,
    staged_afterTurns h around hrecord k, Table.get?_insertAll_entries, Table.get?_empty,
    Option.none_or, Table.get?_filter] at hurl
  by_contra hnot
  rw [if_neg hnot] at hurl
  cases hurl

end Succession

/-- Activations that are under way together have the effect of as many in succession. -/
theorem turns_of_activations (h : worker.config.regions.all.Nodup) (around : Surroundings)
    (hrecord : ∀ fault, worker.recorded? memory ≠ some (.error fault))
    (hreached : Queue.Reached around.calm worker memory queue) :
    (∃ final, Queue.Steps around.calm queue final ∧ final.Over) ∧
    (queue.Over →
      queue.order.Perm (List.finRange n) ∧
      queue.order.map queue.tasks =
        (List.range n).map (fun k => .done (turn around.calm worker memory k)) ∧
      queue.scene = afterTurns around.calm worker memory n ∧ queue.scene.claims = n) ∧
    ((∃ copied, turn around.calm worker memory 0 = .fresh copied) ↔
      worker.recorded? memory = none) ∧
    ∀ k, ∃ evicted retained,
      turn around.calm worker memory (k + 1) = .upgraded evicted retained [] ∧
        (1 ≤ k → evicted = []) := by
  obtain ⟨previous, hprevious⟩ : ∃ previous : Option Manifest,
      worker.recorded? memory = previous.map .ok := by
    cases hread : worker.recorded? memory with
    | none => exact ⟨none, rfl⟩
    | some read =>
      cases read with
      | ok manifest => exact ⟨some manifest, rfl⟩
      | error fault => exact absurd hread (hrecord fault)
  have horderly := Orderly.of_reached hreached
  refine ⟨horderly.exists_over, fun hover => ?_, ?_, fun k => ?_⟩
  · obtain ⟨hperm, hended, hscene⟩ := horderly.of_over hover
    refine ⟨hperm, ?_, hscene, ?_⟩
    · rw [show queue.order.map queue.tasks = _ from hended, hperm.length_eq, List.length_finRange]
    · rw [hscene, claims_afterTurns h around hprevious]
  · rw [(turn_eq h around hprevious 0).1, hprevious]
    cases previous with
    | none => exact ⟨fun _ => rfl, fun _ => ⟨_, rfl⟩⟩
    | some manifest => exact ⟨nofun, nofun⟩
  · rw [(turn_eq h around hprevious (k + 1)).1, onRecord, report,
      staged_afterTurns h around hprevious k]
    refine ⟨_, _, rfl, fun hk => ?_⟩
    obtain ⟨j, rfl⟩ := Nat.exists_eq_add_of_le' hk
    refine List.filter_eq_nil_iff.mpr fun url hurl => ?_
    rw [isReusable_afterTurns h around hprevious j url hurl]
    exact Bool.false_ne_true

/-- Two activations of which the second gets the lock first. -/
theorem turns_of_activations_two :
    let worker : Worker := ⟨.ofOrigin "https://a", ⟨Table.empty.insert "k" "1", []⟩⟩
    let staged : Table Response := Table.empty.insert "https://a/k" (.json [1])
    let memory : Memory := Table.empty.insert worker.temp staged
    let around := (Surroundings.offline none).calm
    worker.config.regions.all.Nodup ∧ worker.recorded? memory = none ∧
      ∃ queue : Queue 2, Queue.Reached around worker memory queue ∧ queue.order = [1, 0] ∧
        queue.Over ∧ queue.scene.claims = 2 ∧
        queue.order.map queue.tasks =
          [.done (.fresh ["https://a/k"]), .done (.upgraded [] ["https://a/k"] [])] := by
  intro worker staged memory around
  have hnodup : worker.config.regions.all.Nodup := by decide
  have hrecord : worker.recorded? memory = none := rfl
  let first : Queue 2 := ⟨(around.run worker.activate (Scene.start memory)).2, none,
    Function.update (fun _ => worker.activate) 1
      (.done (around.run worker.activate (Scene.start memory)).1), [1]⟩
  let second : Queue 2 := ⟨(around.run worker.activate first.scene).2, none,
    Function.update first.tasks 0 (.done (around.run worker.activate first.scene).1), [1, 0]⟩
  have hfirst : Queue.Steps around (Queue.start worker memory) first :=
    Queue.steps_activate around (Queue.start worker memory) rfl rfl
  have hsecond : Queue.Steps around first second :=
    Queue.steps_activate around first (i := 0) rfl rfl
  have hover : second.Over := Fin.forall_fin_two.mpr ⟨⟨_, rfl⟩, ⟨_, rfl⟩⟩
  obtain ⟨_, hall, _⟩ := turns_of_activations hnodup (.offline none)
    (fun fault heq => by rw [hrecord] at heq; cases heq) (hfirst.trans hsecond)
  obtain ⟨_, htasks, _, hclaims⟩ := hall hover
  refine ⟨hnodup, hrecord, second, hfirst.trans hsecond, rfl, hover, hclaims, ?_⟩
  have hzero : turn around worker memory 0 = .fresh ["https://a/k"] := by decide +kernel
  have hone : turn around worker memory 1 = .upgraded [] ["https://a/k"] [] := by decide +kernel
  rw [htasks, ← hzero, ← hone]
  rfl

end AssetCache.Worker
