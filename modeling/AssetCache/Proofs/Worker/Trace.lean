import AssetCache.Proofs.Worker.Strict

/-!
# Deeds from beginning to end

A program is read here as the lists of deeds that it may do until it ends, whatever it is
replied (`Done`), and a storage as the lists of deeds that may happen to it (`Happens`): a
storage call is refused without effect, or answered by the storage as it is then.

Two programs overlap (`Overlap`) in a list of deeds of which each has done its own, and
which happens to one storage. Any two runs one after the other are a case, and so is one
that is interrupted by the other (`Overlap.of_interrupted`).

What becomes of one entry of a region is read off the deeds alone (`get?_of_happens`): it
is what was written last.
-/

set_option autoImplicit false

namespace AssetCache.Worker

open Storage (Memory)

variable {α β : Type}

/-! ## What a program does -/

/-- A program does these deeds and ends in a value, if it is replied so. -/
inductive Done : Routine α → List Deed → α → Prop
  | done (value : α) : Done (.done value) [] value
  | call {action : Action} {next : action.Reply → Routine α} {deeds : List Deed} {value : α}
      (reply : action.Reply) : Done (next reply) deeds value →
        Done (.call action next) (⟨action, reply⟩ :: deeds) value

namespace Done

variable {routine : Routine α} {deeds : List Deed} {value : α}

theorem bind {next : α → Routine β} {first rest : List Deed} {middle : α} {value : β}
    (h : Done routine first middle) (hnext : Done (next middle) rest value) :
    Done (routine.bind next) (first ++ rest) value := by
  induction h with
  | done middle => exact hnext
  | call reply _ ih => exact .call reply (ih hnext)

/-- One attempt after another: the second goes on with the value of the first. -/
theorem step_bind {step : Step α} {next : α → Step β} {first rest : List Deed} {middle : α}
    {result : Except WorkerError β} (h : Done step.run first (.ok middle))
    (hnext : Done (next middle).run rest result) :
    Done (step >>= next).run (first ++ rest) result :=
  bind h hnext

theorem store_bind {call : Storage.Call} {next : call.Value → Step β} {rest : List Deed}
    {result : Except WorkerError β} (value : call.Value) (h : Done (next value).run rest result) :
    Done (store call >>= next).run (⟨.storage call, .ok value⟩ :: rest) result :=
  have hfirst : Done (store call).run [⟨.storage call, .ok value⟩] (.ok value) :=
    .call _ (.done _)
  step_bind hfirst h

theorem act_bind {action : Action} {next : action.Reply → Step β} {rest : List Deed}
    {result : Except WorkerError β} (reply : action.Reply) (h : Done (next reply).run rest result) :
    Done (stepAct action >>= next).run (⟨action, reply⟩ :: rest) result :=
  have hfirst : Done (stepAct action).run [⟨action, reply⟩] (.ok reply) := .call _ (.done _)
  step_bind hfirst h

/-- What one program after another does is done by the one and then by the other. -/
theorem exists_of_bind {next : α → Routine β} {value : β}
    (h : Done (routine.bind next) deeds value) :
    ∃ first rest middle, deeds = first ++ rest ∧ Done routine first middle ∧
      Done (next middle) rest value := by
  induction routine generalizing deeds with
  | done middle => exact ⟨[], deeds, middle, rfl, .done middle, h⟩
  | call action following ih =>
    cases h with
    | call reply hrest =>
      obtain ⟨first, rest, middle, rfl, hfirst, hnext⟩ := ih reply hrest
      exact ⟨⟨action, reply⟩ :: first, rest, middle, rfl, .call reply hfirst, hnext⟩

/-- What an attempt after another does that ends in a value. -/
theorem exists_of_step_bind {step : Step α} {next : α → Step β} {value : β}
    (h : Done (step >>= next).run deeds (.ok value)) :
    ∃ first rest middle, deeds = first ++ rest ∧ Done step.run first (.ok middle) ∧
      Done (next middle).run rest (.ok value) := by
  obtain ⟨first, rest, result, rfl, hfirst, hnext⟩ := exists_of_bind h
  cases result with
  | ok middle => exact ⟨first, rest, middle, rfl, hfirst, hnext⟩
  | error error => cases hnext

theorem eq_of_pure {value' : α} (h : Done (Pure.pure value : Step α).run deeds (.ok value')) :
    deeds = [] ∧ value' = value := by
  cases h
  exact ⟨rfl, rfl⟩

theorem eq_of_store {call : Storage.Call} {value : call.Value}
    (h : Done (store call).run deeds (.ok value)) : deeds = [⟨.storage call, .ok value⟩] := by
  cases h with
  | call reply hrest =>
    cases reply with
    | error error => cases hrest
    | ok value' =>
      cases hrest
      rfl

/-- What an attempt after a storage call does that ends in a value. -/
theorem exists_of_store_bind {call : Storage.Call} {next : call.Value → Step β} {value : β}
    (h : Done (store call >>= next).run deeds (.ok value)) :
    ∃ answer rest, deeds = ⟨.storage call, .ok answer⟩ :: rest ∧
      Done (next answer).run rest (.ok value) := by
  obtain ⟨first, rest, answer, rfl, hfirst, hrest⟩ := h.exists_of_step_bind
  obtain rfl := hfirst.eq_of_store
  exact ⟨answer, rest, rfl, hrest⟩

theorem eq_of_act {action : Action} {reply : action.Reply}
    (h : Done (stepAct action).run deeds (.ok reply)) : deeds = [⟨action, reply⟩] := by
  cases h with
  | call reply' hrest =>
    cases hrest
    rfl

/-- What a program may come to do is all that it does. -/
theorem all_of_only {ok : Action → Prop} (h : Program.Only (S := signature) ok routine)
    (hdone : Done routine deeds value) : ∀ deed ∈ deeds, ok deed.1 := by
  induction hdone with
  | done => exact List.forall_mem_nil _
  | call reply _ ih =>
    cases h with
    | call hok hnext =>
      intro deed hdeed
      rcases List.mem_cons.mp hdeed with rfl | hdeed
      · exact hok
      · exact ih (hnext reply) deed hdeed

end Done

/-! ## What happens to a storage -/

/-- A deed happens to a storage: a storage call is refused, or answered as it is by then. -/
inductive Occurs (memory : Memory) : Deed → Memory → Prop
  | refused {call : Storage.Call} (error : StorageError) :
      Occurs memory ⟨.storage call, .error error⟩ memory
  | answered (call : Storage.Call) :
      Occurs memory ⟨.storage call, (Memory.answer call memory).1⟩ (Memory.answer call memory).2
  | other {action : Action} (reply : action.Reply) : (∀ call, action ≠ .storage call) →
      Occurs memory ⟨action, reply⟩ memory

/-- Deeds happen to a storage one after the other. -/
inductive Happens : Memory → List Deed → Memory → Prop
  | nil {memory : Memory} : Happens memory [] memory
  | cons {memory middle after : Memory} {deed : Deed} {deeds : List Deed} :
      Occurs memory deed middle → Happens middle deeds after →
        Happens memory (deed :: deeds) after

theorem Occurs.of_answer {memory after : Memory} {call : Storage.Call} {reply : Storage.Reply call}
    (h : Memory.answer call memory = (reply, after)) :
    Occurs memory ⟨.storage call, reply⟩ after := by
  have hanswered : Occurs memory _ _ := .answered call
  rwa [h] at hanswered

/-- A call that was not refused was answered by the storage. -/
theorem Occurs.eq_of_ok {memory after : Memory} {call : Storage.Call} {value : call.Value}
    (h : Occurs memory ⟨.storage call, .ok value⟩ after) :
    Memory.answer call memory = (.ok value, after) := by
  generalize hdeed : (⟨.storage call, .ok value⟩ : Deed) = deed at h
  cases h with
  | refused error => cases hdeed
  | answered call' =>
    injection hdeed with hcall hreply
    cases hcall
    exact Prod.ext (eq_of_heq hreply).symm rfl
  | other reply hother =>
    injection hdeed with haction
    exact absurd haction.symm (hother call)

theorem Occurs.of_surroundings (around : Surroundings) (action : Action) (scene : Scene) :
    Occurs scene.memory ⟨action, (around.answer action scene).1⟩
      (around.answer action scene).2.memory := by
  cases action with
  | storage call =>
    show Occurs scene.memory
      ⟨.storage call, (around.reply scene.deeds.length (.storage call) scene.memory).1⟩
      (around.reply scene.deeds.length (.storage call) scene.memory).2
    rw [Surroundings.reply]
    cases around.refuse scene.deeds.length call with
    | some error => exact .refused error
    | none => exact .answered call
  | _ => exact .other _ (by simp)

namespace Happens

variable {memory middle after : Memory} {first rest : List Deed}

theorem append (h : Happens memory first middle) (hrest : Happens middle rest after) :
    Happens memory (first ++ rest) after := by
  induction h with
  | nil => exact hrest
  | cons hoccurs _ ih => exact .cons hoccurs (ih hrest)

theorem exists_of_append (h : Happens memory (first ++ rest) after) :
    ∃ middle, Happens memory first middle ∧ Happens middle rest after := by
  induction first generalizing memory with
  | nil => exact ⟨memory, .nil, h⟩
  | cons deed first ih =>
    cases h with
    | cons hoccurs hlater =>
      obtain ⟨middle, hfirst, hrest⟩ := ih hlater
      exact ⟨middle, .cons hoccurs hfirst, hrest⟩

end Happens

/-- What a run does in any surroundings is done by the program, and happens to the storage. -/
theorem done_run (around : Surroundings) (routine : Routine α) : ∀ scene : Scene, ∃ deeds,
    (around.run routine scene).2.deeds = scene.deeds ++ deeds ∧
      Done routine deeds (around.run routine scene).1 ∧
      Happens scene.memory deeds (around.run routine scene).2.memory := by
  induction routine with
  | done value => exact fun scene => ⟨[], (List.append_nil _).symm, .done value, .nil⟩
  | call action next ih =>
    intro scene
    obtain ⟨deeds, hdeeds, hdone, hhappens⟩ :=
      ih (around.answer action scene).1 (around.answer action scene).2
    refine ⟨⟨action, (around.answer action scene).1⟩ :: deeds, ?_, .call _ hdone,
      .cons ?_ hhappens⟩
    · exact hdeeds.trans (List.append_assoc _ _ _)
    · exact .of_surroundings around action scene

/-! ## What becomes of an entry -/

/-- What becomes of an entry in a deed. -/
def Deed.entry? (region key : String) (entry : Option Response) : Deed → Option Response
  | ⟨.storage (.put region' key' response), .ok _⟩ =>
    if region' = region ∧ key' = key then some response else entry
  | ⟨.storage (.remove region' key'), .ok _⟩ =>
    if region' = region ∧ key' = key then none else entry
  | ⟨.storage (.delete region'), .ok _⟩ => if region' = region then none else entry
  | _ => entry

/-- What becomes of an entry in a list of deeds: what was written last. -/
def written? (region key : String) (entry : Option Response) (deeds : List Deed) :
    Option Response :=
  deeds.foldl (fun entry deed => deed.entry? region key entry) entry

variable {memory after : Memory} {region key : String}

/-- An answer of the storage makes of an entry what it says. -/
theorem get?_answer (call : Storage.Call) (memory : Memory) :
    (Memory.entries (Memory.answer call memory).2 region).get? key =
      Deed.entry? region key ((Memory.entries memory region).get? key)
        ⟨.storage call, (Memory.answer call memory).1⟩ := by
  cases call with
  | create name => exact congrArg (Table.get? · key) (Memory.entries_opened memory name region)
  | delete name =>
    show (Memory.entries (memory.erase name) region).get? key = if name = region then none else _
    rw [Memory.entries_erase]
    by_cases hname : name = region
    · rw [if_pos hname, if_pos hname.symm]
      rfl
    · rw [if_neg hname, if_neg (Ne.symm hname)]
  | put name key' response =>
    cases hget : memory.get? name with
    | none =>
      rw [Memory.answer_put_missing hget]
      rfl
    | some table =>
      rw [Memory.answer_put hget]
      show _ = if name = region ∧ key' = key then some response else _
      rw [Memory.entries_insert]
      by_cases hname : name = region
      · subst hname
        simp only [if_true, true_and, Table.get?_insert, Memory.entries_of_get? hget]
      · simp only [hname, if_false, false_and]
  | remove name key' =>
    cases hget : memory.get? name with
    | none =>
      rw [Memory.answer_remove_missing hget]
      show _ = if name = region ∧ key' = key then none else _
      split
      next hsame => rw [← hsame.1, Memory.entries_of_get?_none hget, Table.get?_empty]
      next => rfl
    | some table =>
      rw [Memory.answer_remove hget]
      show _ = if name = region ∧ key' = key then none else _
      rw [Memory.entries_insert]
      by_cases hname : name = region
      · subst hname
        simp only [if_true, true_and, Table.get?_erase, Memory.entries_of_get? hget,
          eq_comm (a := key)]
      · simp only [hname, if_false, false_and]
  | _ => rfl

/-- A deed makes of an entry what it says. -/
theorem get?_of_occurs {deed : Deed} (h : Occurs memory deed after) :
    (Memory.entries after region).get? key =
      deed.entry? region key ((Memory.entries memory region).get? key) := by
  cases h with
  | @refused call error => cases call <;> rfl
  | answered call => exact get?_answer call memory
  | @other action reply hother =>
    cases action with
    | storage call => exact absurd rfl (hother call)
    | _ => rfl

/-- After some deeds an entry is what they say was written last. -/
theorem get?_of_happens {deeds : List Deed} (h : Happens memory deeds after) :
    (Memory.entries after region).get? key =
      written? region key ((Memory.entries memory region).get? key) deeds := by
  induction h with
  | nil => rfl
  | cons hoccurs _ ih => rw [ih, get?_of_occurs hoccurs]; rfl

namespace Deed

/-- A deed that takes an entry out, or puts another in its place. -/
def Overwrites (region key : String) (deed : Deed) : Prop :=
  ∀ entry entry' : Option Response, deed.entry? region key entry = deed.entry? region key entry'

/-- A removal that was not refused leaves no entry, whatever there was. -/
theorem overwrites_remove (region key : String) (existed : Bool) :
    Overwrites region key ⟨.storage (.remove region key), .ok existed⟩ :=
  fun _ _ => (if_pos ⟨rfl, rfl⟩).trans (if_pos ⟨rfl, rfl⟩).symm

/-- A response is there after a deed if it was there before, or is stored in it. -/
theorem eq_some_of_entry? {deed : Deed} {entry : Option Response} {response : Response}
    (h : deed.entry? region key entry = some response) :
    entry = some response ∨ deed = ⟨.storage (.put region key response), .ok ()⟩ := by
  unfold entry? at h
  split at h
  · split at h
    next hsame =>
      obtain ⟨rfl, rfl⟩ := hsame
      cases h
      exact .inr rfl
    next => exact .inl h
  · split at h
    · cases h
    · exact .inl h
  · split at h
    · cases h
    · exact .inl h
  · exact .inl h

end Deed

/-- What there was before an entry was overwritten does not matter. -/
theorem written?_of_overwrites {deeds : List Deed} {deed : Deed} (hdeed : deed ∈ deeds)
    (h : deed.Overwrites region key) (entry entry' : Option Response) :
    written? region key entry deeds = written? region key entry' deeds := by
  obtain ⟨first, rest, rfl⟩ := List.append_of_mem hdeed
  rw [written?, written?, List.foldl_append, List.foldl_append, List.foldl_cons, List.foldl_cons,
    h _ (List.foldl _ entry' first)]

/-- A response is there if it was there before, or was stored. -/
theorem eq_some_of_written? {response : Response} {deeds : List Deed} :
    ∀ {entry : Option Response}, written? region key entry deeds = some response →
      entry = some response ∨ ⟨.storage (.put region key response), .ok ()⟩ ∈ deeds := by
  induction deeds with
  | nil => exact fun h => .inl h
  | cons deed rest ih =>
    intro entry h
    rcases ih h with hentry | hmem
    · exact (Deed.eq_some_of_entry? hentry).imp_right fun heq => List.mem_cons.mpr (.inl heq.symm)
    · exact .inr (.tail _ hmem)

/-! ## Two programs that overlap -/

/-- A deed, with which of two programs does it. -/
inductive Move where
  | left (deed : Deed)
  | right (deed : Deed)

namespace Move

def deed : Move → Deed
  | left deed => deed
  | right deed => deed

/-- The deed, if it is one of the left program. -/
def left? : Move → Option Deed
  | left deed => some deed
  | right _ => none

/-- The deed, if it is one of the right program. -/
def right? : Move → Option Deed
  | left _ => none
  | right deed => some deed

variable (deeds : List Deed)

theorem filterMap_left?_left : (deeds.map left).filterMap left? = deeds := by
  rw [List.filterMap_map]
  exact List.filterMap_some

theorem filterMap_left?_right : (deeds.map right).filterMap left? = [] := by
  simp [left?]

theorem filterMap_right?_left : (deeds.map left).filterMap right? = [] := by
  simp [right?]

theorem filterMap_right?_right : (deeds.map right).filterMap right? = deeds := by
  rw [List.filterMap_map]
  exact List.filterMap_some

theorem mem_filterMap_left? {moves : List Move} {deed : Deed} :
    deed ∈ moves.filterMap left? ↔ left deed ∈ moves := by
  refine List.mem_filterMap.trans ⟨?_, fun h => ⟨_, h, rfl⟩⟩
  rintro ⟨_ | _, hmove, heq⟩ <;> cases heq
  exact hmove

theorem mem_filterMap_right? {moves : List Move} {deed : Deed} :
    deed ∈ moves.filterMap right? ↔ right deed ∈ moves := by
  refine List.mem_filterMap.trans ⟨?_, fun h => ⟨_, h, rfl⟩⟩
  rintro ⟨_ | _, hmove, heq⟩ <;> cases heq
  exact hmove

theorem mem_map_deed {moves : List Move} {deed : Deed} :
    deed ∈ moves.map Move.deed ↔ left deed ∈ moves ∨ right deed ∈ moves := by
  refine List.mem_map.trans ⟨?_, ?_⟩
  · rintro ⟨_ | _, hmove, rfl⟩
    · exact .inl hmove
    · exact .inr hmove
  · rintro (hmove | hmove)
    · exact ⟨_, hmove, rfl⟩
    · exact ⟨_, hmove, rfl⟩

/-- A deed of the right program parts the moves in those before it and those after it. -/
theorem exists_of_filterMap_right? {moves : List Move} {before later : List Deed} {deed : Deed}
    (h : moves.filterMap right? = before ++ deed :: later) :
    ∃ early late, moves = early ++ .right deed :: late ∧ early.filterMap right? = before ∧
      late.filterMap right? = later := by
  obtain ⟨early, rest, rfl, hearly, hrest⟩ := List.filterMap_eq_append_iff.mp h
  obtain ⟨lefts, move, late, rfl, hlefts, hmove, hlate⟩ := List.filterMap_eq_cons_iff.mp hrest
  cases move with
  | left other => cases hmove
  | right other =>
    cases hmove
    refine ⟨early ++ lefts, late, (List.append_assoc _ _ _).symm, ?_, hlate⟩
    rw [List.filterMap_append, hearly, List.filterMap_eq_nil_iff.mpr hlefts, List.append_nil]

/-- The left program is interrupted by all that the right one does. -/
def between (first during rest : List Deed) : List Move :=
  first.map left ++ during.map right ++ rest.map left

variable (first during rest : List Deed)

theorem filterMap_left?_between : (between first during rest).filterMap left? = first ++ rest := by
  rw [between, List.filterMap_append, List.filterMap_append, filterMap_left?_left,
    filterMap_left?_right, filterMap_left?_left, List.append_nil]

theorem filterMap_right?_between : (between first during rest).filterMap right? = during := by
  rw [between, List.filterMap_append, List.filterMap_append, filterMap_right?_left,
    filterMap_right?_right, filterMap_right?_left, List.append_nil]
  rfl

theorem map_deed_between :
    (between first during rest).map deed = first ++ during ++ rest := by
  simp [between, Function.comp_def, deed]

end Move

/-- Two programs go on at the same time over one storage, until both have ended. -/
structure Overlap (left : Routine α) (right : Routine β) (memory : Memory) (moves : List Move)
    (after : Memory) (leftValue : α) (rightValue : β) : Prop where
  left : Done left (moves.filterMap Move.left?) leftValue
  right : Done right (moves.filterMap Move.right?) rightValue
  happens : Happens memory (moves.map Move.deed) after

/-- A run that is interrupted by all of another is one way in which they overlap. -/
theorem Overlap.of_interrupted {left : Routine α} {right : Routine β} {leftValue : α}
    {rightValue : β} {first during rest : List Deed} {before back : Memory}
    (hleft : Done left (first ++ rest) leftValue) (hright : Done right during rightValue)
    (hfirst : Happens memory first before) (hduring : Happens before during back)
    (hrest : Happens back rest after) :
    Overlap left right memory (Move.between first during rest) after leftValue rightValue where
  left := (Move.filterMap_left?_between first during rest).symm ▸ hleft
  right := (Move.filterMap_right?_between first during rest).symm ▸ hright
  happens := by
    rw [Move.map_deed_between]
    exact (hfirst.append hduring).append hrest

/-- A run that comes after another is one way in which they overlap. -/
theorem Overlap.of_runs (around : Surroundings) (left : Routine α) (right : Routine β)
    (memory : Memory) :
    let first := around.run left (Scene.start memory)
    let second := around.run right (Scene.start first.2.memory)
    Overlap left right memory (Move.between first.2.deeds second.2.deeds []) second.2.memory
      first.1 second.1 := by
  intro first second
  obtain ⟨before, hbefore, hfirst, hbegun⟩ := done_run around left (Scene.start memory)
  obtain ⟨during, hduring, hsecond, hended⟩ := done_run around right (Scene.start first.2.memory)
  obtain rfl : first.2.deeds = before := hbefore
  obtain rfl : second.2.deeds = during := hduring
  exact .of_interrupted ((List.append_nil _).symm ▸ hfirst) hsecond hbegun hended .nil

end AssetCache.Worker
