import AssetCache.Fetch.Batch

/-!
# A batch at work

The fetches of a batch are looked at in rounds, each of them once in a round and in the order
of the requests; this order is the assumption that `Batch` names, and `round` is where it is
made. To look at one for the first time issues its request. One that has not
arrived is left for the next round; one that fails ends the batch, and those behind it are not
looked at any more. The batch is done as soon as all of them have their responses.

`run` does this step by step. What a batch ends in, and which requests it issues, is said
without steps in `Batch`.
-/

set_option autoImplicit false

namespace AssetCache.Fetch

/-- A fetch of a batch at work. -/
inductive Task where
  /-- Its request has not been issued. -/
  | unsent (request : Request) (arrival : Arrival)
  /-- It arrives after some more rounds. -/
  | sent (request : Request) (rounds : Nat) (result : Result)
  | done (request : Request) (response : Response)

namespace Task

/-- Look at a fetch that arrives after so many rounds. -/
def await (request : Request) (result : Result) : Nat → Except FetchError Task
  | 0 => (requireSuccess request result).map (.done request)
  | rounds + 1 => .ok (.sent request rounds result)

/-- Look at a fetch. -/
def poll : Task → Except FetchError Task
  | .unsent request arrival => await request arrival.result arrival.round
  | .sent request rounds result => await request result rounds
  | .done request response => .ok (.done request response)

/-- The request that is issued when a fetch is looked at, if any. -/
def issues : Task → List Request
  | .unsent request _ => [request]
  | _ => []

/-- How often a fetch has to be looked at until it is done. -/
def looks : Task → Nat
  | .unsent _ arrival => arrival.round + 1
  | .sent _ rounds _ => rounds + 1
  | .done _ _ => 0

/-- A fetch that is looked at has to be looked at once less. -/
theorem looks_of_poll {task polled : Task} (h : task.poll = .ok polled) :
    polled.looks = task.looks - 1 := by
  have hawait : ∀ {request : Request} {result : Result} {rounds : Nat},
      await request result rounds = .ok polled → polled.looks = rounds := by
    intro request result rounds hrounds
    cases rounds with
    | zero =>
      rw [await] at hrounds
      cases hresult : requireSuccess request result with
      | error error => rw [hresult] at hrounds; cases hrounds
      | ok response => rw [hresult] at hrounds; cases hrounds; rfl
    | succ rounds => cases hrounds; rfl
  cases task with
  | unsent request arrival => exact hawait h
  | sent request rounds result => exact hawait h
  | done request response => cases h; rfl

end Task

namespace Rounds

/-- A batch of which nothing has been looked at. -/
def start (requests : List Request) (arrivals : List Arrival) : List Task :=
  (requests.zip arrivals).map fun (request, arrival) => .unsent request arrival

/-- Look at the fetches in order up to the first that fails: the requests that are issued by it,
and the failure or the fetches as they are then. -/
def round : List Task → List Request × Except FetchError (List Task)
  | [] => ([], .ok [])
  | task :: rest =>
    match task.poll with
    | .error error => (task.issues, .error error)
    | .ok polled => (task.issues ++ (round rest).1, (round rest).2.map (polled :: ·))

/-- The requests with their responses, if all fetches are done. -/
def responses? : List Task → Option (List (Request × Response))
  | [] => some []
  | .done request response :: rest => (responses? rest).map ((request, response) :: ·)
  | _ :: _ => none

/-- How often fetches have to be looked at until all are done. -/
def looks : List Task → Nat
  | [] => 0
  | task :: rest => task.looks + looks rest

/-- What a round makes of the fetches when none fails. -/
theorem round_cons_eq_ok {task : Task} {rest polled : List Task}
    (h : (round (task :: rest)).2 = .ok polled) :
    ∃ first others, task.poll = .ok first ∧ (round rest).2 = .ok others ∧
      polled = first :: others := by
  rw [round] at h
  cases hpoll : task.poll with
  | error error => rw [hpoll] at h; cases h
  | ok first =>
    rw [hpoll] at h
    cases hrest : (round rest).2 with
    | error error => simp only [hrest] at h; cases h
    | ok others => simp only [hrest] at h; cases h; exact ⟨first, others, rfl, rfl, rfl⟩

theorem looks_round_le : ∀ {tasks polled : List Task}, (round tasks).2 = .ok polled →
    looks polled ≤ looks tasks
  | [], _, h => by cases h; exact Nat.le_refl _
  | task :: rest, _, h => by
    obtain ⟨first, others, hfirst, hothers, rfl⟩ := round_cons_eq_ok h
    have hhead := Task.looks_of_poll hfirst
    have htail : looks others ≤ looks rest := looks_round_le hothers
    show first.looks + looks others ≤ task.looks + looks rest
    omega

/-- A round after which not all fetches are done has brought one of them nearer. -/
theorem looks_round_lt : ∀ {tasks polled : List Task}, (round tasks).2 = .ok polled →
    responses? polled = none → looks polled < looks tasks
  | [], _, h, hnone => by cases h; cases hnone
  | task :: rest, _, h, hnone => by
    obtain ⟨first, others, hfirst, hothers, rfl⟩ := round_cons_eq_ok h
    have hhead := Task.looks_of_poll hfirst
    show first.looks + looks others < task.looks + looks rest
    cases first with
    | done request response =>
      have htail : looks others < looks rest :=
        looks_round_lt hothers (Option.map_eq_none_iff.mp hnone)
      omega
    | _ =>
      have htail : looks others ≤ looks rest := looks_round_le hothers
      simp only [Task.looks] at hhead ⊢
      omega

/-- Work a batch round by round: the requests that are issued, and what it ends in. -/
def run (tasks : List Task) : List Request × Except FetchError (List (Request × Response)) :=
  match hround : (round tasks).2 with
  | .error error => ((round tasks).1, .error error)
  | .ok polled =>
    match hdone : responses? polled with
    | some fetched => ((round tasks).1, .ok fetched)
    | none =>
      have : looks polled < looks tasks := looks_round_lt hround hdone
      ((round tasks).1 ++ (run polled).1, (run polled).2)
termination_by looks tasks

section Run

variable {tasks polled : List Task} {fetched : List (Request × Response)} {error : FetchError}

theorem run_of_error (h : (round tasks).2 = .error error) :
    run tasks = ((round tasks).1, .error error) := by
  rw [run]
  split
  next hround => cases h.symm.trans hround; rfl
  next hround => cases h.symm.trans hround

theorem run_of_done (h : (round tasks).2 = .ok polled) (hdone : responses? polled = some fetched) :
    run tasks = ((round tasks).1, .ok fetched) := by
  rw [run]
  split
  next hround => cases h.symm.trans hround
  next hround =>
    cases h.symm.trans hround
    split
    next hresponses => cases hdone.symm.trans hresponses; rfl
    next hresponses => cases hdone.symm.trans hresponses

/-- As long as a fetch is not done, another round follows. -/
theorem run_of_undone (h : (round tasks).2 = .ok polled) (hdone : responses? polled = none) :
    run tasks = ((round tasks).1 ++ (run polled).1, (run polled).2) := by
  rw [run]
  split
  next hround => cases h.symm.trans hround
  next hround =>
    cases h.symm.trans hround
    split
    next hresponses => cases hdone.symm.trans hresponses
    next hresponses => rfl

end Run

end Rounds

end AssetCache.Fetch
