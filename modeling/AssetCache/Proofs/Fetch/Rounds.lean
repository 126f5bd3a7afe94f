import AssetCache.Fetch.Rounds
import AssetCache.Proofs.Fetch.Batch

/-!
# Working a batch round by round

A batch that is worked round by round ends as `Batch.outcome` says, and issues what
`Batch.issued` says (`run_start`). What a fetch at work amounts to is read off it as of an
arrival, with the rounds counted from now (`Task.outlook`). A round either meets the first
fetch that fails at once, or leaves every fetch what it was, one round nearer (`round_cases`);
the induction is on rounds.

So a batch is in order, and all or nothing, in whichever order its responses arrive
(`in_order_or_first_failure`).
-/

set_option autoImplicit false

namespace AssetCache.Fetch

/-! ## One round nearer -/

namespace Batch

/-- What some fetches end in. -/
def ending (fetches : List Settled) : Except FetchError (List (Request × Response)) :=
  match earliest (fetches.filterMap failure?) with
  | some (_, error) => .error error
  | none => .ok (responses fetches)

/-- A fetch as it is one round later. -/
def nearer : Settled → Settled
  | (request, round, result) => (request, round - 1, result)

/-- A failure as it is one round later. -/
def nearerFailure : Nat × FetchError → Nat × FetchError
  | (round, error) => (round - 1, error)

theorem failure?_nearer (fetch : Settled) :
    failure? (nearer fetch) = (failure? fetch).map nearerFailure := by
  obtain ⟨request, round, result⟩ := fetch
  cases result <;> rfl

theorem mem_of_earliest : ∀ {failures : List (Nat × FetchError)} {failure : Nat × FetchError},
    earliest failures = some failure → failure ∈ failures
  | head :: rest, failure, h => by
    rw [earliest] at h
    cases hrest : earliest rest with
    | none =>
      rw [hrest] at h
      cases h
      exact .head _
    | some other =>
      rw [hrest] at h
      dsimp only at h
      split at h <;> cases h
      · exact .tail _ (mem_of_earliest hrest)
      · exact .head _

/-- No failure is earlier than one of round zero in front of all others. -/
theorem earliest_cons_zero (error : FetchError) (rest : List (Nat × FetchError)) :
    earliest ((0, error) :: rest) = some (0, error) := by
  rw [earliest]
  cases earliest rest with
  | none => rfl
  | some other => exact if_neg (Nat.not_lt_zero _)

/-- If no failure is in round zero, the earliest stays the earliest one round later. -/
theorem earliest_map_nearer : ∀ {failures : List (Nat × FetchError)},
    (∀ failure ∈ failures, failure.1 ≠ 0) →
      earliest (failures.map nearerFailure) = (earliest failures).map nearerFailure
  | [], _ => rfl
  | failure :: rest, h => by
    obtain ⟨hhead, hrest⟩ := List.forall_mem_cons.mp h
    rw [List.map_cons, earliest, earliest, earliest_map_nearer hrest]
    cases hearliest : earliest rest with
    | none => rfl
    | some other =>
      have hother : other.1 ≠ 0 := hrest other (mem_of_earliest hearliest)
      have hsame : (nearerFailure other).1 < (nearerFailure failure).1 ↔ other.1 < failure.1 := by
        show other.1 - 1 < failure.1 - 1 ↔ _
        omega
      simp only [Option.map_some, hsame]
      split <;> rfl

theorem responses_map_nearer : ∀ fetches : List Settled,
    responses (fetches.map nearer) = responses fetches
  | [] => rfl
  | (_, _, .ok _) :: rest => congrArg (_ :: ·) (responses_map_nearer rest)
  | (_, _, .error _) :: rest => responses_map_nearer rest

/-- Fetches of which none fails at once end as they do one round later. -/
theorem ending_map_nearer {fetches : List Settled}
    (h : ∀ fetch ∈ fetches, failsAtOnce fetch = false) :
    ending (fetches.map nearer) = ending fetches := by
  have hlater : ∀ failure ∈ fetches.filterMap failure?, failure.1 ≠ 0 := by
    intro failure hmem hround
    obtain ⟨fetch, hfetch, hfailure⟩ := List.mem_filterMap.mp hmem
    have hnot := h fetch hfetch
    rw [failsAtOnce, hfailure] at hnot
    simp [hround] at hnot
  have hfailures : (fetches.map nearer).filterMap failure? =
      (fetches.filterMap failure?).map nearerFailure := by
    rw [List.filterMap_map, List.map_filterMap]
    exact congrArg (List.filterMap · fetches) (funext failure?_nearer)
  rw [ending, ending, hfailures, earliest_map_nearer hlater, responses_map_nearer]
  cases earliest (fetches.filterMap failure?) <;> rfl

end Batch

/-! ## Looking at one fetch -/

namespace Task

/-- What a fetch at work amounts to, with the rounds counted from now. -/
def outlook : Task → Batch.Settled
  | .unsent request arrival => (request, arrival.round, requireSuccess request arrival.result)
  | .sent request rounds result => (request, rounds, requireSuccess request result)
  | .done request response => (request, 0, .ok response)

/-- A fetch that is looked at fails at once, or is one round nearer with its request issued. -/
theorem poll_cases (task : Task) :
    (∃ error, task.poll = .error error ∧ Batch.failure? task.outlook = some (0, error)) ∨
      ∃ polled, task.poll = .ok polled ∧ Batch.failsAtOnce task.outlook = false ∧
        polled.outlook = Batch.nearer task.outlook ∧ polled.issues = [] := by
  have hawait : ∀ (request : Request) (result : Result) (rounds : Nat),
      (∃ error, await request result rounds = .error error ∧
        Batch.failure? (request, rounds, requireSuccess request result) = some (0, error)) ∨
      ∃ polled, await request result rounds = .ok polled ∧
        Batch.failsAtOnce (request, rounds, requireSuccess request result) = false ∧
        polled.outlook = (request, rounds - 1, requireSuccess request result) ∧
        polled.issues = [] := by
    intro request result rounds
    cases rounds with
    | zero =>
      rw [await]
      cases requireSuccess request result with
      | error error => exact .inl ⟨error, rfl, rfl⟩
      | ok response => exact .inr ⟨.done request response, rfl, rfl, rfl, rfl⟩
    | succ rounds =>
      refine .inr ⟨.sent request rounds result, rfl, ?_, rfl, rfl⟩
      cases requireSuccess request result <;> rfl
  cases task with
  | unsent request arrival => exact hawait request arrival.result arrival.round
  | sent request rounds result => exact hawait request result rounds
  | done request response => exact .inr ⟨.done request response, rfl, rfl, rfl, rfl⟩

end Task

/-! ## One round -/

namespace Rounds

/-- What the fetches of a batch at work amount to. -/
def outlooks (tasks : List Task) : List Batch.Settled := tasks.map Task.outlook

/-- A round meets the first fetch that fails at once, or brings all of them one round nearer. -/
theorem round_cases : ∀ tasks : List Task,
    (∃ error, (round tasks).2 = .error error ∧
      Batch.earliest ((outlooks tasks).filterMap Batch.failure?) = some (0, error)) ∨
    ∃ polled, (round tasks).2 = .ok polled ∧
      (∀ fetch ∈ outlooks tasks, Batch.failsAtOnce fetch = false) ∧
      outlooks polled = (outlooks tasks).map Batch.nearer ∧ ∀ task ∈ polled, task.issues = []
  | [] => .inr ⟨[], rfl, List.forall_mem_nil _, rfl, List.forall_mem_nil _⟩
  | task :: rest => by
    have houtlooks : outlooks (task :: rest) = task.outlook :: outlooks rest := rfl
    rw [houtlooks, List.filterMap_cons, round]
    rcases task.poll_cases with ⟨error, hpoll, hfailure⟩ | ⟨first, hpoll, hnot, houtlook, hissues⟩
    · refine .inl ⟨error, by rw [hpoll], ?_⟩
      rw [hfailure]
      exact Batch.earliest_cons_zero error _
    · rw [hpoll]
      rcases round_cases rest with ⟨error, hround, hearliest⟩ |
        ⟨others, hround, hnone, hothers, hsilent⟩
      · refine .inl ⟨error, by simp only [hround]; rfl, ?_⟩
        cases hfailure : Batch.failure? task.outlook with
        | none => exact hearliest
        | some failure =>
          -- the fetch in front fails, but in a later round
          have hlater : 0 < failure.1 := by
            rw [Batch.failsAtOnce, hfailure] at hnot
            exact Nat.pos_of_ne_zero (by simpa using hnot)
          show Batch.earliest (failure :: _) = _
          rw [Batch.earliest, hearliest]
          exact if_pos hlater
      · refine .inr ⟨first :: others, by simp only [hround]; rfl, ?_, ?_, ?_⟩
        · exact List.forall_mem_cons.mpr ⟨hnot, hnone⟩
        · exact congr (congrArg List.cons houtlook) hothers
        · exact List.forall_mem_cons.mpr ⟨hissues, hsilent⟩

theorem round_issues_nil : ∀ {tasks : List Task}, (∀ task ∈ tasks, task.issues = []) →
    (round tasks).1 = []
  | [], _ => rfl
  | task :: rest, h => by
    obtain ⟨hhead, hrest⟩ := List.forall_mem_cons.mp h
    rw [round]
    cases task.poll with
    | error error => exact hhead
    | ok first => rw [hhead, round_issues_nil hrest]; rfl

/-- The first round issues the requests up to the first that fails at once. -/
theorem round_start : ∀ (requests : List Request) (arrivals : List Arrival),
    (round (start requests arrivals)).1 = Batch.issued requests arrivals
  | [], _ => rfl
  | _ :: _, [] => rfl
  | request :: requests, arrival :: arrivals => by
    have hstart : start (request :: requests) (arrival :: arrivals) =
        .unsent request arrival :: start requests arrivals := rfl
    rw [hstart, round, Batch.issued_cons]
    rcases (Task.unsent request arrival).poll_cases with
      ⟨error, hpoll, hfailure⟩ | ⟨first, hpoll, hnot, _, _⟩
    · have hatOnce : Batch.failsAtOnce
          (request, arrival.round, requireSuccess request arrival.result) = true := by
        change Batch.failure? (request, arrival.round, requireSuccess request arrival.result) = _
          at hfailure
        rw [Batch.failsAtOnce, hfailure]
        rfl
      rw [hpoll, if_pos hatOnce]
      rfl
    · change Batch.failsAtOnce (request, arrival.round, _) = false at hnot
      rw [hpoll, hnot, if_neg Bool.false_ne_true, ← round_start requests arrivals]
      rfl

/-! ## All rounds -/

theorem eq_map_done : ∀ {tasks : List Task} {fetched : List (Request × Response)},
    responses? tasks = some fetched → tasks = fetched.map fun pair => .done pair.1 pair.2
  | [], _, h => by cases h; rfl
  | .done request response :: rest, _, h => by
    obtain ⟨others, hothers, rfl⟩ := Option.map_eq_some_iff.mp h
    rw [eq_map_done hothers]
    rfl
  | .unsent _ _ :: _, _, h => by cases h
  | .sent _ _ _ :: _, _, h => by cases h

/-- Fetches that are all done end in their responses. -/
theorem ending_of_done (fetched : List (Request × Response)) :
    Batch.ending (outlooks (fetched.map fun pair => .done pair.1 pair.2)) = .ok fetched := by
  have hall : ∀ fetched : List (Request × Response),
      (outlooks (fetched.map fun pair => .done pair.1 pair.2)).filterMap Batch.failure? = [] ∧
        Batch.responses (outlooks (fetched.map fun pair => .done pair.1 pair.2)) = fetched := by
    intro fetched
    induction fetched with
    | nil => exact ⟨rfl, rfl⟩
    | cons pair rest ih => exact ⟨ih.1, congrArg (pair :: ·) ih.2⟩
  rw [Batch.ending, (hall fetched).1, (hall fetched).2]
  rfl

/-- However long a batch is worked, it ends as its fetches say at the beginning, and after the
first round nothing more is issued. -/
theorem run_eq (tasks : List Task) :
    run tasks = ((round tasks).1, Batch.ending (outlooks tasks)) := by
  induction tasks using run.induct with
  | case1 tasks error hround =>
    rcases round_cases tasks with ⟨_, hfailed, hearliest⟩ | ⟨_, hpolled, _⟩
    · cases hround.symm.trans hfailed
      rw [run_of_error hround, Batch.ending, hearliest]
    · cases hround.symm.trans hpolled
  | case2 tasks polled hround fetched hdone =>
    rcases round_cases tasks with ⟨_, hfailed, _⟩ | ⟨_, hpolled, hnone, hnearer, _⟩
    · cases hround.symm.trans hfailed
    · cases hround.symm.trans hpolled
      rw [run_of_done hround hdone, ← Batch.ending_map_nearer hnone, ← hnearer, eq_map_done hdone,
        ending_of_done]
  | case3 tasks polled hround hdone hlt ih =>
    rcases round_cases tasks with ⟨_, hfailed, _⟩ | ⟨_, hpolled, hnone, hnearer, hsilent⟩
    · cases hround.symm.trans hfailed
    · cases hround.symm.trans hpolled
      rw [run_of_undone hround hdone, ih, round_issues_nil hsilent, hnearer,
        Batch.ending_map_nearer hnone, List.append_nil]

/-- A batch that is worked round by round issues and ends as is said of it without rounds. -/
theorem run_start (requests : List Request) (arrivals : List Arrival) :
    run (start requests arrivals) =
      (Batch.issued requests arrivals, Batch.outcome requests arrivals) := by
  have houtlooks : outlooks (start requests arrivals) = Batch.settled requests arrivals :=
    List.map_map
  rw [run_eq, round_start, houtlooks]
  rfl

/-! ## In order, and all or nothing -/

open Batch in
/-- A batch that is worked round by round ends in every request with its own response, in the
order of the requests, if all of them are of success, and else in the failure of the earliest
round and place. All requests are issued, or those up to the first that fails in round zero. -/
theorem in_order_or_first_failure (requests : List Request)
    (arrivals : { arrivals : List Arrival // arrivals.length = requests.length }) :
    let worked := run (start requests arrivals.1)
    worked = (issued requests arrivals.1, outcome requests arrivals.1) ∧
    ((∃ fetched, worked.2 = .ok fetched) ↔ ∀ arrival ∈ arrivals.1, ∃ response,
      arrival.result = .ok response ∧ response.isSuccess = true) ∧
    (∀ fetched, worked.2 = .ok fetched →
      requests.zip (arrivals.1.map Arrival.result) =
        fetched.map fun pair => (pair.1, .ok pair.2)) ∧
    (∀ error, worked.2 = .error error ↔ ∃ i round,
      FailsAt requests arrivals.1 i round error ∧
      ∀ j later other, FailsAt requests arrivals.1 j later other →
        round < later ∨ round = later ∧ i ≤ j) ∧
    ((∀ i error, ¬ FailsAt requests arrivals.1 i 0 error) → worked.1 = requests) ∧
    ∀ i error, FailsAt requests arrivals.1 i 0 error →
      (∀ j < i, ∀ other, ¬ FailsAt requests arrivals.1 j 0 other) →
        worked.1 = requests.take (i + 1) := by
  obtain ⟨arrivals, hlength⟩ := arrivals
  intro worked
  have hworked : worked = (issued requests arrivals, outcome requests arrivals) :=
    run_start requests arrivals
  rw [hworked]
  refine ⟨rfl, exists_outcome_eq_ok_iff.trans (forall_not_failsAt_iff hlength),
    fun fetched h => (of_outcome_eq_ok h).1, fun error => outcome_eq_error_iff,
    issued_eq_self hlength, fun i error => issued_eq_take⟩

-- the second request fails first, for its response arrives in an earlier round
example (first second : Request) :
    run (start [first, second] [⟨2, .error (.invalidUrl "a")⟩, ⟨1, .ok ⟨404, .empty, []⟩⟩]) =
      ([first, second], .error (.status 404 second.url)) :=
  run_start _ _

end Rounds

end AssetCache.Fetch
