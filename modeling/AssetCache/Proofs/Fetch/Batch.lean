import AssetCache.Fetch.Batch

/-!
# What a batch ends in

A fetch of a batch fails if no response arrives, or one that is not of success (`FailsAt`). The
batch ends in the failure of the earliest round and, within that, of the earliest request
(`outcome_eq_error_iff`). If no fetch fails it ends in every request with its own response, in
the order of the requests (`outcome_eq_ok_iff`).

Of the requests those are issued that stand before the first failure of round zero, and that one
itself; without such a failure all of them are.
-/

set_option autoImplicit false

namespace AssetCache.Fetch

variable {request : Request} {result : Result} {response : Response} {error : FetchError}

theorem requireSuccess_eq_ok_iff :
    requireSuccess request result = .ok response ↔
      result = .ok response ∧ response.isSuccess = true := by
  cases result with
  | error other => exact ⟨nofun, nofun⟩
  | ok answered =>
    rw [requireSuccess]
    split
    next hsuccess =>
      refine ⟨fun h => ?_, fun h => h.1⟩
      cases h
      exact ⟨rfl, hsuccess⟩
    next hfailed =>
      refine ⟨nofun, fun ⟨heq, hsuccess⟩ => ?_⟩
      cases heq
      exact absurd hsuccess hfailed

/-- A response that is not one of success fails with its status and the URL asked for. -/
theorem requireSuccess_eq_error_iff :
    requireSuccess request result = .error error ↔
      result = .error error ∨ ∃ response, result = .ok response ∧
        response.isSuccess = false ∧ error = .status response.status request.url := by
  cases result with
  | error other => simp [requireSuccess]
  | ok answered =>
    rw [requireSuccess]
    cases hsuccess : answered.isSuccess with
    | true => simp [hsuccess]
    | false => simp [hsuccess, eq_comm (a := error)]

namespace Batch

variable {requests : List Request} {arrivals : List Arrival} {first : Request} {arrival : Arrival}
  {fetched : List (Request × Response)} {i j round later : Nat} {other : FetchError}

/-! ## Failures and their places -/

/-- The fetch at a place of a batch fails in a round: no response arrives, or one that is not of
success, which fails with its status and the URL asked for. -/
def FailsAt (requests : List Request) (arrivals : List Arrival) (i round : Nat)
    (error : FetchError) : Prop :=
  ∃ request arrival, requests[i]? = some request ∧ arrivals[i]? = some arrival ∧
    arrival.round = round ∧
    (arrival.result = .error error ∨ ∃ response, arrival.result = .ok response ∧
      response.isSuccess = false ∧ error = .status response.status request.url)

theorem failsAt_iff :
    FailsAt requests arrivals i round error ↔
      ∃ request arrival, requests[i]? = some request ∧ arrivals[i]? = some arrival ∧
        arrival.round = round ∧ requireSuccess request arrival.result = .error error := by
  simp only [FailsAt, requireSuccess_eq_error_iff]

theorem failsAt_zero :
    FailsAt (first :: requests) (arrival :: arrivals) 0 round error ↔
      arrival.round = round ∧ requireSuccess first arrival.result = .error error := by
  simp [failsAt_iff]

theorem failsAt_succ :
    FailsAt (first :: requests) (arrival :: arrivals) (i + 1) round error ↔
      FailsAt requests arrivals i round error := Iff.rfl

/-- A fetch fails in one way. -/
theorem FailsAt.unique (h : FailsAt requests arrivals i round error)
    (h' : FailsAt requests arrivals i later other) : round = later ∧ error = other := by
  obtain ⟨request, arrival, hrequest, harrival, rfl, herror⟩ := failsAt_iff.mp h
  obtain ⟨_, _, hrequest', harrival', rfl, herror'⟩ := failsAt_iff.mp h'
  cases hrequest.symm.trans hrequest'
  cases harrival.symm.trans harrival'
  exact ⟨rfl, Except.error.inj (herror.symm.trans herror')⟩

/-- One place of a batch comes no later than another: in an earlier round, or before it within
the same round. -/
def NoLater (round i later j : Nat) : Prop := round < later ∨ round = later ∧ i ≤ j

/-- A fetch of a batch fails, and none before it. -/
def FailsFirst (requests : List Request) (arrivals : List Arrival) (i round : Nat)
    (error : FetchError) : Prop :=
  FailsAt requests arrivals i round error ∧
    ∀ j later other, FailsAt requests arrivals j later other → NoLater round i later j

theorem FailsFirst.unique (h : FailsFirst requests arrivals i round error)
    (h' : FailsFirst requests arrivals j later other) : error = other := by
  have hle : NoLater round i later j := h.2 _ _ _ h'.1
  have hge : NoLater later j round i := h'.2 _ _ _ h.1
  obtain rfl : i = j := by
    unfold NoLater at hle hge
    omega
  exact (h.1.unique h'.1).2

/-! ## The earliest failure -/

theorem earliest_eq_none_iff {failures : List (Nat × FetchError)} :
    earliest failures = none ↔ failures = [] := by
  cases failures with
  | nil => exact iff_of_true rfl rfl
  | cons failure rest =>
    refine iff_of_false (fun h => ?_) (List.cons_ne_nil _ _)
    rw [earliest] at h
    split at h
    · cases h
    · split at h <;> cases h

/-- The failures of a batch, in order. -/
abbrev failures (requests : List Request) (arrivals : List Arrival) : List (Nat × FetchError) :=
  (settled requests arrivals).filterMap failure?

theorem failures_cons :
    failures (first :: requests) (arrival :: arrivals) =
      match requireSuccess first arrival.result with
      | .error error => (arrival.round, error) :: failures requests arrivals
      | .ok _ => failures requests arrivals := by
  show List.filterMap failure?
    ((first, arrival.round, requireSuccess first arrival.result) :: settled requests arrivals) = _
  rw [List.filterMap_cons]
  cases requireSuccess first arrival.result <;> rfl

/-- Without a failure every request has its own response, and it is one of success. -/
theorem responses_of_failures_eq_nil : ∀ {requests : List Request} {arrivals : List Arrival},
    failures requests arrivals = [] →
      requests.zip (arrivals.map Arrival.result) =
          (responses (settled requests arrivals)).map (fun pair => (pair.1, .ok pair.2)) ∧
        ∀ pair ∈ responses (settled requests arrivals), pair.2.isSuccess = true
  | [], _, _ => ⟨rfl, nofun⟩
  | _ :: _, [], _ => ⟨rfl, nofun⟩
  | first :: requests, arrival :: arrivals, h => by
    rw [failures_cons] at h
    have hsplit : settled (first :: requests) (arrival :: arrivals) =
        (first, arrival.round, requireSuccess first arrival.result) ::
          settled requests arrivals := rfl
    cases hresult : requireSuccess first arrival.result with
    | error error =>
      rw [hresult] at h
      cases h
    | ok response =>
      rw [hresult] at h
      obtain ⟨harrived, hsuccess⟩ := requireSuccess_eq_ok_iff.mp hresult
      obtain ⟨hzip, hall⟩ := responses_of_failures_eq_nil h
      rw [hsplit, hresult, responses, List.map_cons, List.map_cons, List.zip_cons_cons, hzip,
        harrived]
      exact ⟨rfl, List.forall_mem_cons.mpr ⟨hsuccess, hall⟩⟩

/-- If there is no earliest failure, no fetch fails. -/
theorem not_failsAt_of_earliest (h : earliest (failures requests arrivals) = none) :
    ¬ FailsAt requests arrivals i round error := by
  intro hfails
  obtain ⟨request, arrival, hrequest, harrival, rfl, herror⟩ := failsAt_iff.mp hfails
  have hzip : (request, arrival) ∈ requests.zip arrivals :=
    List.mem_of_getElem? (List.getElem?_zip_eq_some.mpr ⟨hrequest, harrival⟩)
  have hfailure : failure? (request, arrival.round, requireSuccess request arrival.result) =
      some (arrival.round, error) := by rw [herror, failure?]
  have hlisted : (arrival.round, error) ∈ failures requests arrivals :=
    List.mem_filterMap.mpr ⟨_, List.mem_map.mpr ⟨_, hzip, rfl⟩, hfailure⟩
  rw [earliest_eq_none_iff.mp h] at hlisted
  cases hlisted

/-- The fetch in front fails first if those behind it do not fail in an earlier round. -/
theorem FailsFirst.head (h : requireSuccess first arrival.result = .error error)
    (hrest : ∀ j later other, FailsAt requests arrivals j later other → arrival.round ≤ later) :
    FailsFirst (first :: requests) (arrival :: arrivals) 0 arrival.round error := by
  have hhead : FailsAt (first :: requests) (arrival :: arrivals) 0 arrival.round error :=
    failsAt_zero.mpr ⟨rfl, h⟩
  refine ⟨hhead, fun j later other hj => ?_⟩
  cases j with
  | zero => exact .inr ⟨(hhead.unique hj).1, Nat.le_refl 0⟩
  | succ j =>
    have hround := hrest j later other hj
    unfold NoLater
    omega

/-- A fetch behind the one in front fails first if that does not fail, or only in a later round. -/
theorem FailsFirst.tail (h : FailsFirst requests arrivals i round error)
    (hhead : ∀ other, requireSuccess first arrival.result = .error other →
      round < arrival.round) :
    FailsFirst (first :: requests) (arrival :: arrivals) (i + 1) round error := by
  refine ⟨h.1, fun j later other hj => ?_⟩
  cases j with
  | zero =>
    obtain ⟨rfl, herror⟩ := failsAt_zero.mp hj
    exact .inl (hhead other herror)
  | succ j =>
    have hround := h.2 j later other hj
    unfold NoLater at hround ⊢
    omega

/-- The earliest failure is that of a fetch before which none fails. -/
theorem failsFirst_of_earliest : ∀ {requests : List Request} {arrivals : List Arrival}
    {round : Nat} {error : FetchError},
    earliest (failures requests arrivals) = some (round, error) →
      ∃ i, FailsFirst requests arrivals i round error
  | [], _, _, _, h => by cases h
  | _ :: _, [], _, _, h => by cases h
  | first :: requests, arrival :: arrivals, round, error, h => by
    rw [failures_cons] at h
    cases hresult : requireSuccess first arrival.result with
    | ok response =>
      rw [hresult] at h
      obtain ⟨i, hfirst⟩ := failsFirst_of_earliest h
      exact ⟨i + 1, hfirst.tail fun other herror => nomatch hresult.symm.trans herror⟩
    | error failure =>
      rw [hresult, earliest] at h
      split at h
      next hnone =>
        cases h
        exact ⟨0, .head hresult fun j later other hj =>
          absurd hj (not_failsAt_of_earliest hnone)⟩
      next found hfound =>
        obtain ⟨i, hfirst⟩ := failsFirst_of_earliest hfound
        split at h
        next hearlier =>
          cases h
          exact ⟨i + 1, hfirst.tail fun _ _ => hearlier⟩
        next hnot =>
          cases h
          refine ⟨0, .head hresult fun j later other hj => ?_⟩
          have hround := hfirst.2 j later other hj
          unfold NoLater at hround
          omega

/-! ## Outcomes -/

/-- A batch ends in a failure exactly if that is the failure of a fetch before which none fails. -/
theorem outcome_eq_error_iff :
    outcome requests arrivals = .error error ↔
      ∃ i round, FailsFirst requests arrivals i round error := by
  rw [outcome]
  cases hearliest : earliest (failures requests arrivals) with
  | none =>
    refine iff_of_false nofun ?_
    rintro ⟨i, round, hfails, _⟩
    exact not_failsAt_of_earliest hearliest hfails
  | some failure =>
    obtain ⟨i, hfirst⟩ := failsFirst_of_earliest hearliest
    constructor
    · rintro ⟨⟩
      exact ⟨i, _, hfirst⟩
    · rintro ⟨j, later, hother⟩
      exact congrArg Except.error (hfirst.unique hother)

/-- A batch of no requests ends in no responses. -/
theorem outcome_of_nil (h : requests = []) (arrivals : List Arrival) :
    outcome requests arrivals = .ok [] := by
  rw [h]
  rfl

/-- A batch ends in responses if no fetch fails. -/
theorem exists_outcome_eq_ok_iff :
    (∃ fetched, outcome requests arrivals = .ok fetched) ↔
      ∀ i round error, ¬ FailsAt requests arrivals i round error := by
  constructor
  · rintro ⟨fetched, hfetched⟩ i round error hfails
    rw [outcome] at hfetched
    split at hfetched
    · cases hfetched
    next hnone => exact not_failsAt_of_earliest hnone hfails
  · intro hnever
    cases houtcome : outcome requests arrivals with
    | ok fetched => exact ⟨fetched, rfl⟩
    | error error =>
      obtain ⟨i, round, hfails, _⟩ := outcome_eq_error_iff.mp houtcome
      exact absurd hfails (hnever i round error)

/-- No fetch fails if all arrive with responses of success. -/
theorem forall_not_failsAt_iff (hlength : arrivals.length = requests.length) :
    (∀ i round error, ¬ FailsAt requests arrivals i round error) ↔
      ∀ arrival ∈ arrivals, ∃ response, arrival.result = .ok response ∧
        response.isSuccess = true := by
  constructor
  · intro hnever arrival hmem
    obtain ⟨i, hi⟩ := List.getElem?_of_mem hmem
    have hbound : i < requests.length := hlength ▸ (List.getElem?_eq_some_iff.mp hi).1
    cases hresult : requireSuccess requests[i] arrival.result with
    | ok response => exact ⟨response, requireSuccess_eq_ok_iff.mp hresult⟩
    | error error =>
      exact absurd (failsAt_iff.mpr ⟨_, arrival, List.getElem?_eq_getElem hbound, hi, rfl, hresult⟩)
        (hnever i arrival.round error)
  · rintro hall i round error ⟨request, arrival, _, harrival, _, hfailed⟩
    obtain ⟨response, hresponse, hsuccess⟩ := hall arrival (List.mem_of_getElem? harrival)
    rcases hfailed with herror | ⟨other, hother, hfailed, _⟩
    · cases hresponse.symm.trans herror
    · cases hresponse.symm.trans hother
      exact Bool.false_ne_true (hfailed.symm.trans hsuccess)

/-- A batch that ends in responses has for each request its own, in the order of the requests. -/
theorem of_outcome_eq_ok (h : outcome requests arrivals = .ok fetched) :
    requests.zip (arrivals.map Arrival.result) =
        fetched.map (fun pair => (pair.1, .ok pair.2)) ∧
      ∀ pair ∈ fetched, pair.2.isSuccess = true := by
  rw [outcome] at h
  split at h
  · cases h
  next hnone =>
    cases h
    exact responses_of_failures_eq_nil (earliest_eq_none_iff.mp hnone)

theorem mem_of_outcome (h : outcome requests arrivals = .ok fetched) {request : Request}
    {response : Response} (hmem : (request, response) ∈ fetched) :
    ∃ arrival, (request, arrival) ∈ requests.zip arrivals ∧ arrival.result = .ok response ∧
      response.isSuccess = true := by
  obtain ⟨hzip, hsuccess⟩ := of_outcome_eq_ok h
  have hanswered : (request, .ok response) ∈ requests.zip (arrivals.map Arrival.result) := by
    rw [hzip]
    exact List.mem_map.mpr ⟨_, hmem, rfl⟩
  rw [List.zip_map_right] at hanswered
  obtain ⟨⟨_, arrival⟩, hpair, heq⟩ := List.mem_map.mp hanswered
  obtain ⟨rfl, hresult⟩ := Prod.mk.inj heq
  exact ⟨arrival, hpair, hresult, hsuccess _ hmem⟩

/-- A batch that ends in responses has one to each of its requests. -/
theorem map_fst_of_outcome (hlength : arrivals.length = requests.length)
    (h : outcome requests arrivals = .ok fetched) : fetched.map Prod.fst = requests := by
  have hzip := congrArg (List.map Prod.fst) (of_outcome_eq_ok h).1
  rw [List.map_fst_zip (by simp [hlength]), List.map_map] at hzip
  exact hzip.symm

/-! ## Requests that are issued -/

theorem issued_cons :
    issued (first :: requests) (arrival :: arrivals) =
      if failsAtOnce (first, arrival.round, requireSuccess first arrival.result) then [first]
      else first :: issued requests arrivals := rfl

theorem failsAtOnce_iff :
    failsAtOnce (first, arrival.round, requireSuccess first arrival.result) = true ↔
      arrival.round = 0 ∧ ∃ error, requireSuccess first arrival.result = .error error := by
  cases requireSuccess first arrival.result <;> simp [failsAtOnce, failure?]

/-- The first requests are issued, however many. -/
theorem issued_prefix : ∀ (requests : List Request) (arrivals : List Arrival),
    issued requests arrivals <+: requests
  | [], _ => List.prefix_refl _
  | _ :: _, [] => List.nil_prefix
  | first :: requests, arrival :: arrivals => by
    rw [issued_cons]
    split
    · exact List.cons_prefix_cons.mpr ⟨rfl, List.nil_prefix⟩
    · exact List.cons_prefix_cons.mpr ⟨rfl, issued_prefix requests arrivals⟩

/-- All requests are issued if none fails in round zero. -/
theorem issued_eq_self : ∀ {requests : List Request} {arrivals : List Arrival},
    arrivals.length = requests.length →
      (∀ i error, ¬ FailsAt requests arrivals i 0 error) → issued requests arrivals = requests
  | [], [], _, _ => rfl
  | first :: requests, arrival :: arrivals, hlength, hnever => by
    have hhead : ¬ failsAtOnce
        (first, arrival.round, requireSuccess first arrival.result) = true := by
      rw [failsAtOnce_iff]
      rintro ⟨hround, error, herror⟩
      exact hnever 0 error (failsAt_zero.mpr ⟨hround, herror⟩)
    rw [issued_cons, if_neg hhead, issued_eq_self (Nat.succ.inj hlength) fun i error hfails =>
      hnever (i + 1) error hfails]

/-- Of a batch that fails in round zero those are issued up to the first that fails. -/
theorem issued_eq_take : ∀ {requests : List Request} {arrivals : List Arrival} {i : Nat}
    {error : FetchError}, FailsAt requests arrivals i 0 error →
      (∀ j < i, ∀ other, ¬ FailsAt requests arrivals j 0 other) →
        issued requests arrivals = requests.take (i + 1)
  | [], _, _, _, h, _ => by obtain ⟨_, _, hrequest, _⟩ := h; cases hrequest
  | _ :: _, [], _, _, h, _ => by obtain ⟨_, _, _, harrival, _⟩ := h; cases harrival
  | first :: requests, arrival :: arrivals, 0, error, h, _ => by
    obtain ⟨hround, herror⟩ := failsAt_zero.mp h
    rw [issued_cons, if_pos (failsAtOnce_iff.mpr ⟨hround, error, herror⟩)]
    rfl
  | first :: requests, arrival :: arrivals, i + 1, error, h, hbefore => by
    have hhead : ¬ failsAtOnce
        (first, arrival.round, requireSuccess first arrival.result) = true := by
      rw [failsAtOnce_iff]
      rintro ⟨hround, other, hother⟩
      exact hbefore 0 (Nat.zero_lt_succ i) other (failsAt_zero.mpr ⟨hround, hother⟩)
    rw [issued_cons, if_neg hhead, issued_eq_take (failsAt_succ.mp h) fun j hj other hfails =>
      hbefore (j + 1) (Nat.succ_lt_succ hj) other hfails, List.take_succ_cons]

end Batch

end AssetCache.Fetch
