import AssetCache.Proofs.Key.Correspondence
import AssetCache.Proofs.Worker.Serving

/-!
# Responses that stay in the content

Where no storage call is refused, a response that was served out of the content, or was
stored in it on the way, is what every later request for its key is served, out of the
content and without the network (`busted_urls_share_entry`). The requests in between may be
any, as long as none is for another key of the same URL.

One request keeps what is stored (`stored_after_handleFetch`), and so do many
(`stored_afterServing`). The entry document is never served this way: the network is asked
for it each time.

Nothing is said of activations in between, which may evict an entry.
-/

set_option autoImplicit false

namespace AssetCache.Worker

open Storage (Memory)

variable {worker : Worker} {around : Surroundings} {request : Request} {key : String}
  {response : Response} {before : Memory}

/-- The content holds a response under the URL of a key. -/
def Stored (worker : Worker) (key : String) (response : Response) (memory : Memory) : Prop :=
  (Memory.entries memory worker.content).get? (worker.urlFor key) = some response

/-- The scene after some requests have been served one after the other. -/
def afterServing (around : Surroundings) (worker : Worker) : List Request → Scene → Scene
  | [], scene => scene
  | request :: rest, scene =>
    afterServing around worker rest (around.perform (worker.handleFetch request) scene).2

/-! ## One request -/

/-- What is stored is served as it is, without the network and without a change. -/
theorem accounts_cacheFirst_of_stored (around : Surroundings) (request : Request)
    (h : Stored worker key response before) :
    Accounts around.calm (worker.cacheFirst request key (worker.urlFor key)) before
      fun result sent after => result = .ok ⟨key, response, .hit⟩ ∧ sent = [] ∧ after = before := by
  have hopened : Memory.opened before worker.content = before := withContent_of_get? h
  refine .bind (.store nofun ?_)
  rw [Memory.answer_create, hopened]
  refine .bind (.store nofun ?_)
  dsimp only [Memory.answer, Except.mapError]
  rw [show (Memory.entries before worker.content).get? (worker.urlFor key) = some response from h]
  exact .pure ⟨rfl, rfl, rfl⟩

/-- A response that was a hit or a miss is stored afterwards, and not as the entry document. -/
def Leaves (worker : Worker) (key : String) (result : Except WorkerError Served)
    (after : Memory) : Prop :=
  ∀ served, result = .ok served → served.provenance = .hit ∨ served.provenance = .miss →
    key ≠ Key.root ∧ served.key = key ∧ Stored worker key served.response after

/-- A response that is found or fetched with success is stored afterwards. -/
theorem accounts_cacheFirst_stores (around : Surroundings) (request : Request)
    (hroot : key ≠ Key.root) (before : Memory) :
    Accounts around.calm (worker.cacheFirst request key (worker.urlFor key)) before
      fun result _ after => Leaves worker key result after := by
  cases hfound : (Memory.entries before worker.content).get? (worker.urlFor key) with
  | some cached =>
    refine (accounts_cacheFirst_of_stored around request hfound).mono ?_
    rintro result sent after ⟨rfl, -, rfl⟩ served hserved _
    cases hserved
    exact ⟨hroot, rfl, hfound⟩
  | none =>
    refine .bind (.store nofun (.bind (.store nofun ?_)))
    rw [Memory.answer_create]
    dsimp only [Memory.answer, Except.mapError]
    rw [Memory.entries_opened, hfound]
    refine .bind (.act fun count => ?_)
    dsimp only [Surroundings.reply]
    cases around.calm.respond count request with
    | error failure => exact .throw nofun
    | ok response =>
      dsimp only
      split
      next =>
        have hput : Memory.answer (.put worker.content (worker.urlFor key) response)
            (Memory.opened before worker.content) = _ :=
          Memory.answer_put (Memory.get?_opened_self before worker.content)
        refine .bind (.bind (.attemptStore nofun ?_))
        rw [hput]
        refine .pure (.pure fun served hserved _ => ?_)
        cases hserved
        refine ⟨hroot, rfl, ?_⟩
        rw [Stored, Memory.entries_insert, if_pos rfl, Table.get?_insert_self]
      next =>
        refine .pure fun served hserved hprovenance => ?_
        cases hserved
        exact hprovenance.elim nofun nofun

/-- The entry document is fresh from the network or for want of it out of the content. -/
theorem accounts_networkFirst_provenance (around : Surroundings) (worker : Worker)
    (request : Request) (key : String) (before : Memory) :
    Accounts around (worker.networkFirst request key (worker.urlFor key)) before
      fun result _ _ => ∀ served, result = .ok served →
        served.provenance = .network ∨ served.provenance = .fallback := by
  refine .bind (.store (fun _ _ _ => nofun) (.bind (.act fun count => ?_)))
  dsimp only [Surroundings.reply]
  cases around.respond count request with
  | ok response =>
    refine .bind ((accounts_fill worker key _ response before).mono ?_)
    rintro result sent after ⟨rfl, -, -⟩
    refine .pure fun served hserved => ?_
    cases hserved
    exact .inl rfl
  | error failure =>
    refine .bind (.store (fun _ _ _ => nofun) ?_)
    dsimp only [Memory.answer, Except.mapError]
    split
    · refine .bind (.note (.pure fun served hserved => ?_))
      cases hserved
      exact .inr rfl
    · exact .throw nofun

/-- A request for a key that is stored is served what is stored, and changes nothing. -/
theorem accounts_handleFetch_of_stored (around : Surroundings)
    (hkey : worker.interceptedKey? request = some key) (hroot : key ≠ Key.root)
    (h : Stored worker key response before) :
    Accounts around.calm (worker.handleFetch request) before fun result sent after =>
      result = .ok (some ⟨key, response, .hit⟩) ∧ sent = [] ∧ after = before := by
  refine (accounts_handleFetch_of hkey (fun heq => absurd heq hroot) fun _ =>
    accounts_cacheFirst_of_stored around request h).mono ?_
  rintro result sent after ⟨served, rfl, rfl, hsent, hafter⟩
  exact ⟨rfl, hsent, hafter⟩

/-- A request that is a hit or a miss leaves stored what it was served. -/
theorem accounts_handleFetch_stores (around : Surroundings)
    (hkey : worker.interceptedKey? request = some key) (before : Memory) :
    Accounts around.calm (worker.handleFetch request) before fun result _ after =>
      ∃ answer, result = answer.map some ∧ Leaves worker key answer after := by
  refine accounts_handleFetch_of hkey (fun _ => ?_) fun hroot =>
    accounts_cacheFirst_stores around request hroot before
  refine (accounts_networkFirst_provenance around.calm worker request key before).mono ?_
  intro result sent after hnetwork served hserved hprovenance
  rcases hnetwork served hserved with heq | heq <;> rw [heq] at hprovenance <;>
    exact hprovenance.elim nofun nofun

/-- One request keeps what is stored, unless it is for another key of the same URL. -/
theorem stored_after_handleFetch (around : Surroundings) (request : Request)
    (hroot : key ≠ Key.root)
    (hother : ∀ other, worker.interceptedKey? request = some other →
      other = key ∨ worker.urlFor other ≠ worker.urlFor key)
    {scene : Scene} (h : Stored worker key response scene.memory) :
    Stored worker key response
      (around.calm.perform (worker.handleFetch request) scene).2.memory := by
  cases hkey : worker.interceptedKey? request with
  | none =>
    rw [perform_handleFetch_of_none hkey]
    exact h
  | some other =>
    rcases hother other hkey with rfl | hne
    · obtain ⟨sent, _, _, _, hafter⟩ :=
        accounts_handleFetch_of_stored around hkey hroot h scene.deeds
      rw [hafter]
      exact h
    · obtain ⟨sent, _, served, _, hcourse⟩ :=
        accounts_handleFetch around.calm hkey scene.memory scene.deeds
      -- what may be stored lies under another URL
      rcases hcourse.stored with hafter | hafter | ⟨fetched, _, _, hafter⟩
      · rw [hafter]
        exact h
      · rw [hafter, Stored, withContent, Memory.entries_opened]
        exact h
      · rw [hafter, Stored, filled, Memory.entries_insert, if_pos rfl,
          Table.get?_insert_of_ne _ _ hne]
        exact h

/-! ## Many requests -/

/-- However many requests are served, what is stored stays. -/
theorem stored_afterServing (around : Surroundings) (hroot : key ≠ Key.root) :
    ∀ (requests : List Request) (scene : Scene),
      (∀ request ∈ requests, ∀ other, worker.interceptedKey? request = some other →
        other = key ∨ worker.urlFor other ≠ worker.urlFor key) →
      Stored worker key response scene.memory →
        Stored worker key response (afterServing around.calm worker requests scene).memory
  | [], _, _, h => h
  | request :: rest, _, hothers, h =>
    stored_afterServing around hroot rest _
      (fun other hmem => hothers other (List.mem_cons_of_mem request hmem))
      (stored_after_handleFetch around request hroot (hothers request List.mem_cons_self) h)

/-- Behind a URL below the origin a version query changes nothing; and once a request was a hit or
a miss, each later request for the key is a hit of the same response, whatever was asked between. -/
theorem busted_urls_share_entry (worker : Worker) (around : Surroundings) (scene : Scene) :
    (∀ origin url version : String, (Key.trimOrigin origin ++ ['/']) <+: url.toList →
      Key.requestKey? origin (url ++ "?v=" ++ version) = Key.requestKey? origin url) ∧
    ∀ (first : Request) (served : Served),
      (around.calm.perform (worker.handleFetch first) scene).1 = .ok (some served) →
      served.provenance = .hit ∨ served.provenance = .miss →
      ∀ between : List Request,
        (∀ request ∈ between, ∀ key, worker.interceptedKey? request = some key →
          key = served.key ∨ worker.urlFor key ≠ worker.urlFor served.key) →
      ∀ again : Request, again.method = .get →
        Key.requestKey? worker.config.origin again.url =
          Key.requestKey? worker.config.origin first.url →
        let before := afterServing around.calm worker between
          (around.calm.perform (worker.handleFetch first) scene).2
        let run := around.calm.perform (worker.handleFetch again) before
        run.1 = .ok (some ⟨served.key, served.response, .hit⟩) ∧
          run.2.exchanges = before.exchanges ∧ run.2.memory = before.memory := by
  refine ⟨fun origin url version h => Key.requestKey?_append_version h version, ?_⟩
  intro first served hserved hprovenance between hbetween again hget hsame before run
  obtain ⟨key, hkey⟩ : ∃ key, worker.interceptedKey? first = some key := by
    cases hkey : worker.interceptedKey? first with
    | some key => exact ⟨key, rfl⟩
    | none =>
      rw [perform_handleFetch_of_none hkey] at hserved
      cases hserved
  obtain ⟨_, _, answer, hanswer, hleaves⟩ :=
    accounts_handleFetch_stores around hkey scene.memory scene.deeds
  obtain ⟨hroot, rfl, hstored⟩ := hleaves served
    (map_some_eq_ok_iff.mp (hanswer.symm.trans hserved)) hprovenance
  have hagain : worker.interceptedKey? again = some served.key := by
    obtain ⟨_, hasked, hlisted⟩ := interceptedKey?_eq_some_iff.mp hkey
    exact interceptedKey?_eq_some_iff.mpr ⟨hget, hsame.trans hasked, hlisted⟩
  have hbefore : Stored worker served.key served.response before.memory :=
    stored_afterServing around hroot between _ hbetween hstored
  obtain ⟨sent, hsent, hresult, rfl, hafter⟩ :=
    accounts_handleFetch_of_stored around hagain hroot hbefore before.deeds
  exact ⟨hresult, hsent.trans (List.append_nil _), hafter⟩

/-- A miss, a miss of another key, and the first key with a version query. -/
theorem busted_urls_share_entry_of_miss :
    let worker : Worker :=
      ⟨.ofOrigin "https://a/", ⟨(Table.empty.insert "k" "1").insert "m" "1", []⟩⟩
    let around := Surroundings.serving (.json [7])
    let first := around.calm.perform (worker.handleFetch (.get "https://a/k")) (.start .empty)
    let before := afterServing around.calm worker [.get "https://a/m"] first.2
    let run := around.calm.perform (worker.handleFetch (.get "https://a/k?v=?v=2")) before
    first.1 = .ok (some ⟨"k", .json [7], .miss⟩) ∧
      run.1 = .ok (some ⟨"k", .json [7], .hit⟩) ∧ run.2.exchanges = before.exchanges ∧
      run.2.memory = before.memory := by
  refine ⟨rfl, ?_⟩
  refine (busted_urls_share_entry _ (.serving (.json [7])) (.start .empty)).2
    (.get "https://a/k") ⟨"k", .json [7], .miss⟩ rfl (.inr rfl) [.get "https://a/m"] ?_ _ rfl ?_
  · intro request hrequest key hkey
    obtain rfl := List.mem_singleton.mp hrequest
    obtain rfl : "m" = key := Option.some.inj hkey
    exact .inr (by decide)
  · exact (busted_urls_share_entry ⟨.ofOrigin "https://a/", ⟨.empty, []⟩⟩ (.serving (.json [7]))
      (.start .empty)).1 "https://a/" "https://a/k" "?v=2" (by decide)

end AssetCache.Worker
