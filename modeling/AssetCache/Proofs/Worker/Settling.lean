import AssetCache.Proofs.Worker.Turns

/-!
# Activating again

An activation of the build that was activated last has nothing new to bring. Here three
activations follow one another where no storage call is refused, from any storage whose
record is absent or can be read; their workers differ in their core shells at most
(`SameResources`).

What an activation leaves is `Activated`: its manifest is recorded and nothing is staged.
Another one then takes out of the content what the build does not list, and that is all
(`run_activate_again`). So the second evicts what was staged without being listed, for what
the first has retained is listed; and the third changes nothing (`activations_settle`).

Nothing is said of an installation in between, which would stage something again.
-/

set_option autoImplicit false

namespace AssetCache.Worker

open Storage (Memory)

variable {worker other : Worker} {memory after : Memory}

/-! ## What a build would keep of its own -/

/-- Whether a URL belongs to a key that the build lists. -/
def lists (worker : Worker) (url : String) : Bool :=
  (worker.contentKey? url).any worker.build.resources.contains

/-- Of its own version a build reuses what it lists. -/
theorem isReusable_own (worker : Worker) :
    worker.isReusable worker.build.resources = worker.lists := by
  funext url
  rw [isReusable, lists]
  cases worker.contentKey? url with
  | none => rfl
  | some key =>
    show Manifest.isUnchangedSince _ _ key = Table.contains _ key
    rw [Manifest.isUnchangedSince, Table.contains, Manifest.hash?]
    cases worker.build.resources.get? key with
    | none => rfl
    | some hash => exact beq_self_eq_true hash

/-- What is reused of any version is listed. -/
theorem lists_of_isReusable {previous : Manifest} {url : String}
    (h : worker.isReusable previous url = true) : worker.lists url = true := by
  obtain ⟨key, hash, hkey, _, hlisted⟩ := (isReusable_iff worker previous url).mp h
  rw [lists, hkey]
  exact (Table.contains_eq_true_iff _ _).mpr ⟨hash, hlisted⟩

/-- Whatever the content is made of without being listed was staged. -/
theorem filter_renewed (worker : Worker) (previous : Option Manifest) (memory : Memory) :
    (worker.renewed previous memory).keys.filter (fun url => !worker.lists url) =
      (Memory.entries memory worker.temp).keys.filter fun url => !worker.lists url := by
  rw [← Table.keys_filter, ← Table.keys_filter]
  refine congrArg Table.keys ?_
  cases previous with
  | none => rfl
  | some previous =>
    refine Table.ext_get? fun url => ?_
    rw [Table.get?_filter, Table.get?_filter]
    split
    next hnot =>
      rw [Bool.not_eq_true'] at hnot
      have hdropped : ¬ worker.isReusable previous url = true := fun hreusable =>
        Bool.false_ne_true (hnot.symm.trans (lists_of_isReusable hreusable))
      rw [renewed, Table.get?_insertAll_entries, Table.get?_filter, if_neg hdropped,
        Option.or_none]
    next => rfl

/-! ## After an activation -/

/-- A storage as an activation leaves it: the manifest recorded, and nothing staged. -/
structure Activated (worker : Worker) (memory : Memory) : Prop where
  temp : memory.get? worker.temp = none
  recorded : ∃ records, memory.get? worker.records = some records ∧
    records.get? worker.recordUrl = some (recordFor worker.build.resources)

theorem Promoted.activated {content : Table Response} (h : Promoted worker memory content after) :
    Activated worker after :=
  ⟨h.temp, _, h.records, Table.get?_insert_self _ _ _⟩

theorem Activated.recorded? (h : Activated worker memory) :
    worker.recorded? memory = some (.ok worker.build.resources) := by
  obtain ⟨records, hrecords, hrecord⟩ := h.recorded
  have hfound : recordOf? worker.config memory = (some worker.build.resources).map recordFor :=
    (congrArg (Table.get? · worker.recordUrl) (Memory.entries_of_get? hrecords)).trans hrecord
  exact recorded?_of_recordOf? hfound

/-- To promote nothing over what is recorded already changes the content alone. -/
theorem Promoted.get?_again {content : Table Response} (hbefore : Activated worker memory)
    (h : Promoted worker memory content after) {region : String}
    (hregion : region ≠ worker.content) : after.get? region = memory.get? region := by
  by_cases hmem : region ∈ worker.config.regions.all
  · rcases hmem with _ | ⟨_, _ | ⟨_, _ | ⟨_, hnil⟩⟩⟩
    · exact absurd rfl hregion
    · exact h.temp.trans hbefore.temp.symm
    · -- the record that is written is the one that is there
      obtain ⟨records, hrecords, hrecord⟩ := hbefore.recorded
      refine h.records.trans (Eq.trans ?_ hrecords.symm)
      rw [Memory.entries_of_get? hrecords, Table.insert_of_get? hrecord]
    · cases hnil
  · exact h.others region hmem

/-- What another activation reports and leaves: the content is cut down to what is listed. -/
structure CutDown (worker : Worker) (before : Memory) (outcome : Activation) (after : Memory) :
    Prop where
  outcome_eq : outcome = .upgraded
    ((Memory.entries before worker.content).keys.filter fun url => !worker.lists url)
    ((Memory.entries before worker.content).keys.filter worker.lists) []
  content : after.get? worker.content =
    some ((Memory.entries before worker.content).filter worker.lists)
  others : ∀ region, region ≠ worker.content → after.get? region = before.get? region
  activated : Activated worker after

theorem run_activate_again (h : worker.config.regions.all.Nodup) (around : Surroundings)
    (scene : Scene) (hbefore : Activated worker scene.memory) :
    CutDown worker scene.memory (around.calm.run worker.activate scene).1
      (around.calm.run worker.activate scene).2.memory := by
  have hrecord : worker.recorded? scene.memory = (some worker.build.resources).map .ok :=
    hbefore.recorded?
  obtain ⟨hresult, hpromoted, _⟩ := run_activate_calm h around scene hrecord
  have hstaged : Memory.entries scene.memory worker.temp = .empty :=
    Memory.entries_of_get?_none hbefore.temp
  refine ⟨?_, ?_, fun region hregion => hpromoted.get?_again hbefore hregion,
    hpromoted.activated⟩
  · rw [hresult, report, isReusable_own, hstaged]
    rfl
  · rw [hpromoted.content, renewed, isReusable_own, hstaged]
    rfl

/-- What is not listed is gone, and the rest is as before. -/
theorem CutDown.get? {outcome : Activation} (h : CutDown worker memory outcome after)
    (url : String) :
    (Memory.entries after worker.content).get? url =
      if url ∈ (Memory.entries memory worker.content).keys.filter (fun url => !worker.lists url)
        then none else (Memory.entries memory worker.content).get? url := by
  rw [Memory.entries_of_get? h.content, Table.get?_filter]
  by_cases hmem : url ∈ (Memory.entries memory worker.content).keys
  · cases hlists : worker.lists url <;> simp [hmem, hlists]
  · rw [(Table.get?_eq_none_iff _ _).mpr hmem, ite_self, ite_self]

/-- To cut down the content once more changes nothing. -/
theorem CutDown.again {outcome outcome' : Activation} {last : Memory}
    (h : CutDown worker memory outcome after) (hagain : CutDown worker after outcome' last) :
    outcome' = .upgraded [] ((Memory.entries memory worker.content).keys.filter worker.lists) [] ∧
      last = after := by
  obtain ⟨houtcome, hcontent, hothers, _⟩ := hagain
  rw [Memory.entries_of_get? h.content] at houtcome hcontent
  simp only [Table.keys_filter, Table.filter_filter, List.filter_filter, Bool.and_self,
    Bool.not_and_self, List.filter_false] at houtcome hcontent
  refine ⟨houtcome, Table.ext_get? fun region => ?_⟩
  by_cases hregion : region = worker.content
  · rw [hregion, hcontent, h.content]
  · exact hothers region hregion

/-! ## Workers of one build -/

/-- Two workers serve the same resources under one configuration. -/
def SameResources (worker other : Worker) : Prop :=
  worker.config = other.config ∧ worker.build.resources = other.build.resources

namespace SameResources

variable (h : SameResources worker other)
include h

theorem content_eq : worker.content = other.content :=
  congrArg (fun config : Config => config.regions.content) h.1

theorem lists_eq : worker.lists = other.lists := by
  funext url
  rw [lists, lists, contentKey?, contentKey?, h.1, h.2]

theorem activated_iff : Activated worker memory ↔ Activated other memory := by
  obtain ⟨config, resources, core⟩ := worker
  obtain ⟨_, _, core'⟩ := other
  obtain ⟨rfl, rfl⟩ := h
  exact ⟨fun h => ⟨h.temp, h.recorded⟩, fun h => ⟨h.temp, h.recorded⟩⟩

end SameResources

/-- Another activation may be by a worker of the same resources. -/
theorem run_activate_same (hsame : SameResources worker other)
    (h : worker.config.regions.all.Nodup) (around : Surroundings) (scene : Scene)
    (hbefore : Activated worker scene.memory) :
    CutDown worker scene.memory (around.calm.run other.activate scene).1
      (around.calm.run other.activate scene).2.memory := by
  obtain ⟨houtcome, hcontent, hothers, hafter⟩ := run_activate_again (hsame.1 ▸ h) around scene
    (hsame.activated_iff.mp hbefore)
  rw [← hsame.content_eq, ← hsame.lists_eq] at houtcome hcontent
  rw [← hsame.content_eq] at hothers
  exact ⟨houtcome, hcontent, hothers, hsame.activated_iff.mpr hafter⟩

/-! ## Three activations -/

/-- The URL of a listed key is listed, if the key is found under it. -/
theorem lists_of_contentKey? {url key : String} (hkey : worker.contentKey? url = some key)
    (hlisted : worker.build.resources.contains key = true) : worker.lists url = true := by
  rw [lists, hkey]
  exact hlisted

/-- A second activation takes out what was staged without being listed, and changes nothing else;
a third one changes nothing. -/
theorem activations_settle (h : worker.config.regions.all.Nodup) (around : Surroundings)
    (hrecord : ∀ fault, worker.recorded? memory ≠ some (.error fault)) {second third : Worker}
    (hsecond : SameResources worker second) (hthird : SameResources worker third)
    {first again last : Activation × Scene}
    (hfirst : around.calm.run worker.activate (Scene.start memory) = first)
    (hagain : around.calm.run second.activate first.2 = again)
    (hlast : around.calm.run third.activate again.2 = last) :
    let content := fun scene : Scene => Memory.entries scene.memory worker.content
    ∃ copied evicted retained,
      (first.1 = .fresh copied ∨ ∃ dropped kept, first.1 = .upgraded dropped kept copied) ∧
      copied = (Memory.entries memory worker.temp).keys ∧
      evicted = copied.filter (fun url => !worker.lists url) ∧
      ((∀ url ∈ copied, ∃ key, url = worker.urlFor key ∧
        worker.build.resources.contains key = true ∧
        worker.contentKey? (worker.urlFor key) = some key) → evicted = []) ∧
      again.1 = .upgraded evicted retained [] ∧
      (∀ url, (content again.2).get? url =
        if url ∈ evicted then none else (content first.2).get? url) ∧
      (∀ region, region ≠ worker.content →
        again.2.memory.get? region = first.2.memory.get? region) ∧
      last.1 = .upgraded [] retained [] ∧ last.2.memory = again.2.memory := by
  obtain ⟨previous, hprevious⟩ : ∃ previous : Option Manifest,
      worker.recorded? memory = previous.map .ok := by
    rcases settles_reconcile h memory with ⟨fault, hfault, _⟩ | ⟨previous, hprevious, _⟩
    · exact absurd hfault (hrecord fault)
    · exact ⟨previous, hprevious⟩
  obtain ⟨hreport, hpromoted, _⟩ := run_activate_calm h around (.start memory) hprevious
  rw [hfirst] at hreport hpromoted
  have hcut := run_activate_same hsecond h around first.2 hpromoted.activated
  rw [hagain] at hcut
  have hlater := run_activate_same hthird h around again.2 hcut.activated
  rw [hlast] at hlater
  obtain ⟨hnothing, hmemory⟩ := hcut.again hlater
  -- what is not listed was staged, so that is what the second activation evicts
  have hevicted : (Memory.entries first.2.memory worker.content).keys.filter
      (fun url => !worker.lists url) =
      (Memory.entries memory worker.temp).keys.filter fun url => !worker.lists url := by
    rw [Memory.entries_of_get? hpromoted.content, filter_renewed]
    rfl
  have houtcome := hcut.outcome_eq
  have hget := hcut.get?
  simp only [hevicted] at houtcome hget
  refine ⟨_, _, _, ?_, rfl, rfl, fun hkeys => ?_, houtcome, hget, hcut.others, hnothing, hmemory⟩
  · rw [hreport]
    cases previous with
    | none => exact .inl rfl
    | some previous => exact .inr ⟨_, _, rfl⟩
  · refine List.filter_eq_nil_iff.mpr fun url hurl => ?_
    obtain ⟨key, rfl, hlisted, hkey⟩ := hkeys url hurl
    rw [lists_of_contentKey? hkey hlisted]
    exact Bool.false_ne_true

/-- What was staged from another origin is gone after the second activation. -/
theorem activations_settle_of_foreign :
    let worker : Worker := ⟨.ofOrigin "https://a", ⟨Table.empty.insert "k" "1", []⟩⟩
    let second : Worker := ⟨.ofOrigin "https://a", ⟨Table.empty.insert "k" "1", ["k"]⟩⟩
    let staged : Table Response :=
      (Table.empty.insert "https://a/k" (.json [1])).insert "https://b/" (.json [2])
    let memory : Memory := Table.empty.insert worker.temp staged
    let around := (Surroundings.offline none).calm
    let first := around.run worker.activate (Scene.start memory)
    let again := around.run second.activate first.2
    let last := around.run worker.activate again.2
    worker.config.regions.all.Nodup ∧ worker.recorded? memory = none ∧
      SameResources worker second ∧ ∃ retained,
        again.1 = .upgraded ["https://b/"] retained [] ∧
        (Memory.entries again.2.memory worker.content).get? "https://b/" = none ∧
        last.1 = .upgraded [] retained [] ∧ last.2.memory = again.2.memory := by
  intro worker second staged memory around first again last
  have hnodup : worker.config.regions.all.Nodup := by decide
  have hrecord : worker.recorded? memory = none := rfl
  have hsecond : SameResources worker second := ⟨rfl, rfl⟩
  have hthird : SameResources worker worker := ⟨rfl, rfl⟩
  have hfirst : around.run worker.activate (Scene.start memory) = first := rfl
  have hagain : around.run second.activate first.2 = again := rfl
  have hlast : around.run worker.activate again.2 = last := rfl
  obtain ⟨copied, evicted, retained, _, hcopied, hevicted, _, hupgraded, hget, _, hidle, hmemory⟩ :=
    activations_settle hnodup (.offline none)
      (fun fault heq => by rw [hrecord] at heq; cases heq) hsecond hthird hfirst hagain hlast
  obtain rfl : evicted = ["https://b/"] := by
    rw [hevicted, hcopied]
    decide +kernel
  refine ⟨hnodup, hrecord, hsecond, retained, hupgraded, ?_, hidle, hmemory⟩
  rw [hget, if_pos (.head _)]

end AssetCache.Worker
