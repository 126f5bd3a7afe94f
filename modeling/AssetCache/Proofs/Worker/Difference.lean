import AssetCache.Proofs.Manifest.Difference
import AssetCache.Proofs.Worker.Turns

/-!
# The difference of two manifests decides what is retained

An activation looks at each URL of the content by itself: it goes back to the key and compares
two hashes. The difference of the recorded manifest and the current one is made once, for all
keys. Both come to the same: retained are the URLs whose keys are unchanged, and all others are
evicted, those included that have no key and those whose keys were added
(`difference_decides_retention`).

A retained entry may still be hidden by a staged one; the last clause says so.
-/

set_option autoImplicit false

namespace AssetCache.Worker

open Storage (Memory)

variable {worker : Worker} {previous : Manifest} {url : String}

/-- A URL is reusable if the difference has its key among the unchanged ones. -/
theorem isReusable_iff_unchanged :
    worker.isReusable previous url = true ↔
      ∃ key ∈ (ManifestDiff.between previous worker.build.resources).unchanged,
        worker.contentKey? url = some key := by
  unfold isReusable
  cases hkey : worker.contentKey? url with
  | none => simp
  | some key =>
    constructor
    · intro h
      exact ⟨key, ManifestDiff.mem_unchanged_iff.mpr h, rfl⟩
    · rintro ⟨other, hunchanged, hsame⟩
      cases hsame
      exact ManifestDiff.mem_unchanged_iff.mp hunchanged

/-- A difference shares out the keys of both manifests, and it foretells what an activation
retains of the content, where no storage call is refused. -/
theorem difference_decides_retention (previous current : Manifest) :
    let diff := ManifestDiff.between previous current
    Splits current.keys [diff.added, diff.changed, diff.unchanged] ∧
    Splits previous.keys [diff.removed, diff.changed, diff.unchanged] ∧
    (∀ key, key ∈ diff.unchanged ↔ current.isUnchangedSince previous key = true) ∧
    (diff.isEmpty = true ↔ previous = current) ∧
    ManifestDiff.between current previous =
      ⟨diff.removed, diff.added, diff.changed, diff.unchanged⟩ ∧
    ∀ (worker : Worker) (around : Surroundings) (memory : Memory),
      worker.build.resources = current → worker.config.regions.all.Nodup →
        worker.recorded? memory = some (.ok previous) →
          let content := Memory.entries memory worker.content
          let staged := Memory.entries memory worker.temp
          let run := around.calm.run worker.activate (Scene.start memory)
          ∃ evicted retained, run.1 = .upgraded evicted retained staged.keys ∧
            (∀ url, url ∈ retained ↔ content.contains url = true ∧
              ∃ key ∈ diff.unchanged, worker.contentKey? url = some key) ∧
            (∀ url, url ∈ evicted ↔ content.contains url = true ∧
              ∀ key ∈ diff.unchanged, worker.contentKey? url ≠ some key) ∧
            ∃ after, run.2.memory.get? worker.content = some after ∧ ∀ url, after.get? url =
              (staged.get? url).or (if url ∈ retained then content.get? url else none) := by
  intro diff
  refine ⟨ManifestDiff.splits_current previous current,
    ManifestDiff.splits_previous previous current, fun key => ManifestDiff.mem_unchanged_iff,
    ManifestDiff.isEmpty_iff, ManifestDiff.between_swap previous current, ?_⟩
  rintro worker around memory rfl hregions hrecord
  have hrecorded : worker.recorded? memory = (some previous).map .ok := hrecord
  obtain ⟨hreport, hpromoted, _⟩ :=
    run_activate_calm hregions around (Scene.start memory) hrecorded
  dsimp only
  refine ⟨_, _, hreport, ?_, ?_, _, hpromoted.content, get?_renewed worker previous memory⟩
  · intro url
    rw [List.mem_filter, Table.mem_keys_iff, isReusable_iff_unchanged]
    rfl
  · intro url
    have hnot : (!worker.isReusable previous url) = true ↔
        ∀ key ∈ diff.unchanged, worker.contentKey? url ≠ some key := by
      rw [Bool.not_eq_true', ← Bool.not_eq_true, isReusable_iff_unchanged]
      simp only [not_exists, not_and, diff, ne_eq]
    rw [List.mem_filter, Table.mem_keys_iff, hnot]
    rfl

/-- Of three cached keys one is unchanged and retained; the one that was added is evicted with the
one that was changed. -/
theorem difference_decides_retention_of_added :
    let previous : Manifest := (Table.empty.insert "k" "1").insert "m" "1"
    let worker : Worker := ⟨.ofOrigin "https://a",
      ⟨((Table.empty.insert "k" "1").insert "m" "2").insert "n" "1", []⟩⟩
    let content : Table Response := ((Table.empty.insert "https://a/k" (.json [1])).insert
      "https://a/m" (.json [2])).insert "https://a/n" (.json [3])
    let memory : Memory := (Table.empty.insert worker.content content).insert worker.records
      (Table.empty.insert worker.recordUrl (.json previous.toBytes))
    let diff := ManifestDiff.between previous worker.build.resources
    let run := (Surroundings.offline none).calm.run worker.activate (Scene.start memory)
    worker.config.regions.all.Nodup ∧ worker.recorded? memory = some (.ok previous) ∧
      diff = ⟨["n"], [], ["m"], ["k"]⟩ ∧
      ∃ evicted retained, run.1 = .upgraded evicted retained [] ∧ "https://a/k" ∈ retained ∧
        "https://a/m" ∈ evicted ∧ "https://a/n" ∈ evicted := by
  intro previous worker content memory diff run
  have hregions : worker.config.regions.all.Nodup := by decide
  have hresponse : (Memory.entries memory worker.records).get? worker.recordUrl =
      some (.json previous.toBytes) := by
    rw [Memory.entries_of_get? (Table.get?_insert_self _ _ _), Table.get?_insert_self]
  have hrecord : worker.recorded? memory = some (.ok previous) := by
    rw [recorded?, hresponse]
    exact congrArg some (Manifest.ofBytes_toBytes previous)
  have hdiff : diff = ⟨["n"], [], ["m"], ["k"]⟩ := by decide
  have hcontent : Memory.entries memory worker.content = content := by
    apply Memory.entries_of_get?
    rw [Table.get?_insert_of_ne _ _ (by decide), Table.get?_insert_self]
  obtain ⟨_, _, _, _, _, hretention⟩ :=
    difference_decides_retention previous worker.build.resources
  obtain ⟨evicted, retained, hrun, hretained, hevicted, _⟩ :=
    hretention worker (.offline none) memory rfl hregions hrecord
  have hstaged : Memory.entries memory worker.temp = .empty := by
    apply Memory.entries_of_get?_none
    rw [Table.get?_insert_of_ne _ _ (by decide), Table.get?_insert_of_ne _ _ (by decide),
      Table.get?_empty]
  rw [hstaged, show (Table.empty : Table Response).keys = [] from rfl] at hrun
  rw [hcontent] at hretained hevicted
  have hchanged : ∀ url, content.contains url = true → worker.contentKey? url ≠ some "k" →
      url ∈ evicted := by
    intro url hurl hkey
    refine (hevicted url).mpr ⟨hurl, ?_⟩
    change ∀ key ∈ diff.unchanged, _
    rw [hdiff]
    intro key hunchanged
    rw [List.mem_singleton.mp hunchanged]
    exact hkey
  refine ⟨hregions, hrecord, hdiff, evicted, retained, hrun, ?_, ?_, ?_⟩
  · refine (hretained _).mpr ⟨by decide, "k", ?_, by decide⟩
    change "k" ∈ diff.unchanged
    rw [hdiff]
    exact List.mem_singleton.mpr rfl
  · exact hchanged _ (by decide) (by decide)
  · exact hchanged _ (by decide) (by decide)

end AssetCache.Worker
