import AssetCache.Proofs.Toml.Texts
import AssetCache.Settings.Search

/-!
# Origins that are read back from a file of settings

The file of settings to begin with is plain lines around one in which the origin stands as it was
given. It is read back with the defaults if every character of the origin stands for itself
(`ofToml?_template`), and only then is it read back at all as it was (`verbatim_of_ofToml?`).

That takes an origin that does not begin with a quotation mark, or the line would be read as a
text of several lines; an origin that is accepted does not (`not_mark_of_validate`).
-/

set_option autoImplicit false

namespace AssetCache.Settings

open Toml

/-! ## The text that is written -/

/-- The lines in front of that of the origin. -/
def opening : List Line := [.comment " Asset worker configuration", .empty, .header ["worker"]]

/-- The lines behind that of the origin. -/
def closing : List Line := [
  .empty,
  .comment " Cache region names. Change them to isolate two apps sharing an origin.",
  .header ["worker", "regions"],
  .setting "content" "app-cache",
  .setting "temp" "app-temp-cache",
  .setting "manifest" "app-manifest",
  .empty,
  .header ["bundle"],
  .comment (" \x7b\"resources\": \x7b\"<key>\": \"<hash>\", ...\x7d, " ++
    "\"core\": [\"/\", \"main.js\", ...]\x7d"),
  .setting "manifest" "build/asset-manifest.json",
  .empty,
  .header ["storage"],
  .setting "dir" ".sw-cache"]

theorem opening_plain : ∀ line ∈ opening, line.Plain := by
  decide +kernel

theorem closing_plain : ∀ line ∈ closing, line.Plain := by
  decide +kernel

theorem templateHead_eq :
    templateHead = String.join (opening.map Line.written) ++ ("origin" ++ " = \"") := by
  decide +kernel

theorem templateTail_eq : templateTail = "\"\n" ++ String.join (closing.map Line.written) := by
  decide +kernel

/-- What stands behind the lines in front. -/
theorem template_eq (origin : String) :
    template origin = String.join (opening.map Line.written) ++
      ((Line.setting "origin" origin).written ++ String.join (closing.map Line.written)) := by
  rw [template, templateHead_eq, templateTail_eq, Line.written]
  simp only [String.append_assoc]

/-- The document behind the first header. -/
def opened : Document := ⟨[("worker", .table .header [])], ["worker"]⟩

theorem foldlM_opening : opening.foldlM Line.onto? .blank = some opened := by rfl

/-- An origin that needs no escapes is read back, with the defaults. -/
theorem ofToml?_template {origin : String} (h : ∀ c ∈ origin.toList, Verbatim c) :
    ofToml? (template origin) = some { default with worker := .ofOrigin origin } := by
  have hplain : ∀ line ∈ opening ++ .setting "origin" origin :: closing, line.Plain := by
    intro line hline
    rcases List.mem_append.mp hline with hline | hline
    · exact opening_plain line hline
    · rcases List.mem_cons.mp hline with rfl | hline
      · exact ⟨by decide, h⟩
      · exact closing_plain line hline
  have htext : template origin = String.join
      ((opening ++ .setting "origin" origin :: closing).map Line.written) ++ "" := by
    rw [template_eq, String.append_empty, List.map_append, String.join_append, List.map_cons,
      String.join_cons]
  obtain ⟨fuel, _, hparse⟩ := parse?_of_plain hplain (by simp) ""
  have hlines : ∀ document, Document.lines? fuel document "".toList = some document := by
    intro document
    cases fuel <;> rfl
  rw [ofToml?, htext, hparse, List.foldlM_append, foldlM_opening]
  simp only [hlines]
  rfl

theorem origin_of_configOfToml? {way : Toml.Origin} {members : Members} {config : Config}
    {text : String} (htext : Members.find? members "origin" = some (.text text))
    (h : configOfToml? (.table way members) = some config) : config.origin = text := by
  have hfield : Value.text? (Members.find? members "origin") = some text := by
    rw [htext]
    rfl
  unfold configOfToml? at h
  simp only [Value.fields?, Option.bind_eq_bind, Option.bind_some, hfield] at h
  split at h
  next =>
    cases h
    rfl
  next =>
    obtain ⟨regions, _, hconfig⟩ := Option.bind_eq_some_iff.mp h
    cases hconfig
    rfl

/-- Settings have the origin that stands under its keys. -/
theorem origin_of_ofMembers? {members : Members} {settings : Settings} {text : String}
    (htext : textIn? ["worker", "origin"] (some (.table .header members)) = some text)
    (h : ofMembers? members = some settings) : settings.worker.origin = text := by
  change textIn? ["origin"] (members.find? "worker") = some text at htext
  unfold ofMembers? at h
  cases hworker : members.find? "worker" with
  | none =>
    rw [hworker] at htext
    cases htext
  | some value =>
    rw [hworker] at htext h
    cases value with
    | table way inner =>
      change textIn? [] (Members.find? inner "origin") = some text at htext
      obtain ⟨config, hconfig, hrest⟩ := Option.bind_eq_some_iff.mp h
      obtain ⟨manifest, _, hrest⟩ := Option.bind_eq_some_iff.mp hrest
      obtain ⟨storage, _, hsettings⟩ := Option.bind_eq_some_iff.mp hrest
      cases hsettings
      refine origin_of_configOfToml? ?_ hconfig
      unfold textIn? at htext
      split at htext
      next heq =>
        cases htext
        exact heq
      next heq _ => cases heq
      next => cases htext
    | _ => cases htext

/-- Behind the lines in front the origin is read from its line, and it is what the settings have. -/
theorem exists_basicRest {origin : String} {settings : Settings}
    (h : ofToml? (template origin) = some settings)
    (hmark : ∀ more, origin.toList ≠ '"' :: more) :
    ∃ taken rest, basicRest (origin.toList ++ '"' :: '\n' ::
        (String.join (closing.map Line.written)).toList) = some (taken, rest) ∧
      settings.worker.origin = String.ofList taken := by
  obtain ⟨fuel, hfuel, hparse⟩ := parse?_of_plain opening_plain (by simp [opening])
    ((Line.setting "origin" origin).written ++ String.join (closing.map Line.written))
  have hlist : ((Line.setting "origin" origin).written ++
      String.join (closing.map Line.written)).toList = "origin".toList ++
        ' ' :: '=' :: ' ' :: '"' :: (origin.toList ++ '"' :: '\n' ::
          (String.join (closing.map Line.written)).toList) := by
    simp [Line.written]
  rw [hlist] at hparse hfuel
  obtain _ | fuel := fuel
  · exact absurd hfuel (Nat.not_lt_zero _)
  rw [ofToml?, template_eq, hparse, foldlM_opening] at h
  obtain ⟨members, hmembers, hsettings⟩ := Option.bind_eq_some_iff.mp h
  obtain ⟨last, hlast, rfl⟩ := Option.map_eq_some_iff.mp hmembers
  change Document.lines? (fuel + 1) opened _ = some last at hlast
  rw [Document.lines?.eq_3 _ _ _ (by simp), Line.line?_key opened (by decide),
    value?_quoted hmark] at hlast
  cases hread : basicRest (origin.toList ++ '"' :: '\n' ::
      (String.join (closing.map Line.written)).toList) with
  | none =>
    rw [hread] at hlast
    cases hlast
  | some read =>
    obtain ⟨taken, rest⟩ := read
    rw [hread] at hlast
    refine ⟨taken, rest, rfl, ?_⟩
    let assigned : Document :=
      ⟨[("worker", .table .header [("origin", .text (String.ofList taken))])], ["worker"]⟩
    have hassign : opened.assign? [] "origin" (.text (String.ofList taken)) = some assigned := rfl
    dsimp only [toText, Option.map_some] at hlast
    rw [hassign] at hlast
    cases hend : lineEnd? rest with
    | none =>
      rw [hend] at hlast
      cases hlast
    | some more =>
      rw [hend] at hlast
      exact origin_of_ofMembers? (Document.keeps_lines? hlast ["worker", "origin"] _ rfl) hsettings

/-- An origin that is read back as it was needs no escapes. -/
theorem verbatim_of_ofToml? {origin : String} {settings : Settings}
    (h : ofToml? (template origin) = some settings) (horigin : settings.worker.origin = origin)
    (hmark : ∀ more, origin.toList ≠ '"' :: more) : ∀ c ∈ origin.toList, Verbatim c := by
  obtain ⟨taken, rest, hread, hsame⟩ := exists_basicRest h hmark
  have htaken : taken = origin.toList := by
    rw [← horigin, hsame, String.toList_ofList]
  rw [htaken] at hread
  exact verbatim_of_basicRest hread

/-! ## Origins that are accepted -/

/-- What begins with a quotation mark has no scheme. -/
theorem cutScheme?_of_mark (text : List Char) :
    Url.Address.cutScheme? (Url.Address.relevant ('"' :: text)) = none := by
  have hinner : ('"' :: text).dropWhile (fun c => decide (c.toNat ≤ 32)) = '"' :: text :=
    List.dropWhile_cons_of_neg (by decide)
  obtain ⟨front, hfront⟩ : ∃ front, (('"' :: text).reverse.dropWhile
      (fun c => decide (c.toNat ≤ 32))) = front ++ ['"'] := by
    rw [List.reverse_cons, List.dropWhile_append]
    split
    next => exact ⟨[], List.dropWhile_cons_of_neg (by decide)⟩
    next => exact ⟨_, rfl⟩
  obtain ⟨more, hmore⟩ : ∃ more, Url.Address.relevant ('"' :: text) = '"' :: more := by
    rw [Url.Address.relevant, hinner, hfront, List.reverse_append]
    exact ⟨_, List.filter_cons_of_pos (by decide)⟩
  rw [hmore, Url.Address.cutScheme?]
  rfl

/-- An origin that is accepted does not begin with a quotation mark. -/
theorem not_mark_of_validate {origin : String} {config : Config}
    (h : (Config.ofOrigin origin).validate = .ok config) : ∀ more, origin.toList ≠ '"' :: more := by
  intro more heq
  have hcheck : Config.checkOrigin (Config.ofOrigin origin).origin =
      .error Url.AddressError.relative.message := by
    show Config.checkOrigin origin = _
    rw [Config.checkOrigin, Url.Address.parse, heq, cutScheme?_of_mark]
  rw [Config.validate, hcheck] at h
  cases h

end AssetCache.Settings
