import AssetCache.Proofs.Url.Origin

/-!
# Keys and the URLs they are found under

A URL has a key if it is the origin or below it (`requestKey?_eq_none_iff`).

Stored URLs are those of keys. The key that such a URL is found under need not be the
one it was made of, for slashes in front of a key do not count, but the two have one
URL (`urlFor_of_contentKey?`).
-/

set_option autoImplicit false

namespace AssetCache

namespace Key

theorem isPrefixOf?_append (front back : List Char) :
    front.isPrefixOf? (front ++ back) = some back := by
  induction front with
  | nil => rfl
  | cons c rest ih =>
    show (if c == c then rest.isPrefixOf? (rest ++ back) else none) = some back
    rw [if_pos (beq_self_eq_true c), ih]

theorem eq_append_of_isPrefixOf? {front : List Char} :
    ∀ {text back : List Char}, front.isPrefixOf? text = some back → text = front ++ back := by
  induction front with
  | nil => intro text back h; exact Option.some.inj h
  | cons c rest ih =>
    intro text back h
    cases text with
    | nil => cases h
    | cons first more =>
      change (if c == first then rest.isPrefixOf? more else none) = some back at h
      split at h
      next hc =>
        obtain rfl : c = first := eq_of_beq hc
        rw [ih h]
        rfl
      next => cases h

/-- A URL is below an origin if it is the origin, or the origin and a slash begin it. -/
theorem afterOrigin?_eq_some_iff {origin url : String} {rest : List Char} :
    afterOrigin? origin url = some rest ↔
      url.toList = trimOrigin origin ++ rest ∧ (rest = [] ∨ ∃ path, rest = '/' :: path) := by
  constructor
  · intro h
    rw [afterOrigin?] at h
    split at h
    next hfront => cases h; exact ⟨eq_append_of_isPrefixOf? hfront, .inl rfl⟩
    next path hfront => cases h; exact ⟨eq_append_of_isPrefixOf? hfront, .inr ⟨path, rfl⟩⟩
    next => cases h
  · rintro ⟨hurl, rfl | ⟨path, rfl⟩⟩
    · rw [afterOrigin?, hurl, isPrefixOf?_append]
    · rw [afterOrigin?, hurl, isPrefixOf?_append]
      rfl

/-- A URL asks for no key if it is neither the origin nor below it. -/
theorem requestKey?_eq_none_iff (origin url : String) :
    requestKey? origin url = none ↔
      url.toList ≠ trimOrigin origin ∧ ¬ (trimOrigin origin ++ ['/']) <+: url.toList := by
  rw [requestKey?, Option.map_eq_none_iff]
  constructor
  · intro h
    have hnone : ∀ rest, afterOrigin? origin url ≠ some rest := by simp [h]
    refine ⟨fun heq => hnone [] ?_, ?_⟩
    · exact afterOrigin?_eq_some_iff.mpr ⟨by rw [heq, List.append_nil], .inl rfl⟩
    · rintro ⟨path, hpath⟩
      refine hnone ('/' :: path) (afterOrigin?_eq_some_iff.mpr ⟨?_, .inr ⟨path, rfl⟩⟩)
      rw [← hpath, List.append_assoc]
      rfl
  · rintro ⟨horigin, hbelow⟩
    cases hrest : afterOrigin? origin url with
    | none => rfl
    | some rest =>
      obtain ⟨hurl, rfl | ⟨path, rfl⟩⟩ := afterOrigin?_eq_some_iff.mp hrest
      · exact absurd (hurl.trans (List.append_nil _)) horigin
      · exact absurd ⟨path, by rw [hurl, List.append_assoc]; rfl⟩ hbelow

theorem afterOrigin?_urlFor (origin key : String) :
    afterOrigin? origin (urlFor origin key) = some ('/' :: key.toList.dropWhile (· == '/')) := by
  rw [afterOrigin?, urlFor, String.toList_ofList, isPrefixOf?_append]
  rfl

/-- A path without slashes in front is the key of its own URL, unless it is empty. -/
theorem urlFor_ofPath {path : List Char} (h : path.dropWhile (· == '/') = path) (origin : String) :
    urlFor origin (ofPath path) = String.ofList (trimOrigin origin ++ '/' :: path) := by
  have hpath : (ofPath path).toList.dropWhile (· == '/') = path := by
    rw [ofPath]
    split
    next hempty =>
      rw [List.isEmpty_iff.mp hempty]
      rfl
    next => rw [String.toList_ofList, h]
  rw [urlFor, hpath]

theorem dropWhile_slash_dropWhile (path : List Char) :
    (path.dropWhile (· == '/')).dropWhile (· == '/') = path.dropWhile (· == '/') := by
  induction path with
  | nil => rfl
  | cons c rest ih =>
    rw [List.dropWhile_cons]
    split
    · exact ih
    next hc => exact List.dropWhile_cons_of_neg hc

/-- The key that the URL of a key is found under has the same URL. -/
theorem urlFor_of_contentKey? {origin key found : String}
    (h : contentKey? origin (urlFor origin key) = some found) :
    urlFor origin found = urlFor origin key := by
  rw [contentKey?, afterOrigin?_urlFor, Option.map_some] at h
  rw [← Option.some.inj h]
  exact urlFor_ofPath (dropWhile_slash_dropWhile key.toList) origin

theorem dropWhile_slash_eq_self {path : List Char} (h : ∀ c ∈ path.head?, c ≠ '/') :
    path.dropWhile (· == '/') = path := by
  cases path with
  | nil => rfl
  | cons c rest => exact List.dropWhile_cons_of_neg (by simpa using h c rfl)

/-- A key without a slash in front is found under its own URL. -/
theorem contentKey?_urlFor {key : String} (hne : key.toList ≠ [])
    (hslash : ∀ c ∈ key.toList.head?, c ≠ '/') (origin : String) :
    contentKey? origin (urlFor origin key) = some key := by
  rw [contentKey?, afterOrigin?_urlFor, Option.map_some, dropSlash,
    dropWhile_slash_eq_self hslash, ofPath, List.isEmpty_eq_false_iff.mpr hne,
    if_neg Bool.false_ne_true, String.ofList_toList]

theorem toList_ofPath_ne_nil (path : List Char) : (ofPath path).toList ≠ [] := by
  rw [ofPath]
  split
  next => exact List.cons_ne_nil _ _
  next hne =>
    rw [String.toList_ofList]
    exact fun hnil => hne (List.isEmpty_iff.mpr hnil)

/-- Whatever a URL asks for, it is not the empty key. -/
theorem toList_ne_nil_of_requestKey? {origin url key : String}
    (h : requestKey? origin url = some key) : key.toList ≠ [] := by
  obtain ⟨rest, _, rfl⟩ := Option.map_eq_some_iff.mp h
  split
  · exact List.cons_ne_nil _ _
  · exact toList_ofPath_ne_nil _

/-! ## Keys that a URL can ask for -/

/-- A key that its own URL asks for: the root, or a path as a URL has it below its origin. -/
def Proper (key : String) : Prop :=
  key = root ∨
    key.toList ≠ [] ∧ (∀ c ∈ key.toList.head?, c ≠ '/' ∧ c ≠ '#') ∧
      ¬ ['?', 'v', '='] <:+: key.toList

/-- Nothing is dropped from a path exactly if it has no version query. -/
theorem dropVersion_eq_self_iff (path : List Char) :
    dropVersion path = path ↔ ¬ ['?', 'v', '='] <:+: path := by
  induction path with
  | nil => simp [dropVersion]
  | cons c rest ih =>
    rw [dropVersion, List.infix_cons_iff, ← List.isPrefixOf_iff_prefix]
    split
    next hfront => simp [hfront]
    next hfront => simp [hfront, ih]

theorem length_dropVersion_le (path : List Char) : (dropVersion path).length ≤ path.length := by
  induction path with
  | nil => exact Nat.le_refl _
  | cons c rest ih =>
    rw [dropVersion]
    split
    · exact Nat.zero_le _
    · exact Nat.succ_le_succ ih

/-- A path of which nothing is dropped has no slash in front and no version query. -/
theorem eq_of_dropVersion_dropWhile {path : List Char}
    (h : dropVersion (path.dropWhile (· == '/')) = path) :
    path.dropWhile (· == '/') = path ∧ dropVersion path = path := by
  have hsuffix : path.dropWhile (· == '/') <:+ path := List.dropWhile_suffix _
  have hlength := length_dropVersion_le (path.dropWhile (· == '/'))
  rw [h] at hlength
  have hpath := hsuffix.eq_of_length (Nat.le_antisymm hsuffix.length_le hlength)
  rw [hpath] at h
  exact ⟨hpath, h⟩

/-- What the URL of a key asks for. -/
theorem requestKey?_urlFor (origin key : String) :
    requestKey? origin (urlFor origin key) =
      let path := key.toList.dropWhile (· == '/')
      some (if path.head? = some '#' then root else ofPath (dropVersion path)) := by
  rw [requestKey?, afterOrigin?_urlFor]
  cases key.toList.dropWhile (· == '/') with
  | nil => rfl
  | cons c rest =>
    by_cases hc : c = '#'
    · subst hc
      rfl
    · simp [dropSlash, Ne.symm hc, hc]

/-- The URL of a key asks for it exactly if the key is a proper one. -/
theorem requestKey?_urlFor_iff (origin key : String) :
    requestKey? origin (urlFor origin key) = some key ↔ Proper key := by
  rw [requestKey?_urlFor, Option.some.injEq]
  constructor
  · intro h
    split at h
    next => exact .inl h.symm
    next hhash =>
      rw [ofPath] at h
      split at h
      next => exact .inl h.symm
      next hne =>
        have hkey := String.toList_ofList.symm.trans (congrArg String.toList h)
        obtain ⟨hpath, hversion⟩ := eq_of_dropVersion_dropWhile hkey
        rw [hpath] at hhash hne
        refine .inr ⟨fun hnil => hne ?_, fun c hc => ⟨?_, ?_⟩, ?_⟩
        · rw [hversion, hnil]
          rfl
        · rintro rfl
          have hdropped := List.head?_dropWhile_not (· == '/') key.toList
          rw [hpath, Option.mem_def.mp hc] at hdropped
          cases hdropped
        · rintro rfl
          exact hhash hc
        · exact (dropVersion_eq_self_iff _).mp hversion
  · rintro (rfl | ⟨hne, hhead, hversion⟩)
    · rfl
    · obtain ⟨c, rest, hkey⟩ := List.exists_cons_of_ne_nil hne
      obtain ⟨_, hhash⟩ := hhead c (by rw [hkey]; rfl)
      have hpath := dropWhile_slash_eq_self fun c hc => (hhead c hc).1
      rw [hpath, (dropVersion_eq_self_iff _).mpr hversion, ofPath, hkey]
      simp only [List.head?_cons, Option.some.injEq, hhash, if_false, List.isEmpty_cons]
      rw [if_neg Bool.false_ne_true, ← hkey, String.ofList_toList]

end Key

namespace Config

/-- The URL of the entry document is the origin with a slash. -/
theorem urlFor_root {raw config : Config} (h : raw.validate = .ok config) :
    config.urlFor Key.root = config.origin ++ "/" := by
  have horigin : Key.trimOrigin config.origin = config.origin.toList := by
    rw [validate] at h
    split at h
    · cases h
    next origin hcheck =>
      split at h
      · cases h
        exact trimOrigin_of_checkOrigin hcheck
      · cases h
  rw [urlFor, Key.urlFor, horigin]
  refine String.toList_injective ?_
  rw [String.toList_ofList, String.toList_append]
  rfl

/-- The three names of a configuration that was validated are distinct. -/
theorem regions_nodup {raw config : Config} (h : raw.validate = .ok config) :
    config.regions.all.Nodup := by
  have hvalid : config.regions.isValid = true := by
    rw [validate] at h
    split at h
    · cases h
    · split at h
      next hvalid =>
        cases h
        exact hvalid
      · cases h
  simp only [RegionNames.isValid, Bool.and_eq_true, bne_iff_ne] at hvalid
  obtain ⟨⟨⟨_, hct⟩, hcm⟩, htm⟩ := hvalid
  simp [RegionNames.all, hct, hcm, htm]

end Config

end AssetCache
