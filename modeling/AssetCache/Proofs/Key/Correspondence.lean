import AssetCache.Proofs.Key

/-!
# Which keys and which URLs stand for each other

A key has one URL, a stored URL has at most one key, and the two maps are nearly inverse.
The exceptions are listed here, each as an equivalence (`urls_and_keys_correspond`): a key
with a slash in front, or none at all, shares its URL with another; the origin without a
slash, and a URL with two slashes behind the origin, are no key's URL.

A URL asked for may carry a version query. Behind a URL below the origin it never changes
which key is asked for, whatever the URL holds already (`requestKey?_append_version`).
-/

set_option autoImplicit false

namespace AssetCache.Key

/-! ## From a key to its URL and back -/

theorem head?_dropWhile_slash_ne (path : List Char) :
    (path.dropWhile (· == '/')).head? ≠ some '/' := by
  intro hhead
  have hnot := List.head?_dropWhile_not (· == '/') path
  rw [hhead] at hnot
  cases hnot

/-- Only a path without a slash in front has none to be dropped. -/
theorem dropWhile_slash_eq_self_iff {path : List Char} :
    path.dropWhile (· == '/') = path ↔ path.head? ≠ some '/' := by
  constructor
  · intro h
    rw [← h]
    exact head?_dropWhile_slash_ne path
  · intro h
    exact dropWhile_slash_eq_self fun c hc heq => h (heq ▸ hc)

/-- The URL of a key is found under the key less the slashes in front of it. -/
theorem contentKey?_urlFor_eq (origin key : String) :
    contentKey? origin (urlFor origin key) =
      some (ofPath (key.toList.dropWhile (· == '/'))) := by
  rw [contentKey?, afterOrigin?_urlFor]
  rfl

/-- A key is found under its own URL if it is the root, or a path without a slash in front. -/
theorem contentKey?_urlFor_iff (origin key : String) :
    contentKey? origin (urlFor origin key) = some key ↔
      key = root ∨ key.toList ≠ [] ∧ key.toList.head? ≠ some '/' := by
  constructor
  · intro h
    rw [contentKey?_urlFor_eq, Option.some.injEq, ofPath] at h
    split at h
    next => exact .inl h.symm
    next hne =>
      have hpath : key.toList.dropWhile (· == '/') = key.toList := by
        rw [← String.toList_ofList (l := key.toList.dropWhile _), h]
      rw [hpath, List.isEmpty_iff] at hne
      exact .inr ⟨hne, dropWhile_slash_eq_self_iff.mp hpath⟩
  · rintro (rfl | ⟨hne, hslash⟩)
    · rw [contentKey?_urlFor_eq]
      rfl
    · exact contentKey?_urlFor hne (fun c hc heq => hslash (heq ▸ hc)) origin

/-- Two keys have one URL if they differ in the slashes in front of them alone. -/
theorem urlFor_eq_urlFor_iff (origin left right : String) :
    urlFor origin left = urlFor origin right ↔
      left.toList.dropWhile (· == '/') = right.toList.dropWhile (· == '/') := by
  rw [urlFor, urlFor, String.ofList_inj, List.append_cancel_left_eq, List.cons.injEq,
    and_iff_right rfl]

/-! ## From a URL to its key and back -/

/-- A stored URL has a key if it is the origin or below it. -/
theorem isSome_contentKey?_iff (origin url : String) :
    (contentKey? origin url).isSome = true ↔
      url.toList = trimOrigin origin ∨ (trimOrigin origin ++ ['/']) <+: url.toList := by
  have hsame : contentKey? origin url = none ↔ requestKey? origin url = none := by
    rw [contentKey?, requestKey?, Option.map_eq_none_iff, Option.map_eq_none_iff]
  rw [Option.isSome_iff_ne_none, ne_eq, hsame, requestKey?_eq_none_iff,
    Classical.not_and_iff_not_or_not, Classical.not_not, Classical.not_not]

/-- The key of a path has the path's URL unless a slash is in front. -/
theorem urlFor_ofPath_iff (origin : String) (path : List Char) :
    urlFor origin (ofPath path) = String.ofList (trimOrigin origin ++ '/' :: path) ↔
      path.head? ≠ some '/' := by
  constructor
  · intro h
    rw [urlFor, String.ofList_inj, List.append_cancel_left_eq, List.cons.injEq] at h
    rw [← h.2]
    exact head?_dropWhile_slash_ne _
  · intro h
    exact urlFor_ofPath (dropWhile_slash_eq_self_iff.mpr h) origin

/-- A URL is that of its key unless it is the bare origin or has two slashes behind it. -/
theorem urlFor_eq_iff_of_contentKey? {origin url key : String}
    (h : contentKey? origin url = some key) :
    urlFor origin key = url ↔
      url.toList ≠ trimOrigin origin ∧ ¬ (trimOrigin origin ++ ['/', '/']) <+: url.toList := by
  obtain ⟨rest, hrest, rfl⟩ := Option.map_eq_some_iff.mp h
  obtain ⟨hurl, rfl | ⟨path, rfl⟩⟩ := afterOrigin?_eq_some_iff.mp hrest
  · rw [List.append_nil] at hurl
    refine iff_of_false (fun heq => ?_) fun hne => hne.1 hurl
    have hlength := congrArg (fun text : String => text.toList.length) heq
    rw [hurl, urlFor] at hlength
    simp at hlength
  · have hlonger : url.toList ≠ trimOrigin origin := by
      rw [hurl]
      exact fun heq => List.cons_ne_nil _ _ (List.append_right_eq_self.mp heq)
    have hslashes : (trimOrigin origin ++ ['/', '/']) <+: url.toList ↔
        path.head? = some '/' := by
      rw [hurl, List.prefix_append_right_inj, List.cons_prefix_cons, and_iff_right rfl]
      cases path with
      | nil => simp
      | cons c more => simp [eq_comm]
    have hself : url = String.ofList (trimOrigin origin ++ '/' :: path) := by
      rw [← hurl, String.ofList_toList]
    rw [and_iff_right hlonger, hslashes, hself]
    exact urlFor_ofPath_iff origin path

/-- Keys and URLs stand for each other, with these exceptions. -/
theorem urls_and_keys_correspond (origin : String) :
    (∀ key, contentKey? origin (urlFor origin key) = some key ↔
      key = root ∨ key.toList ≠ [] ∧ key.toList.head? ≠ some '/') ∧
    (∀ key, requestKey? origin (urlFor origin key) = some key ↔
      key = root ∨ key.toList ≠ [] ∧ key.toList.head? ≠ some '/' ∧
        key.toList.head? ≠ some '#' ∧ ¬ ['?', 'v', '='] <:+: key.toList) ∧
    (∀ left right, urlFor origin left = urlFor origin right ↔
      left.toList.dropWhile (· == '/') = right.toList.dropWhile (· == '/')) ∧
    (∀ url, (contentKey? origin url).isSome = true ↔
      url.toList = trimOrigin origin ∨ (trimOrigin origin ++ ['/']) <+: url.toList) ∧
    ∀ url key, contentKey? origin url = some key →
      (urlFor origin key = url ↔
        url.toList ≠ trimOrigin origin ∧
          ¬ (trimOrigin origin ++ ['/', '/']) <+: url.toList) := by
  refine ⟨contentKey?_urlFor_iff origin, fun key => ?_, urlFor_eq_urlFor_iff origin,
    isSome_contentKey?_iff origin, fun url key h => urlFor_eq_iff_of_contentKey? h⟩
  rw [requestKey?_urlFor_iff, Proper]
  refine or_congr_right (and_congr_right fun _ => ?_)
  rw [← and_assoc]
  refine and_congr_left fun _ => ⟨fun h => ⟨fun heq => ?_, fun heq => ?_⟩, fun h c hc => ?_⟩
  · exact (h '/' heq).1 rfl
  · exact (h '#' heq).2 rfl
  · exact ⟨fun heq => h.1 (heq ▸ hc), fun heq => h.2 (heq ▸ hc)⟩

/-- Below an origin with a slash at its end: a URL with two slashes behind the origin is not
that of its key, and the URL with one is. -/
theorem urls_and_keys_correspond_of_slashes :
    contentKey? "https://a/" "https://a//b" = some "/b" ∧
      urlFor "https://a/" "/b" ≠ "https://a//b" ∧ urlFor "https://a/" "b" = "https://a/b" := by
  have hdouble : contentKey? "https://a/" "https://a//b" = some "/b" := by decide
  have hsingle : contentKey? "https://a/" "https://a/b" = some "b" := by decide
  obtain ⟨_, _, _, _, hback⟩ := urls_and_keys_correspond "https://a/"
  refine ⟨hdouble, fun heq => ?_, (hback _ _ hsingle).mpr ⟨by decide, by decide⟩⟩
  exact ((hback _ _ hdouble).mp heq).2 (by decide)

/-! ## Version queries -/

/-- The first version query is found where it was, whatever comes behind another. -/
theorem dropVersion_append_version (path rest : List Char) :
    dropVersion (path ++ '?' :: 'v' :: '=' :: rest) = dropVersion path := by
  induction path with
  | nil => rfl
  | cons c tail ih =>
    -- what is appended begins with a question mark, so no query begins before it
    have hfront : ['?', 'v', '='].isPrefixOf (c :: (tail ++ '?' :: 'v' :: '=' :: rest)) =
        ['?', 'v', '='].isPrefixOf (c :: tail) := by
      match tail with
      | [] => simp [List.isPrefixOf]
      | [d] => simp [List.isPrefixOf]
      | d :: e :: more => simp [List.isPrefixOf]
    rw [List.cons_append, dropVersion, hfront, ih, dropVersion]

/-- A version query behind a URL below the origin is of no account. -/
theorem requestKey?_append_version {origin url : String}
    (h : (trimOrigin origin ++ ['/']) <+: url.toList) (version : String) :
    requestKey? origin (url ++ "?v=" ++ version) = requestKey? origin url := by
  obtain ⟨path, hpath⟩ := h
  have hurl : url.toList = trimOrigin origin ++ '/' :: path := by
    rw [← hpath, List.append_assoc]
    rfl
  have hbusted : (url ++ "?v=" ++ version).toList =
      trimOrigin origin ++ '/' :: (path ++ '?' :: 'v' :: '=' :: version.toList) := by
    rw [String.toList_append, String.toList_append, hurl, List.append_assoc, List.append_assoc]
    rfl
  have hfragment : ['/', '#'].isPrefixOf ('/' :: (path ++ '?' :: 'v' :: '=' :: version.toList)) =
      ['/', '#'].isPrefixOf ('/' :: path) := by
    cases path with
    | nil => rfl
    | cons c more => rfl
  rw [requestKey?, requestKey?, afterOrigin?_eq_some_iff.mpr ⟨hbusted, .inr ⟨_, rfl⟩⟩,
    afterOrigin?_eq_some_iff.mpr ⟨hurl, .inr ⟨_, rfl⟩⟩, Option.map_some, Option.map_some,
    hfragment, dropSlash, dropSlash, dropVersion_append_version]

-- half a query at the end of a URL does not join with the one behind it
example : requestKey? "https://a" "https://a/b??v?v=1" = some "b??v" := by decide

end AssetCache.Key
