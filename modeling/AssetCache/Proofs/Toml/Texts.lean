import AssetCache.Proofs.Toml.Lines

/-!
# Texts that a document keeps

A text between quotation marks is at most as long as what it was read from, and as long only if
every character stands for itself. So a text that is pasted between marks and read back as it was
needs no escapes (`verbatim_of_basicRest`).

A text that a document has read stays under its keys whatever lines follow (`keeps_lines?`).
Nothing is said of what becomes of a document that cannot be read to its end.
-/

set_option autoImplicit false

namespace AssetCache.Toml

/-! ## What a text is read from -/

section Strings

variable {c : Char} {text taken rest : List Char}

theorem foldl_digits_none (value? : Char → Option Nat) (digits : List Char) :
    digits.foldl (fun n c => n.bind fun n => (value? c).map (n * 16 + ·)) none = none := by
  induction digits with
  | nil => rfl
  | cons d digits ih => exact ih

/-- Digits that make a number each have a value. -/
theorem isSome_of_foldl_digits (value? : Char → Option Nat) : ∀ (digits : List Char) (n m : Nat),
    digits.foldl (fun n c => n.bind fun n => (value? c).map (n * 16 + ·)) (some n) = some m →
      ∀ d ∈ digits, (value? d).isSome
  | [], _, _, _, _, hd => nomatch hd
  | d :: digits, n, m, h, other, hother => by
    cases hvalue : value? d with
    | none =>
      rw [List.foldl_cons, hvalue] at h
      cases (foldl_digits_none value? digits).symm.trans h
    | some v =>
      rcases List.mem_cons.mp hother with rfl | hother
      · rw [hvalue]; rfl
      · rw [List.foldl_cons, hvalue] at h
        exact isSome_of_foldl_digits value? digits _ m h other hother

/-- The digits of a character are plain. -/
theorem isPlain_of_codePoint? {digits : List Char} (h : codePoint? digits = some c) :
    ∀ d ∈ digits, isPlain d = true := by
  intro d hd
  unfold codePoint? at h
  dsimp only at h
  split at h
  next n hn =>
    have hsome := isSome_of_foldl_digits _ digits 0 n hn d hd
    have hrange : 48 ≤ d.toNat ∧ d.toNat ≤ 102 := by
      split at hsome
      · omega
      split at hsome
      · omega
      split at hsome
      · omega
      · cases hsome
    simp only [isPlain, Bool.or_eq_true, Bool.and_eq_true, decide_eq_true_eq, bne_iff_ne]
    omega
  next => cases h

theorem isPlain_of_escape? {letter : Char} (h : escape? letter = some c) :
    isPlain letter = true := by
  unfold escape? at h
  split at h
  case h_8 => cases h
  all_goals decide

/-- What a text is read from: plain characters, at least as many as are read, and if as many, the
text itself. -/
structure ReadFrom (taken consumed : List Char) : Prop where
  plain : ∀ c ∈ consumed, isPlain c = true
  length : taken.length ≤ consumed.length
  verbatim : taken.length = consumed.length → taken = consumed ∧ ∀ c ∈ consumed, Verbatim c

theorem ReadFrom.nil : ReadFrom [] [] := ⟨nofun, Nat.le_refl 0, fun _ => ⟨rfl, nofun⟩⟩

theorem ReadFrom.verbatim_cons {consumed : List Char} (h : ReadFrom taken consumed)
    (hc : Verbatim c) : ReadFrom (c :: taken) (c :: consumed) := by
  refine ⟨List.forall_mem_cons.mpr ⟨hc.1, h.plain⟩, Nat.succ_le_succ h.length, fun heq => ?_⟩
  obtain ⟨hsame, hall⟩ := h.verbatim (Nat.succ.inj heq)
  exact ⟨congrArg (c :: ·) hsame, List.forall_mem_cons.mpr ⟨hc, hall⟩⟩

/-- An escape is longer than what it stands for. -/
theorem ReadFrom.escape {consumed escape : List Char} (h : ReadFrom taken consumed)
    (hplain : ∀ c ∈ escape, isPlain c = true) (hlong : 1 < escape.length) :
    ReadFrom (c :: taken) (escape ++ consumed) := by
  have hlength := h.length
  refine ⟨fun d hd => (List.mem_append.mp hd).elim (hplain d) (h.plain d), ?_, fun heq => ?_⟩
  · rw [List.length_cons, List.length_append]
    omega
  · rw [List.length_cons, List.length_append] at heq
    omega

theorem push?_eq_some {e : Option Char} {read : Option (List Char × List Char)}
    (h : push? e read = some (taken, rest)) :
    ∃ c more, e = some c ∧ read = some (more, rest) ∧ taken = c :: more := by
  cases e with
  | none => cases h
  | some c =>
    cases read with
    | none => cases h
    | some read =>
      cases h
      exact ⟨c, read.1, rfl, rfl, rfl⟩

/-- A text that is read ends at a quotation mark. -/
theorem exists_readFrom_of_basicRest : ∀ {text taken : List Char},
    basicRest text = some (taken, rest) →
      ∃ consumed, text = consumed ++ '"' :: rest ∧ ReadFrom taken consumed := by
  intro text
  fun_induction basicRest text with
  | case1 => intro taken h; cases h
  | case2 tail =>
    intro taken h
    cases h
    exact ⟨[], rfl, .nil⟩
  | case3 a b c d tail ih =>
    intro taken h
    obtain ⟨e, more, he, hmore, rfl⟩ := push?_eq_some h
    obtain ⟨consumed, rfl, hread⟩ := ih hmore
    refine ⟨['\\', 'u', a, b, c, d] ++ consumed, rfl, hread.escape ?_ (by simp)⟩
    exact List.forall_mem_cons.mpr ⟨by decide, List.forall_mem_cons.mpr ⟨by decide,
      isPlain_of_codePoint? he⟩⟩
  | case4 a b c d e f g h tail ih =>
    intro taken hlong
    obtain ⟨_, more, he, hmore, rfl⟩ := push?_eq_some hlong
    obtain ⟨consumed, rfl, hread⟩ := ih hmore
    refine ⟨['\\', 'U', a, b, c, d, e, f, g, h] ++ consumed, rfl, hread.escape ?_ (by simp)⟩
    exact List.forall_mem_cons.mpr ⟨by decide, List.forall_mem_cons.mpr ⟨by decide,
      isPlain_of_codePoint? he⟩⟩
  | case5 c tail _ _ ih =>
    intro taken h
    obtain ⟨e, more, he, hmore, rfl⟩ := push?_eq_some h
    obtain ⟨consumed, rfl, hread⟩ := ih hmore
    refine ⟨['\\', c] ++ consumed, rfl, hread.escape ?_ (by simp)⟩
    exact List.forall_mem_cons.mpr ⟨by decide, List.forall_mem_singleton.mpr
      (isPlain_of_escape? he)⟩
  | case6 c tail hmark _ _ _ hplain ih =>
    intro taken h
    rw [Bool.and_eq_true, bne_iff_ne] at hplain
    cases hmore : basicRest tail with
    | none =>
      rw [hmore] at h
      cases h
    | some read =>
      rw [hmore] at h
      cases h
      obtain ⟨consumed, rfl, hread⟩ := ih hmore
      exact ⟨c :: consumed, rfl, hread.verbatim_cons ⟨hplain.1, hmark, hplain.2⟩⟩
  | case7 => intro taken h; cases h

/-- A text that stands between marks at the end of a line, and is read back as it was, needs no
escapes. -/
theorem verbatim_of_basicRest {tail : List Char}
    (h : basicRest (text ++ '"' :: '\n' :: tail) = some (text, rest)) : ∀ c ∈ text, Verbatim c := by
  obtain ⟨consumed, heq, hread⟩ := exists_readFrom_of_basicRest h
  have hlength := hread.length
  have hsame : consumed = text := by
    rcases List.append_eq_append_iff.mp heq with ⟨more, hconsumed, hmore⟩ | ⟨more, htext, _⟩
    · match more, hmore with
      | [], _ => rw [hconsumed, List.append_nil]
      | [_], hmore => cases (List.cons.inj hmore).2
      | _ :: second :: others, hmore =>
        -- a line break was consumed, which is not plain
        obtain rfl : '\n' = second := (List.cons.inj (List.cons.inj hmore).2).1
        have hbreak := hread.plain '\n' (by rw [hconsumed]; simp)
        exact absurd hbreak (by decide)
    · have hnil : more = [] := by
        rw [htext, List.length_append] at hlength
        exact List.length_eq_zero_iff.mp (by omega)
      rw [htext, hnil, List.append_nil]
  rw [hsame] at hread
  exact (hread.verbatim rfl).2

end Strings

/-! ## Texts that stay -/

/-- The text at the end of a path of keys, if a value has one there. -/
def textIn? : List String → Option Value → Option String
  | [], some (.text text) => some text
  | key :: path, some (.table _ members) => textIn? path (Members.find? members key)
  | _, _ => none

theorem textIn?_none (path : List String) : textIn? path none = none := by
  cases path <;> rfl

/-- The texts of one value are all in another. -/
def Keeps (before after : Option Value) : Prop :=
  ∀ path text, textIn? path before = some text → textIn? path after = some text

namespace Members

variable {members : Members} {key other : String} {value : Value}

theorem find?_set_self (members : Members) (key : String) (value : Value) :
    find? (set members key value) key = some value := by
  induction members with
  | nil => exact if_pos rfl
  | cons entry members ih =>
    obtain ⟨name, old⟩ := entry
    rw [set]
    split
    · exact if_pos rfl
    next hne =>
      rw [find?, if_neg hne]
      exact ih

theorem find?_set_of_ne (members : Members) (value : Value) (h : key ≠ other) :
    find? (set members key value) other = find? members other := by
  induction members with
  | nil => exact if_neg h
  | cons entry members ih =>
    obtain ⟨name, old⟩ := entry
    rw [set]
    split
    next heq =>
      subst heq
      rw [find?, if_neg h, find?, if_neg h]
    next hne =>
      rw [find?, find?, ih]

end Members

namespace Keeps

variable {before after : Option Value}

theorem refl (value : Option Value) : Keeps value value := fun _ _ h => h

theorem trans {last : Option Value} (h : Keeps before after) (h' : Keeps after last) :
    Keeps before last := fun path text hheld => h' path text (h path text hheld)

/-- Where nothing is, nothing is lost. -/
theorem of_none (value : Option Value) : Keeps none value := by
  intro path text h
  rw [textIn?_none] at h
  cases h

/-- Tables under double brackets are not looked into. -/
theorem of_tables (last : Members) (earlier : List Members) (value : Option Value) :
    Keeps (some (.tables last earlier)) value := by
  intro path text h
  cases path <;> cases h

/-- How a table came to be does not matter. -/
theorem table (first second : Origin) (members : Members) :
    Keeps (some (.table first members)) (some (.table second members)) := by
  intro path text h
  cases path with
  | nil => cases h
  | cons key path => exact h

/-- A table keeps its texts if a key is given a value that keeps those of the old one. -/
theorem set {members : Members} {key : String} {value : Value} (first second : Origin)
    (h : Keeps (Members.find? members key) (some value)) :
    Keeps (some (.table first members)) (some (.table second (Members.set members key value))) := by
  intro path text hheld
  cases path with
  | nil => cases hheld
  | cons name path =>
    by_cases hname : key = name
    · subst hname
      show textIn? path (Members.find? (Members.set members key value) key) = some text
      rw [Members.find?_set_self]
      exact h path text hheld
    · show textIn? path (Members.find? (Members.set members key value) name) = some text
      rw [Members.find?_set_of_ne _ _ hname]
      exact hheld

/-- A change of tables that loses no text. -/
def Change (change : Members.Place → Option Members.Place) : Prop :=
  ∀ place after, change place = some after →
    Keeps (some (.table place.1 place.2)) (some (.table after.1 after.2))

/-- A change at the end of a path loses no text on the way. -/
theorem change? {change : Members.Place → Option Members.Place} (h : Change change)
    (byDots : Bool) : ∀ path, Change (Members.change? byDots change path)
  | [] => h
  | key :: path => by
    rintro ⟨origin, members⟩ after hafter
    rw [Members.change?] at hafter
    split at hafter
    next hfind =>
      obtain ⟨deeper, _, rfl⟩ := Option.map_eq_some_iff.mp hafter
      exact .set _ _ (hfind ▸ of_none _)
    next inner deeper hfind =>
      split at hafter
      next =>
        obtain ⟨changed, hchanged, rfl⟩ := Option.map_eq_some_iff.mp hafter
        refine .set _ _ ?_
        rw [hfind]
        exact change? h byDots path _ _ hchanged
      next => cases hafter
    next last earlier hfind =>
      obtain ⟨deeper, _, rfl⟩ := Option.map_eq_some_iff.mp hafter
      exact .set _ _ (hfind ▸ of_tables _ _ _)
    next => cases hafter

theorem addAt (byDots : Bool) (key : String) (value : Value) :
    Change (Members.addAt byDots key value) := by
  intro place after hafter
  rw [Members.addAt] at hafter
  split at hafter
  next => cases hafter
  next =>
    obtain ⟨members, hmembers, rfl⟩ := Option.map_eq_some_iff.mp hafter
    rw [Members.add?] at hmembers
    split at hmembers
    next hfind =>
      cases hmembers
      exact .set _ _ (hfind ▸ of_none _)
    next => cases hmembers

theorem openTable (key : String) : Change (Members.openTable key) := by
  intro place after hafter
  rw [Members.openTable] at hafter
  split at hafter
  next hfind =>
    cases hafter
    exact .set _ _ (hfind ▸ of_none _)
  next members hfind =>
    cases hafter
    refine .set _ _ ?_
    rw [hfind]
    exact .table _ _ _
  next => cases hafter

theorem openFurther (key : String) : Change (Members.openFurther key) := by
  intro place after hafter
  rw [Members.openFurther] at hafter
  split at hafter
  next hfind =>
    cases hafter
    exact .set _ _ (hfind ▸ of_none _)
  next last earlier hfind =>
    cases hafter
    exact .set _ _ (hfind ▸ of_tables _ _ _)
  next => cases hafter

end Keeps

/-! ## Lines that follow -/

namespace Document

variable {document after : Document} {text rest : List Char}

/-- All that a document holds. -/
def whole (document : Document) : Option Value := some (.table .header document.root)

theorem keeps_changeRoot {path : List String} {change : Members.Place → Option Members.Place}
    {root : Members} (h : Keeps.Change change)
    (hroot : document.changeRoot path change = some root) :
    Keeps document.whole (some (.table .header root)) := by
  obtain ⟨place, hplace, rfl⟩ := Option.map_eq_some_iff.mp hroot
  exact (Keeps.change? h false path _ _ hplace).trans (.table _ _ _)

theorem keeps_assign? {dots : List String} {key : String} {value : Value}
    (h : document.assign? dots key value = some after) : Keeps document.whole after.whole := by
  obtain ⟨root, hroot, rfl⟩ := Option.map_eq_some_iff.mp h
  exact keeps_changeRoot (Keeps.change? (Keeps.addAt _ key value) true dots) hroot

theorem keeps_open? {further : Bool} {path : List String}
    (h : document.open? further path = some after) : Keeps document.whole after.whole := by
  rw [open?] at h
  split at h
  next => cases h
  next key _ =>
    obtain ⟨root, hroot, rfl⟩ := Option.map_eq_some_iff.mp h
    cases further with
    | false => exact keeps_changeRoot (Keeps.openTable key) hroot
    | true => exact keeps_changeRoot (Keeps.openFurther key) hroot

theorem keeps_header? {further : Bool} (h : document.header? further text = some (after, rest)) :
    Keeps document.whole after.whole := by
  rw [header?] at h
  split at h
  next => cases h
  next =>
    dsimp only at h
    split at h
    next hopen =>
      cases h
      exact keeps_open? hopen
    next => cases h

/-- A line loses no text. -/
theorem keeps_line? (h : document.line? text = some (after, rest)) :
    Keeps document.whole after.whole := by
  rw [line?] at h
  split at h
  next =>
    cases h
    exact .refl _
  next => exact keeps_header? h
  next => exact keeps_header? h
  next =>
    split at h
    next =>
      cases h
      exact .refl _
    next =>
      split at h
      next => cases h
      next =>
        split at h
        next hassign =>
          cases h
          exact keeps_assign? hassign
        next => cases h

/-- Whatever lines follow, no text is lost. -/
theorem keeps_lines? : ∀ {fuel : Nat} {document : Document} {text : List Char},
    lines? fuel document text = some after → Keeps document.whole after.whole
  | _, _, [], h => by
    rw [lines?] at h
    cases h
    exact .refl _
  | 0, _, _ :: _, h => by cases h
  | fuel + 1, document, c :: text, h => by
    rw [lines?] at h
    · split at h
      next hline => exact (keeps_line? hline).trans (keeps_lines? h)
      next => cases h
    · exact List.cons_ne_nil _ _

end Document

end AssetCache.Toml
