import AssetCache.Toml.Document

/-!
# Lines that are read as they are written

A file of plain lines is read line by line (`lines?_of_plain`). Plain are empty lines, comments,
headers of bare keys, and bare keys with a text whose every character stands for itself
(`Verbatim`).
-/

set_option autoImplicit false

namespace AssetCache.Toml

/-! ## Characters -/

-- of all characters only those of the text are gone through
instance decidableForallMem {p : Char → Prop} [DecidablePred p] (text : List Char) :
    Decidable (∀ c ∈ text, p c) :=
  List.decidableBAll p text

/-- A character that stands for itself between quotation marks. -/
def Verbatim (c : Char) : Prop := isPlain c = true ∧ c ≠ '"' ∧ c ≠ '\\'

instance (c : Char) : Decidable (Verbatim c) :=
  inferInstanceAs (Decidable (isPlain c = true ∧ c ≠ '"' ∧ c ≠ '\\'))

/-- A name that may stand in a key without marks around it. -/
def Bare (name : String) : Prop := name.toList ≠ [] ∧ ∀ c ∈ name.toList, isBare c = true

instance (name : String) : Decidable (Bare name) :=
  inferInstanceAs (Decidable (name.toList ≠ [] ∧ ∀ c ∈ name.toList, isBare c = true))

section Words

variable {c d : Char} {text rest : List Char} {name : String}

theorem ne_of_isBare (h : isBare c = true) (hd : isBare d = false) : c ≠ d := by
  rintro rfl
  rw [h] at hd
  cases hd

theorem not_isBlank_of_isBare (h : isBare c = true) : isBlank c = false := by
  rw [isBlank, Bool.or_eq_false_iff, beq_eq_false_iff_ne, beq_eq_false_iff_ne]
  exact ⟨ne_of_isBare h (by decide), ne_of_isBare h (by decide)⟩

theorem skipBlanks_of_not (h : isBlank c = false) : skipBlanks (c :: rest) = c :: rest :=
  List.dropWhile_cons_of_neg (Bool.eq_false_iff.mp h)

/-! ## Strings and keys -/

theorem basicRest_cons (hmark : c ≠ '"') (hslash : c ≠ '\\') :
    basicRest (c :: rest) = if isPlain c then push c (basicRest rest) else none := by
  rw [basicRest.eq_6 c rest hmark (fun _ _ _ _ _ heq => absurd heq hslash)
    (fun _ _ _ _ _ _ _ _ _ heq => absurd heq hslash) (fun _ _ heq => absurd heq hslash),
    bne_iff_ne.mpr hslash, Bool.and_true]

/-- Characters that stand for themselves are read up to the quotation mark. -/
theorem basicRest_verbatim (h : ∀ c ∈ text, Verbatim c) :
    basicRest (text ++ '"' :: rest) = some (text, rest) := by
  induction text with
  | nil => rw [List.nil_append, basicRest]
  | cons c text ih =>
    obtain ⟨hplain, hmark, hslash⟩ := h c List.mem_cons_self
    rw [List.cons_append, basicRest_cons hmark hslash, if_pos hplain,
      ih fun d hd => h d (List.mem_cons_of_mem c hd)]
    rfl

/-- A text that does not begin with a quotation mark is not read as one of several lines. -/
theorem value?_quoted (hmark : ∀ more, text ≠ '"' :: more) (depth : Nat) :
    value? depth ('"' :: (text ++ '"' :: '\n' :: rest)) =
      (toText (basicRest (text ++ '"' :: '\n' :: rest))).map fun (s, rest) => (.text s, rest) := by
  have hone : ∀ more, text ++ '"' :: '\n' :: rest = '"' :: '"' :: more → False := by
    intro more heq
    cases text with
    | nil => cases heq
    | cons c text => exact hmark text (congrArg (· :: text) (List.cons.inj heq).1)
  rw [value?.eq_1, string?.eq_2 _ hone]

/-- A text in quotation marks at the end of a line. -/
theorem value?_verbatim {value : String} (h : ∀ c ∈ value.toList, Verbatim c) (depth : Nat) :
    value? depth ('"' :: (value.toList ++ '"' :: '\n' :: rest)) =
      some (.text value, '\n' :: rest) := by
  have hmark : ∀ more, value.toList ≠ '"' :: more := fun more heq =>
    (h '"' (heq ▸ List.mem_cons_self)).2.1 rfl
  rw [value?_quoted hmark, basicRest_verbatim h, toText, String.ofList_toList]
  rfl

/-- A bare name begins with a bare character. -/
theorem Bare.exists_cons (hname : Bare name) :
    ∃ c more, name.toList = c :: more ∧ isBare c = true := by
  obtain ⟨hsome, hbare⟩ := hname
  cases hlist : name.toList with
  | nil => exact absurd hlist hsome
  | cons c more => exact ⟨c, more, rfl, hbare c (hlist ▸ List.mem_cons_self)⟩

theorem simpleKey?_bare (hname : Bare name) (hd : isBare d = false) :
    simpleKey? (name.toList ++ d :: rest) = some (name, d :: rest) := by
  obtain ⟨c, more, hlist, hc⟩ := hname.exists_cons
  have hmarks : ∀ mark tail, isBare mark = false →
      name.toList ++ d :: rest = mark :: tail → False := by
    intro mark tail hmark heq
    rw [hlist] at heq
    exact ne_of_isBare hc hmark (List.cons.inj heq).1
  have htake : (name.toList ++ d :: rest).takeWhile isBare = name.toList := by
    rw [List.takeWhile_append_of_pos hname.2, List.takeWhile_cons_of_neg (by simp [hd]),
      List.append_nil]
  have hdrop : (name.toList ++ d :: rest).dropWhile isBare = d :: rest := by
    rw [List.dropWhile_append_of_pos hname.2, List.dropWhile_cons_of_neg (by simp [hd])]
  rw [simpleKey?.eq_3 _ (fun tail => hmarks '"' tail (by decide))
    (fun tail => hmarks '\'' tail (by decide)), htake, hdrop]
  have hname : String.ofList (c :: more) = name := hlist ▸ String.ofList_toList
  rw [hlist]
  exact congrArg (fun key => some (key, d :: rest)) hname

/-- Names with dots between them. -/
def dotted : List String → List Char
  | [] => []
  | [name] => name.toList
  | name :: path => name.toList ++ '.' :: dotted path

/-- Bare names with dots between them are read as the key that they are. -/
theorem dottedKey?_bare (hd : isBare d = false)
    (hdot : ∀ more, skipBlanks (d :: rest) ≠ '.' :: more) :
    ∀ (path : List String) (fuel : Nat), path ≠ [] → path.length ≤ fuel →
      (∀ name ∈ path, Bare name) →
        dottedKey? fuel (dotted path ++ d :: rest) = some (path, skipBlanks (d :: rest))
  | [], _, hsome, _, _ => absurd rfl hsome
  | _ :: _, 0, _, hfuel, _ => absurd hfuel (Nat.not_succ_le_zero _)
  | [name], fuel + 1, _, _, hbare => by
    have hname := hbare name List.mem_cons_self
    obtain ⟨c, more, hlist, hc⟩ := hname.exists_cons
    have hblank : skipBlanks (name.toList ++ d :: rest) = name.toList ++ d :: rest := by
      rw [hlist]
      exact skipBlanks_of_not (not_isBlank_of_isBare hc)
    rw [dotted, dottedKey?, hblank, simpleKey?_bare hname hd]
    dsimp only
    split
    next heq => exact absurd heq (hdot _)
    next => rfl
  | name :: second :: path, fuel + 1, _, hfuel, hbare => by
    have hname := hbare name List.mem_cons_self
    obtain ⟨c, more, hlist, hc⟩ := hname.exists_cons
    have hblank : ∀ tail, skipBlanks (name.toList ++ tail) = name.toList ++ tail := by
      intro tail
      rw [hlist]
      exact skipBlanks_of_not (not_isBlank_of_isBare hc)
    have ih := dottedKey?_bare hd hdot (second :: path) fuel (List.cons_ne_nil _ _)
      (Nat.le_of_succ_le_succ hfuel) fun other hother => hbare other (List.mem_cons_of_mem _ hother)
    rw [dotted, List.append_assoc, List.cons_append, dottedKey?, hblank,
      simpleKey?_bare hname (by decide)]
    · simp only [skipBlanks_of_not (show isBlank '.' = false by decide), ih, Option.map_some]
    · exact List.cons_ne_nil _ _

theorem dotted_cons {path : List String} (hsome : path ≠ []) (hbare : ∀ name ∈ path, Bare name) :
    ∃ c more, dotted path = c :: more ∧ isBare c = true := by
  cases path with
  | nil => exact absurd rfl hsome
  | cons name path =>
    obtain ⟨c, more, hlist, hc⟩ := (hbare name List.mem_cons_self).exists_cons
    cases path with
    | nil => exact ⟨c, more, hlist, hc⟩
    | cons second path =>
      exact ⟨c, _, by rw [dotted, hlist, List.cons_append]; exact List.cons_ne_nil _ _, hc⟩

/-- A line does not end where a bare name begins. -/
theorem lineEnd?_of_isBare (hc : isBare c = true) : lineEnd? (c :: rest) = none := by
  have hcomment : skipComment (c :: rest) = c :: rest :=
    skipComment.eq_2 _ fun _ heq => ne_of_isBare hc (by decide) (List.cons.inj heq).1
  rw [lineEnd?, skipBlanks_of_not (not_isBlank_of_isBare hc), hcomment]
  exact lineBreak?.eq_3 _ (fun _ heq => ne_of_isBare hc (by decide) (List.cons.inj heq).1)
    fun _ heq => ne_of_isBare hc (by decide) (List.cons.inj heq).1

end Words

/-! ## Lines -/

/-- A line that needs no care. -/
inductive Line where
  | empty
  | comment (words : String)
  | header (path : List String)
  | setting (key value : String)

namespace Line

/-- How a line is written. -/
def written : Line → String
  | .empty => "\n"
  | .comment words => "#" ++ words ++ "\n"
  | .header path => "[" ++ String.ofList (dotted path) ++ "]\n"
  | .setting key value => key ++ " = \"" ++ value ++ "\"\n"

/-- Whether a line is read as it is written. -/
def Plain : Line → Prop
  | .empty => True
  | .comment words => ∀ c ∈ words.toList, isPlain c = true
  | .header path => path ≠ [] ∧ path.length ≤ maxDepth - 1 ∧ ∀ name ∈ path, Bare name
  | .setting key value => Bare key ∧ ∀ c ∈ value.toList, Verbatim c

instance : (line : Line) → Decidable line.Plain
  | .empty => inferInstanceAs (Decidable True)
  | .comment words => inferInstanceAs (Decidable (∀ c ∈ words.toList, isPlain c = true))
  | .header path => inferInstanceAs
      (Decidable (path ≠ [] ∧ path.length ≤ maxDepth - 1 ∧ ∀ name ∈ path, Bare name))
  | .setting key value => inferInstanceAs
      (Decidable (Bare key ∧ ∀ c ∈ value.toList, Verbatim c))

/-- Take a line into a document. -/
def onto? (document : Document) : Line → Option Document
  | .empty => some document
  | .comment _ => some document
  | .header path => document.open? false path
  | .setting key value => document.assign? [] key (.text value)

variable {rest : List Char}

/-- A line that begins neither with a blank nor with a bracket. -/
theorem line?_cons (document : Document) {c : Char} (hblank : isBlank c = false) (hopen : c ≠ '[') :
    document.line? (c :: rest) =
      match lineEnd? (c :: rest) with
      | some rest => some (document, rest)
      | none =>
        match keyValue? (value? (maxDepth - 1)) (c :: rest) with
        | none => none
        | some ((dots, key, value), rest) =>
          match lineEnd? rest, document.assign? dots key value with
          | some rest, some document => some (document, rest)
          | _, _ => none := by
  rw [Document.line?, skipBlanks_of_not hblank]
  split
  next heq => cases heq
  next heq => exact absurd (List.cons.inj heq).1 hopen
  next heq => exact absurd (List.cons.inj heq).1 hopen
  next => rfl

theorem line?_comment (document : Document) {words : String}
    (h : ∀ c ∈ words.toList, isPlain c = true) :
    document.line? ('#' :: (words.toList ++ '\n' :: rest)) = some (document, rest) := by
  have hdrop : (words.toList ++ '\n' :: rest).dropWhile isPlain = '\n' :: rest := by
    rw [List.dropWhile_append_of_pos h]
    exact List.dropWhile_cons_of_neg (by decide)
  have hend : lineEnd? ('#' :: (words.toList ++ '\n' :: rest)) = some rest := by
    rw [lineEnd?, skipBlanks_of_not (by decide), skipComment, hdrop]
    rfl
  rw [line?_cons document (by decide) (by decide), hend]

theorem line?_header (document : Document) {path : List String} (h : (header path).Plain) :
    document.line? ('[' :: (dotted path ++ ']' :: '\n' :: rest)) =
      (document.open? false path).map fun document => (document, rest) := by
  obtain ⟨hsome, hdepth, hbare⟩ := h
  obtain ⟨c, more, hlist, hc⟩ := dotted_cons hsome hbare
  have hkey : key? (dotted path ++ ']' :: '\n' :: rest) = some (path, ']' :: '\n' :: rest) :=
    dottedKey?_bare (by decide) (fun more heq => by cases heq) path _ hsome hdepth hbare
  have hline : document.line? ('[' :: (dotted path ++ ']' :: '\n' :: rest)) =
      document.header? false (dotted path ++ ']' :: '\n' :: rest) := by
    rw [Document.line?, skipBlanks_of_not (by decide), hlist]
    split
    next heq => cases heq
    next heq => exact absurd (List.cons.inj (List.cons.inj heq).2).1 (ne_of_isBare hc (by decide))
    next heq => rw [(List.cons.inj heq).2]
    next hnone => exact absurd rfl (hnone _)
  rw [hline, Document.header?, hkey]
  simp only [skipBlanks_of_not (show isBlank ']' = false by decide), Option.bind_some]
  rw [show lineEnd? ('\n' :: rest) = some rest from rfl]
  cases document.open? false path <;> rfl

/-- A line that sets a bare key to what stands behind the mark. -/
theorem line?_key (document : Document) {key : String} (hkey : Bare key) (tail : List Char) :
    document.line? (key.toList ++ ' ' :: '=' :: ' ' :: '"' :: tail) =
      match value? (maxDepth - 1) ('"' :: tail) with
      | none => none
      | some read =>
        match lineEnd? read.2, document.assign? [] key read.1 with
        | some rest, some document => some (document, rest)
        | _, _ => none := by
  obtain ⟨c, more, hlist, hc⟩ := hkey.exists_cons
  have hread : key? (key.toList ++ ' ' :: '=' :: ' ' :: '"' :: tail) =
      some ([key], '=' :: ' ' :: '"' :: tail) :=
    dottedKey?_bare (by decide) (fun more heq => by cases heq) [key] _
      (List.cons_ne_nil _ _) (show 1 ≤ maxDepth - 1 by decide) (List.forall_mem_singleton.mpr hkey)
  have hvalue : keyValue? (value? (maxDepth - 1)) (key.toList ++ ' ' :: '=' :: ' ' :: '"' :: tail) =
      (value? (maxDepth - 1) ('"' :: tail)).map fun read => (([], key, read.1), read.2) := by
    rw [keyValue?, hread]
    rfl
  rw [hlist, List.cons_append, line?_cons document (not_isBlank_of_isBare hc)
    (ne_of_isBare hc (by decide)), lineEnd?_of_isBare hc, ← List.cons_append, ← hlist, hvalue]
  cases value? (maxDepth - 1) ('"' :: tail) with
  | none => rfl
  | some read => rfl

/-- A plain line is read as what it is. -/
theorem line?_of_plain {line : Line} (h : line.Plain) (document : Document) (rest : List Char) :
    document.line? (line.written.toList ++ rest) =
      (line.onto? document).map fun document => (document, rest) := by
  cases line with
  | empty => rfl
  | comment words =>
    have hchars : (comment words).written.toList ++ rest =
        '#' :: (words.toList ++ '\n' :: rest) := by simp [written]
    rw [hchars, line?_comment document h]
    rfl
  | header path =>
    have hchars : (header path).written.toList ++ rest =
        '[' :: (dotted path ++ ']' :: '\n' :: rest) := by simp [written]
    rw [hchars, line?_header document h]
    rfl
  | setting key value =>
    have hchars : (setting key value).written.toList ++ rest = key.toList ++
        ' ' :: '=' :: ' ' :: '"' :: (value.toList ++ '"' :: '\n' :: rest) := by simp [written]
    rw [hchars, line?_key document h.1, value?_verbatim h.2]
    dsimp only
    rw [show lineEnd? ('\n' :: rest) = some rest from rfl]
    show _ = (document.assign? [] key (.text value)).map _
    cases document.assign? [] key (.text value) <;> rfl

/-- The byte order mark. -/
def byteOrderMark : Char := '\ufeff'

/-- A plain line is not empty and does not begin with a byte order mark. -/
theorem Plain.exists_cons {line : Line} (h : line.Plain) :
    ∃ c more, line.written.toList = c :: more ∧ c ≠ byteOrderMark := by
  cases line with
  | empty => exact ⟨'\n', [], rfl, by decide⟩
  | comment words => exact ⟨'#', words.toList ++ ['\n'], by simp [written], by decide⟩
  | header path => exact ⟨'[', dotted path ++ [']', '\n'], by simp [written], by decide⟩
  | setting key value =>
    obtain ⟨c, more, hlist, hc⟩ := h.1.exists_cons
    exact ⟨c, more ++ " = \"".toList ++ value.toList ++ "\"\n".toList, by simp [written, hlist],
      ne_of_isBare hc (by decide)⟩

end Line

/-- Plain lines are read one after the other, and then what stands behind them. -/
theorem lines?_append_of_plain (fuel : Nat) (rest : List Char) :
    ∀ {lines : List Line} (document : Document), (∀ line ∈ lines, line.Plain) →
      Document.lines? (fuel + lines.length) document
          ((String.join (lines.map Line.written)).toList ++ rest) =
        (lines.foldlM Line.onto? document).bind fun after => Document.lines? fuel after rest
  | [], document, _ => rfl
  | line :: lines, document, hplain => by
    have hline := Line.line?_of_plain (hplain line List.mem_cons_self) document
      ((String.join (lines.map Line.written)).toList ++ rest)
    have hne : line.written.toList ++ ((String.join (lines.map Line.written)).toList ++ rest) ≠
        [] := by
      obtain ⟨c, more, hlist, _⟩ := (hplain line List.mem_cons_self).exists_cons
      rw [hlist]
      exact List.cons_ne_nil _ _
    rw [List.map_cons, String.join_cons, String.toList_append, List.append_assoc, List.length_cons,
      ← Nat.add_assoc, Document.lines?.eq_3 _ _ _ hne, hline, List.foldlM_cons]
    cases line.onto? document with
    | none => rfl
    | some after =>
      exact lines?_append_of_plain fuel rest after fun other hother =>
        hplain other (List.mem_cons_of_mem _ hother)

theorem length_le_written : ∀ {lines : List Line}, (∀ line ∈ lines, line.Plain) →
    lines.length ≤ (String.join (lines.map Line.written)).toList.length
  | [], _ => Nat.le_refl 0
  | line :: lines, hplain => by
    obtain ⟨c, more, hlist, _⟩ := (hplain line List.mem_cons_self).exists_cons
    have ih := length_le_written fun other hother => hplain other (List.mem_cons_of_mem line hother)
    rw [List.map_cons, String.join_cons, String.toList_append, hlist, List.length_append,
      List.length_cons, List.length_cons]
    omega

/-- A file that begins with plain lines is read line by line as far as these go. -/
theorem parse?_of_plain {lines : List Line} (hplain : ∀ line ∈ lines, line.Plain)
    (hsome : lines ≠ []) (rest : String) :
    ∃ fuel, rest.toList.length < fuel ∧
      Document.parse? (String.join (lines.map Line.written) ++ rest) =
        ((lines.foldlM Line.onto? .blank).bind fun document =>
          Document.lines? fuel document rest.toList).map Document.root := by
  have hmark : ∀ c more,
      (String.join (lines.map Line.written) ++ rest).toList = c :: more → c.toNat ≠ 0xfeff := by
    cases lines with
    | nil => exact absurd rfl hsome
    | cons line lines =>
      intro c more heq
      obtain ⟨first, _, hlist, hfirst⟩ := (hplain line List.mem_cons_self).exists_cons
      rw [List.map_cons, String.join_cons, String.append_assoc, String.toList_append, hlist] at heq
      rw [← (List.cons.inj heq).1]
      exact fun hsame => hfirst (Char.toNat_inj.mp hsame)
  have hlength := length_le_written hplain
  refine ⟨(String.join (lines.map Line.written) ++ rest).toList.length + 1 - lines.length, ?_, ?_⟩
  · rw [String.toList_append, List.length_append]
    omega
  · have hread := lines?_append_of_plain
      ((String.join (lines.map Line.written) ++ rest).toList.length + 1 - lines.length)
      rest.toList .blank hplain
    rw [Nat.sub_add_cancel (by rw [String.toList_append, List.length_append]; omega),
      ← String.toList_append] at hread
    rw [← hread, Document.parse?]
    generalize (String.join (lines.map Line.written) ++ rest).toList = chars at hmark
    cases chars with
    | nil => rfl
    | cons c more => simp only [if_neg (hmark c more rfl)]

end AssetCache.Toml
