import AssetCache.Proofs.Json.Numerals
import AssetCache.Proofs.Listing

/-!
# Written values are read back

`Json.ofBytes` reads a whole text as a value of whatever shape, brackets nested up to a depth; of
two members of one name the later counts. Texts, natural numbers up to a significand, and arrays of
what is read back are read back (`Reads`), and an object of such members is read as the table in
which the last value of each name stands (`ofBytes_compact_obj`).

Whatever a value is, its compact form has no control characters (`le_of_mem_chars`).

Fractions are no values here, and of numbers below zero it is not said that they are read back.
-/

set_option autoImplicit false

namespace AssetCache.Json

open Reader

/-! ## Reading any value -/

/-- How deep brackets may be nested in a text. -/
def maxDepth : Nat := 127

namespace Reader

/-- A value without parts, by its first byte. -/
def scalar (b : UInt8) : Reader Json :=
  if b = 0x22 then do
    drop
    return .str (← quotedText)
  else if beginsNumeral b then do
    match ← numeral with
    | .whole n => return .num n
    | .fraction => fail .mismatched
  else if b = 0x6e then do
    drop
    letters [0x75, 0x6c, 0x6c]
    return .null
  else if b = 0x74 then do
    drop
    letters [0x72, 0x75, 0x65]
    return .bool true
  else if b = 0x66 then do
    drop
    letters [0x61, 0x6c, 0x73, 0x65]
    return .bool false
  else fail .malformed

/-- An element of an array onto those before it, the last one first. -/
def element (item : Reader Json) (taken : List Json) : Reader (List Json) := do
  return (← item) :: taken

/-- A member of an object onto those before it. -/
def member (item : Reader Json) (name : String) (table : Table Json) : Reader (Table Json) := do
  colon
  return table.insert name (← item)

/-- Any value that nests brackets no deeper than so many levels. -/
def anyValue : Nat → Reader Json
  | 0 => peek scalar
  | depth + 1 => peek fun b =>
    if b = 0x5b then do
      drop
      let reversed ← elements (element (anyValue depth)) []
      return .arr reversed.reverse
    else if b = 0x7b then do
      drop
      let table ← members (member (anyValue depth)) .empty
      return .ofTable table
    else scalar b

end Reader

/-- The value that a whole text spells. -/
def ofBytes (text : Bytes) : Except Fault Json := decode (anyValue maxDepth) text

/-! ## Values that are read back -/

/-- A value is read back from what is written for it, in front of anything that does not go on
with a numeral. -/
structure Reads (depth : Nat) (value : Json) : Prop where
  begins : ∃ b more, Bytes.ofChars value.chars = b :: more ∧ isBlank b = false ∧ b ≠ 0x5d
  read : ∀ rest, EndsNumeral rest →
    (anyValue depth).read (Bytes.ofChars value.chars ++ rest) = .ok (value, rest)

variable {depth : Nat} {b : UInt8} {rest more : Bytes}

/-- A value that begins with no bracket is a scalar at any depth. -/
theorem read_anyValue_scalar (hblank : isBlank b = false) (hsquare : b ≠ 0x5b) (hcurly : b ≠ 0x7b) :
    (anyValue depth).read (b :: more) = (scalar b).read (b :: more) := by
  cases depth with
  | zero => exact read_peek hblank _ _
  | succ depth =>
    rw [anyValue, read_peek hblank, if_neg hsquare, if_neg hcurly]

theorem reads_str (depth : Nat) (text : String) : Reads depth (.str text) := by
  have hchars : (Json.str text).chars = quoted text := by rw [chars]
  constructor
  · exact ⟨0x22, _, by rw [hchars, ofChars_quoted], by decide, by decide⟩
  · intro rest _
    rw [hchars, ofChars_quoted, List.cons_append, List.append_assoc,
      read_anyValue_scalar (by decide) (by decide) (by decide), scalar, if_pos rfl,
      read_bind (read_drop _ _)]
    exact read_bind (stringText_quoted text rest)

/-- A digit is neither a bracket nor a quotation mark. -/
theorem ne_marks_of_isDigit (h : isDigit b = true) : b ≠ 0x22 ∧ b ≠ 0x5b ∧ b ≠ 0x5d ∧ b ≠ 0x7b := by
  refine ⟨?_, ?_, ?_, ?_⟩ <;> rintro rfl <;> exact absurd h (by decide)

theorem reads_nat (depth : Nat) {n : Nat} (hn : n ≤ maxSignificand) : Reads depth (.nat n) := by
  have hchars : (Json.nat n).chars = Text.Decimal.chars n := by rw [Json.nat, chars]; rfl
  obtain ⟨b, more, hb, hdigit⟩ := exists_ofChars_chars n
  obtain ⟨hquote, hsquare, hclosing, hcurly⟩ := ne_marks_of_isDigit hdigit
  have hblank := isBlank_of_isDigit hdigit
  constructor
  · exact ⟨b, more, by rw [hchars, hb], hblank, hclosing⟩
  · intro rest hrest
    have hnumber : numeral.read (Bytes.ofChars (Text.Decimal.chars n) ++ rest) =
        .ok (.whole n, rest) := number_chars hn hrest
    have hbegins : beginsNumeral b = true := by simp only [beginsNumeral, hdigit, Bool.or_true]
    rw [hchars, hb, List.cons_append, read_anyValue_scalar hblank hsquare hcurly, scalar,
      if_neg hquote, if_pos hbegins, ← List.cons_append, ← hb]
    exact read_bind hnumber

/-! ## Arrays -/

section Arrays

variable {σ : Type} {onto : σ → Reader σ} {state updated : σ}

theorem elementTurn_closed (first : Bool) (rest : Bytes) :
    elementTurn first (0x5d :: rest) = .ok (.closed rest) := by
  simp only [elementTurn, skipBlanks_cons (show isBlank 0x5d = false by decide), if_true]

theorem elementTurn_first (hblank : isBlank b = false) (hclosing : b ≠ 0x5d) :
    elementTurn true (b :: rest) = .ok (.another (b :: rest)) := by
  simp only [elementTurn, skipBlanks_cons hblank, if_neg hclosing, if_true]

theorem elementTurn_next (hblank : isBlank b = false) (hclosing : b ≠ 0x5d) :
    elementTurn false (0x2c :: b :: rest) = .ok (.another (b :: rest)) := by
  simp only [elementTurn, skipBlanks_cons (show isBlank 0x2c = false by decide),
    skipBlanks_cons hblank, if_neg hclosing, if_true]
  rw [if_neg (by decide), if_neg (by decide)]

theorem foldElements_closed (onto : σ → Reader σ) (first : Bool) (state : σ) (rest : Bytes) :
    foldElements onto first state (0x5d :: rest) = .ok (state, rest) := by
  have ht := elementTurn_closed first rest
  rw [foldElements]
  split
  next heq => rw [ht] at heq; cases heq
  next heq =>
    rw [ht] at heq
    cases heq
    rfl
  next heq => rw [ht] at heq; cases heq

/-- One element is read and the others are left. -/
theorem foldElements_another {first : Bool} {input rest rest' : Bytes}
    (ht : elementTurn first input = .ok (.another rest))
    (he : (onto state).read rest = .ok (updated, rest')) :
    foldElements onto first state input = foldElements onto false updated rest' := by
  rw [foldElements]
  split
  next heq => rw [ht] at heq; cases heq
  next heq => rw [ht] at heq; cases heq
  next heq =>
    rw [ht] at heq
    cases heq
    split
    next heq => rw [he] at heq; cases heq
    next heq =>
      rw [he] at heq
      cases heq
      rfl

theorem itemChars_cons (item : Json) (items : List Json) :
    itemChars (item :: items) = item.chars ++ items.flatMap fun next => ',' :: next.chars := by
  induction items generalizing item with
  | nil =>
    rw [List.flatMap_nil, List.append_nil]
    rfl
  | cons next items ih =>
    rw [itemChars, ih next, List.flatMap_cons]
    · simp only [List.cons_append]
    · intro h; cases h

/-- What follows an element in an array does not go on with a numeral. -/
theorem endsNumeral_tail (items : List Json) (rest : Bytes) :
    EndsNumeral (Bytes.ofChars (items.flatMap fun next => ',' :: next.chars) ++ 0x5d :: rest) := by
  cases items with
  | nil =>
    intro b more heq
    cases heq
    decide
  | cons item items =>
    intro b more heq
    rw [List.flatMap_cons, List.cons_append, ofChars_comma, List.cons_append] at heq
    cases heq
    decide

/-- An element is read onto those before it. -/
theorem read_element {item : Json} (h : Reads depth item) (taken : List Json)
    (hrest : EndsNumeral rest) :
    (element (anyValue depth) taken).read (Bytes.ofChars item.chars ++ rest) =
      .ok (item :: taken, rest) :=
  read_bind (h.read rest hrest)

theorem foldElements_tail {items : List Json} (h : ∀ item ∈ items, Reads depth item)
    (rest : Bytes) : ∀ taken : List Json,
      foldElements (element (anyValue depth)) false taken
        (Bytes.ofChars (items.flatMap fun next => ',' :: next.chars) ++ 0x5d :: rest) =
          .ok (items.reverse ++ taken, rest) := by
  induction items with
  | nil => intro taken; exact foldElements_closed _ false taken rest
  | cons item items ih =>
    intro taken
    obtain ⟨hitem, hitems⟩ := List.forall_mem_cons.mp h
    obtain ⟨b, more, hb, hblank, hclosing⟩ := hitem.begins
    rw [List.flatMap_cons, List.cons_append, ofChars_comma, Bytes.ofChars_append, List.cons_append,
      List.append_assoc]
    have hread := read_element hitem taken (endsNumeral_tail items rest)
    rw [hb, List.cons_append] at hread ⊢
    rw [foldElements_another (elementTurn_next hblank hclosing) hread, ih hitems]
    simp

/-- An array of values that are read back is read back. -/
theorem reads_arr {items : List Json} (h : ∀ item ∈ items, Reads depth item) :
    Reads (depth + 1) (.arr items) := by
  have hbytes : Bytes.ofChars (Json.arr items).chars =
      0x5b :: (Bytes.ofChars (itemChars items) ++ [0x5d]) := by
    rw [chars, List.cons_append, Bytes.ofChars_cons_of_lt (by decide), Bytes.ofChars_append]
    rfl
  constructor
  · exact ⟨0x5b, _, hbytes, by decide, by decide⟩
  · intro rest _
    have hitems : (elements (element (anyValue depth)) []).read
        (Bytes.ofChars (itemChars items) ++ 0x5d :: rest) = .ok (items.reverse, rest) := by
      show foldElements _ true [] _ = _
      cases items with
      | nil => exact foldElements_closed _ true [] rest
      | cons item items =>
        obtain ⟨hitem, hitems⟩ := List.forall_mem_cons.mp h
        obtain ⟨b, more, hb, hblank, hclosing⟩ := hitem.begins
        rw [itemChars_cons, Bytes.ofChars_append, List.append_assoc]
        have hread := read_element hitem [] (endsNumeral_tail items rest)
        rw [hb, List.cons_append] at hread ⊢
        rw [foldElements_another (elementTurn_first hblank hclosing) hread,
          foldElements_tail hitems]
        simp
    rw [hbytes, List.cons_append, List.append_assoc, anyValue, read_peek (by decide), if_pos rfl,
      read_bind (read_drop _ _)]
    rw [show ([0x5d] : Bytes) ++ rest = 0x5d :: rest from rfl, read_bind hitems,
      List.reverse_reverse]
    rfl

theorem reads_strings (depth : Nat) (texts : List String) :
    Reads (depth + 1) (.strings texts) :=
  reads_arr fun _ hitem => by
    obtain ⟨text, _, rfl⟩ := List.mem_map.mp hitem
    exact reads_str depth text

end Arrays

/-! ## Objects -/

theorem takes_member {value : Json} (h : Reads depth value) (table : Table Json) (name : String) :
    Takes (member (anyValue depth)) table (name, value) (table.insert name value) := by
  intro rest hrest
  rw [member, read_bind (read_colon _),
    read_bind (h.read rest (endsNumeral_of_delimited hrest))]
  rfl

theorem takesAll_member {entries : List (String × Json)}
    (h : ∀ entry ∈ entries, Reads depth entry.2) :
    ∀ table : Table Json,
      TakesAll (member (anyValue depth)) table entries (table.insertAll entries) := by
  induction entries with
  | nil => intro table; exact .nil table
  | cons entry entries ih =>
    intro table
    obtain ⟨hentry, hentries⟩ := List.forall_mem_cons.mp h
    exact .cons (takes_member hentry table entry.1) (ih hentries (table.insert entry.1 entry.2))

/-- An object is read as the table of its members, of which the last of a name counts. -/
theorem read_obj {entries : List (String × Json)} (h : ∀ entry ∈ entries, Reads depth entry.2)
    (rest : Bytes) :
    (anyValue (depth + 1)).read (Bytes.ofChars (Json.obj entries).chars ++ rest) =
      .ok (.ofTable (.ofList entries), rest) := by
  have hmembers := read_members (takesAll_member h .empty) rest
  rw [ofChars_obj, List.cons_append, List.append_assoc, anyValue, read_peek (by decide),
    if_neg (by decide), if_pos rfl, read_bind (read_drop _ _)]
  exact read_bind hmembers

/-- What is written for an object is, as a whole text, the table of its members. -/
theorem ofBytes_compact_obj {entries : List (String × Json)}
    (h : ∀ entry ∈ entries, Reads (maxDepth - 1) entry.2) :
    ofBytes (Bytes.ofText (Json.obj entries).compact) = .ok (.ofTable (.ofList entries)) := by
  have hread := read_obj h []
  rw [List.append_nil] at hread
  rw [compact, Bytes.ofText_ofList, ofBytes, decode,
    show anyValue maxDepth = anyValue (maxDepth - 1 + 1) from rfl, hread]
  rfl

/-! ## Control characters -/

/-- Whether a text holds no control character can be found out by going through it. -/
theorem le_of_all {text : List Char} {c : Char} (hall : text.all (32 ≤ ·.toNat) = true)
    (h : c ∈ text) : 32 ≤ c.toNat :=
  of_decide_eq_true (List.all_eq_true.mp hall c h)

theorem le_hexDigit : ∀ n : Nat, n < 16 → 32 ≤ (hexDigit n).toNat := by
  decide

/-- What is written for a character inside a string holds no control character. -/
theorem le_of_mem_escape {c d : Char} (h : d ∈ escape c) : 32 ≤ d.toNat := by
  have hletter : ∀ {letter : Char}, 32 ≤ letter.toNat → d ∈ ['\\', letter] → 32 ≤ d.toNat := by
    intro letter hle hd
    rcases List.mem_cons.mp hd with rfl | hd
    · decide
    · rw [List.mem_singleton.mp hd]
      exact hle
  unfold escape at h
  split at h
  · exact hletter (by decide) h
  split at h
  · exact hletter (by decide) h
  split at h
  · exact hletter (by decide) h
  split at h
  · exact hletter (by decide) h
  split at h
  · exact hletter (by decide) h
  split at h
  · exact hletter (by decide) h
  split at h
  · exact hletter (by decide) h
  split at h
  next hcontrol =>
    have hhigh := le_hexDigit (c.toNat / 16) (by omega)
    have hlow := le_hexDigit (c.toNat % 16) (by omega)
    simp only [List.mem_cons, List.not_mem_nil, or_false] at h
    rcases h with rfl | rfl | rfl | rfl | rfl | rfl
    · decide
    · decide
    · decide
    · decide
    · exact hhigh
    · exact hlow
  next hplain =>
    rw [List.mem_singleton.mp h]
    exact Nat.not_lt.mp hplain

theorem le_of_mem_quoted {text : String} {c : Char} (h : c ∈ quoted text) : 32 ≤ c.toNat := by
  rw [quoted, List.cons_append, List.mem_cons, List.mem_append, List.mem_singleton] at h
  rcases h with rfl | h | rfl
  · decide
  · obtain ⟨d, _, hd⟩ := List.mem_flatMap.mp h
    exact le_of_mem_escape hd
  · decide

theorem le_of_mem_intChars {n : Int} {c : Char} (h : c ∈ Text.Decimal.intChars n) :
    32 ≤ c.toNat := by
  have hdigits : ∀ {m : Nat}, c ∈ Text.Decimal.chars m → 32 ≤ c.toNat := by
    intro m hc
    have := toNat_of_isDigit (Nat.isDigit_of_mem_toDigits (by decide) (by decide) hc)
    omega
  cases n with
  | ofNat m => exact hdigits h
  | negSucc m =>
    rcases List.mem_cons.mp h with rfl | h
    · decide
    · exact hdigits h

mutual

/-- The compact form of a value holds no control character. -/
theorem le_of_mem_chars {c : Char} : ∀ {value : Json}, c ∈ value.chars → 32 ≤ c.toNat
  | .null, h => by
    rw [chars] at h
    exact le_of_all (by decide) h
  | .bool true, h => by
    rw [chars] at h
    exact le_of_all (by decide) h
  | .bool false, h => by
    rw [chars] at h
    exact le_of_all (by decide) h
  | .num n, h => by
    rw [chars] at h
    exact le_of_mem_intChars h
  | .str text, h => by
    rw [chars] at h
    exact le_of_mem_quoted h
  | .arr items, h => by
    rw [chars, List.cons_append, List.mem_cons, List.mem_append, List.mem_singleton] at h
    rcases h with rfl | h | rfl
    · decide
    · exact le_of_mem_itemChars h
    · decide
  | .obj members, h => by
    rw [chars, List.cons_append, List.mem_cons, List.mem_append, List.mem_singleton] at h
    rcases h with rfl | h | rfl
    · decide
    · exact le_of_mem_memberChars h
    · decide

theorem le_of_mem_itemChars {c : Char} : ∀ {items : List Json}, c ∈ itemChars items → 32 ≤ c.toNat
  | [], h => nomatch h
  | [item], h => le_of_mem_chars (show c ∈ item.chars from h)
  | item :: next :: rest, h => by
    rw [itemChars, List.mem_append, List.mem_cons] at h
    · rcases h with h | rfl | h
      · exact le_of_mem_chars h
      · decide
      · exact le_of_mem_itemChars h
    · intro heq; cases heq

theorem le_of_mem_memberChars {c : Char} :
    ∀ {members : List (String × Json)}, c ∈ memberChars members → 32 ≤ c.toNat
  | [], h => nomatch h
  | [(name, value)], h => by
    rw [memberChars, List.mem_append, List.mem_cons] at h
    rcases h with h | rfl | h
    · exact le_of_mem_quoted h
    · decide
    · exact le_of_mem_chars h
  | (name, value) :: next :: rest, h => by
    rw [memberChars, List.append_assoc, List.mem_append, List.cons_append, List.mem_cons,
      List.mem_append, List.mem_cons] at h
    · rcases h with h | rfl | h | rfl | h
      · exact le_of_mem_quoted h
      · decide
      · exact le_of_mem_chars h
      · decide
      · exact le_of_mem_memberChars h
    · intro heq; cases heq

end

end AssetCache.Json
