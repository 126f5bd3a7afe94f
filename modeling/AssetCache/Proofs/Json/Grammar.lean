import Mathlib.Data.List.TakeWhile
import AssetCache.Proofs.Json.Stored

/-!
# The texts that are read as tables

Which bytes are read as a table of texts is said here by a grammar: a string is spelled byte by
byte or by escapes (`StringOf`), members stand between commas, and blanks may stand between all
marks (`Members`). The reader takes exactly what the grammar spells, and the table it makes holds
the last value of each name (`read_textTable_iff`).

Each part of the reader has one lemma, an equivalence: what it takes off the front of the input is
spelled by the grammar, and it takes whatever is spelled so. The induction for strings is over
`stringBytes`, with the bytes already taken in front, and that for members over `foldMembers`.

Only spellings of texts are dealt with; which texts are passed over as values of unknown members
is not said.
-/

set_option autoImplicit false

namespace AssetCache.Json

open Reader

/-! ## The grammar -/

/-- Bytes that may stand between marks. -/
def Blanks (bytes : Bytes) : Prop := ∀ b ∈ bytes, isBlank b = true

instance (bytes : Bytes) : Decidable (Blanks bytes) :=
  decidable_of_iff (bytes.all isBlank = true) List.all_eq_true

/-- Four hexadecimal digits and their number. -/
inductive Hex : Bytes → Nat → Prop
  | digits {a b c d : UInt8} {i j k l : Nat} :
      hexValue? a = some i → hexValue? b = some j → hexValue? c = some k → hexValue? d = some l →
        Hex [a, b, c, d] (((i * 16 + j) * 16 + k) * 16 + l)

/-- The bytes that are meant, and the letters behind a backslash that spell them. -/
inductive EscapeOf : Bytes → Bytes → Prop
  | letter {byte letter : UInt8} : escapedByte? letter = some byte → EscapeOf [byte] [letter]
  | unit {letters : Bytes} {n : Nat} : Hex letters n → ¬ (0xd800 ≤ n ∧ n ≤ 0xdfff) →
      EscapeOf (codePoint n) (0x75 :: letters)
  /-- A character beyond the first 65536 is spelled by two surrogates. -/
  | pair {high low : Bytes} {n m : Nat} : Hex high n → 0xd800 ≤ n ∧ n ≤ 0xdbff →
      Hex low m → 0xdc00 ≤ m ∧ m ≤ 0xdfff →
        EscapeOf (codePoint ((n - 0xd800) * 1024 + (m - 0xdc00) + 0x10000))
          (0x75 :: (high ++ 0x5c :: 0x75 :: low))

/-- The bytes that are meant, and what spells them between quotation marks. -/
inductive StringOf : Bytes → Bytes → Prop
  | nil : StringOf [] []
  | plain {b : UInt8} {bytes spelled : Bytes} :
      IsPlain b → StringOf bytes spelled → StringOf (b :: bytes) (b :: spelled)
  | escape {meant letters bytes spelled : Bytes} : EscapeOf meant letters →
      StringOf bytes spelled → StringOf (meant ++ bytes) (0x5c :: (letters ++ spelled))

/-- A text, and its spelling with both quotation marks. -/
def Quoted (text : String) (spelled : Bytes) : Prop :=
  ∃ inner, StringOf (Bytes.ofText text) inner ∧ spelled = 0x22 :: (inner ++ [0x22])

/-- What stands in front of a member: a comma, unless it is the first. -/
def Separator (first : Bool) (spelled : Bytes) : Prop :=
  if first then Blanks spelled
  else ∃ before after, Blanks before ∧ Blanks after ∧ spelled = before ++ 0x2c :: after

/-- The members of an object from one of them on, up to the closing bracket. -/
inductive Members : Bool → List (String × String) → Bytes → Prop
  | closed {first : Bool} {blanks : Bytes} : Blanks blanks → Members first [] (blanks ++ [0x7d])
  | another {first : Bool} {name value : String} {members : List (String × String)}
      {separator key before after text spelled : Bytes} :
      Separator first separator → Quoted name key → Blanks before → Blanks after →
        Quoted value text → Members false members spelled →
          Members first ((name, value) :: members)
            (separator ++ (key ++ (before ++ 0x3a :: (after ++ (text ++ spelled)))))

/-- A whole text that spells an object with these members, in their order. -/
def ObjectText (members : List (String × String)) (text : Bytes) : Prop :=
  ∃ before spelled after, Blanks before ∧ Members true members spelled ∧ Blanks after ∧
    text = before ++ 0x7b :: (spelled ++ after)

/-! ## Blanks -/

/-- Blanks are taken up to the first byte that is none. -/
theorem skipBlanks_eq_cons_iff {input rest : Bytes} {b : UInt8} (h : isBlank b = false) :
    skipBlanks input = b :: rest ↔ ∃ blanks, Blanks blanks ∧ input = blanks ++ b :: rest := by
  constructor
  · intro heq
    refine ⟨input.takeWhile isBlank, fun c hc => List.mem_takeWhile_imp hc, ?_⟩
    rw [← heq]
    exact List.takeWhile_append_dropWhile.symm
  · rintro ⟨blanks, hblanks, rfl⟩
    unfold skipBlanks
    rw [List.dropWhile_append_of_pos hblanks]
    exact skipBlanks_cons h rest

theorem skipBlanks_eq_nil_iff {input : Bytes} : skipBlanks input = [] ↔ Blanks input := by
  unfold skipBlanks Blanks
  exact List.dropWhile_eq_nil_iff

/-! ## Escapes -/

theorem unit_eq_ok_iff {input rest : Bytes} {n : Nat} :
    unit input = .ok (n, rest) ↔ ∃ letters, Hex letters n ∧ input = letters ++ rest := by
  constructor
  · intro h
    unfold unit at h
    split at h
    next a b c d rest' =>
      split at h
      next i j k l hi hj hk hl =>
        cases h
        exact ⟨[a, b, c, d], .digits hi hj hk hl, rfl⟩
      next => cases h
    next => cases h
  · rintro ⟨letters, hhex, rfl⟩
    cases hhex with
    | digits hi hj hk hl =>
      simp only [unit, List.cons_append, List.nil_append, hi, hj, hk, hl]

theorem surrogatePair_eq_ok_iff {leading : Nat} {input bytes rest : Bytes} :
    surrogatePair leading input = .ok (bytes, rest) ↔
      ∃ low m, Hex low m ∧ (0xdc00 ≤ m ∧ m ≤ 0xdfff) ∧ input = 0x5c :: 0x75 :: (low ++ rest) ∧
        bytes = codePoint ((leading - 0xd800) * 1024 + (m - 0xdc00) + 0x10000) := by
  constructor
  · intro h
    unfold surrogatePair at h
    split at h
    · cases h
    · split at h <;> cases h
    next b c rest' =>
      split at h
      · cases h
      next hb =>
        split at h
        · cases h
        next hc =>
          obtain rfl := not_not.mp hb
          obtain rfl := not_not.mp hc
          split at h
          · cases h
          next m rest'' hunit =>
            obtain ⟨low, hlow, rfl⟩ := unit_eq_ok_iff.mp hunit
            split at h
            next hm =>
              simp only [Except.ok.injEq, Prod.mk.injEq] at h
              rw [h.2]
              exact ⟨low, m, hlow, hm, rfl, h.1.symm⟩
            next => cases h
  · rintro ⟨low, m, hlow, hm, rfl, hbytes⟩
    have hunit : unit (low ++ rest) = .ok (m, rest) := unit_eq_ok_iff.mpr ⟨low, hlow, rfl⟩
    rw [hbytes, surrogatePair, if_neg (not_not_intro rfl), if_neg (not_not_intro rfl), hunit]
    exact if_pos hm

theorem escaped_eq_ok_iff {input bytes rest : Bytes} :
    escaped input = .ok (bytes, rest) ↔
      ∃ letters, EscapeOf bytes letters ∧ input = letters ++ rest := by
  constructor
  · intro h
    unfold escaped at h
    split at h
    · cases h
    next b more =>
      split at h
      next byte hbyte =>
        cases h
        exact ⟨[b], .letter hbyte, rfl⟩
      next =>
        split at h
        next hu =>
          subst hu
          unfold unicodeEscape at h
          split at h
          · cases h
          next n rest' hunit =>
            obtain ⟨letters, hletters, rfl⟩ := unit_eq_ok_iff.mp hunit
            split at h
            · cases h
            next htrailing =>
              split at h
              next hleading =>
                obtain ⟨low, m, hlow, hm, rfl, hbytes⟩ := surrogatePair_eq_ok_iff.mp h
                rw [hbytes]
                exact ⟨_, .pair hletters hleading hlow hm, by simp⟩
              next hleading =>
                cases h
                exact ⟨_, .unit hletters (by omega), rfl⟩
        next => cases h
  · have hletter : escapedByte? 0x75 = none := by decide
    rintro ⟨letters, hescape, rfl⟩
    cases hescape with
    | letter hbyte => simp only [escaped, List.cons_append, List.nil_append, hbyte]
    | @unit letters n hhex hn =>
      have hunit : unit (letters ++ rest) = .ok (n, rest) := unit_eq_ok_iff.mpr ⟨_, hhex, rfl⟩
      have hescaped : unicodeEscape (letters ++ rest) = .ok (codePoint n, rest) := by
        simp only [unicodeEscape, hunit]
        rw [if_neg (by omega), if_neg (by omega)]
      simp only [escaped, List.cons_append, hletter, if_true, hescaped]
    | @pair high low n m hhigh hn hlow hm =>
      have hunit : unit (high ++ 0x5c :: 0x75 :: (low ++ rest)) =
          .ok (n, 0x5c :: 0x75 :: (low ++ rest)) := unit_eq_ok_iff.mpr ⟨_, hhigh, rfl⟩
      have hpair : surrogatePair n (0x5c :: 0x75 :: (low ++ rest)) =
          .ok (codePoint ((n - 0xd800) * 1024 + (m - 0xdc00) + 0x10000), rest) :=
        surrogatePair_eq_ok_iff.mpr ⟨low, m, hlow, hm, rfl, rfl⟩
      have hescaped : unicodeEscape (high ++ 0x5c :: 0x75 :: (low ++ rest)) =
          .ok (codePoint ((n - 0xd800) * 1024 + (m - 0xdc00) + 0x10000), rest) := by
        simp only [unicodeEscape, hunit]
        rw [if_neg (by omega), if_pos hn, hpair]
      simp only [escaped, List.cons_append, List.append_assoc, hletter, if_true, hescaped]

/-! ## Strings -/

/-- What is taken of a string is what was taken before and what is spelled up to the mark. -/
theorem of_stringBytes {taken input bytes rest : Bytes}
    (h : stringBytes taken input = .ok (bytes, rest)) :
    ∃ meant inner, StringOf meant inner ∧ input = inner ++ 0x22 :: rest ∧
      bytes = taken.reverse ++ meant := by
  fun_induction stringBytes taken input with
  | case1 => cases h
  | case2 taken rest' =>
    cases h
    exact ⟨[], [], .nil, rfl, (List.append_nil _).symm⟩
  | case3 => cases h
  | case4 taken rest' meant more hescaped _ _ ih =>
    obtain ⟨letters, hletters, rfl⟩ := escaped_eq_ok_iff.mp hescaped
    obtain ⟨bytes', inner, hinner, rfl, rfl⟩ := ih h
    refine ⟨meant ++ bytes', 0x5c :: (letters ++ inner), .escape hletters hinner, ?_, ?_⟩
    · simp
    · simp
  | case5 => cases h
  | case6 taken b rest' hquote hslash hcontrol ih =>
    obtain ⟨bytes', inner, hinner, rfl, rfl⟩ := ih h
    refine ⟨b :: bytes', b :: inner, .plain ⟨hquote, hslash, hcontrol⟩ hinner, rfl, ?_⟩
    simp

/-- What is spelled is taken. -/
theorem stringBytes_of_stringOf {meant inner : Bytes} (h : StringOf meant inner) (rest : Bytes) :
    ∀ taken : Bytes,
      stringBytes taken (inner ++ 0x22 :: rest) = .ok (taken.reverse ++ meant, rest) := by
  induction h with
  | nil =>
    intro taken
    rw [List.nil_append, stringBytes, if_pos rfl, List.append_nil]
  | plain hplain _ ih =>
    intro taken
    rw [List.cons_append, stringBytes_plain hplain, ih]
    simp
  | escape hescape _ ih =>
    intro taken
    rw [List.cons_append, List.append_assoc,
      stringBytes_backslash (escaped_eq_ok_iff.mpr ⟨_, hescape, rfl⟩), ih]
    simp

theorem stringText_eq_ok_iff {input rest : Bytes} {text : String} :
    stringText input = .ok (text, rest) ↔
      ∃ inner, StringOf (Bytes.ofText text) inner ∧ input = inner ++ 0x22 :: rest := by
  constructor
  · intro h
    unfold stringText at h
    split at h
    · cases h
    next bytes rest' htaken =>
      obtain ⟨meant, inner, hinner, rfl, rfl⟩ := of_stringBytes htaken
      split at h
      next text' htext =>
        cases h
        rw [Bytes.eq_ofText_of_text? htext] at hinner
        exact ⟨inner, hinner, rfl⟩
      next => cases h
  · rintro ⟨inner, hinner, rfl⟩
    simp only [stringText, stringBytes_of_stringOf hinner rest [], List.reverse_nil,
      List.nil_append, Bytes.text?_ofText]

/-! ## Single steps of a reader -/

section Steps

variable {α β : Type} {input rest : Bytes}

theorem Reader.bind_eq_ok_iff {reader : Reader α} {next : α → Reader β} {value : β} :
    (reader >>= next).read input = .ok (value, rest) ↔
      ∃ first more, reader.read input = .ok (first, more) ∧
        (next first).read more = .ok (value, rest) := by
  constructor
  · intro h
    cases hread : reader.read input with
    | error fault =>
      change (Reader.bind reader next).read input = _ at h
      simp only [Reader.bind, hread] at h
      cases h
    | ok taken =>
      rw [read_bind hread] at h
      exact ⟨taken.1, taken.2, rfl, h⟩
  · rintro ⟨first, more, hread, h⟩
    rw [read_bind hread, h]

theorem Reader.drop_eq_ok_iff {b : UInt8} {input rest : Bytes} :
    drop.read (b :: input) = .ok ((), rest) ↔ rest = input := by
  rw [read_drop]
  simp [eq_comm]

/-- A value of another shape is never taken. -/
theorem otherShape_ne_ok (b : UInt8) (input : Bytes) (taken : α × Bytes) :
    (otherShape b : Reader α).read input ≠ .ok taken := by
  have hfail : ∀ {γ : Type} (reader : Reader γ) (fault : Fault) (input : Bytes),
      (reader >>= fun _ => (fail fault : Reader α)).read input ≠ .ok taken := by
    intro γ reader fault input h
    obtain ⟨_, _, _, hfailed⟩ := bind_eq_ok_iff.mp (show _ = Except.ok (taken.1, taken.2) from h)
    cases hfailed
  have hdrop : ∀ {γ : Type} (reader : Reader γ) (fault : Fault),
      (drop >>= fun _ => reader >>= fun _ => (fail fault : Reader α)).read input ≠ .ok taken := by
    intro γ reader fault h
    obtain ⟨_, more, _, hmore⟩ := bind_eq_ok_iff.mp (show _ = Except.ok (taken.1, taken.2) from h)
    exact hfail reader fault more hmore
  unfold otherShape
  split
  · exact hdrop _ _
  split
  · exact hfail _ _ _
  split
  · exact hdrop _ _
  split
  · exact hdrop _ _
  split
  · exact hdrop _ _
  split <;> exact fun h => nomatch h

/-- What begins with a mark is taken behind blanks and the mark, and nothing else is. -/
theorem peek_mark_eq_ok_iff {mark : UInt8} (hmark : isBlank mark = false) {reader : Reader α}
    {value : α} :
    (peek fun b => if b = mark then (do drop; reader) else otherShape b).read input =
        .ok (value, rest) ↔
      ∃ blanks inside, Blanks blanks ∧ input = blanks ++ mark :: inside ∧
        reader.read inside = .ok (value, rest) := by
  constructor
  · intro h
    simp only [peek] at h
    split at h
    · cases h
    next b more hskipped =>
      by_cases hb : b = mark
      · subst hb
        rw [if_pos rfl] at h
        obtain ⟨_, inside, hdropped, hread⟩ := bind_eq_ok_iff.mp h
        obtain rfl := drop_eq_ok_iff.mp hdropped
        obtain ⟨blanks, hblanks, rfl⟩ := (skipBlanks_eq_cons_iff hmark).mp hskipped
        exact ⟨blanks, inside, hblanks, rfl, hread⟩
      · rw [if_neg hb] at h
        exact absurd h (otherShape_ne_ok b _ _)
  · rintro ⟨blanks, inside, hblanks, rfl, hread⟩
    have hskipped : skipBlanks (blanks ++ mark :: inside) = mark :: inside :=
      (skipBlanks_eq_cons_iff hmark).mpr ⟨blanks, hblanks, rfl⟩
    simp only [peek, hskipped, if_true]
    exact bind_eq_ok_iff.mpr ⟨(), inside, rfl, hread⟩

theorem read_text_iff {text : String} :
    Reader.text.read input = .ok (text, rest) ↔
      ∃ blanks spelled, Blanks blanks ∧ Quoted text spelled ∧ input = blanks ++ (spelled ++ rest) := by
  refine (peek_mark_eq_ok_iff (by decide)).trans ?_
  constructor
  · rintro ⟨blanks, inside, hblanks, rfl, hread⟩
    obtain ⟨inner, hinner, rfl⟩ := stringText_eq_ok_iff.mp hread
    exact ⟨blanks, _, hblanks, ⟨inner, hinner, rfl⟩, by simp⟩
  · rintro ⟨blanks, _, hblanks, ⟨inner, hinner, rfl⟩, rfl⟩
    exact ⟨blanks, inner ++ 0x22 :: rest, hblanks, by simp,
      stringText_eq_ok_iff.mpr ⟨inner, hinner, rfl⟩⟩

theorem read_colon_iff :
    colon.read input = .ok ((), rest) ↔
      ∃ blanks, Blanks blanks ∧ input = blanks ++ 0x3a :: rest := by
  rw [← skipBlanks_eq_cons_iff (by decide)]
  show (takeColon input).map ((), ·) = _ ↔ _
  unfold takeColon
  constructor
  · intro h
    split at h
    · cases h
    next b more hskipped =>
      split at h
      next hb =>
        cases h
        rw [hskipped, hb]
      next => cases h
  · intro h
    rw [h]
    rfl

end Steps

/-! ## Members -/

section Members

variable {first : Bool} {input rest : Bytes} {table final : Table String} {name : String}

theorem memberTurn_closed_iff :
    memberTurn first input = .ok (.closed rest) ↔
      ∃ blanks, Blanks blanks ∧ input = blanks ++ 0x7d :: rest := by
  rw [← skipBlanks_eq_cons_iff (by decide)]
  unfold memberTurn
  constructor
  · intro h
    split at h
    · cases h
    next b more hskipped =>
      split at h
      next hb =>
        cases h
        rw [hskipped, hb]
      next =>
        -- a name mark closes nothing
        have hmark : ∀ input, nameMark input ≠ .ok (.closed rest) := by
          intro input hmark
          unfold nameMark at hmark
          split at hmark
          · cases hmark
          · split at hmark <;> cases hmark
        split at h
        · exact absurd h (hmark _)
        · split at h
          · exact absurd h (hmark _)
          · cases h
  · intro h
    simp only [h, if_true]

theorem nameMark_eq_ok_iff :
    nameMark input = .ok (.another rest) ↔ input = 0x22 :: rest := by
  constructor
  · intro h
    unfold nameMark at h
    split at h
    · cases h
    next b more =>
      split at h
      next hb =>
        cases h
        rw [hb]
      next => cases h
  · rintro rfl
    rfl

theorem memberTurn_another_iff :
    memberTurn first input = .ok (.another rest) ↔
      ∃ separator, Separator first separator ∧ input = separator ++ 0x22 :: rest := by
  have hmark : isBlank 0x22 = false := by decide
  have hcomma : isBlank 0x2c = false := by decide
  unfold memberTurn Separator
  constructor
  · intro h
    split at h
    · cases h
    next b more hskipped =>
      split at h
      · cases h
      · split at h
        next hfirst =>
          have hquote := nameMark_eq_ok_iff.mp h
          rw [← hskipped] at hquote
          rw [hfirst]
          exact (skipBlanks_eq_cons_iff hmark).mp hquote
        next hnext =>
          split at h
          next hb =>
            subst hb
            obtain ⟨after, hafter, rfl⟩ :=
              (skipBlanks_eq_cons_iff hmark).mp (nameMark_eq_ok_iff.mp h)
            obtain ⟨before, hbefore, rfl⟩ := (skipBlanks_eq_cons_iff hcomma).mp hskipped
            refine ⟨before ++ 0x2c :: after, ?_, by simp⟩
            rw [if_neg hnext]
            exact ⟨before, after, hbefore, hafter, rfl⟩
          next => cases h
  · rintro ⟨separator, hseparator, rfl⟩
    cases first with
    | true =>
      have hskipped : skipBlanks (separator ++ 0x22 :: rest) = 0x22 :: rest :=
        (skipBlanks_eq_cons_iff hmark).mpr ⟨separator, hseparator, rfl⟩
      simp only [hskipped, if_true]
      rfl
    | false =>
      obtain ⟨before, after, hbefore, hafter, rfl⟩ := hseparator
      have hskipped : skipBlanks (before ++ 0x2c :: (after ++ 0x22 :: rest)) =
          0x2c :: (after ++ 0x22 :: rest) :=
        (skipBlanks_eq_cons_iff hcomma).mpr ⟨before, hbefore, rfl⟩
      have hquote : skipBlanks (after ++ 0x22 :: rest) = 0x22 :: rest :=
        (skipBlanks_eq_cons_iff hmark).mpr ⟨after, hafter, rfl⟩
      rw [List.append_assoc, List.cons_append]
      simp only [hskipped, Bool.false_eq_true, if_false, if_true, hquote]
      rfl

/-- The value of a member is taken behind its colon. -/
theorem read_textMember_iff :
    (textMember name table).read input = .ok (final, rest) ↔
      ∃ value before after text, Blanks before ∧ Blanks after ∧ Quoted value text ∧
        input = before ++ 0x3a :: (after ++ (text ++ rest)) ∧ final = table.insert name value := by
  unfold textMember
  constructor
  · intro h
    obtain ⟨_, more, hcolon, hvalue⟩ := bind_eq_ok_iff.mp h
    obtain ⟨value, rest', htext, hdone⟩ := bind_eq_ok_iff.mp hvalue
    obtain ⟨before, hbefore, rfl⟩ := read_colon_iff.mp hcolon
    obtain ⟨after, text, hafter, hquoted, rfl⟩ := read_text_iff.mp htext
    cases hdone
    exact ⟨value, before, after, text, hbefore, hafter, hquoted, rfl, rfl⟩
  · rintro ⟨value, before, after, text, hbefore, hafter, hquoted, rfl, rfl⟩
    refine bind_eq_ok_iff.mpr ⟨(), _, read_colon_iff.mpr ⟨before, hbefore, rfl⟩, ?_⟩
    exact bind_eq_ok_iff.mpr ⟨value, rest, read_text_iff.mpr ⟨after, text, hafter, hquoted, rfl⟩,
      rfl⟩

/-- Members are read onto a table as far as they are spelled. -/
theorem of_foldMembers (h : foldMembers textMember first table input = .ok (final, rest)) :
    ∃ members spelled, Members first members spelled ∧ input = spelled ++ rest ∧
      final = table.insertAll members := by
  fun_induction foldMembers textMember first table input with
  | case1 => cases h
  | case2 first table input rest' hturn =>
    cases h
    obtain ⟨blanks, hblanks, rfl⟩ := memberTurn_closed_iff.mp hturn
    exact ⟨[], _, .closed hblanks, by simp, rfl⟩
  | case3 => cases h
  | case4 => cases h
  | case5 first table input inside hturn name behind hname updated more hmember _ ih =>
    obtain ⟨separator, hseparator, rfl⟩ := memberTurn_another_iff.mp hturn
    obtain ⟨inner, hinner, rfl⟩ := stringText_eq_ok_iff.mp hname
    obtain ⟨value, before, after, text, hbefore, hafter, hquoted, rfl, rfl⟩ :=
      read_textMember_iff.mp hmember
    obtain ⟨members, spelled, hmembers, rfl, rfl⟩ := ih h
    refine ⟨(name, value) :: members, _,
      .another hseparator ⟨inner, hinner, rfl⟩ hbefore hafter hquoted hmembers, ?_, rfl⟩
    simp

/-- Members that are spelled are read onto a table. -/
theorem foldMembers_of_members {members : List (String × String)} {spelled : Bytes}
    (h : Members first members spelled) (rest : Bytes) : ∀ table : Table String,
      foldMembers textMember first table (spelled ++ rest) = .ok (table.insertAll members, rest) := by
  induction h with
  | @closed first blanks hblanks =>
    intro table
    have hturn : memberTurn first (blanks ++ [0x7d] ++ rest) = .ok (.closed rest) :=
      memberTurn_closed_iff.mpr ⟨blanks, hblanks, List.append_assoc blanks [0x7d] rest⟩
    rw [foldMembers]
    split
    next heq => rw [hturn] at heq; cases heq
    next heq =>
      rw [hturn] at heq
      cases heq
      rfl
    next heq => rw [hturn] at heq; cases heq
  | @another first name value members separator key before after text spelled hseparator hkey
      hbefore hafter hvalue _ ih =>
    intro table
    obtain ⟨inner, hinner, rfl⟩ := hkey
    have hmember : (textMember name table).read
        (before ++ 0x3a :: (after ++ (text ++ (spelled ++ rest)))) =
          .ok (table.insert name value, spelled ++ rest) :=
      read_textMember_iff.mpr ⟨value, before, after, text, hbefore, hafter, hvalue, rfl, rfl⟩
    refine Eq.trans ?_ (ih (table.insert name value))
    refine foldMembers_another (memberTurn_another_iff.mpr ⟨separator, hseparator, ?_⟩)
      (stringText_eq_ok_iff.mpr ⟨inner, hinner, rfl⟩) hmember
    simp

end Members

/-! ## Whole texts -/

/-- A table is read off the front where an object is spelled; the last value of a name counts. -/
theorem read_textTable_iff {input rest : Bytes} {table : Table String} :
    textTable.read input = .ok (table, rest) ↔
      ∃ blanks members spelled, Blanks blanks ∧ Members true members spelled ∧
        input = blanks ++ 0x7b :: (spelled ++ rest) ∧ table = .ofList members := by
  have htable : textTable.read input = .ok (table, rest) ↔
      ∃ blanks inside, Blanks blanks ∧ input = blanks ++ 0x7b :: inside ∧
        (Reader.members textMember .empty).read inside = .ok (table, rest) :=
    peek_mark_eq_ok_iff (by decide)
  refine htable.trans ?_
  constructor
  · rintro ⟨blanks, inside, hblanks, rfl, hread⟩
    obtain ⟨members, spelled, hmembers, rfl, rfl⟩ := of_foldMembers hread
    exact ⟨blanks, members, spelled, hblanks, hmembers, rfl, rfl⟩
  · rintro ⟨blanks, members, spelled, hblanks, hmembers, rfl, rfl⟩
    exact ⟨blanks, spelled ++ rest, hblanks, rfl, foldMembers_of_members hmembers rest .empty⟩

/-- A whole text is decoded as a table if it spells an object and nothing else. -/
theorem decode_textTable_iff {text : Bytes} {table : Table String} :
    decode textTable text = .ok table ↔
      ∃ members, ObjectText members text ∧ table = .ofList members := by
  unfold decode
  constructor
  · intro h
    split at h
    · cases h
    next value rest hread =>
      obtain ⟨before, members, spelled, hbefore, hmembers, rfl, rfl⟩ := read_textTable_iff.mp hread
      split at h
      next hrest =>
        cases h
        have hafter := skipBlanks_eq_nil_iff.mp (List.isEmpty_iff.mp hrest)
        exact ⟨members, ⟨before, spelled, rest, hbefore, hmembers, hafter, rfl⟩, rfl⟩
      next => cases h
  · rintro ⟨members, ⟨before, spelled, after, hbefore, hmembers, hafter, rfl⟩, rfl⟩
    have hread : textTable.read (before ++ 0x7b :: (spelled ++ after)) =
        .ok (.ofList members, after) :=
      read_textTable_iff.mpr ⟨before, members, spelled, hbefore, hmembers, rfl, rfl⟩
    simp only [hread, skipBlanks_eq_nil_iff.mpr hafter, List.isEmpty_nil, if_true]

/-! ## Written texts -/

theorem blanks_nil : Blanks [] := fun _ h => nomatch h

/-- A text is spelled by what is written for it. -/
theorem quoted_of_text (text : String) : Quoted text (Bytes.ofChars (quoted text)) := by
  obtain ⟨inner, hinner, heq⟩ := stringText_eq_ok_iff.mp (stringText_quoted text [])
  refine ⟨inner, hinner, ?_⟩
  rw [ofChars_quoted, List.append_cancel_right heq]

/-- A written member stands in front of the others. -/
theorem members_entryChars {first : Bool} {separator spelled : Bytes} {name value : String}
    {members : List (String × String)} (hseparator : Separator first separator)
    (h : Members false members spelled) :
    Members first ((name, value) :: members)
      (separator ++ (Bytes.ofChars (entryChars (name, .str value)) ++ spelled)) := by
  have hmember := Members.another hseparator (quoted_of_text name) blanks_nil blanks_nil
    (quoted_of_text value) h
  have hentry : Bytes.ofChars (entryChars (name, .str value)) =
      Bytes.ofChars (quoted name) ++ 0x3a :: Bytes.ofChars (quoted value) := by
    rw [entryChars, Json.chars, Bytes.ofChars_append, Bytes.ofChars_cons_of_lt (by decide)]
    rfl
  rw [hentry, List.append_assoc]
  exact hmember

/-- Texts that are written as an object are its members, in their order. -/
theorem objectText_of_pairs (pairs : List (String × String)) :
    ObjectText pairs (Bytes.ofChars (Json.obj (pairs.map fun e => (e.1, .str e.2))).chars) := by
  have hclosed : ∀ first, Members first [] [0x7d] := fun first => .closed blanks_nil
  have hfirst : Separator true [] := blanks_nil
  have htail : ∀ pairs : List (String × String), Members false pairs
      (Bytes.ofChars ((pairs.map fun e => (e.1, Json.str e.2)).flatMap
        fun e => ',' :: entryChars e) ++ [0x7d]) := by
    intro pairs
    induction pairs with
    | nil => exact hclosed false
    | cons pair pairs ih =>
      have hcomma : Separator false [0x2c] := ⟨[], [], blanks_nil, blanks_nil, rfl⟩
      rw [List.map_cons, List.flatMap_cons, List.cons_append, ofChars_comma,
        Bytes.ofChars_append, List.cons_append, List.append_assoc]
      exact members_entryChars hcomma ih
  have hmembers : Members true pairs
      (Bytes.ofChars (memberChars (pairs.map fun e => (e.1, .str e.2))) ++ [0x7d]) := by
    cases pairs with
    | nil => exact hclosed true
    | cons pair pairs =>
      rw [List.map_cons, memberChars_cons, Bytes.ofChars_append, List.append_assoc]
      exact members_entryChars hfirst (htail pairs)
  rw [ofChars_obj]
  exact ⟨[], _, [], blanks_nil, hmembers, blanks_nil, by simp⟩

end AssetCache.Json
