import AssetCache.Json.Shape
import AssetCache.Proofs.Json.Strings

/-!
# Written objects are read back

The members of a written object are read one after the other, each onto the state
that the one before it left (`read_members`). What a member does to the state is for
its reader to say (`Takes`); the marks between members, and the turns at which the
reader looks for them, are dealt with here once for all shapes.
-/

set_option autoImplicit false

namespace AssetCache.Json

variable {α β σ : Type}

/-! ## Single steps of a reader -/

theorem skipBlanks_cons {b : UInt8} (h : isBlank b = false) (rest : Bytes) :
    skipBlanks (b :: rest) = b :: rest := by
  rw [skipBlanks, List.dropWhile_cons_of_neg (by simp [h])]

namespace Reader

theorem read_bind {reader : Reader α} {next : α → Reader β} {input rest : Bytes} {value : α}
    (h : reader.read input = .ok (value, rest)) :
    (reader >>= next).read input = (next value).read rest := by
  show (Reader.bind reader next).read input = _
  simp only [Reader.bind, h]

theorem read_drop (b : UInt8) (rest : Bytes) : drop.read (b :: rest) = .ok ((), rest) := rfl

theorem read_peek {b : UInt8} (h : isBlank b = false) (next : UInt8 → Reader α) (rest : Bytes) :
    (peek next).read (b :: rest) = (next b).read (b :: rest) := by
  simp only [peek, skipBlanks_cons h]

theorem read_colon (rest : Bytes) : colon.read (0x3a :: rest) = .ok ((), rest) := by
  show (takeColon (0x3a :: rest)).map ((), ·) = _
  rw [takeColon, skipBlanks_cons (by decide)]
  rfl

/-- A quoted text is read back as a text. -/
theorem read_text (value : String) (rest : Bytes) :
    text.read (Bytes.ofChars (quoted value) ++ rest) = .ok (value, rest) := by
  rw [ofChars_quoted, List.cons_append, List.append_assoc, text, read_peek (by decide),
    if_pos rfl, read_bind (read_drop _ _)]
  exact stringText_quoted value rest

end Reader

/-! ## Turns -/

theorem memberTurn_closed (first : Bool) (rest : Bytes) :
    memberTurn first (0x7d :: rest) = .ok (.closed rest) := by
  simp only [memberTurn, skipBlanks_cons (show isBlank 0x7d = false by decide), if_true]

theorem memberTurn_first (rest : Bytes) :
    memberTurn true (0x22 :: rest) = .ok (.another rest) := by
  simp only [memberTurn, skipBlanks_cons (show isBlank 0x22 = false by decide), nameMark,
    if_true]
  rw [if_neg (by decide)]

theorem memberTurn_next (rest : Bytes) :
    memberTurn false (0x2c :: 0x22 :: rest) = .ok (.another rest) := by
  simp only [memberTurn, skipBlanks_cons (show isBlank 0x2c = false by decide),
    skipBlanks_cons (show isBlank 0x22 = false by decide), nameMark, if_true]
  rw [if_neg (by decide), if_neg (by decide)]

variable {member : String → σ → Reader σ}

theorem foldMembers_closed (first : Bool) (state : σ) (rest : Bytes) :
    foldMembers member first state (0x7d :: rest) = .ok (state, rest) := by
  have ht := memberTurn_closed first rest
  rw [foldMembers]
  split
  next heq => rw [ht] at heq; cases heq
  next heq =>
    rw [ht] at heq
    cases heq
    rfl
  next heq => rw [ht] at heq; cases heq

/-- One member is read and the others are left. -/
theorem foldMembers_another {first : Bool} {state updated : σ} {name : String}
    {input rest rest' rest'' : Bytes} (ht : memberTurn first input = .ok (.another rest))
    (hn : stringText rest = .ok (name, rest'))
    (hm : (member name state).read rest' = .ok (updated, rest'')) :
    foldMembers member first state input = foldMembers member false updated rest'' := by
  rw [foldMembers]
  split
  next heq => rw [ht] at heq; cases heq
  next heq => rw [ht] at heq; cases heq
  next heq =>
    rw [ht] at heq
    cases heq
    split
    next heq => rw [hn] at heq; cases heq
    next heq =>
      rw [hn] at heq
      cases heq
      split
      next heq => rw [hm] at heq; cases heq
      next heq =>
        rw [hm] at heq
        cases heq
        rfl

/-! ## Members -/

/-- What may follow a member of an object: a comma or the closing bracket. -/
def Delimited (rest : Bytes) : Prop := ∃ b more, rest = b :: more ∧ (b = 0x2c ∨ b = 0x7d)

/-- A written member is read from one state onto another. -/
def Takes (member : String → σ → Reader σ) (state : σ) (entry : String × Json) (updated : σ) :
    Prop :=
  ∀ rest, Delimited rest →
    (member entry.1 state).read (0x3a :: (Bytes.ofChars entry.2.chars ++ rest)) =
      .ok (updated, rest)

/-- Written members are read one after the other. -/
inductive TakesAll (member : String → σ → Reader σ) : σ → List (String × Json) → σ → Prop
  | nil (state : σ) : TakesAll member state [] state
  | cons {state updated final : σ} {entry : String × Json} {entries : List (String × Json)} :
    Takes member state entry updated → TakesAll member updated entries final →
      TakesAll member state (entry :: entries) final

/-- A member as it is written. -/
def entryChars (entry : String × Json) : List Char := quoted entry.1 ++ ':' :: entry.2.chars

theorem memberChars_cons (entry : String × Json) (entries : List (String × Json)) :
    memberChars (entry :: entries) =
      entryChars entry ++ entries.flatMap fun e => ',' :: entryChars e := by
  induction entries generalizing entry with
  | nil =>
    rw [List.flatMap_nil, List.append_nil]
    rfl
  | cons next entries ih =>
    rw [memberChars, ih next, List.flatMap_cons]
    · simp only [entryChars, List.append_assoc, List.cons_append]
    · intro h; cases h

theorem ofChars_entryChars (entry : String × Json) :
    Bytes.ofChars (entryChars entry) =
      0x22 :: (Bytes.ofChars (entry.1.toList.flatMap escape) ++
        0x22 :: 0x3a :: Bytes.ofChars entry.2.chars) := by
  rw [entryChars, Bytes.ofChars_append, ofChars_quoted, Bytes.ofChars_cons_of_lt (by decide)]
  simp only [List.cons_append, List.append_assoc, List.nil_append]
  rfl

theorem ofChars_comma (chars : List Char) :
    Bytes.ofChars (',' :: chars) = 0x2c :: Bytes.ofChars chars := by
  rw [Bytes.ofChars_cons_of_lt (by decide)]
  rfl

/-- What follows a member in an object is a comma or the closing bracket. -/
theorem delimited_tail (entries : List (String × Json)) (rest : Bytes) :
    Delimited (Bytes.ofChars (entries.flatMap fun e => ',' :: entryChars e) ++ 0x7d :: rest) := by
  cases entries with
  | nil => exact ⟨0x7d, rest, rfl, .inr rfl⟩
  | cons entry entries =>
    rw [List.flatMap_cons, List.cons_append, ofChars_comma, List.cons_append]
    exact ⟨0x2c, _, rfl, .inl rfl⟩

theorem foldMembers_tail {state final : σ} {entries : List (String × Json)}
    (h : TakesAll member state entries final) (rest : Bytes) :
    foldMembers member false state
      (Bytes.ofChars (entries.flatMap fun e => ',' :: entryChars e) ++ 0x7d :: rest) =
        .ok (final, rest) := by
  induction h with
  | nil state => exact foldMembers_closed false state rest
  | cons htake _ ih =>
    rw [List.flatMap_cons, List.cons_append, ofChars_comma, Bytes.ofChars_append,
      ofChars_entryChars]
    simp only [List.cons_append, List.append_assoc]
    rw [foldMembers_another (memberTurn_next _) (stringText_quoted _ _)
      (htake _ (delimited_tail _ rest))]
    exact ih

/-- The members of a written object are read back, and the closing bracket is taken. -/
theorem read_members {state final : σ} {entries : List (String × Json)}
    (h : TakesAll member state entries final) (rest : Bytes) :
    (Reader.members member state).read (Bytes.ofChars (memberChars entries) ++ 0x7d :: rest) =
      .ok (final, rest) := by
  show foldMembers member true state _ = _
  cases h with
  | nil => exact foldMembers_closed true state rest
  | cons htake hrest =>
    rw [memberChars_cons, Bytes.ofChars_append, ofChars_entryChars]
    simp only [List.cons_append, List.append_assoc]
    rw [foldMembers_another (memberTurn_first _) (stringText_quoted _ _)
      (htake _ (delimited_tail _ rest))]
    exact foldMembers_tail hrest rest

theorem ofChars_obj (entries : List (String × Json)) :
    Bytes.ofChars (Json.obj entries).chars =
      0x7b :: (Bytes.ofChars (memberChars entries) ++ [0x7d]) := by
  rw [chars, List.cons_append, Bytes.ofChars_cons_of_lt (by decide), Bytes.ofChars_append]
  rfl

end AssetCache.Json
