import AssetCache.Table
import AssetCache.Json.Numeral
import AssetCache.Json.Skip

/-!
# Reading JSON into a wanted shape

A shape is a text, a small number, a list, a table or a record. A value of
another shape is still read through when it is a scalar, so that a malformed
scalar is reported as malformed; an array or object of the wrong shape is
reported at its bracket.

A record is given as an object, or as the array of its fields in the order in
which they are declared. In an object a member of an unknown name is passed over
and a second member of a known name is a mismatch, found as soon as its name has
been read. In an array fields may be missing at the end. What a missing field
means is for the record to say, once all has been read.
-/

set_option autoImplicit false

namespace AssetCache.Json

open Reader

namespace Reader

variable {α β σ : Type}

/-- Go by the first byte after the blanks, which stays in place. -/
def peek (next : UInt8 → Reader α) : Reader α where
  read input :=
    match skipBlanks input with
    | [] => .error .truncated
    | b :: rest => (next b).read (b :: rest)
  rest_le {input _ _} h := by
    have hle := skipBlanks_le input
    split at h
    · cases h
    next heq => rw [heq] at hle; exact Nat.le_trans ((next _).rest_le h) hle

/-- Drop one byte that has been looked at. -/
def drop : Reader Unit where
  read input := .ok ((), input.tail)
  rest_le {input _ _} h := by cases h; simp

/-- Take a word whose first letter has been dropped. -/
def letters (bytes : Bytes) : Reader Unit where
  read input := (word bytes input).map ((), ·)
  rest_le {input _ _} h := by
    cases hw : word bytes input with
    | error => rw [hw] at h; cases h
    | ok rest => rw [hw] at h; cases h; exact word_le hw

/-- The text of a string whose opening quotation mark has been dropped. -/
def quotedText : Reader String where
  read := stringText
  rest_le h := Nat.le_of_lt (stringText_lt h)

/-- The numeral that stands here. -/
def numeral : Reader Number where
  read := number
  rest_le h := number_le h

/-- Pass over whatever value stands here. -/
def ignored : Reader Unit where
  read input := (skipValue [] input).map ((), ·)
  rest_le {input _ _} h := by
    cases hv : skipValue [] input with
    | error => rw [hv] at h; cases h
    | ok rest => rw [hv] at h; cases h; exact skipValue_le _ _ hv

/-- The colon between a name and its value. -/
def colon : Reader Unit where
  read input := (takeColon input).map ((), ·)
  rest_le {input _ _} h := by
    cases hc : takeColon input with
    | error => rw [hc] at h; cases h
    | ok rest => rw [hc] at h; cases h; exact Nat.le_of_lt (takeColon_lt hc)

/-- Whether a byte can begin a numeral. -/
def beginsNumeral (b : UInt8) : Bool := b == 0x2d || isDigit b

/-- The value here begins with a byte that the wanted shape does not begin with. -/
def otherShape (b : UInt8) : Reader α :=
  if b = 0x22 then do
    drop
    let _ ← quotedText
    fail .mismatched
  else if beginsNumeral b then do
    let _ ← numeral
    fail .mismatched
  else if b = 0x6e then do
    drop
    letters [0x75, 0x6c, 0x6c]
    fail .mismatched
  else if b = 0x74 then do
    drop
    letters [0x72, 0x75, 0x65]
    fail .mismatched
  else if b = 0x66 then do
    drop
    letters [0x61, 0x6c, 0x73, 0x65]
    fail .mismatched
  else if b = 0x5b ∨ b = 0x7b then fail .mismatched
  else fail .malformed

end Reader

/-! ## Members and elements -/

/-- What is found where a further member or element may stand. -/
inductive Turn where
  /-- The closing bracket, and what follows it. -/
  | closed (rest : Bytes)
  /-- A further one, of which the opening mark of a name has been taken. -/
  | another (rest : Bytes)

/-- The opening quotation mark of a member's name. -/
def nameMark : Bytes → Except Fault Turn
  | [] => .error .truncated
  | b :: rest => if b = 0x22 then .ok (.another rest) else .error .malformed

/-- A further member of an object, behind a comma unless it is the first. -/
def memberTurn (first : Bool) (input : Bytes) : Except Fault Turn :=
  match skipBlanks input with
  | [] => .error .truncated
  | b :: rest =>
    if b = 0x7d then .ok (.closed rest)
    else if first then nameMark (b :: rest)
    else if b = 0x2c then nameMark (skipBlanks rest)
    else .error .malformed

/-- A further element of an array, behind a comma unless it is the first. -/
def elementTurn (first : Bool) (input : Bytes) : Except Fault Turn :=
  match skipBlanks input with
  | [] => .error .truncated
  | b :: rest =>
    if b = 0x5d then .ok (.closed rest)
    else if first then .ok (.another (b :: rest))
    else if b = 0x2c then
      match skipBlanks rest with
      | [] => .error .truncated
      | c :: rest => if c = 0x5d then .error .malformed else .ok (.another (c :: rest))
    else .error .malformed

/-- What a turn leaves to be read. -/
def Turn.rest : Turn → Bytes
  | .closed rest => rest
  | .another rest => rest

theorem nameMark_lt {input : Bytes} {turn : Turn} (h : nameMark input = .ok turn) :
    turn.rest.length < input.length := by
  unfold nameMark at h
  split at h
  · cases h
  · split at h
    · cases h; simp [Turn.rest]
    · cases h

theorem memberTurn_lt {first : Bool} {input : Bytes} {turn : Turn}
    (h : memberTurn first input = .ok turn) : turn.rest.length < input.length := by
  unfold memberTurn at h
  have hle := skipBlanks_le input
  split at h
  · cases h
  next b rest heq =>
    rw [heq] at hle
    simp only [List.length_cons] at hle
    split at h
    · cases h; exact hle
    · split at h
      · exact Nat.lt_of_lt_of_le (nameMark_lt h) hle
      · split at h
        · have := nameMark_lt h
          have := skipBlanks_le rest
          omega
        · cases h

theorem elementTurn_lt {first : Bool} {input : Bytes} {turn : Turn}
    (h : elementTurn first input = .ok turn) :
    turn.rest.length < input.length + first.toNat := by
  unfold elementTurn at h
  have hle := skipBlanks_le input
  split at h
  · cases h
  next b rest heq =>
    rw [heq] at hle
    simp only [List.length_cons] at hle
    split at h
    · cases h; simp only [Turn.rest]; omega
    · split at h
      next hf =>
        cases h
        simp only [Turn.rest, List.length_cons, hf, Bool.toNat_true]
        omega
      · split at h
        · have hr := skipBlanks_le rest
          split at h
          · cases h
          next hc =>
            rw [hc] at hr
            simp only [List.length_cons] at hr
            split at h
            · cases h
            · cases h; simp only [Turn.rest, List.length_cons]; omega
        · cases h

/-- The members that are left of an object, each read onto a state under its name. -/
def foldMembers {σ : Type} (member : String → σ → Reader σ) (first : Bool) (state : σ)
    (input : Bytes) : Except Fault (σ × Bytes) :=
  match ht : memberTurn first input with
  | .error fault => .error fault
  | .ok (.closed rest) => .ok (state, rest)
  | .ok (.another rest) =>
    match hn : stringText rest with
    | .error fault => .error fault
    | .ok (name, rest') =>
      match hm : (member name state).read rest' with
      | .error fault => .error fault
      | .ok (updated, rest'') =>
        have : rest''.length < input.length := by
          have h1 : rest.length < input.length := memberTurn_lt ht
          have h2 := stringText_lt hn
          have h3 := (member name state).rest_le hm
          omega
        foldMembers member false updated rest''
termination_by input.length

theorem foldMembers_le {σ : Type} (member : String → σ → Reader σ) (first : Bool) (state : σ)
    (input : Bytes) {out : σ} {rest : Bytes}
    (h : foldMembers member first state input = .ok (out, rest)) :
    rest.length ≤ input.length := by
  fun_induction foldMembers member first state input with
  | case1 => cases h
  | case2 first state input rest' ht =>
    cases h
    exact Nat.le_of_lt (memberTurn_lt ht)
  | case3 => cases h
  | case4 => cases h
  | case5 _ _ _ _ _ _ _ _ _ _ _ hlt ih => exact Nat.le_trans (ih h) (Nat.le_of_lt hlt)

/-- The elements that are left of an array, each read onto a state. -/
def foldElements {σ : Type} (element : σ → Reader σ) (first : Bool) (state : σ)
    (input : Bytes) : Except Fault (σ × Bytes) :=
  match ht : elementTurn first input with
  | .error fault => .error fault
  | .ok (.closed rest) => .ok (state, rest)
  | .ok (.another rest) =>
    match he : (element state).read rest with
    | .error fault => .error fault
    | .ok (updated, rest') =>
      have : rest'.length < input.length + first.toNat := by
        have h1 : rest.length < input.length + first.toNat := elementTurn_lt ht
        have h2 := (element state).rest_le he
        omega
      foldElements element false updated rest'
termination_by input.length + first.toNat

theorem foldElements_le {σ : Type} (element : σ → Reader σ) (first : Bool) (state : σ)
    (input : Bytes) {out : σ} {rest : Bytes}
    (h : foldElements element first state input = .ok (out, rest)) :
    rest.length ≤ input.length := by
  fun_induction foldElements element first state input with
  | case1 => cases h
  | case2 first _ input _ ht =>
    cases h
    have : rest.length < input.length + first.toNat := elementTurn_lt ht
    have := Bool.toNat_le first
    omega
  | case3 => cases h
  | case4 first state input _ _ _ _ _ hlt ih =>
    have := ih h
    have := Bool.toNat_le first
    omega

namespace Reader

variable {α σ : Type}

/-! ## Shapes -/

/-- A text. -/
def text : Reader String :=
  peek fun b =>
    if b = 0x22 then do
      drop
      quotedText
    else otherShape b

/-- A whole number from zero up to a bound. -/
def natUpTo (bound : Nat) : Reader Nat :=
  peek fun b =>
    if beginsNumeral b then do
      match ← numeral with
      | .whole (.ofNat n) => if n ≤ bound then return n else fail .mismatched
      | _ => fail .mismatched
    else otherShape b

/-- The members of an object whose bracket has been dropped. -/
def members (member : String → σ → Reader σ) (state : σ) : Reader σ where
  read := foldMembers member true state
  rest_le h := foldMembers_le _ _ _ _ h

/-- The elements of an array whose bracket has been dropped. -/
def elements (element : σ → Reader σ) (state : σ) : Reader σ where
  read := foldElements element true state
  rest_le h := foldElements_le _ _ _ _ h

/-- A list of texts, in their order. -/
def texts : Reader (List String) :=
  peek fun b =>
    if b = 0x5b then do
      drop
      let reversed ← elements (fun taken => do return (← text) :: taken) []
      return reversed.reverse
    else otherShape b

/-- A table of texts: of two members of one name the later counts. -/
def textTable : Reader (Table String) :=
  peek fun b =>
    if b = 0x7b then do
      drop
      members (fun name table => do
        colon
        return table.insert name (← text)) .empty
    else otherShape b

/-- Go by whether the array here is closed. -/
def elementOr (first : Bool) (closed : Reader α) (another : Reader α) : Reader α where
  read input :=
    match elementTurn first input with
    | .error fault => .error fault
    | .ok (.closed rest) => closed.read rest
    | .ok (.another rest) => another.read rest
  rest_le {input _ _} h := by
    have := Bool.toNat_le first
    split at h
    · cases h
    next rest ht =>
      have : rest.length < input.length + first.toNat := elementTurn_lt ht
      have := closed.rest_le h
      omega
    next rest ht =>
      have : rest.length < input.length + first.toNat := elementTurn_lt ht
      have := another.rest_le h
      omega

/-- The closing bracket of an array of which nothing more is wanted. -/
def arrayEnd : Reader Unit :=
  peek fun b => if b = 0x5d then drop else fail .malformed

end Reader

/-! ## Records -/

/-- A field of a record that is read onto a state of type `σ`. -/
structure Field (σ : Type) where
  name : String
  /-- Whether the field has been read already. -/
  present : σ → Bool
  /-- Read the field's value onto the state. -/
  read : σ → Reader σ

namespace Reader

variable {σ : Type}

/-- One member of a record. -/
def recordMember (fields : List (Field σ)) (name : String) (state : σ) : Reader σ :=
  match fields.find? (·.name == name) with
  | none => do
    colon
    ignored
    return state
  | some field =>
    if field.present state then fail .mismatched
    else do
      colon
      field.read state

/-- The fields of a record in an array whose bracket has been dropped. -/
def recordElements (first : Bool) : List (Field σ) → σ → Reader σ
  | [], state => do
    arrayEnd
    return state
  | field :: fields, state =>
    elementOr first (pure state) do
      let state ← field.read state
      recordElements false fields state

/-- A record, read onto the state in which no field is present. -/
def record (fields : List (Field σ)) (blank : σ) : Reader σ :=
  peek fun b =>
    if b = 0x7b then do
      drop
      members (recordMember fields) blank
    else if b = 0x5b then do
      drop
      recordElements true fields blank
    else otherShape b

/-- A field that must be there. -/
def required {α : Type} : Option α → Reader α
  | some value => pure value
  | none => fail .mismatched

/-- Read a whole text: only blanks may follow the value. -/
def decode {α : Type} (reader : Reader α) (input : Bytes) : Except Fault α :=
  match reader.read input with
  | .error fault => .error fault
  | .ok (value, rest) => if (skipBlanks rest).isEmpty then .ok value else .error .malformed

end Reader

end AssetCache.Json
