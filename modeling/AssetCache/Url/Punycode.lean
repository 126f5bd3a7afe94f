/-!
# Punycode

Punycode writes a label of arbitrary characters with letters, digits and hyphens.
The ASCII characters come first as they are, with a hyphen behind them if there
are any. Then come the others in the order of their code points, each as the
distance from the one before, counted in steps of one position at one code point
and written with digits of varying weight: the threshold at which a number ends
adapts to the size of the last distance.
-/

set_option autoImplicit false

namespace AssetCache.Url.Punycode

/-- The character of a digit below thirty-six. -/
def digitChar (d : Nat) : Char := if d < 26 then Char.ofNat (d + 97) else Char.ofNat (d + 22)

/-- The digit of a character. -/
def digit? (c : Char) : Option Nat :=
  let n := c.toNat
  if 97 ≤ n ∧ n ≤ 122 then some (n - 97)
  else if 65 ≤ n ∧ n ≤ 90 then some (n - 65)
  else if 48 ≤ n ∧ n ≤ 57 then some (n - 22)
  else none

/-- The least digit at a position that does not end a number. -/
def threshold (position bias : Nat) : Nat := max 1 (min 26 (position - bias))

theorem threshold_pos (position bias : Nat) : 1 ≤ threshold position bias := Nat.le_max_left _ _

theorem threshold_le (position bias : Nat) : threshold position bias ≤ 26 :=
  Nat.max_le.mpr ⟨by decide, Nat.min_le_left _ _⟩

/-- How often a number is divided by thirty-five to come down to 455, and what it comes down to. -/
def scaleDown (delta : Nat) : Nat × Nat :=
  if h : 455 < delta then
    have : delta / 35 < delta := Nat.div_lt_self (by omega) (by decide)
    let (times, rest) := scaleDown (delta / 35)
    (times + 1, rest)
  else (0, delta)
termination_by delta

/-- The bias that follows a distance, for so many characters placed. -/
def adapt (delta placed : Nat) (first : Bool) : Nat :=
  let damped := if first then delta / 700 else delta / 2
  let (times, rest) := scaleDown (damped + damped / placed)
  36 * times + 36 * rest / (rest + 38)

/-- Whether a character is ASCII. -/
def isBasic (c : Char) : Bool := c.toNat < 128

/-! ## Writing -/

/-- The digits of a distance from a position on. -/
def digits (bias position distance : Nat) : List Char :=
  let t := threshold position bias
  if _h : distance < t then [digitChar distance]
  else
    have : (distance - t) / (36 - t) < distance := by
      have := threshold_pos position bias
      have : (distance - t) / (36 - t) ≤ distance - t := Nat.div_le_self _ _
      omega
    digitChar (t + (distance - t) % (36 - t)) ::
      digits bias (position + 36) ((distance - t) / (36 - t))
termination_by distance

/-- What has been written, and where the next distance starts. -/
structure Written where
  /-- The digits so far, last first. -/
  reversed : List Char
  distance : Nat
  bias : Nat
  placed : Nat

/-- Go over one character of the label while code point `n` is placed. -/
def step (basic n : Nat) (w : Written) (c : Char) : Written :=
  if c.toNat < n then { w with distance := w.distance + 1 }
  else if c.toNat = n then
    { reversed := (digits w.bias 36 w.distance).reverse ++ w.reversed
      distance := 0
      bias := adapt w.distance (w.placed + 1) (w.placed == basic)
      placed := w.placed + 1 }
  else w

/-- Place the code points that are left, in ascending order. -/
def place (label : List Char) (basic : Nat) (from_ : Nat) (w : Written) : List Nat → Written
  | [] => w
  | n :: rest =>
    let w := { w with distance := w.distance + (n - from_) * (w.placed + 1) }
    let w := label.foldl (step basic n) w
    place label basic (n + 1) { w with distance := w.distance + 1 } rest

/-- Put a number at its place in an ascending list that holds no number twice. -/
def insertAscending (n : Nat) : List Nat → List Nat
  | [] => [n]
  | m :: rest =>
    if n < m then n :: m :: rest
    else if n = m then m :: rest
    else m :: insertAscending n rest

/-- The code points of a label beyond ASCII, ascending. -/
def extended (label : List Char) : List Nat :=
  (label.filter fun c => !isBasic c).foldr (fun c taken => insertAscending c.toNat taken) []

/-- The written form of a label. -/
def encode (label : List Char) : List Char :=
  let basic := label.filter isBasic
  let w := place label basic.length 128 ⟨[], 0, 72, basic.length⟩ (extended label)
  (if basic.isEmpty then [] else basic ++ ['-']) ++ w.reversed.reverse

/-! ## Reading -/

/-- The number whose digits stand in front, and what is left. -/
def distance? (bias : Nat) (value weight position : Nat) : List Char → Option (Nat × List Char)
  | [] => none
  | c :: rest =>
    match digit? c with
    | none => none
    | some d =>
      let t := threshold position bias
      if d < t then some (value + d * weight, rest)
      else distance? bias (value + d * weight) (weight * (36 - t)) (position + 36) rest

theorem distance?_lt {bias : Nat} :
    ∀ {value weight position : Nat} {input : List Char} {n : Nat} {rest : List Char},
      distance? bias value weight position input = some (n, rest) → rest.length < input.length
  | _, _, _, [], _, _, h => by cases h
  | _, _, _, c :: input, _, _, h => by
    unfold distance? at h
    split at h
    · cases h
    · simp only at h
      split at h
      · cases h; simp
      · exact Nat.lt_succ_of_lt (distance?_lt h)

/-- Read the distances that are left and place their characters. -/
def placeAll? (label : List Char) (n at_ bias : Nat) (first : Bool) (input : List Char) :
    Option (List Char) :=
  if input.isEmpty then some label
  else
    match h : distance? bias 0 1 36 input with
    | none => none
    | some (distance, rest) =>
      have := distance?_lt h
      let size := label.length + 1
      let steps := at_ + distance
      let n := n + steps / size
      let at_ := steps % size
      if n < 0x110000 ∧ ¬ (0xd800 ≤ n ∧ n < 0xe000) then
        placeAll? (label.insertIdx at_ (Char.ofNat n)) n (at_ + 1)
          (adapt distance size first) false rest
      else none
termination_by input.length

/-- The ASCII characters before the last hyphen, and the digits behind it. -/
def splitBasic (written : List Char) : List Char × List Char :=
  let digits := (written.reverse.takeWhile (· != '-')).reverse
  (written.take (written.length - digits.length - 1), digits)

/-- The label that a written form stands for. -/
def decode? (written : List Char) : Option (List Char) :=
  let (basic, digits) := splitBasic written
  if basic.all isBasic then placeAll? basic 128 0 72 true digits else none

end AssetCache.Url.Punycode
