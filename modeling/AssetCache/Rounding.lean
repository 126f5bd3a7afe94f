/-!
# Rounding to nearest

A quotient is rounded to the nearest whole number, and a number to its leading
fifty-three binary digits, which is what double precision holds. A half goes to
the even neighbour.
-/

set_option autoImplicit false

namespace AssetCache.Rounding

/-- A quotient rounded to the nearest whole number, a half to the even neighbour. -/
def roundDiv (num den : Nat) : Nat :=
  let q := num / den
  let r := num % den
  if 2 * r < den then q
  else if den < 2 * r then q + 1
  else if q % 2 = 0 then q else q + 1

/-- A number rounded to fifty-three significant binary digits. -/
def toPrecision53 (n : Nat) : Nat :=
  let unit := Nat.pow 2 (Nat.log2 n - 52)
  roundDiv n unit * unit

/-- A rounded quotient is within half a unit. -/
theorem roundDiv_within_half (num den : Nat) (h : 0 < den) :
    2 * num ≤ 2 * (roundDiv num den) * den + den ∧
      2 * (roundDiv num den) * den ≤ 2 * num + den := by
  have hdiv := Nat.div_add_mod num den
  have hmod := Nat.mod_lt num h
  have hexp : ∀ q : Nat, 2 * q * den = 2 * (den * q) := fun q => by
    rw [Nat.mul_assoc, Nat.mul_comm q den]
  have hexp1 : ∀ q : Nat, 2 * (q + 1) * den = 2 * (den * q) + 2 * den := fun q => by
    rw [hexp, Nat.mul_add, Nat.mul_add, Nat.mul_one]
  unfold roundDiv
  simp only
  repeat' split
  all_goals
    first
      | rw [hexp1]; omega
      | rw [hexp]; omega

/-- A number of at most fifty-three binary digits is kept. -/
theorem toPrecision53_of_lt {n : Nat} (h : n < Nat.pow 2 53) : toPrecision53 n = n := by
  have hlog : Nat.log2 n - 52 = 0 := by
    rcases Nat.eq_zero_or_pos n with rfl | hpos
    · rfl
    · have := (Nat.log2_lt (Nat.ne_of_gt hpos)).mpr h
      omega
  simp [toPrecision53, hlog, roundDiv, Nat.mod_one]

end AssetCache.Rounding
