/-!
# Rounding a quotient

`roundDiv` rounds a quotient of natural numbers to the nearest natural number, a half to the even
neighbour.
-/

set_option autoImplicit false

namespace SqlBuilder.Number

/-- `num / den` to the nearest natural number, a half to the even neighbour. -/
def roundDiv (num den : Nat) : Nat :=
  let q := num / den
  let twice := 2 * (num % den)
  if twice < den then q
  else if den < twice then q + 1
  else q + q % 2

/-! ## Laws -/

/-- The result is at most half a unit away. -/
theorem roundDiv_near {num den : Nat} (h : 0 < den) :
    2 * num ≤ (2 * roundDiv num den + 1) * den ∧ 2 * roundDiv num den * den ≤ 2 * num + den := by
  have hm := Nat.mod_lt num h
  have hd := Nat.div_add_mod num den
  generalize hq : num / den = q at *
  generalize hr : num % den = r at *
  have e : den * q = q * den := Nat.mul_comm _ _
  simp only [roundDiv, hq, hr]
  split
  · constructor <;> grind
  · split
    · constructor <;> grind
    · rcases Nat.mod_two_eq_zero_or_one q with h2 | h2 <;> rw [h2] <;> constructor <;> grind

/-- A half goes to the even neighbour. -/
theorem roundDiv_tie {num den : Nat} (h : 2 * (num % den) = den) : roundDiv num den % 2 = 0 := by
  simp only [roundDiv, h, Nat.lt_irrefl, if_false]
  omega

end SqlBuilder.Number
