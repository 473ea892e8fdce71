/-!
Rounding a quotient of naturals to the nearest natural, a tie going to the even neighbour.
Every rounding of the library (binary formats, microseconds) is this one.
-/
set_option autoImplicit false

namespace TypedQuery

/-- The natural nearest to `num / den`; of two equally near ones the even one. -/
def roundQuotient (num den : Nat) : Nat :=
  let quotient := num / den
  let rest := num % den
  if 2 * rest < den then quotient
  else if den < 2 * rest then quotient + 1
  else if quotient % 2 = 0 then quotient else quotient + 1

/-- A quotient without remainder is its own rounding. -/
theorem roundQuotient_mul (n : Nat) {den : Nat} (h : 0 < den) :
    roundQuotient (n * den) den = n := by
  simp [roundQuotient, Nat.mul_div_cancel n h, h]

end TypedQuery
