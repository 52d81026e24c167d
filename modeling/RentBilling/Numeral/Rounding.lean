/-!
Rounding rational numbers: to the nearest integer, and to the nearest number with 53 significant
binary digits.

A tie goes to the even neighbour in both. The binary rounding is that of double-precision numbers:
their spacing around `q` is `2 ^ spacing q`, and no spacing is finer than `2 ^ (-1074)`. Numbers too
large for a double are kept as they are; whoever rounds an amount refuses them by size.
-/

namespace RentBilling.Numeral

/-- The integer nearest to `q`; of two equally near, the even one. -/
def roundHalfEven (q : Rat) : Int :=
  let below := q.floor
  let excess := q - below
  if excess < 1 / 2 then below
  else if 1 / 2 < excess then below + 1
  else if below % 2 = 0 then below else below + 1

/-- The exponent of the greatest power of two that is at most `q`, for a positive `q`. -/
def binaryExponent (q : Rat) : Int :=
  let guess : Int := (q.num.natAbs.log2 : Int) - q.den.log2
  if (2 : Rat) ^ guess ≤ q then guess else guess - 1

/-- Doubles around `q` are multiples of two to this power. -/
def spacing (q : Rat) : Int := max (binaryExponent q - 52) (-1074)

/-- The double nearest to a number that is not negative. -/
def nearestDouble (q : Rat) : Rat :=
  if q ≤ 0 then 0
  else (roundHalfEven (q / 2 ^ spacing q) : Rat) * 2 ^ spacing q

theorem roundHalfEven_intCast (n : Int) : roundHalfEven n = n := by
  have h : (0 : Rat) < 1 / 2 := by decide +kernel
  rw [roundHalfEven, Rat.floor_intCast, Rat.sub_self, if_pos h]

theorem nearestDouble_zero : nearestDouble 0 = 0 := by simp [nearestDouble]

end RentBilling.Numeral
