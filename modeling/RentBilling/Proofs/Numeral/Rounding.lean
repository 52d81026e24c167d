import Mathlib.Algebra.Order.Field.Power
import Mathlib.Data.Rat.Floor
import Mathlib.Tactic.Linarith
import Mathlib.Tactic.NormNum
import RentBilling.Numeral.Rounding

/-!
How far rounding goes.

An integer nearest to a number is off by a half at most (`abs_roundHalfEven_sub_le`), so that it is
any integer that is off by less (`roundHalfEven_eq_of_near`). A double is off by half the spacing
at most, and the spacing grows with the binary exponent, which the size of the number bounds from
both sides (`binaryExponent_lt`, `lt_two_zpow_binaryExponent`). So the error below a power of two is
known without looking at the number (`abs_nearestDouble_sub_le_of_lt`), and beside the number it is
a `2 ^ -53`-th at most unless the number is tiny (`abs_nearestDouble_sub_le_mul`). Neither rounding
changes the order of two numbers (`roundHalfEven_mono`, `nearestDouble_mono`).
-/

namespace RentBilling.Numeral

/-! ## Integers -/

theorem abs_roundHalfEven_sub_le (q : ℚ) : |(roundHalfEven q : ℚ) - q| ≤ 1 / 2 := by
  have hlo : (q.floor : ℚ) ≤ q := Rat.floor_le q
  have hhi : q < (q.floor + 1 : ℤ) := Rat.lt_floor_add_one q
  push_cast at hhi
  unfold roundHalfEven
  dsimp only
  split_ifs <;> push_cast <;> rw [abs_le] <;> constructor <;> linarith

theorem roundHalfEven_nonneg {q : ℚ} (h : 0 ≤ q) : 0 ≤ roundHalfEven q := by
  have hfloor : 0 ≤ q.floor := Rat.le_floor_iff.mpr (by simpa using h)
  unfold roundHalfEven
  dsimp only
  split_ifs <;> omega

theorem roundHalfEven_eq_of_near {q : ℚ} {n : ℤ} (h : |q - n| < 1 / 2) :
    roundHalfEven q = n := by
  have herror := abs_roundHalfEven_sub_le q
  have hlt : |((roundHalfEven q - n : ℤ) : ℚ)| < 1 := by
    push_cast
    calc |(roundHalfEven q : ℚ) - n| ≤ |(roundHalfEven q : ℚ) - q| + |q - n| := abs_sub_le _ _ _
      _ < 1 := by linarith
  rw [← Int.cast_abs, ← Int.cast_one, Int.cast_lt] at hlt
  have hbetween := abs_lt.mp hlt
  omega

theorem roundHalfEven_between (q : ℚ) :
    q.floor ≤ roundHalfEven q ∧ roundHalfEven q ≤ q.floor + 1 := by
  unfold roundHalfEven
  dsimp only
  split_ifs <;> omega

/-- Above another number, the rounded number is not below: with the same floor the excess decides,
and otherwise there is an integer between the two. -/
theorem roundHalfEven_mono {p q : ℚ} (h : p ≤ q) : roundHalfEven p ≤ roundHalfEven q := by
  have hfloor : p.floor ≤ q.floor := Rat.floor_monotone h
  rcases hfloor.eq_or_lt with heq | hlt
  · unfold roundHalfEven
    dsimp only
    rw [heq]
    split_ifs <;> first | omega | (exfalso; linarith)
  · have hp := (roundHalfEven_between p).2
    have hq := (roundHalfEven_between q).1
    omega

theorem roundHalfEven_le {q : ℚ} {n : ℤ} (h : q ≤ n) : roundHalfEven q ≤ n :=
  (roundHalfEven_mono h).trans_eq (roundHalfEven_intCast n)

theorem le_roundHalfEven {q : ℚ} {n : ℤ} (h : n ≤ q) : n ≤ roundHalfEven q :=
  (roundHalfEven_intCast n).symm.trans_le (roundHalfEven_mono h)

/-- More than half way up to an integer, a number is not rounded below it. -/
theorem le_roundHalfEven_of_half_lt {q : ℚ} {n : ℤ} (h : (n : ℚ) - 1 / 2 < q) :
    n ≤ roundHalfEven q := by
  have herror := (abs_le.mp (abs_roundHalfEven_sub_le q)).1
  have hlt : (n : ℚ) - 1 < roundHalfEven q := by linarith
  have hint : n - 1 < roundHalfEven q := by exact_mod_cast hlt
  omega

/-! ## Doubles -/

theorem two_zpow_pos (e : ℤ) : (0 : ℚ) < 2 ^ e := zpow_pos (by norm_num) e

theorem nearestDouble_nonneg (q : ℚ) : 0 ≤ nearestDouble q := by
  unfold nearestDouble
  split_ifs with h
  · exact le_rfl
  · have hs := two_zpow_pos (spacing q)
    have hround := roundHalfEven_nonneg (div_pos (not_le.mp h) hs).le
    exact mul_nonneg (Int.cast_nonneg hround) hs.le

theorem between_powers {n : ℕ} (hn : n ≠ 0) :
    (2 : ℚ) ^ n.log2 ≤ n ∧ (n : ℚ) < 2 ^ (n.log2 + 1) := by
  constructor
  · exact_mod_cast Nat.log2_self_le hn
  · exact_mod_cast Nat.lt_log2_self

theorem num_between {q : ℚ} (hq : 0 < q) :
    (2 : ℚ) ^ q.num.natAbs.log2 ≤ q.num ∧ (q.num : ℚ) < 2 ^ (q.num.natAbs.log2 + 1) := by
  have hnum : 0 < q.num := Rat.num_pos.mpr hq
  have hcast : ((q.num.natAbs : ℤ) : ℚ) = q.num := by rw [Int.natAbs_of_nonneg hnum.le]
  rw [← hcast, Int.cast_natCast]
  exact between_powers (by omega)

/-- Numerator and denominator tell the exponent up to one, and one too much is taken back. -/
theorem two_zpow_binaryExponent_le {q : ℚ} (hq : 0 < q) : 2 ^ binaryExponent q ≤ q := by
  unfold binaryExponent
  dsimp only
  split_ifs with h
  · exact h
  · have hn := (num_between hq).1
    have hd := (between_powers q.den_nz).2.le
    have hden : (0 : ℚ) < q.den := by exact_mod_cast q.den_pos
    rw [← Rat.num_div_den q, le_div_iff₀ hden, Rat.num_div_den q]
    calc (2 : ℚ) ^ ((q.num.natAbs.log2 : ℤ) - q.den.log2 - 1) * q.den
        ≤ 2 ^ ((q.num.natAbs.log2 : ℤ) - q.den.log2 - 1) * 2 ^ (q.den.log2 + 1) :=
          mul_le_mul_of_nonneg_left hd (two_zpow_pos _).le
      _ = 2 ^ q.num.natAbs.log2 := by
          rw [← zpow_natCast, ← zpow_natCast, ← zpow_add₀ (by norm_num)]
          congr 1
          push_cast
          ring
      _ ≤ q.num := hn

theorem binaryExponent_lt {q : ℚ} (hq : 0 < q) {e : ℤ} (h : q < 2 ^ e) : binaryExponent q < e :=
  (zpow_lt_zpow_iff_right₀ one_lt_two).mp ((two_zpow_binaryExponent_le hq).trans_lt h)

theorem lt_two_zpow_binaryExponent {q : ℚ} (hq : 0 < q) : q < 2 ^ (binaryExponent q + 1) := by
  have hn := (num_between hq).2
  have hd := (between_powers q.den_nz).1
  have hden : (0 : ℚ) < q.den := by exact_mod_cast q.den_pos
  have hguess : q < 2 ^ ((q.num.natAbs.log2 : ℤ) - q.den.log2 + 1) := by
    nth_rewrite 1 [← Rat.num_div_den q]
    rw [div_lt_iff₀ hden]
    calc (q.num : ℚ) < 2 ^ (q.num.natAbs.log2 + 1) := hn
      _ = 2 ^ ((q.num.natAbs.log2 : ℤ) - q.den.log2 + 1) * 2 ^ q.den.log2 := by
          rw [← zpow_natCast, ← zpow_natCast, ← zpow_add₀ (by norm_num)]
          congr 1
          push_cast
          ring
      _ ≤ 2 ^ ((q.num.natAbs.log2 : ℤ) - q.den.log2 + 1) * q.den :=
          mul_le_mul_of_nonneg_left hd (two_zpow_pos _).le
  unfold binaryExponent
  dsimp only
  split_ifs with h
  · exact hguess
  · rw [sub_add_cancel]
    exact not_le.mp h

theorem binaryExponent_mono {p q : ℚ} (hp : 0 < p) (h : p ≤ q) :
    binaryExponent p ≤ binaryExponent q := by
  have hlt := binaryExponent_lt hp (h.trans_lt (lt_two_zpow_binaryExponent (hp.trans_le h)))
  omega

/-- From a power of two up to the next one, the exponent is that of the power. -/
theorem binaryExponent_eq {q : ℚ} {e : ℤ} (hle : 2 ^ e ≤ q) (hlt : q < 2 ^ (e + 1)) :
    binaryExponent q = e := by
  have hq := (two_zpow_pos e).trans_le hle
  have hupper := binaryExponent_lt hq hlt
  have hlower : e < binaryExponent q + 1 :=
    (zpow_lt_zpow_iff_right₀ one_lt_two).mp (hle.trans_lt (lt_two_zpow_binaryExponent hq))
  omega

theorem spacing_mono {p q : ℚ} (hp : 0 < p) (h : p ≤ q) : spacing p ≤ spacing q := by
  have hexp := binaryExponent_mono hp h
  unfold spacing
  omega

theorem nearestDouble_of_pos {q : ℚ} (hq : 0 < q) :
    nearestDouble q = roundHalfEven (q / 2 ^ spacing q) * 2 ^ spacing q :=
  if_neg (not_le.mpr hq)

theorem abs_nearestDouble_sub_le {q : ℚ} (hq : 0 < q) :
    |nearestDouble q - q| ≤ 2 ^ spacing q / 2 := by
  have hs := two_zpow_pos (spacing q)
  rw [nearestDouble_of_pos hq]
  calc |(roundHalfEven (q / 2 ^ spacing q) : ℚ) * 2 ^ spacing q - q|
      = |((roundHalfEven (q / 2 ^ spacing q) : ℚ) - q / 2 ^ spacing q) * 2 ^ spacing q| := by
        rw [sub_mul, div_mul_cancel₀ q hs.ne']
    _ = |(roundHalfEven (q / 2 ^ spacing q) : ℚ) - q / 2 ^ spacing q| * 2 ^ spacing q := by
        rw [abs_mul, abs_of_pos hs]
    _ ≤ 1 / 2 * 2 ^ spacing q :=
        mul_le_mul_of_nonneg_right (abs_roundHalfEven_sub_le _) hs.le
    _ = 2 ^ spacing q / 2 := by ring

/-- Below a power of two, the spacing is at most that of the doubles right below the power. -/
theorem abs_nearestDouble_sub_le_of_lt {q : ℚ} (hq : 0 ≤ q) {e : ℤ} (he : -1021 ≤ e)
    (h : q < 2 ^ e) : |nearestDouble q - q| ≤ 2 ^ (e - 54) := by
  rcases hq.eq_or_lt with rfl | hpos
  · rw [nearestDouble_zero, sub_zero, abs_zero]
    exact (two_zpow_pos _).le
  · have hexp := binaryExponent_lt hpos h
    have hspacing : spacing q ≤ e - 54 + 1 := by
      unfold spacing
      omega
    calc |nearestDouble q - q| ≤ 2 ^ spacing q / 2 := abs_nearestDouble_sub_le hpos
      _ ≤ 2 ^ (e - 54 + 1) / 2 :=
          div_le_div_of_nonneg_right (zpow_le_zpow_right₀ one_le_two hspacing) zero_le_two
      _ = 2 ^ (e - 54) := by
          rw [zpow_add_one₀ two_ne_zero]
          ring

/-- From the least normal number on, the error is a share of the number itself. -/
theorem abs_nearestDouble_sub_le_mul {q : ℚ} (h : 2 ^ (-1022 : ℤ) ≤ q) :
    |nearestDouble q - q| ≤ q * 2 ^ (-53 : ℤ) := by
  have hq : 0 < q := (two_zpow_pos _).trans_le h
  have hexp : -1022 < binaryExponent q + 1 :=
    (zpow_lt_zpow_iff_right₀ one_lt_two).mp (h.trans_lt (lt_two_zpow_binaryExponent hq))
  have hspacing : spacing q = binaryExponent q + -53 + 1 := by
    unfold spacing
    omega
  calc |nearestDouble q - q| ≤ 2 ^ spacing q / 2 := abs_nearestDouble_sub_le hq
    _ = 2 ^ binaryExponent q * 2 ^ (-53 : ℤ) := by
        rw [hspacing, zpow_add_one₀ two_ne_zero, zpow_add₀ two_ne_zero]
        ring
    _ ≤ q * 2 ^ (-53 : ℤ) :=
        mul_le_mul_of_nonneg_right (two_zpow_binaryExponent_le hq) (two_zpow_pos _).le

/-! ## Order -/

/-- A power of two is a whole number of spacings not wider than it. -/
theorem two_zpow_eq_mul {s e : ℤ} (h : s ≤ e) :
    (2 : ℚ) ^ e = ((2 ^ (e - s).toNat : ℤ) : ℚ) * 2 ^ s := by
  push_cast
  rw [← zpow_natCast, Int.toNat_of_nonneg (by omega), ← zpow_add₀ two_ne_zero, sub_add_cancel]

theorem nearestDouble_le_two_zpow {q : ℚ} (hq : 0 < q) {e : ℤ} (hspacing : spacing q ≤ e)
    (h : q ≤ 2 ^ e) : nearestDouble q ≤ 2 ^ e := by
  have hs := two_zpow_pos (spacing q)
  rw [nearestDouble_of_pos hq]
  rw [two_zpow_eq_mul hspacing] at h ⊢
  refine mul_le_mul_of_nonneg_right (Int.cast_le.mpr ?_) hs.le
  exact roundHalfEven_le ((div_le_iff₀ hs).mpr h)

theorem two_zpow_le_nearestDouble {q : ℚ} {e : ℤ} (hspacing : spacing q ≤ e) (h : 2 ^ e ≤ q) :
    2 ^ e ≤ nearestDouble q := by
  have hs := two_zpow_pos (spacing q)
  rw [nearestDouble_of_pos ((two_zpow_pos e).trans_le h)]
  rw [two_zpow_eq_mul hspacing] at h ⊢
  refine mul_le_mul_of_nonneg_right (Int.cast_le.mpr ?_) hs.le
  exact le_roundHalfEven ((le_div_iff₀ hs).mpr h)

/-- Where the spacing changes between two numbers, the power of two at which it does is a double
between theirs. -/
theorem nearestDouble_mono {p q : ℚ} (h : p ≤ q) : nearestDouble p ≤ nearestDouble q := by
  rcases le_or_gt p 0 with hp | hp
  · rw [nearestDouble, if_pos hp]
    exact nearestDouble_nonneg q
  have hq := hp.trans_le h
  rcases (spacing_mono hp h).eq_or_lt with heq | hlt
  · have hs := two_zpow_pos (spacing q)
    rw [nearestDouble_of_pos hp, nearestDouble_of_pos hq, heq]
    refine mul_le_mul_of_nonneg_right (Int.cast_le.mpr ?_) hs.le
    exact roundHalfEven_mono (div_le_div_of_nonneg_right h hs.le)
  · have hexp : binaryExponent p + 1 ≤ binaryExponent q := by
      unfold spacing at hlt
      omega
    have hbelow : p ≤ 2 ^ binaryExponent q :=
      (lt_two_zpow_binaryExponent hp).le.trans (zpow_le_zpow_right₀ one_le_two hexp)
    have hspacing : spacing q ≤ binaryExponent q := by
      unfold spacing at hlt ⊢
      omega
    exact (nearestDouble_le_two_zpow hp (hlt.le.trans hspacing) hbelow).trans
      (two_zpow_le_nearestDouble hspacing (two_zpow_binaryExponent_le hq))

end RentBilling.Numeral
