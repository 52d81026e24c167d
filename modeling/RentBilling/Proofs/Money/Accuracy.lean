import Mathlib.Tactic.Ring
import RentBilling.Proofs.Money.Entry

/-!
How near a typed amount is read, and up to where.

Neither of the two doubles in between nor the last rounding changes the order of two numbers, so
more reais never come to fewer centavos (`nearestCentavos_mono`), and a text counts for the number
that it says and for nothing else (`ofEntry?_monotone`). Since whole centavos come out exactly up to
`greatestExact`, an amount up to there is the whole number right below or right above what was
typed. Anywhere it is off by half a centavo and two shares of the number at most, one share for each
double (`abs_nearestCentavos_sub_le`). The last number that is read at all is `greatestReais`: it
lies half way between two doubles, and the even one of them is the lower one (`ofEntry?_range`).
-/

namespace RentBilling.Centavos

open Numeral

/-! ## Order -/

theorem nearestCentavos_mono {x y : ℚ} (h : x ≤ y) : nearestCentavos x ≤ nearestCentavos y :=
  roundHalfEven_mono (nearestDouble_mono
    (mul_le_mul_of_nonneg_right (nearestDouble_mono h) (by norm_num)))

theorem nearestCentavos_nonneg (x : ℚ) : 0 ≤ nearestCentavos x :=
  roundHalfEven_nonneg (nearestDouble_nonneg _)

/-- The amount is the rounded number itself, never what is left of it in a word. -/
theorem ofReais?_eq_some_iff {x : ℚ} {a : Centavos} :
    ofReais? x = some a ↔ (a.toNat : ℤ) = nearestCentavos x := by
  have hnonneg := nearestCentavos_nonneg x
  rw [ofReais?_eq, ofNat?_eq_some_iff]
  omega

theorem ofReais?_eq_none_iff {x : ℚ} : ofReais? x = none ↔ 2 ^ 64 ≤ nearestCentavos x := by
  have hnonneg := nearestCentavos_nonneg x
  have hbound : bound = 2 ^ 64 := rfl
  rw [ofReais?_eq]
  by_cases h : (nearestCentavos x).toNat < bound
  · rw [ofNat?_of_lt h]
    exact iff_of_false (Option.some_ne_none _) (by omega)
  · rw [ofNat?_of_le (not_lt.mp h)]
    exact iff_of_true rfl (by omega)

theorem exists_ofReais? {x : ℚ} (h : nearestCentavos x < 2 ^ 64) :
    ∃ a, ofReais? x = some a ∧ (a.toNat : ℤ) = nearestCentavos x := by
  cases hx : ofReais? x with
  | none => exact absurd (ofReais?_eq_none_iff.mp hx) (not_le.mpr h)
  | some a => exact ⟨a, rfl, ofReais?_eq_some_iff.mp hx⟩

/-- A smaller number is an amount if a greater one is, and not a greater amount. -/
theorem ofReais?_mono {x y : ℚ} (h : x ≤ y) {b : Centavos} (hb : ofReais? y = some b) :
    ∃ a, ofReais? x = some a ∧ a.toNat ≤ b.toNat := by
  have hround := nearestCentavos_mono h
  have hy := ofReais?_eq_some_iff.mp hb
  have hlt : b.toNat < 2 ^ 64 := b.toNat_lt_bound
  obtain ⟨a, ha, hx⟩ := exists_ofReais? (x := x) (by omega)
  exact ⟨a, ha, by omega⟩

/-! ## Between two amounts -/

theorem nearestCentavos_hundredths {n : ℤ} (hn : 0 ≤ n) (h : n ≤ greatestExact) :
    nearestCentavos ((n : ℚ) / 100) = n := by
  obtain ⟨m, rfl⟩ := Int.eq_ofNat_of_zero_le hn
  have hm : m < bound := lt_of_le_of_lt (by omega) (by decide : greatestExact < bound)
  have hexact := ofReais?_hundredths (a := ⟨.ofNat m⟩) (by rw [toNat_of_lt hm]; omega)
  rw [ofReais?_eq_some_iff, toNat_of_lt hm] at hexact
  rw [Int.cast_natCast, ← hexact]

/-- Both neighbours of the number come out exactly, so it cannot leave the space between them. -/
theorem nearestCentavos_floor_or_ceil {x : ℚ} (hx : 0 ≤ x) (h : 100 * x ≤ greatestExact) :
    nearestCentavos x = ⌊100 * x⌋ ∨ nearestCentavos x = ⌈100 * x⌉ := by
  have hfloor : 0 ≤ ⌊100 * x⌋ := Int.floor_nonneg.mpr (by linarith)
  have hceil : ⌈100 * x⌉ ≤ greatestExact := Int.ceil_le.mpr (by exact_mod_cast h)
  have hwidth := Int.ceil_le_floor_add_one (100 * x)
  have hlower : ⌊100 * x⌋ ≤ nearestCentavos x := by
    rw [← nearestCentavos_hundredths hfloor ((Int.floor_le_ceil _).trans hceil)]
    exact nearestCentavos_mono (by linarith [Int.floor_le (100 * x)])
  have hupper : nearestCentavos x ≤ ⌈100 * x⌉ := by
    rw [← nearestCentavos_hundredths (hfloor.trans (Int.floor_le_ceil _)) hceil]
    exact nearestCentavos_mono (by linarith [Int.le_ceil (100 * x)])
  omega

/-- **More is never read as less.** Of two texts that say numbers, the one with the smaller number
is an amount if the other is, and not a greater one. Texts that say the same number are read alike,
also when neither is an amount. Up to `greatestExact` centavos the amount is one of the two whole
numbers around what the text says. -/
theorem ofEntry?_monotone {s t : String} {x y : ℚ} (hs : PlainDecimal s x)
    (ht : PlainDecimal t y) (h : x ≤ y) :
    (∀ b, ofEntry? t = some b → ∃ a, ofEntry? s = some a ∧ a.toNat ≤ b.toNat) ∧
    (x = y → ofEntry? s = ofEntry? t) ∧
    (100 * x ≤ greatestExact → ∃ a, ofEntry? s = some a ∧
      ((a.toNat : ℤ) = ⌊100 * x⌋ ∨ (a.toNat : ℤ) = ⌈100 * x⌉)) := by
  rw [ofEntry?_of_plainDecimal hs, ofEntry?_of_plainDecimal ht]
  refine ⟨fun b hb => ofReais?_mono h hb, fun hxy => by rw [hxy], fun hle => ?_⟩
  have hround := nearestCentavos_floor_or_ceil hs.nonneg hle
  have hceil : ⌈100 * x⌉ ≤ greatestExact := Int.ceil_le.mpr (by exact_mod_cast hle)
  have hfloor := Int.floor_le_ceil (100 * x)
  have hgreatest : (greatestExact : ℤ) < 2 ^ 64 := by decide
  obtain ⟨a, ha, hcentavos⟩ := exists_ofReais? (x := x) (by omega)
  exact ⟨a, ha, by rwa [hcentavos]⟩

/-- Two notations, more than two places, and the same number with zeros on either side. -/
theorem ofEntry?_monotone_notations :
    (∀ b, ofEntry? " 02850.0051" = some b →
      ∃ a, ofEntry? "2.850,005" = some a ∧ a.toNat ≤ b.toNat) ∧
    ofEntry? "2.850,005" = ofEntry? "002850.0050" ∧
    ∃ a, ofEntry? "2.850,005" = some a ∧ ((a.toNat : ℤ) = 285000 ∨ (a.toNat : ℤ) = 285001) := by
  have hcomma : PlainDecimal "2.850,005" (2850005 / 1000) :=
    .comma (show _ = "2850".toList ++ ',' :: "005".toList by decide +kernel)
      (List.all_eq_true.mp (by decide)) (by decide) (by decide +kernel)
  have hzeros : PlainDecimal "002850.0050" (2850005 / 1000) := .point (by decide +kernel)
  have hmore : PlainDecimal " 02850.0051" (28500051 / 10000) := .point (by decide +kernel)
  have hfloor : ⌊(100 * (2850005 / 1000) : ℚ)⌋ = 285000 := by norm_num
  have hceil : ⌈(100 * (2850005 / 1000) : ℚ)⌉ = 285001 := by norm_num
  obtain ⟨a, ha, hround⟩ :=
    (ofEntry?_monotone hcomma hzeros le_rfl).2.2 (by norm_num [greatestExact])
  rw [hfloor, hceil] at hround
  exact ⟨(ofEntry?_monotone hcomma hmore (by norm_num)).1,
    (ofEntry?_monotone hcomma hzeros le_rfl).2.1 rfl, a, ha, hround⟩

/-! ## How far off -/

/-- From a thousandth of a real on, both doubles are normal, and each adds its share. -/
theorem abs_nearestDouble_hundredfold_sub_le {x : ℚ} (h : 1 / 1000 ≤ x) :
    |nearestDouble (nearestDouble x * 100) - 100 * x| ≤
      100 * x * (1 / 2 ^ 52 + 1 / 2 ^ 106) := by
  have hleast : (2 : ℚ) ^ (-1022 : ℤ) ≤ 2 ^ (-20 : ℤ) :=
    zpow_le_zpow_right₀ one_le_two (by norm_num)
  have hparse := abs_nearestDouble_sub_le_mul (q := x) (hleast.trans (by norm_num; linarith))
  generalize nearestDouble x = d at hparse ⊢
  norm_num at hparse
  obtain ⟨hlower, hupper⟩ := abs_le.mp hparse
  have hproduct :=
    abs_nearestDouble_sub_le_mul (q := d * 100) (hleast.trans (by norm_num; linarith))
  norm_num at hproduct
  obtain ⟨hbelow, habove⟩ := abs_le.mp hproduct
  rw [abs_le]
  constructor <;> linarith

theorem nearestCentavos_thousandth : nearestCentavos (1 / 1000) = 0 := by
  decide +kernel

theorem abs_nearestCentavos_sub_le {x : ℚ} (hx : 0 ≤ x) :
    |(nearestCentavos x : ℚ) - 100 * x| ≤ 1 / 2 + 100 * x * (1 / 2 ^ 52 + 1 / 2 ^ 106) := by
  rcases le_total x (1 / 1000) with hsmall | hlarge
  · -- Such a number is read as nothing, and it is nearer to nothing than half a centavo.
    have hzero : nearestCentavos x = 0 :=
      ((nearestCentavos_mono hsmall).trans_eq nearestCentavos_thousandth).antisymm
        (nearestCentavos_nonneg x)
    rw [hzero, Int.cast_zero, zero_sub, abs_neg, abs_of_nonneg (by linarith)]
    linarith
  · generalize hp : nearestDouble (nearestDouble x * 100) = p
    have hdoubles := abs_nearestDouble_hundredfold_sub_le hlarge
    have hround : |(nearestCentavos x : ℚ) - p| ≤ 1 / 2 := by
      rw [nearestCentavos, hp]
      exact abs_roundHalfEven_sub_le p
    rw [hp] at hdoubles
    calc |(nearestCentavos x : ℚ) - 100 * x|
        ≤ |(nearestCentavos x : ℚ) - p| + |p - 100 * x| := abs_sub_le _ _ _
      _ ≤ 1 / 2 + 100 * x * (1 / 2 ^ 52 + 1 / 2 ^ 106) := add_le_add hround hdoubles

/-! ## Up to where -/

/-- The greatest number of reais that is read as an amount, a tie between two doubles. -/
def greatestReais : ℚ := 184467440737095504

theorem nearestCentavos_greatestReais : nearestCentavos greatestReais = 2 ^ 64 - 2048 := by
  decide +kernel

/-- Above the tie, the double is the upper one. -/
theorem nearestDouble_above {x : ℚ} (h : greatestReais < x) :
    greatestReais + 16 ≤ nearestDouble x := by
  unfold greatestReais at h ⊢
  rcases le_total (184467440737095520 : ℚ) x with hbeyond | hbelow
  · have hdouble : nearestDouble 184467440737095520 = 184467440737095520 := by decide +kernel
    calc (184467440737095504 : ℚ) + 16 = nearestDouble 184467440737095520 := by
          rw [hdouble]
          norm_num
      _ ≤ nearestDouble x := nearestDouble_mono hbeyond
  · have hexp : binaryExponent x = 57 :=
      binaryExponent_eq (by norm_num; linarith) (by norm_num; linarith)
    have hspacing : spacing x = 5 := by
      rw [spacing, hexp]
      decide
    have hround : 5764607523034235 ≤ roundHalfEven (x / 2 ^ (5 : ℤ)) :=
      le_roundHalfEven_of_half_lt (by norm_num; linarith)
    have hcast : (5764607523034235 : ℚ) ≤ roundHalfEven (x / 2 ^ (5 : ℤ)) := by
      exact_mod_cast hround
    rw [nearestDouble_of_pos (by linarith), hspacing]
    norm_num at hcast ⊢
    linarith

theorem two_pow_le_nearestCentavos_iff {x : ℚ} :
    2 ^ 64 ≤ nearestCentavos x ↔ greatestReais < x := by
  constructor
  · intro h
    by_contra hle
    have hround := nearestCentavos_mono (not_lt.mp hle)
    rw [nearestCentavos_greatestReais] at hround
    omega
  · intro h
    have hdouble : nearestDouble ((greatestReais + 16) * 100) = (2 ^ 64 : ℤ) := by decide +kernel
    refine le_roundHalfEven (hdouble.symm.trans_le ?_)
    exact nearestDouble_mono (mul_le_mul_of_nonneg_right (nearestDouble_above h) (by norm_num))

/-- **What fits is read, and nearly right.** A text that says more than `greatestReais` is no
amount; any other is, the number that the roundings come to fits into a word as it is, and it is off
by half a centavo and the shares of the two doubles at most. -/
theorem ofEntry?_range {text : String} {x : ℚ} (h : PlainDecimal text x) :
    ( ofEntry? text = none ↔ 184467440737095504 < x) ∧
    (x ≤ 184467440737095504 → ∃ a, ofEntry? text = some a ∧
      (a.toNat : ℤ) = nearestCentavos x ∧ nearestCentavos x < 2 ^ 64 ∧
      |(a.toNat : ℚ) - 100 * x| ≤ 1 / 2 + 100 * x * (1 / 2 ^ 52 + 1 / 2 ^ 106)) := by
  rw [ofEntry?_of_plainDecimal h]
  refine ⟨ofReais?_eq_none_iff.trans two_pow_le_nearestCentavos_iff, fun hle => ?_⟩
  have hfits : nearestCentavos x < 2 ^ 64 :=
    not_le.mp fun hlarge => not_lt.mpr hle (two_pow_le_nearestCentavos_iff.mp hlarge)
  obtain ⟨a, ha, hcentavos⟩ := exists_ofReais? hfits
  refine ⟨a, ha, hcentavos, hfits, ?_⟩
  have hcast : (a.toNat : ℚ) = nearestCentavos x := by exact_mod_cast hcentavos
  rw [hcast]
  exact abs_nearestCentavos_sub_le h.nonneg

/-- The greatest number that is read, and one that is a millionth of a real above it. -/
theorem ofEntry?_range_tie :
    (∃ a, ofEntry? "184.467.440.737.095.504,00" = some a ∧ (a.toNat : ℤ) = 2 ^ 64 - 2048) ∧
    ofEntry? "184467440737095504.000001" = none := by
  have htie : PlainDecimal "184.467.440.737.095.504,00" 184467440737095504 :=
    .comma (show _ = "184467440737095504".toList ++ ',' :: "00".toList by decide +kernel)
      (List.all_eq_true.mp (by decide)) (by decide) (by decide +kernel)
  have habove : PlainDecimal "184467440737095504.000001" (184467440737095504000001 / 1000000) :=
    .point (by decide +kernel)
  obtain ⟨a, ha, hcentavos, -, -⟩ := (ofEntry?_range htie).2 le_rfl
  exact ⟨⟨a, ha, hcentavos.trans nearestCentavos_greatestReais⟩,
    (ofEntry?_range habove).1.mpr (by norm_num)⟩

end RentBilling.Centavos
