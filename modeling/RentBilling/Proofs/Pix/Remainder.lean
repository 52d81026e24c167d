import Mathlib.Algebra.Field.ZMod
import Mathlib.Algebra.Polynomial.FieldDivision
import Mathlib.RingTheory.AdjoinRoot
import RentBilling.Pix.Checksum

/-!
The checksum as the remainder of a division.

Bits are coefficients over the field of two elements, and a run of bits is a polynomial, its first
bit in front of the highest power. In the quotient by the generator, shifting the register
multiplies by the root (`residue_shift`), so that a byte multiplies by eight powers of it and adds
itself sixteen powers up (`residue_step`), and so does a whole message (`residue_foldl_step`). A
register has less than sixteen powers, hence it is the remainder itself (`coeff_remainder`).

The generator and the powers of `X` have no factor in common. So two messages of one length have
one checksum exactly if the generator divides their difference (`ofBytes_eq_iff`).
-/

namespace RentBilling.Pix.Checksum

open Polynomial

/-! ## Bits as polynomials -/

/-- A bit as a coefficient. -/
def coefficient (b : Bool) : ZMod 2 := if b then 1 else 0

theorem coefficient_false : coefficient false = 0 := rfl

theorem coefficient_true : coefficient true = 1 := rfl

theorem coefficient_xor (a b : Bool) : coefficient (a ^^ b) = coefficient a + coefficient b := by
  decide +revert

theorem coefficient_injective {a b : Bool} (h : coefficient a = coefficient b) : a = b := by
  decide +revert

/-- The bits of a word, the most significant one first. -/
def wordBits {w : ℕ} (x : BitVec w) : List Bool := (List.range w).map x.getMsbD

/-- The bits of a message, those of its first byte first. -/
def bits (bytes : List UInt8) : List Bool := bytes.flatMap fun byte => wordBits byte.toBitVec

/-- The polynomial with these coefficients, the first in front of the highest power. -/
noncomputable def polynomialOf : List Bool → (ZMod 2)[X]
  | [] => 0
  | b :: bs => C (coefficient b) * X ^ bs.length + polynomialOf bs

theorem length_wordBits {w : ℕ} (x : BitVec w) : (wordBits x).length = w := by simp [wordBits]

theorem length_bits (bytes : List UInt8) : (bits bytes).length = 8 * bytes.length := by
  induction bytes with
  | nil => rfl
  | cons byte bytes ih =>
    rw [bits, List.flatMap_cons, List.length_append, length_wordBits, ← bits, ih, List.length_cons]
    omega

theorem coeff_polynomialOf (bs : List Bool) (i : ℕ) :
    (polynomialOf bs).coeff i = coefficient (bs.reverse[i]?.getD false) := by
  induction bs with
  | nil => rfl
  | cons b bs ih =>
    rw [polynomialOf, coeff_add, coeff_C_mul_X_pow, ih, List.reverse_cons, List.getElem?_append,
      List.length_reverse]
    rcases Nat.lt_trichotomy i bs.length with h | rfl | h
    · rw [if_neg (by omega), if_pos h, zero_add]
    · simp [coefficient_false]
    · have hi : i - bs.length ≠ 0 := by omega
      simp [coefficient_false, Nat.ne_of_gt h, Nat.not_lt.mpr h.le, hi]

theorem polynomialOf_append (as bs : List Bool) :
    polynomialOf (as ++ bs) = polynomialOf as * X ^ bs.length + polynomialOf bs := by
  induction as with
  | nil => simp [polynomialOf]
  | cons a as ih =>
    rw [List.cons_append, polynomialOf, polynomialOf, ih, List.length_append]
    ring

/-! ## Words as polynomials -/

/-- The polynomial of a word: its lowest bit is the constant term. -/
noncomputable def wordPolynomial {w : ℕ} (x : BitVec w) : (ZMod 2)[X] := polynomialOf (wordBits x)

theorem coeff_wordPolynomial {w : ℕ} (x : BitVec w) (i : ℕ) :
    (wordPolynomial x).coeff i = coefficient (x.getLsbD i) := by
  rw [wordPolynomial, coeff_polynomialOf]
  congr 1
  by_cases h : i < w
  · have hfirst : w - 1 - i < w := by omega
    have hlast : w - 1 - (w - 1 - i) = i := by omega
    rw [List.getElem?_reverse (by rwa [length_wordBits]), length_wordBits, wordBits,
      List.getElem?_map, List.getElem?_range hfirst]
    simp [BitVec.getMsbD_eq_getLsbD, hfirst, hlast]
  · rw [List.getElem?_eq_none (by rw [List.length_reverse, length_wordBits]; omega),
      BitVec.getLsbD_of_ge x i (by omega)]
    rfl

theorem wordPolynomial_injective {w : ℕ} {x y : BitVec w}
    (h : wordPolynomial x = wordPolynomial y) : x = y := by
  apply BitVec.eq_of_getLsbD_eq
  intro i _
  apply coefficient_injective
  rw [← coeff_wordPolynomial, ← coeff_wordPolynomial, h]

theorem wordPolynomial_xor {w : ℕ} (x y : BitVec w) :
    wordPolynomial (x ^^^ y) = wordPolynomial x + wordPolynomial y := by
  ext i
  rw [coeff_add, coeff_wordPolynomial, coeff_wordPolynomial, coeff_wordPolynomial,
    BitVec.getLsbD_xor, coefficient_xor]

/-- A byte is taken in at the upper half of the register. -/
theorem wordPolynomial_upper (byte : BitVec 8) :
    wordPolynomial (byte.zeroExtend 16 <<< 8) = wordPolynomial byte * X ^ 8 := by
  ext i
  rw [coeff_mul_X_pow', coeff_wordPolynomial, coeff_wordPolynomial, BitVec.getLsbD_shiftLeft]
  by_cases h8 : 8 ≤ i
  · by_cases h16 : i < 16
    · have hlow : i - 8 < 16 := by omega
      simp [h8, h16, Nat.not_lt.mpr h8, hlow]
    · rw [BitVec.getLsbD_of_ge byte (i - 8) (by omega)]
      simp [h16, coefficient_false]
  · simp [h8, Nat.lt_of_not_le h8, coefficient_false]

/-- The bit that falls out of a shifted register would stand at the sixteenth power. -/
theorem wordPolynomial_shiftLeft (r : BitVec 16) :
    wordPolynomial (r <<< 1) + C (coefficient r.msb) * X ^ 16 = wordPolynomial r * X := by
  ext i
  cases i with
  | zero => simp [coeff_wordPolynomial, coefficient_false]
  | succ i =>
    rw [coeff_mul_X, coeff_add, coeff_C_mul_X_pow, coeff_wordPolynomial, coeff_wordPolynomial,
      BitVec.getLsbD_shiftLeft]
    rcases Nat.lt_trichotomy i 15 with h | rfl | h
    · have hin : i + 1 < 16 := by omega
      simp [hin, Nat.ne_of_lt h]
    · simp [coefficient_false, BitVec.msb_eq_getLsbD_last]
    · have hout : ¬ i + 1 < 16 := by omega
      rw [BitVec.getLsbD_of_ge r i (by omega)]
      simp [hout, Nat.ne_of_gt h, coefficient_false]

theorem wordPolynomial_polynomial : wordPolynomial polynomial = X ^ 12 + X ^ 5 + 1 := by
  have hbits : wordBits polynomial = [false, false, false, true, false, false, false, false,
      false, false, true, false, false, false, false, true] := by decide
  rw [wordPolynomial, hbits]
  simp [polynomialOf, coefficient, add_assoc]

theorem wordPolynomial_start : wordPolynomial start = ∑ i ∈ Finset.range 16, X ^ i := by
  have hbits : wordBits start = List.replicate 16 true := by decide
  rw [wordPolynomial, hbits]
  simp [polynomialOf, coefficient, List.replicate, Finset.sum_range_succ]
  ring

theorem polynomialOf_bits_cons (byte : UInt8) (bytes : List UInt8) :
    polynomialOf (bits (byte :: bytes)) =
      wordPolynomial byte.toBitVec * X ^ (8 * bytes.length) + polynomialOf (bits bytes) := by
  rw [bits, List.flatMap_cons, polynomialOf_append, ← bits, length_bits, wordPolynomial]

/-! ## The generator -/

/-- What messages are divided by. -/
noncomputable def generator : (ZMod 2)[X] := X ^ 16 + X ^ 12 + X ^ 5 + 1

theorem monic_generator : generator.Monic := by
  unfold generator
  monicity!

theorem natDegree_generator : generator.natDegree = 16 := by
  unfold generator
  compute_degree!

theorem degree_generator : generator.degree = 16 := by
  rw [degree_eq_natDegree monic_generator.ne_zero, natDegree_generator]
  rfl

theorem isCoprime_generator_X_pow (n : ℕ) : IsCoprime generator (X ^ n) := by
  apply IsCoprime.pow_right
  refine ⟨1, -(X ^ 15 + X ^ 11 + X ^ 4), ?_⟩
  unfold generator
  ring

theorem degree_wordPolynomial_lt (r : BitVec 16) :
    (wordPolynomial r).degree < generator.degree := by
  rw [degree_generator]
  refine (degree_lt_iff_coeff_zero _ 16).mpr fun i hi => ?_
  rw [coeff_wordPolynomial, BitVec.getLsbD_of_ge r i hi, coefficient_false]

/-! ## Registers up to multiples of the generator -/

/-- The register as an element of the quotient. -/
noncomputable def residue (r : BitVec 16) : AdjoinRoot generator :=
  AdjoinRoot.mk generator (wordPolynomial r)

theorem two_eq_zero : (2 : (ZMod 2)[X]) = 0 := by
  have h : (2 : ZMod 2) = 0 := rfl
  rw [← C_ofNat, h, C_0]

/-- Taking the polynomial off is taking the generator off, whose leading term has fallen out. -/
theorem residue_shift (r : BitVec 16) :
    residue (shift r) = residue r * AdjoinRoot.root generator := by
  rw [residue, residue, ← AdjoinRoot.mk_X, ← map_mul, AdjoinRoot.mk_eq_mk,
    ← wordPolynomial_shiftLeft]
  unfold shift
  cases r.msb with
  | false => simp [coefficient_false]
  | true =>
    rw [if_pos rfl, wordPolynomial_xor, wordPolynomial_polynomial, coefficient_true, C_1]
    refine ⟨1, ?_⟩
    unfold generator
    linear_combination (-X ^ 16 : (ZMod 2)[X]) * two_eq_zero

theorem residue_repeat_shift (n : ℕ) (r : BitVec 16) :
    residue (Nat.repeat shift n r) = residue r * AdjoinRoot.root generator ^ n := by
  induction n with
  | zero => rw [Nat.repeat, pow_zero, mul_one]
  | succ n ih => rw [Nat.repeat, residue_shift, ih, pow_succ, mul_assoc]

theorem residue_step (r : BitVec 16) (byte : UInt8) :
    residue (step r byte) = residue r * AdjoinRoot.root generator ^ 8 +
      AdjoinRoot.mk generator (wordPolynomial byte.toBitVec) *
        AdjoinRoot.root generator ^ 16 := by
  rw [step, residue_repeat_shift, residue, wordPolynomial_xor, wordPolynomial_upper, map_add,
    map_mul, map_pow, AdjoinRoot.mk_X, ← residue]
  ring

/-- A message moves the register up by its bits and adds itself sixteen powers up. -/
theorem residue_foldl_step (bytes : List UInt8) (r : BitVec 16) :
    residue (bytes.foldl step r) =
      residue r * AdjoinRoot.root generator ^ (8 * bytes.length) +
        AdjoinRoot.mk generator (polynomialOf (bits bytes)) *
          AdjoinRoot.root generator ^ 16 := by
  induction bytes generalizing r with
  | nil => simp [bits, polynomialOf]
  | cons byte bytes ih =>
    rw [List.foldl_cons, ih, residue_step, polynomialOf_bits_cons, map_add, map_mul, map_pow,
      AdjoinRoot.mk_X, List.length_cons]
    ring

/-- A register has too few powers to be divided any further. -/
theorem wordPolynomial_eq_mod {r : BitVec 16} {p : (ZMod 2)[X]}
    (h : residue r = AdjoinRoot.mk generator p) : wordPolynomial r = p % generator := by
  have hmod := congrArg (AdjoinRoot.modByMonicHom monic_generator) h
  rw [residue, AdjoinRoot.modByMonicHom_mk, AdjoinRoot.modByMonicHom_mk,
    (modByMonic_eq_self_iff monic_generator).mpr (degree_wordPolynomial_lt r)] at hmod
  rw [hmod, modByMonic_eq_mod p monic_generator]

theorem residue_injective {r s : BitVec 16} (h : residue r = residue s) : r = s := by
  apply wordPolynomial_injective
  have hs : wordPolynomial s = wordPolynomial s % generator := wordPolynomial_eq_mod rfl
  rw [wordPolynomial_eq_mod h, ← hs]

/-! ## Messages -/

/-- **The checksum is a remainder.** Its bits are the coefficients left over when the generator
divides the message, moved up by sixteen powers, plus sixteen ones in front of the message. -/
theorem coeff_remainder (data : List UInt8) (i : ℕ) :
    ((polynomialOf (bits data) * X ^ 16 +
      (∑ j ∈ Finset.range 16, X ^ j) * X ^ (8 * data.length)) % generator).coeff i =
        coefficient ((ofBytes data).getLsbD i) := by
  have h : residue (ofBytes data) =
      AdjoinRoot.mk generator (polynomialOf (bits data) * X ^ 16 +
        (∑ j ∈ Finset.range 16, X ^ j) * X ^ (8 * data.length)) := by
    rw [ofBytes, residue_foldl_step, residue, wordPolynomial_start, map_add, map_mul, map_mul,
      map_pow, map_pow, AdjoinRoot.mk_X, add_comm]
  rw [← wordPolynomial_eq_mod h, coeff_wordPolynomial]

/-- Messages of one length have one checksum if and only if the generator divides their
difference. -/
theorem ofBytes_eq_iff {as bs : List UInt8} (hl : as.length = bs.length) :
    ofBytes as = ofBytes bs ↔
      generator ∣ polynomialOf (bits as) - polynomialOf (bits bs) := by
  have hresidue : ofBytes as = ofBytes bs ↔ residue (ofBytes as) = residue (ofBytes bs) :=
    ⟨congrArg residue, residue_injective⟩
  rw [hresidue, ofBytes, ofBytes, residue_foldl_step, residue_foldl_step, hl, add_right_inj,
    ← AdjoinRoot.mk_X, ← map_pow, ← map_mul, ← map_mul, AdjoinRoot.mk_eq_mk, ← sub_mul]
  exact ⟨(isCoprime_generator_X_pow 16).dvd_of_dvd_mul_right, fun h => Dvd.dvd.mul_right h _⟩

end RentBilling.Pix.Checksum
