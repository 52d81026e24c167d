import Mathlib.Algebra.CharP.Two
import Mathlib.GroupTheory.OrderOfElement
import Mathlib.Tactic.NormNum.Prime
import RentBilling.Proofs.Pix.Remainder

/-!
Single bits that the checksum notices.

At one, the generator is zero. So the number of ones in a message and the number of ones in its
checksum are odd or even together (`count_ofBytes`), and a change of an odd number of bits is
noticed in messages of any length.

Two changed bits are a sum of two powers of `X`, and the generator divides it only if their distance
is a multiple of the order of the root. That order is 32767 (`orderOf_root`), the largest there can
be, and 4095 bytes have fewer bits. The order is found by multiplying registers (`times`): the power
32767 is one, and those are not that leave out a prime factor.
-/

namespace RentBilling.Pix.Checksum

open Polynomial Text

/-! ## Changed bits -/

/-- The number of places at which two runs of bits differ. -/
def distance (as bs : List Bool) : ℕ := (as.zip bs).countP fun p => p.1 ≠ p.2

/-- Ones where two runs of bits differ. -/
def difference (as bs : List Bool) : List Bool := List.zipWith (· ^^ ·) as bs

theorem count_difference (as bs : List Bool) :
    (difference as bs).count true = distance as bs := by
  induction as generalizing bs with
  | nil => rfl
  | cons a as ih =>
    cases bs with
    | nil => rfl
    | cons b bs =>
      have hcons : difference (a :: as) (b :: bs) = (a ^^ b) :: difference as bs := rfl
      rw [hcons, List.count_cons, ih, distance, distance, List.zip_cons_cons, List.countP_cons]
      cases a <;> cases b <;> rfl

theorem length_difference {as bs : List Bool} (hl : as.length = bs.length) :
    (difference as bs).length = as.length := by
  rw [difference, List.length_zipWith, ← hl, Nat.min_self]

theorem polynomialOf_difference {as bs : List Bool} (hl : as.length = bs.length) :
    polynomialOf (difference as bs) = polynomialOf as - polynomialOf bs := by
  induction as generalizing bs with
  | nil =>
    obtain rfl := List.length_eq_zero_iff.mp hl.symm
    exact (sub_self _).symm
  | cons a as ih =>
    obtain ⟨b, bs, rfl⟩ := List.exists_cons_of_length_eq_add_one hl.symm
    have hbs : as.length = bs.length := Nat.succ.inj hl
    have hcons : difference (a :: as) (b :: bs) = (a ^^ b) :: difference as bs := rfl
    rw [hcons, polynomialOf, polynomialOf, polynomialOf, ih hbs, length_difference hbs,
      coefficient_xor, C_add, hbs, CharTwo.sub_eq_add, CharTwo.sub_eq_add]
    ring

/-! ## Ones of a message and of its checksum -/

theorem eval_one_polynomialOf (bs : List Bool) :
    (polynomialOf bs).eval 1 = (bs.count true : ZMod 2) := by
  induction bs with
  | nil => simp [polynomialOf]
  | cons b bs ih =>
    rw [polynomialOf, eval_add, eval_mul, eval_pow, eval_X, eval_C, one_pow, mul_one, ih,
      List.count_cons, Nat.cast_add, add_comm]
    cases b <;> simp [coefficient]

theorem eval₂_one_generator : generator.eval₂ (RingHom.id (ZMod 2)) 1 = 0 := by
  have hfour : (1 + 1 + 1 + 1 : ZMod 2) = 0 := by decide
  simp [generator, hfour]

/-- Elements of the quotient, evaluated at one. -/
noncomputable def atOne : AdjoinRoot generator →+* ZMod 2 :=
  AdjoinRoot.lift (RingHom.id (ZMod 2)) 1 eval₂_one_generator

theorem atOne_mk (p : (ZMod 2)[X]) : atOne (AdjoinRoot.mk generator p) = p.eval 1 := by
  rw [atOne, AdjoinRoot.lift_mk]
  rfl

theorem atOne_root : atOne (AdjoinRoot.root generator) = 1 := by
  rw [atOne, AdjoinRoot.lift_root]

theorem atOne_residue (r : BitVec 16) : atOne (residue r) = ((wordBits r).count true : ZMod 2) := by
  rw [residue, atOne_mk, wordPolynomial, eval_one_polynomialOf]

/-- The register and the message add up their ones, up to an even number. -/
theorem atOne_foldl_step (bytes : List UInt8) (r : BitVec 16) :
    atOne (residue (bytes.foldl step r)) =
      atOne (residue r) + ((bits bytes).count true : ZMod 2) := by
  rw [residue_foldl_step, map_add, map_mul, map_mul, map_pow, map_pow, atOne_root, one_pow, one_pow,
    mul_one, mul_one, atOne_mk, eval_one_polynomialOf]

theorem count_ofBytes (data : List UInt8) :
    (wordBits (ofBytes data)).count true % 2 = (bits data).count true % 2 := by
  have hstart : (wordBits start).count true = 16 := by decide
  have h := atOne_foldl_step data start
  have hsixteen : ((16 : ℕ) : ZMod 2) = 0 := by decide
  rw [atOne_residue, atOne_residue, hstart, hsixteen, zero_add] at h
  exact (ZMod.natCast_eq_natCast_iff' _ _ 2).mp h

theorem distance_mod_two {as bs : List Bool} (hl : as.length = bs.length) :
    distance as bs % 2 = (as.count true + bs.count true) % 2 := by
  have h := congrArg (eval 1) (polynomialOf_difference hl)
  rw [eval_sub, eval_one_polynomialOf, eval_one_polynomialOf, eval_one_polynomialOf,
    CharTwo.sub_eq_add, count_difference, ← Nat.cast_add] at h
  exact (ZMod.natCast_eq_natCast_iff' _ _ 2).mp h

theorem length_bits_eq {as bs : List UInt8} (hl : as.length = bs.length) :
    (bits as).length = (bits bs).length := by
  rw [length_bits, length_bits, hl]

/-- Messages with one checksum differ in an even number of bits. -/
theorem even_distance_of_ofBytes_eq {as bs : List UInt8} (hl : as.length = bs.length)
    (h : ofBytes as = ofBytes bs) : distance (bits as) (bits bs) % 2 = 0 := by
  have ha := count_ofBytes as
  have hb := count_ofBytes bs
  rw [h] at ha
  rw [distance_mod_two (length_bits_eq hl)]
  omega

/-! ## The order of the root -/

/-- The product of two registers as elements of the quotient. -/
def times (r s : BitVec 16) : BitVec 16 :=
  (wordBits s).foldl (fun product b => shift product ^^^ if b then r else 0) 0

theorem residue_xor (r s : BitVec 16) : residue (r ^^^ s) = residue r + residue s := by
  rw [residue, residue, residue, wordPolynomial_xor, map_add]

theorem residue_zero : residue 0 = 0 := by
  have h := residue_xor 0#16 0#16
  rw [BitVec.xor_zero] at h
  exact left_eq_add.mp h

theorem residue_one : residue 1 = 1 := by
  have hbits : wordBits (1 : BitVec 16) = List.replicate 15 false ++ [true] := by decide
  rw [residue, wordPolynomial, hbits]
  simp [polynomialOf, coefficient, List.replicate]

theorem residue_foldl_times (r product : BitVec 16) (bs : List Bool) :
    residue (bs.foldl (fun product b => shift product ^^^ if b then r else 0) product) =
      residue product * AdjoinRoot.root generator ^ bs.length +
        residue r * AdjoinRoot.mk generator (polynomialOf bs) := by
  induction bs generalizing product with
  | nil => simp [polynomialOf]
  | cons b bs ih =>
    rw [List.foldl_cons, ih, residue_xor, residue_shift, polynomialOf, map_add, map_mul, map_pow,
      AdjoinRoot.mk_X, List.length_cons]
    cases b with
    | false =>
      simp only [coefficient, Bool.false_eq_true, if_false, residue_zero, map_zero]
      ring
    | true =>
      simp only [coefficient, if_true, map_one]
      ring

theorem residue_times (r s : BitVec 16) : residue (times r s) = residue r * residue s := by
  rw [times, residue_foldl_times, residue_zero, zero_mul, zero_add, ← wordPolynomial, ← residue]

/-- The number with these binary digits, the highest first. -/
def exponentOf (digits : List Bool) : ℕ := digits.foldl (fun n b => 2 * n + b.toNat) 0

/-- The power of the root whose exponent has these binary digits, by squaring. -/
def rootPower (digits : List Bool) : BitVec 16 :=
  digits.foldl (fun r b => Nat.repeat shift b.toNat (times r r)) 1

theorem residue_rootPower (digits : List Bool) :
    residue (rootPower digits) = AdjoinRoot.root generator ^ exponentOf digits := by
  induction digits using List.reverseRecOn with
  | nil => exact residue_one
  | append_singleton digits b ih =>
    rw [rootPower, List.foldl_concat, ← rootPower, residue_repeat_shift, residue_times, ih,
      ← pow_add, ← pow_add, ← two_mul, exponentOf, exponentOf, List.foldl_concat]

theorem root_pow_eq_one_iff (digits : List Bool) {n : ℕ} (hn : exponentOf digits = n) :
    AdjoinRoot.root generator ^ n = 1 ↔ rootPower digits = 1 := by
  rw [← hn, ← residue_rootPower, ← residue_one]
  constructor
  · intro h
    exact residue_injective h
  · intro h
    rw [h]

/-- The prime factors of 32767 are 7, 31 and 151. Without any of them the power is not one yet. -/
theorem orderOf_root : orderOf (AdjoinRoot.root generator) = 32767 := by
  have hone : AdjoinRoot.root generator ^ 32767 = 1 :=
    (root_pow_eq_one_iff (.replicate 15 true) (by decide)).mpr (by decide +kernel)
  refine orderOf_eq_of_pow_and_pow_div_prime (by decide) hone fun p hp hdvd => ?_
  have hfactors : 32767 = 7 * 31 * 151 := by norm_num
  have h7 : Nat.Prime 7 := by norm_num
  have h31 : Nat.Prime 31 := by norm_num
  have h151 : Nat.Prime 151 := by norm_num
  rw [hfactors, hp.dvd_mul, hp.dvd_mul, Nat.prime_dvd_prime_iff_eq hp h7,
    Nat.prime_dvd_prime_iff_eq hp h31, Nat.prime_dvd_prime_iff_eq hp h151] at hdvd
  obtain (rfl | rfl) | rfl := hdvd
  · rw [Ne, root_pow_eq_one_iff [true, false, false, true, false, false, true, false, false, true,
      false, false, true] (by decide)]
    decide +kernel
  · rw [Ne, root_pow_eq_one_iff [true, false, false, false, false, true, false, false, false, false,
      true] (by decide)]
    decide +kernel
  · rw [Ne, root_pow_eq_one_iff [true, true, false, true, true, false, false, true] (by decide)]
    decide +kernel

theorem root_pow_ne_one {n : ℕ} (hpos : 0 < n) (hn : n < 32767) :
    AdjoinRoot.root generator ^ n ≠ 1 := by
  intro h
  have hdvd := orderOf_dvd_of_pow_eq_one h
  rw [orderOf_root] at hdvd
  exact Nat.not_le.mpr hn (Nat.le_of_dvd hpos hdvd)

/-! ## Two changed bits -/

theorem polynomialOf_of_count_eq_zero {bs : List Bool} (h : bs.count true = 0) :
    polynomialOf bs = 0 := by
  induction bs with
  | nil => rfl
  | cons b bs ih =>
    rw [List.count_cons, Nat.add_eq_zero_iff] at h
    cases b with
    | false => simp [polynomialOf, coefficient, ih h.1]
    | true => simp at h

theorem exists_polynomialOf_eq_X_pow {bs : List Bool} (h : bs.count true = 1) :
    ∃ i < bs.length, polynomialOf bs = X ^ i := by
  induction bs with
  | nil => cases h
  | cons b bs ih =>
    cases b with
    | false =>
      obtain ⟨i, hi, hbs⟩ := ih (by simpa using h)
      exact ⟨i, Nat.lt_succ_of_lt hi, by simp [polynomialOf, coefficient, hbs]⟩
    | true =>
      have hnone : bs.count true = 0 := by simpa using h
      have hbs := polynomialOf_of_count_eq_zero hnone
      exact ⟨bs.length, Nat.lt_succ_self _, by simp [polynomialOf, coefficient, hbs]⟩

theorem exists_polynomialOf_eq_add {bs : List Bool} (h : bs.count true = 2) :
    ∃ i j, i < j ∧ j < bs.length ∧ polynomialOf bs = X ^ j + X ^ i := by
  induction bs with
  | nil => cases h
  | cons b bs ih =>
    cases b with
    | false =>
      obtain ⟨i, j, hij, hj, hbs⟩ := ih (by simpa using h)
      exact ⟨i, j, hij, Nat.lt_succ_of_lt hj, by simp [polynomialOf, coefficient, hbs]⟩
    | true =>
      have hone : bs.count true = 1 := by simpa using h
      obtain ⟨i, hi, hbs⟩ := exists_polynomialOf_eq_X_pow hone
      exact ⟨i, bs.length, hi, Nat.lt_succ_self _, by simp [polynomialOf, coefficient, hbs]⟩

/-- Two powers less than 32767 apart have no multiple of the generator as their sum. -/
theorem not_generator_dvd {i j : ℕ} (hij : i < j) (hj : j < i + 32767) :
    ¬ generator ∣ X ^ j + X ^ i := by
  intro h
  have hfactor : (X ^ j + X ^ i : (ZMod 2)[X]) = X ^ i * (X ^ (j - i) - 1) := by
    rw [mul_sub, ← pow_add, Nat.add_sub_cancel' hij.le, mul_one, CharTwo.sub_eq_add]
  rw [hfactor] at h
  have hdvd := (isCoprime_generator_X_pow i).dvd_of_dvd_mul_left h
  rw [← AdjoinRoot.mk_eq_zero, map_sub, map_pow, map_one, AdjoinRoot.mk_X, sub_eq_zero] at hdvd
  exact root_pow_ne_one (by omega) (by omega) hdvd

/-- In messages of at most 4095 bytes, two changed bits are noticed. -/
theorem ofBytes_ne_of_distance_eq_two {as bs : List UInt8} (hl : as.length = bs.length)
    (hshort : as.length ≤ 4095) (h : distance (bits as) (bits bs) = 2) :
    ofBytes as ≠ ofBytes bs := by
  intro heq
  have hbits := length_bits_eq hl
  rw [← count_difference] at h
  obtain ⟨i, j, hij, hj, hpoly⟩ := exists_polynomialOf_eq_add h
  rw [length_difference hbits, length_bits] at hj
  rw [polynomialOf_difference hbits] at hpoly
  exact not_generator_dvd hij (by omega) (hpoly ▸ (ofBytes_eq_iff hl).mp heq)

/-- **Few changed bits are noticed.** Messages of one length, of at most 4095 bytes, that differ in
one, two or three bits have different checksums, wherever these bits are. Where the number of
differing bits is odd, no length is too large, because a checksum has an odd number of ones exactly
if its message has. -/
theorem notices_flips :
    (∀ as bs : List UInt8, as.length = bs.length → as.length ≤ 4095 →
      1 ≤ distance (bits as) (bits bs) → distance (bits as) (bits bs) ≤ 3 →
        ofBytes as ≠ ofBytes bs) ∧
    (∀ as bs : List UInt8, as.length = bs.length → distance (bits as) (bits bs) % 2 = 1 →
      ofBytes as ≠ ofBytes bs) ∧
    (∀ data : List UInt8,
      (wordBits (ofBytes data)).count true % 2 = (bits data).count true % 2) := by
  have hodd : ∀ as bs : List UInt8, as.length = bs.length →
      distance (bits as) (bits bs) % 2 = 1 → ofBytes as ≠ ofBytes bs := by
    intro as bs hl h heq
    have heven := even_distance_of_ofBytes_eq hl heq
    omega
  refine ⟨?_, hodd, count_ofBytes⟩
  intro as bs hl hshort hone hthree
  by_cases htwo : distance (bits as) (bits bs) = 2
  · exact ofBytes_ne_of_distance_eq_two hl hshort htwo
  · exact hodd as bs hl (by omega)

/-- A house number with two bits changed, and with one more in the name. -/
theorem notices_flips_renumbered :
    distance (bits (utf8Bytes "Ana 10".toList)) (bits (utf8Bytes "Ana 20".toList)) = 2 ∧
      ofBytes (utf8Bytes "Ana 10".toList) ≠ ofBytes (utf8Bytes "Ana 20".toList) ∧
      distance (bits (utf8Bytes "Ana 10".toList)) (bits (utf8Bytes "Ane 20".toList)) = 3 ∧
      ofBytes (utf8Bytes "Ana 10".toList) ≠ ofBytes (utf8Bytes "Ane 20".toList) := by
  have htwo :
      distance (bits (utf8Bytes "Ana 10".toList)) (bits (utf8Bytes "Ana 20".toList)) = 2 := by
    decide
  have hthree :
      distance (bits (utf8Bytes "Ana 10".toList)) (bits (utf8Bytes "Ane 20".toList)) = 3 := by
    decide
  exact ⟨htwo, notices_flips.1 _ _ (by decide) (by decide) (by omega) (by omega), hthree,
    notices_flips.2.1 _ _ (by decide) (by omega)⟩

end RentBilling.Pix.Checksum
