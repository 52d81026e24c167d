import RentBilling.Proofs.Numeral.Decimal

/-!
The order of texts that begin with as many digits.

Characters are compared from the front, so of two texts that fall into parts of the same length the
first parts decide unless they are the same (`append_lt_append_iff`). Runs of digits of one length
stand in the order of their numbers (`lt_iff_ofDigits_lt`), and padding brings numbers of different
lengths to one (`padded_lt_padded_iff`).
-/

namespace RentBilling.Numeral

theorem append_lt_append_iff {as bs xs ys : List Char} (hlength : as.length = bs.length) :
    as ++ xs < bs ++ ys ↔ as < bs ∨ (as = bs ∧ xs < ys) := by
  induction as generalizing bs with
  | nil =>
    obtain rfl := List.length_eq_zero_iff.mp hlength.symm
    simp
  | cons a as ih =>
    obtain ⟨b, bs, rfl⟩ := List.exists_cons_of_length_eq_add_one hlength.symm
    rw [List.cons_append, List.cons_append, List.cons_lt_cons_iff, List.cons_lt_cons_iff,
      ih (Nat.succ.inj hlength), List.cons.injEq]
    tauto

theorem lt_iff_toNat_lt {a b : Char} : a < b ↔ a.toNat < b.toNat := UInt32.lt_iff_toNat_lt

/-- Runs of digits of one length stand in the order of their numbers. -/
theorem lt_iff_ofDigits_lt {as bs : List Char} (ha : ∀ c ∈ as, c.isDigit)
    (hb : ∀ c ∈ bs, c.isDigit) (hlength : as.length = bs.length) :
    as < bs ↔ ofDigits as < ofDigits bs := by
  induction as generalizing bs with
  | nil =>
    obtain rfl := List.length_eq_zero_iff.mp hlength.symm
    exact iff_of_false (List.lt_irrefl _) (Nat.lt_irrefl _)
  | cons a as ih =>
    obtain ⟨b, bs, rfl⟩ := List.exists_cons_of_length_eq_add_one hlength.symm
    rw [List.forall_mem_cons] at ha hb
    have hlength' : as.length = bs.length := Nat.succ.inj hlength
    have ha' := toNat_of_isDigit ha.1
    have hb' := toNat_of_isDigit hb.1
    have has : ofDigits as < 10 ^ bs.length := hlength' ▸ ofDigits_lt ha.2
    have hbs := ofDigits_lt hb.2
    rw [List.cons_lt_cons_iff, lt_iff_toNat_lt, ih ha.2 hb.2 hlength', ofDigits_cons, ofDigits_cons,
      hlength']
    -- Whichever first digit is greater counts for more than all digits behind the other.
    rcases Nat.lt_trichotomy a.toNat b.toNat with hlt | heq | hgt
    · have hstep := Nat.mul_le_mul_left (10 ^ bs.length)
        (by omega : a.toNat - 48 + 1 ≤ b.toNat - 48)
      rw [Nat.mul_succ] at hstep
      exact iff_of_true (.inl hlt) (by omega)
    · have hab : a = b := Char.toNat_inj.mp heq
      rw [hab]
      simp
    · have hstep := Nat.mul_le_mul_left (10 ^ bs.length)
        (by omega : b.toNat - 48 + 1 ≤ a.toNat - 48)
      rw [Nat.mul_succ] at hstep
      refine iff_of_false ?_ (by omega)
      rintro (hlt | ⟨rfl, -⟩)
      · omega
      · omega

theorem padded_lt_padded_iff {width m n : Nat} (hpos : 0 < width) (hm : m < 10 ^ width)
    (hn : n < 10 ^ width) : padded width m < padded width n ↔ m < n := by
  have hlength : (padded width m).length = (padded width n).length := by
    rw [length_padded_of_lt hpos hm, length_padded_of_lt hpos hn]
  rw [lt_iff_ofDigits_lt (fun _ => isDigit_of_mem_padded) (fun _ => isDigit_of_mem_padded) hlength,
    ofDigits_padded, ofDigits_padded]

theorem padded_inj {width m n : Nat} : padded width m = padded width n ↔ m = n := by
  refine ⟨fun h => ?_, fun h => h ▸ rfl⟩
  rw [← ofDigits_padded width m, h, ofDigits_padded]

end RentBilling.Numeral
