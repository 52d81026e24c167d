import Mathlib.Algebra.Order.Field.Rat
import Mathlib.Data.List.Basic
import Mathlib.Data.List.TakeWhile
import Mathlib.Tactic.Ring
import RentBilling.Numeral.Decimal
import RentBilling.Proofs.Text.Runs
import RentBilling.Text.Ascii

/-!
Padded and grouped digits, and the exact value of a decimal with a point.

Padding adds digits only and fills the width exactly (`length_padded_of_lt`), and it takes the
number of a run of digits back to the run where that fills the width as well
(`padded_ofDigits_eq_iff`). Grouping adds points only (`filter_grouped`). `decimalValue?` reads a
run of digits with at most one point in it as the rational number that it writes down, without any
rounding, and reads nothing else (`decimalValue?_cases`).
-/

namespace RentBilling.Numeral

open Text

theorem toNat_of_isDigit {c : Char} (h : c.isDigit) : 48 ≤ c.toNat ∧ c.toNat ≤ 57 := by
  simp only [Char.isDigit, Bool.and_eq_true, decide_eq_true_eq] at h
  exact ⟨UInt32.le_iff_toNat_le.mp h.1, UInt32.le_iff_toNat_le.mp h.2⟩

theorem isAsciiChar_of_isDigit {c : Char} (h : c.isDigit) : isAsciiChar c :=
  decide_eq_true ((toNat_of_isDigit h).2.trans_lt (by decide))

theorem ne_of_isDigit {c d : Char} (h : c.isDigit) (hd : d.isDigit = false) : c ≠ d := by
  rintro rfl
  exact Bool.false_ne_true (hd.symm.trans h)

theorem exists_digitChar {c : Char} (h : c.isDigit) : ∃ n < 10, c = n.digitChar := by
  have hc := toNat_of_isDigit h
  have hall : ∀ n < 10, Char.ofNat (48 + n) = n.digitChar := by decide
  refine ⟨c.toNat - 48, by omega, ?_⟩
  rw [← hall _ (by omega), Nat.add_sub_cancel' hc.1, Char.ofNat_toNat]

theorem isDigit_of_mem_padded {width n : Nat} {c : Char} (h : c ∈ padded width n) : c.isDigit := by
  rcases List.mem_append.mp h with h | h
  · rw [List.eq_of_mem_replicate h]; decide
  · exact isDigit_of_mem_digits h

theorem length_padded_of_lt {width n : Nat} (hw : 0 < width) (h : n < 10 ^ width) :
    (padded width n).length = width := by
  have hd : (digits n).length ≤ width := (Nat.length_toDigits_le_iff (by decide) hw).mpr h
  rw [length_padded]; omega

theorem exists_padded_two {n : Nat} (h : n < 100) :
    ∃ a b, padded 2 n = [a, b] ∧ a.isDigit ∧ b.isDigit := by
  obtain ⟨a, b, hab⟩ := List.length_eq_two.mp (length_padded_of_lt (by decide) h)
  have hdigit : ∀ c ∈ [a, b], c.isDigit := fun c hc => isDigit_of_mem_padded (hab ▸ hc)
  exact ⟨a, b, hab, hdigit a (by simp), hdigit b (by simp)⟩

theorem exists_padded_four {n : Nat} (h : n < 10000) :
    ∃ a b c d, padded 4 n = [a, b, c, d] ∧ ∀ e ∈ [a, b, c, d], e.isDigit := by
  obtain ⟨a, b, c, d, habcd⟩ := List.length_eq_four.mp (length_padded_of_lt (by decide) h)
  exact ⟨a, b, c, d, habcd, fun e he => isDigit_of_mem_padded (habcd ▸ he)⟩

/-! ## Digits and their number -/

/-- Digits in front count for as many powers of ten as digits follow. -/
theorem ofDigits_append (as bs : List Char) :
    ofDigits (as ++ bs) = 10 ^ bs.length * ofDigits as + ofDigits bs := by
  unfold ofDigits
  rw [Nat.ofDigitChars_append, Nat.ofDigitChars_eq_ofDigitChars_zero]

theorem ofDigits_cons (c : Char) (cs : List Char) :
    ofDigits (c :: cs) = 10 ^ cs.length * (c.toNat - 48) + ofDigits cs := by
  unfold ofDigits
  rw [Nat.ofDigitChars_cons, Nat.ofDigitChars_eq_ofDigitChars_zero, Nat.mul_zero, Nat.zero_add]
  rfl

theorem ofDigits_lt {cs : List Char} (h : ∀ c ∈ cs, c.isDigit) : ofDigits cs < 10 ^ cs.length := by
  induction cs with
  | nil => decide
  | cons c cs ih =>
    rw [List.forall_mem_cons] at h
    have hc : c.toNat - 48 + 1 ≤ 10 := by
      have := toNat_of_isDigit h.1
      omega
    calc ofDigits (c :: cs)
      _ = 10 ^ cs.length * (c.toNat - 48) + ofDigits cs := ofDigits_cons c cs
      _ < 10 ^ cs.length * (c.toNat - 48) + 10 ^ cs.length := Nat.add_lt_add_left (ih h.2) _
      _ = 10 ^ cs.length * (c.toNat - 48 + 1) := (Nat.mul_succ _ _).symm
      _ ≤ 10 ^ cs.length * 10 := Nat.mul_le_mul_left _ hc
      _ = 10 ^ (c :: cs).length := by rw [List.length_cons, Nat.pow_succ]

/-- Among runs of digits of one length, the number tells which it is. -/
theorem eq_of_ofDigits_eq {as bs : List Char} (ha : ∀ c ∈ as, c.isDigit)
    (hb : ∀ c ∈ bs, c.isDigit) (hlength : as.length = bs.length)
    (h : ofDigits as = ofDigits bs) : as = bs := by
  induction as generalizing bs with
  | nil => exact (List.length_eq_zero_iff.mp hlength.symm).symm
  | cons a as ih =>
    obtain ⟨b, bs, rfl⟩ := List.exists_cons_of_length_eq_add_one hlength.symm
    rw [List.forall_mem_cons] at ha hb
    have hlength' : as.length = bs.length := Nat.succ.inj hlength
    rw [ofDigits_cons, ofDigits_cons, hlength'] at h
    have halt : ofDigits as < 10 ^ bs.length := hlength' ▸ ofDigits_lt ha.2
    have hblt := ofDigits_lt hb.2
    -- The first digit is the quotient by the power of ten, the others are the remainder.
    have hfirst : a.toNat - 48 = b.toNat - 48 := by
      have := congrArg (· / 10 ^ bs.length) h
      simpa [Nat.mul_add_div (Nat.pow_pos (by decide : 0 < 10)), Nat.div_eq_of_lt, halt, hblt]
        using this
    have hrest : ofDigits as = ofDigits bs := by
      rw [hfirst] at h
      exact Nat.add_left_cancel h
    have hab : a = b := by
      have := toNat_of_isDigit ha.1
      have := toNat_of_isDigit hb.1
      exact Char.toNat_inj.mp (by omega)
    rw [hab, ih ha.2 hb.2 hlength' hrest]

/-- A leading zero shows in the number. -/
theorem head?_eq_zero_iff {cs : List Char} (hdigits : ∀ c ∈ cs, c.isDigit) (hne : cs ≠ []) :
    cs.head? = some '0' ↔ ofDigits cs < 10 ^ (cs.length - 1) := by
  obtain ⟨c, cs, rfl⟩ := List.exists_cons_of_ne_nil hne
  rw [List.forall_mem_cons] at hdigits
  rw [List.head?_cons, Option.some.injEq, ofDigits_cons, List.length_cons, Nat.add_sub_cancel]
  constructor
  · rintro rfl
    simpa using ofDigits_lt hdigits.2
  · intro h
    have hzero : c.toNat - 48 = 0 := by
      by_contra hpos
      have := Nat.mul_le_mul_left (10 ^ cs.length) (Nat.one_le_iff_ne_zero.mpr hpos)
      omega
    have := toNat_of_isDigit hdigits.1
    exact Char.toNat_inj.mp (by omega : c.toNat = 48)

/-- Padding takes the number of some digits back to them if and only if they fill the width, and
beyond it do not begin with zero. -/
theorem padded_ofDigits_eq_iff {width : Nat} {cs : List Char} (hdigits : ∀ c ∈ cs, c.isDigit)
    (hpos : 0 < width) : padded width (ofDigits cs) = cs ↔
      width ≤ cs.length ∧ (cs.head? = some '0' → cs.length = width) := by
  have hlt := ofDigits_lt hdigits
  -- Beyond the width, the digits of the number are as many as were read, less leading zeros.
  have hlonger : width < cs.length →
      ((digits (ofDigits cs)).length < cs.length ↔ cs.head? = some '0') := by
    intro hlong
    have hne : cs ≠ [] := List.length_pos_iff.mp (by omega)
    rw [head?_eq_zero_iff hdigits hne, digits,
      ← Nat.length_toDigits_le_iff (by decide) (by omega : 0 < cs.length - 1)]
    omega
  constructor
  · intro h
    have hlength := congrArg List.length h
    rw [length_padded] at hlength
    exact ⟨by omega, fun hhead => by_contra fun hne => by
      have := (hlonger (by omega)).mpr hhead
      omega⟩
  · rintro ⟨hwidth, hhead⟩
    have hlength : (padded width (ofDigits cs)).length = cs.length := by
      by_cases heq : cs.length = width
      · rw [heq] at hlt ⊢
        exact length_padded_of_lt hpos hlt
      · have hnotless : ¬ (digits (ofDigits cs)).length < cs.length := fun h =>
          heq (hhead ((hlonger (by omega)).mp h))
        have hupper : (digits (ofDigits cs)).length ≤ cs.length :=
          (Nat.length_toDigits_le_iff (by decide) (by omega)).mpr hlt
        rw [length_padded]
        omega
    exact eq_of_ofDigits_eq (fun _ => isDigit_of_mem_padded) hdigits hlength (ofDigits_padded _ _)

/-! ## Grouped digits -/

theorem filter_groupLeast {ds : List Char} (h : ∀ c ∈ ds, c ≠ '.') :
    (groupLeast ds).filter (· ≠ '.') = ds := by
  fun_induction groupLeast ds with
  | case1 a b c d rest ih =>
    obtain ⟨ha, hb, hc, hrest⟩ : a ≠ '.' ∧ b ≠ '.' ∧ c ≠ '.' ∧ ∀ e ∈ d :: rest, e ≠ '.' := by
      simpa only [List.forall_mem_cons] using h
    simpa [ha, hb, hc] using ih hrest
  | case2 ds => exact List.filter_eq_self.mpr fun c hc => by simpa using h c hc

/-- Without the points of the grouping, the digits are what they were. -/
theorem filter_grouped (n : Nat) : (grouped n).filter (· ≠ '.') = digits n := by
  have h : ∀ c ∈ (digits n).reverse, c ≠ '.' := fun c hc =>
    ne_of_isDigit (isDigit_of_mem_digits (List.mem_reverse.mp hc)) (by decide)
  rw [grouped, List.filter_reverse, filter_groupLeast h, List.reverse_reverse]

theorem isDigit_or_point_of_mem_grouped {n : Nat} {c : Char} (h : c ∈ grouped n) :
    c.isDigit ∨ c = '.' := by
  by_cases hc : c = '.'
  · exact .inr hc
  · have hmem : c ∈ (grouped n).filter (· ≠ '.') := List.mem_filter.mpr ⟨h, by simpa using hc⟩
    rw [filter_grouped] at hmem
    exact .inl (isDigit_of_mem_digits hmem)

/-! ## Values -/

/-- The exact value of digits with at most one point among them, and one digit at least. -/
def decimalValue? (cs : List Char) : Option Rat :=
  let whole := cs.takeWhile Char.isDigit
  match cs.dropWhile Char.isDigit with
  | [] => if whole = [] then none else some (ofDigits whole : Rat)
  | point :: fraction =>
    if point = '.' ∧ fraction.all Char.isDigit ∧ whole ++ fraction ≠ [] then
      some ((ofDigits (whole ++ fraction) : Rat) / 10 ^ fraction.length)
    else none

theorem decimalValue?_point {whole fraction : List Char} (hw : ∀ c ∈ whole, c.isDigit)
    (hf : ∀ c ∈ fraction, c.isDigit) (hne : whole ++ fraction ≠ []) :
    decimalValue? (whole ++ '.' :: fraction) =
      some ((ofDigits (whole ++ fraction) : Rat) / 10 ^ fraction.length) := by
  have hpoint : ∀ c ∈ ('.' :: fraction).head?, c.isDigit = false := by simp
  unfold decimalValue?
  simp only [takeWhile_append_of_stop hw hpoint, dropWhile_append_of_stop hw hpoint]
  exact if_pos ⟨trivial, List.all_eq_true.mpr hf, hne⟩

/-- What has a value is digits, or digits with a point somewhere among them. -/
theorem decimalValue?_cases {cs : List Char} {x : Rat} (h : decimalValue? cs = some x) :
    ∃ whole fraction : List Char, (∀ c ∈ whole ++ fraction, c.isDigit) ∧ whole ++ fraction ≠ [] ∧
      x = (ofDigits (whole ++ fraction) : Rat) / 10 ^ fraction.length ∧
      (cs = whole ∧ fraction = [] ∨ cs = whole ++ '.' :: fraction) := by
  have hwhole : ∀ c ∈ cs.takeWhile Char.isDigit, c.isDigit := fun _ hc =>
    List.mem_takeWhile_imp hc
  have hcs : cs.takeWhile Char.isDigit ++ cs.dropWhile Char.isDigit = cs :=
    List.takeWhile_append_dropWhile
  unfold decimalValue? at h
  dsimp only at h
  split at h
  · rename_i hrest
    split at h
    · contradiction
    · rename_i hne
      obtain rfl := Option.some.inj h
      rw [hrest, List.append_nil] at hcs
      exact ⟨cs.takeWhile Char.isDigit, [], by simpa using hwhole, by simpa using hne, by simp,
        .inl ⟨hcs.symm, rfl⟩⟩
  · rename_i point fraction hrest
    split at h
    · rename_i hpoint
      obtain ⟨rfl, hfraction, hne⟩ := hpoint
      obtain rfl := Option.some.inj h
      rw [hrest] at hcs
      refine ⟨cs.takeWhile Char.isDigit, fraction, ?_, hne, rfl, .inr hcs.symm⟩
      exact List.forall_mem_append.mpr ⟨hwhole, List.all_eq_true.mp hfraction⟩
    · contradiction

end RentBilling.Numeral
