import Mathlib.Algebra.BigOperators.Group.List.Basic
import Mathlib.Algebra.GroupWithZero.Nat
import RentBilling.Money.Centavos

/-!
Sums of amounts.

Adding from the left and refusing whatever does not fit comes to the same as adding without bounds
and looking at the size of the whole sum once (`sum?_eq_ofNat?`): no amount is negative, so a sum
that has become too large stays too large.

So the order of the amounts does not matter, nor how they are grouped: sums of parts can be added
instead (`sum?_append`), and where a part has no sum the whole has none (`sum?_regrouped`).
-/

namespace RentBilling.Centavos

theorem ofNat?_of_le {n : Nat} (h : bound ≤ n) : ofNat? n = none := if_neg (Nat.not_lt.mpr h)

theorem ofNat?_of_lt {n : Nat} (h : n < bound) : ofNat? n = some ⟨.ofNat n⟩ := if_pos h

theorem toNat_of_lt {n : Nat} (h : n < bound) : (⟨.ofNat n⟩ : Centavos).toNat = n :=
  ofNat?_eq_some_iff.mp (ofNat?_of_lt h)

/-- The sum that has been reached so far is what the rest is added to. -/
theorem foldlM_add? (amounts : List Centavos) (sofar : Centavos) :
    amounts.foldlM add? sofar = ofNat? (sofar.toNat + (amounts.map toNat).sum) := by
  induction amounts generalizing sofar with
  | nil => exact (ofNat?_toNat sofar).symm
  | cons a amounts ih =>
    rw [List.foldlM_cons, add?_eq_ofNat?, List.map_cons, List.sum_cons, ← Nat.add_assoc]
    by_cases h : sofar.toNat + a.toNat < bound
    · rw [ofNat?_of_lt h, Option.bind_eq_bind, Option.bind_some, ih, toNat_of_lt h]
    · -- What is too large here stays too large, whatever else is added.
      rw [ofNat?_of_le (by omega), ofNat?_of_le (by omega)]
      rfl

theorem sum?_eq_ofNat? (amounts : List Centavos) :
    sum? amounts = ofNat? (amounts.map toNat).sum := by
  rw [sum?, foldlM_add?, toNat_zero, Nat.zero_add]

/-! ## Order and grouping -/

theorem exists_sum?_iff {amounts : List Centavos} :
    (∃ s, sum? amounts = some s) ↔ (amounts.map toNat).sum ≤ 2 ^ 64 - 1 := by
  rw [sum?_eq_ofNat?]
  constructor
  · intro ⟨s, hs⟩
    have hlt : s.toNat < 2 ^ 64 := s.toNat_lt_bound
    rw [ofNat?_eq_some_iff] at hs
    omega
  · intro h
    exact ⟨_, ofNat?_of_lt (show _ < 2 ^ 64 by omega)⟩

theorem toNat_of_sum? {amounts : List Centavos} {s : Centavos} (h : sum? amounts = some s) :
    s.toNat = (amounts.map toNat).sum := by
  rw [sum?_eq_ofNat?] at h
  exact ofNat?_eq_some_iff.mp h

theorem sum?_of_perm {amounts amounts' : List Centavos} (h : amounts.Perm amounts') :
    sum? amounts = sum? amounts' := by
  rw [sum?_eq_ofNat?, sum?_eq_ofNat?, (h.map toNat).sum_eq]

/-- The parts of a sum are added as the amounts in them are, and fail to fit as they do. -/
theorem sum?_append (front back : List Centavos) :
    sum? (front ++ back) = (sum? front).bind fun a => (sum? back).bind fun b => add? a b := by
  rw [sum?_eq_ofNat?, sum?_eq_ofNat?, sum?_eq_ofNat?, List.map_append, List.sum_append]
  by_cases hfront : (front.map toNat).sum < bound
  · rw [ofNat?_of_lt hfront, Option.bind_some]
    by_cases hback : (back.map toNat).sum < bound
    · rw [ofNat?_of_lt hback, Option.bind_some, add?_eq_ofNat?, toNat_of_lt hfront,
        toNat_of_lt hback]
    · rw [ofNat?_of_le (Nat.not_lt.mp hback), ofNat?_of_le (by omega)]
      rfl
  · rw [ofNat?_of_le (Nat.not_lt.mp hfront), ofNat?_of_le (by omega)]
    rfl

/-- **Sums in any order and grouping.** Amounts have a sum if and only if their unbounded sum is at
most `2 ^ 64 - 1`, and then it is that sum. In another order they have the same sum or none either.
However they are parted, adding up the sums of the two parts gives the same, and if one part has no
sum, the whole has none. -/
theorem sum?_regrouped :
    (∀ amounts : List Centavos,
      ((∃ s, sum? amounts = some s) ↔ (amounts.map toNat).sum ≤ 2 ^ 64 - 1) ∧
        ∀ s, sum? amounts = some s → s.toNat = (amounts.map toNat).sum) ∧
    (∀ amounts amounts' : List Centavos, amounts.Perm amounts' → sum? amounts = sum? amounts') ∧
    ∀ amounts front back : List Centavos, amounts.Perm (front ++ back) →
      (∀ a b, sum? front = some a → sum? back = some b → sum? amounts = add? a b) ∧
        (sum? front = none ∨ sum? back = none → sum? amounts = none) := by
  refine ⟨fun amounts => ⟨exists_sum?_iff, fun s => toNat_of_sum?⟩,
    fun amounts amounts' => sum?_of_perm, ?_⟩
  intro amounts front back hparts
  rw [sum?_of_perm hparts, sum?_append]
  constructor
  · intro a b ha hb
    rw [ha, hb]
    rfl
  · intro hnone
    rcases hnone with hfront | hback
    · rw [hfront]
      rfl
    · rw [hback]
      cases sum? front <;> rfl

/-- The largest sum that fits, in another order, and amounts that do not fit although both parts
do. -/
theorem sum?_regrouped_edge :
    sum? [⟨1⟩, ⟨18446744073709551614⟩] = some ⟨18446744073709551615⟩ ∧
      sum? [⟨1⟩, ⟨18446744073709551614⟩, ⟨1⟩] = add? ⟨18446744073709551614⟩ ⟨2⟩ ∧
      ¬ ∃ s, sum? [⟨1⟩, ⟨18446744073709551614⟩, ⟨1⟩] = some s := by
  obtain ⟨hsum, horder, hparts⟩ := sum?_regrouped
  refine ⟨?_, ?_, ?_⟩
  · rw [horder _ [⟨18446744073709551614⟩, ⟨1⟩] (by decide)]
    decide
  · exact (hparts _ [⟨18446744073709551614⟩] [⟨1⟩, ⟨1⟩] (by decide)).1 _ _ (by decide) (by decide)
  · rw [(hsum _).1]
    decide

end RentBilling.Centavos
