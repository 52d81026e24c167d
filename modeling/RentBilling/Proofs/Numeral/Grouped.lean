import RentBilling.Proofs.Numeral.Decimal

/-!
The groups that the digits of a number are written in.

They are made from the last digit on, yet come out as a reader expects them from the first one on
(`grouped_eq`): a first group of one to three digits that does not begin with zero unless it is the
number zero, and then groups of exactly three, each behind a point. So the digits can as well be
written from the first one on, with a point wherever a multiple of three of them is left
(`grouped_eq_pointed`).
-/

namespace RentBilling.Numeral

/-- The digits of a number in thousands: `first`, and then each of `groups` behind a point. -/
structure InThousands (first : List Char) (groups : List (List Char)) : Prop where
  isDigit : ∀ c ∈ first ++ groups.flatten, c.isDigit
  length_first : 1 ≤ first.length ∧ first.length ≤ 3
  length_group : ∀ group ∈ groups, group.length = 3
  leadingZero : first.head? = some '0' → first = ['0'] ∧ groups = []

/-- Only zero has a zero in front. -/
theorem digits_eq_of_head? {n : ℕ} (h : (digits n).head? = some '0') : digits n = ['0'] := by
  have hpadded : padded 1 (ofDigits (digits n)) = digits n := by
    have hpos := List.length_pos_iff.mpr (digits_ne_nil n)
    rw [ofDigits_digits, padded, Nat.sub_eq_zero_of_le hpos, List.replicate_zero, List.nil_append]
  have hlength := ((padded_ofDigits_eq_iff (fun _ => isDigit_of_mem_digits) one_pos).mp hpadded).2 h
  obtain ⟨c, hc⟩ := List.length_eq_one_iff.mp hlength
  rw [hc] at h ⊢
  rw [Option.some.inj h]

/-! ## From the last digit on -/

/-- The groups of a run of digits, the least significant digit first, read backwards. -/
theorem reverse_groupLeast {ds : List Char} (hne : ds ≠ []) :
    ∃ (first : List Char) (groups : List (List Char)),
      (groupLeast ds).reverse = first ++ groups.flatMap ('.' :: ·) ∧
      ds.reverse = first ++ groups.flatten ∧ (1 ≤ first.length ∧ first.length ≤ 3) ∧
      ∀ group ∈ groups, group.length = 3 := by
  fun_induction groupLeast ds with
  | case1 a b c d rest ih =>
    obtain ⟨first, groups, hpoints, hdigits, hfirst, hgroups⟩ := ih (List.cons_ne_nil d rest)
    refine ⟨first, groups ++ [[c, b, a]], ?_, ?_, hfirst, ?_⟩
    · simp [hpoints]
    · rw [List.reverse_cons] at hdigits
      simp [hdigits]
    · intro group hgroup
      rcases List.mem_append.mp hgroup with hgroup | hgroup
      · exact hgroups group hgroup
      · rw [List.mem_singleton.mp hgroup]
        rfl
  | case2 ds hshort =>
    have hlength : ds.length ≤ 3 := by
      rcases ds with _ | ⟨a, _ | ⟨b, _ | ⟨c, _ | ⟨d, rest⟩⟩⟩⟩
      iterate 4 · simp
      · exact absurd rfl (hshort a b c d rest)
    have hpos := List.length_pos_iff.mpr hne
    exact ⟨ds.reverse, [], by simp, by simp, by simpa using ⟨hpos, hlength⟩, by simp⟩

theorem grouped_eq (n : ℕ) : ∃ (first : List Char) (groups : List (List Char)),
    grouped n = first ++ groups.flatMap ('.' :: ·) ∧ digits n = first ++ groups.flatten ∧
      InThousands first groups := by
  have hne : (digits n).reverse ≠ [] := by simpa using digits_ne_nil n
  obtain ⟨first, groups, hpoints, hdigits, hfirst, hgroups⟩ := reverse_groupLeast hne
  rw [List.reverse_reverse] at hdigits
  refine ⟨first, groups, hpoints, hdigits, fun c hc => ?_, hfirst, hgroups, fun hzero => ?_⟩
  · exact isDigit_of_mem_digits (hdigits ▸ hc)
  · obtain ⟨c, rest, rfl⟩ := List.exists_cons_of_length_pos (Nat.lt_of_succ_le hfirst.1)
    have hhead : (digits n).head? = some '0' := by
      rw [hdigits]
      exact hzero
    have hrest := (digits_eq_of_head? hhead).symm.trans hdigits
    obtain ⟨rfl, hnil⟩ := List.cons.inj hrest
    obtain ⟨rfl, hflat⟩ := List.append_eq_nil_iff.mp hnil.symm
    refine ⟨rfl, List.eq_nil_iff_forall_not_mem.mpr fun group hgroup => ?_⟩
    have hlength := hgroups group hgroup
    rw [List.flatten_eq_nil_iff.mp hflat group hgroup] at hlength
    contradiction

/-! ## From the first digit on -/

/-- Digits of a numeral of `length` digits, the first of them the `i`-th: each one stands behind a
point if it is not the first of the numeral and a multiple of three are left from it on. -/
def pointed (length : ℕ) : ℕ → List Char → List Char
  | _, [] => []
  | i, c :: cs =>
    if 0 < i ∧ (length - i) % 3 = 0 then '.' :: c :: pointed length (i + 1) cs
    else c :: pointed length (i + 1) cs

theorem pointed_append {length i : ℕ} {xs rest : List Char}
    (h : ∀ j < xs.length, i + j = 0 ∨ (length - (i + j)) % 3 ≠ 0) :
    pointed length i (xs ++ rest) = xs ++ pointed length (i + xs.length) rest := by
  induction xs generalizing i with
  | nil => rfl
  | cons x xs ih =>
    have hfirst := h 0 (by simp)
    have hrest : ∀ j < xs.length, i + 1 + j = 0 ∨ (length - (i + 1 + j)) % 3 ≠ 0 := by
      intro j hj
      have hnext := h (j + 1) (by simpa using hj)
      rwa [Nat.add_assoc, Nat.add_comm 1 j]
    rw [List.cons_append, pointed, if_neg (by omega), ih hrest, List.length_cons, List.cons_append,
      Nat.add_assoc, Nat.add_comm 1]

theorem length_flatten_mod {groups : List (List Char)} (h : ∀ group ∈ groups, group.length = 3) :
    groups.flatten.length % 3 = 0 := by
  induction groups with
  | nil => rfl
  | cons group groups ih =>
    rw [List.forall_mem_cons] at h
    have hrest := ih h.2
    rw [List.flatten_cons, List.length_append, h.1]
    omega

/-- Behind the first group, a point is due right before each group and nowhere in it. -/
theorem pointed_flatten {length i : ℕ} {groups : List (List Char)}
    (h : ∀ group ∈ groups, group.length = 3) (hi : 0 < i)
    (hlength : length = i + groups.flatten.length) :
    pointed length i groups.flatten = groups.flatMap ('.' :: ·) := by
  induction groups generalizing i with
  | nil => rfl
  | cons group groups ih =>
    rw [List.forall_mem_cons] at h
    rw [List.flatten_cons, List.length_append, h.1] at hlength
    obtain ⟨a, b, c, rfl⟩ := List.length_eq_three.mp h.1
    have hrest := length_flatten_mod h.2
    have hfree : ∀ j < [b, c].length, i + 1 + j = 0 ∨ (length - (i + 1 + j)) % 3 ≠ 0 := by
      intro j hj
      have hj' : j < 2 := hj
      omega
    have hstep : pointed length i (a :: ([b, c] ++ groups.flatten)) =
        '.' :: a :: ([b, c] ++ pointed length (i + 1 + 2) groups.flatten) := by
      rw [pointed, if_pos (by omega), pointed_append hfree]
      rfl
    rw [List.flatMap_cons, ← ih h.2 (by omega : 0 < i + 1 + 2) (by omega)]
    exact hstep

/-- Grouping from the last digit on puts the points where walking from the first one does. -/
theorem grouped_eq_pointed (n : ℕ) : grouped n = pointed (digits n).length 0 (digits n) := by
  obtain ⟨first, groups, hpoints, hdigits, h⟩ := grouped_eq n
  have hrest := length_flatten_mod h.length_group
  have hfirst := h.length_first
  have hfree : ∀ j < first.length,
      0 + j = 0 ∨ ((first ++ groups.flatten).length - (0 + j)) % 3 ≠ 0 := by
    intro j hj
    rw [List.length_append]
    omega
  rw [hpoints, hdigits, pointed_append hfree,
    pointed_flatten h.length_group (by omega) (by rw [List.length_append, Nat.zero_add])]

end RentBilling.Numeral
