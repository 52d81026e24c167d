import Mathlib.Algebra.Order.BigOperators.Group.List
import Mathlib.Algebra.Order.Group.Nat
import RentBilling.Billing.Bill
import RentBilling.Proofs.Money.Sum

/-!
What placing rows comes to.

`placeRows_eq` says it without words of a fixed size: the total is the sum over the natural numbers,
refused from `2 ^ 64` on, and rows are numbered by their position, refused beyond `2 ^ 32`. Where
rows are placed, every number is the position itself.
-/

namespace RentBilling

/-- The sum of the rows' amounts, however large. -/
def rowSum (rows : List LineItem) : Nat := (rows.map fun row => row.amount.toNat).sum

/-- The sum of the drafts' amounts, however large. -/
def draftSum (drafts : List Draft) : Nat := (drafts.map fun d => d.amount.toNat).sum

theorem draftSum_toDraft (rows : List LineItem) :
    draftSum (rows.map LineItem.toDraft) = rowSum rows := by
  rw [draftSum, rowSum, List.map_map]
  rfl

theorem amount_le_rowSum {rows : List LineItem} {row : LineItem} (h : row ∈ rows) :
    row.amount.toNat ≤ rowSum rows :=
  List.le_sum_of_mem (List.mem_map_of_mem h)

/-! ## Numbering -/

theorem length_number (drafts : List Draft) : (number drafts).length = drafts.length := by
  simp [number]

theorem rowSum_number (drafts : List Draft) : rowSum (number drafts) = draftSum drafts := by
  rw [← draftSum_toDraft, map_toDraft_number]

theorem sortOrder_number {drafts : List Draft} (hl : drafts.length ≤ maxRows) (i : Nat)
    (h : i < (number drafts).length) : (number drafts)[i].sortOrder.toNat = i := by
  have hi : i < maxRows := Nat.lt_of_lt_of_le (by rwa [length_number] at h) hl
  have hplace : (number drafts)[i].sortOrder = .ofNat i := by simp [number, Draft.at]
  rw [hplace]
  exact Nat.mod_eq_of_lt hi

/-! ## Placing -/

theorem sum?_amounts (drafts : List Draft) :
    Centavos.sum? (drafts.map (·.amount)) = Centavos.ofNat? (draftSum drafts) := by
  rw [Centavos.sum?_eq_ofNat?, List.map_map]
  rfl

theorem placeRows_eq (drafts : List Draft) :
    placeRows drafts =
      if 2 ^ 64 ≤ draftSum drafts then .error .totalOverflow
      else if 2 ^ 32 < drafts.length then .error .tooManyRows
      else .ok (number drafts, ⟨.ofNat (draftSum drafts)⟩) := by
  unfold placeRows
  rw [sum?_amounts]
  by_cases hsum : 2 ^ 64 ≤ draftSum drafts
  · rw [if_pos hsum, Centavos.ofNat?_of_le hsum]
  · rw [if_neg hsum, Centavos.ofNat?_of_lt (Nat.not_le.mp hsum)]
    by_cases hl : 2 ^ 32 < drafts.length
    · rw [if_pos hl]
      exact if_neg (Nat.not_le.mpr hl)
    · rw [if_neg hl]
      exact if_pos (Nat.not_lt.mp hl)

/-- All that placed rows and their total have in common with the drafts. -/
theorem of_placeRows_ok {drafts : List Draft} {rows : List LineItem} {total : Centavos}
    (h : placeRows drafts = .ok (rows, total)) :
    rows = number drafts ∧ total.toNat = draftSum drafts ∧ drafts.length ≤ maxRows := by
  rw [placeRows_eq] at h
  split at h
  · contradiction
  · rename_i hsum
    split at h
    · contradiction
    · rename_i hl
      obtain ⟨rfl, rfl⟩ := Prod.mk.inj (Except.ok.inj h)
      exact ⟨rfl, Centavos.toNat_of_lt (Nat.not_le.mp hsum), Nat.not_lt.mp hl⟩

end RentBilling
