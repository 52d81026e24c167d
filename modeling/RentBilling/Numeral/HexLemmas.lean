import Mathlib.Algebra.Ring.Nat
import RentBilling.Numeral.Hex

/-!
Hexadecimal digits of a fixed width: which they are (`mem_fixedHex`), and what they read as
(`ofHex?_fixedHex`).
-/

namespace RentBilling.Numeral

theorem mem_fixedHex {digit : Nat → Char} {width n : Nat} {c : Char}
    (h : c ∈ fixedHex digit width n) : ∃ d < 16, c = digit d := by
  induction width generalizing n with
  | zero => simp [fixedHex] at h
  | succ w ih =>
    rw [fixedHex, List.mem_append, List.mem_singleton] at h
    rcases h with h | h
    · exact ih h
    · exact ⟨n % 16, Nat.mod_lt _ (by decide), h⟩

/-- Reading fixed-width digits gives the number back, modulo what the width can hold. -/
theorem ofHex?_fixedHex {digit : Nat → Char} (h : ∀ n < 16, hexValue? (digit n) = some n)
    (width n : Nat) : ofHex? (fixedHex digit width n) = some (n % 16 ^ width) := by
  induction width generalizing n with
  | zero => simp [fixedHex, ofHex?, Nat.mod_one]
  | succ w ih =>
    have hd := h (n % 16) (Nat.mod_lt _ (by decide))
    have ih' := ih (n / 16)
    unfold ofHex? at ih' ⊢
    rw [fixedHex, List.foldlM_append, ih']
    have e : n % 16 ^ (w + 1) = 16 * (n / 16 % 16 ^ w) + n % 16 := by
      rw [Nat.pow_succ, Nat.mul_comm, Nat.mod_mul]; omega
    simp [hd, e]

end RentBilling.Numeral
