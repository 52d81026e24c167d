/-!
Amounts of money.

An amount is a count of centavos, never negative, below `2 ^ 64`. Adding refuses a result that does
not fit, and so does the sum of a list, which adds from the left.
-/

namespace RentBilling

/-- An amount in hundredths of a real. -/
structure Centavos where
  value : UInt64
  deriving DecidableEq, Repr

namespace Centavos

/-- One more than the largest amount. -/
def bound : Nat := UInt64.size

def zero : Centavos := ⟨0⟩

instance : Inhabited Centavos := ⟨zero⟩

def toNat (a : Centavos) : Nat := a.value.toNat

def isZero (a : Centavos) : Bool := a.value == 0

/-- The amount of `n` centavos, if there is one. -/
def ofNat? (n : Nat) : Option Centavos :=
  if n < bound then some ⟨UInt64.ofNat n⟩ else none

theorem toNat_lt_bound (a : Centavos) : a.toNat < bound := a.value.toNat_lt

theorem toNat_zero : zero.toNat = 0 := rfl

theorem toNat_injective {a b : Centavos} (h : a.toNat = b.toNat) : a = b := by
  cases a; cases b
  simpa [toNat, UInt64.toNat_inj] using h

theorem isZero_iff {a : Centavos} : a.isZero ↔ a.toNat = 0 := by
  simp [isZero, toNat, ← UInt64.toNat_inj]

theorem ofNat?_toNat (a : Centavos) : ofNat? a.toNat = some a := by
  have h := toNat_lt_bound a
  simp only [ofNat?, h, if_true]
  simp [toNat]

theorem ofNat?_eq_some_iff {n : Nat} {a : Centavos} : ofNat? n = some a ↔ a.toNat = n := by
  constructor
  · intro h
    unfold ofNat? at h
    split at h
    · rename_i hn
      injection h with h
      subst h
      simpa [toNat, bound] using Nat.mod_eq_of_lt hn
    · contradiction
  · rintro rfl
    exact ofNat?_toNat a

/-! ## Sums -/

/-- The sum, unless it is too large. -/
def add? (a b : Centavos) : Option Centavos :=
  if a.value ≤ a.value + b.value then some ⟨a.value + b.value⟩ else none

/-- The sum of all amounts, unless it is too large. -/
def sum? (amounts : List Centavos) : Option Centavos := amounts.foldlM add? zero

instance : Max Centavos := ⟨fun a b => if a.value ≤ b.value then b else a⟩

theorem add?_eq_ofNat? (a b : Centavos) : add? a b = ofNat? (a.toNat + b.toNat) := by
  have ha := a.value.toNat_lt
  have hb := b.value.toNat_lt
  have size : UInt64.size = 2 ^ 64 := rfl
  unfold add? ofNat? bound toNat
  by_cases h : a.value.toNat + b.value.toNat < UInt64.size
  · have hv : (a.value + b.value).toNat = a.value.toNat + b.value.toNat := by
      rw [UInt64.toNat_add, Nat.mod_eq_of_lt h]
    have : a.value ≤ a.value + b.value := by
      rw [UInt64.le_iff_toNat_le]; omega
    simp only [this, h, if_true]
    congr 2
  · have : ¬ a.value ≤ a.value + b.value := by
      rw [UInt64.le_iff_toNat_le, UInt64.toNat_add]; omega
    rw [if_neg this, if_neg h]

end Centavos

end RentBilling
