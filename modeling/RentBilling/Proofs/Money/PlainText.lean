import Mathlib.Tactic.Linarith
import RentBilling.Money.Reais
import RentBilling.Proofs.Numeral.Decimal

/-!
The plain text of an amount says the amount exactly.

Its decimal value is the count of centavos divided by a hundred (`decimalValue?_plainText`), so that
no two amounts have the same text. It has 21 characters at most (`length_plainText_le`).
-/

namespace RentBilling.Centavos

open Numeral

theorem length_padded_cents (a : Centavos) : (padded 2 a.cents).length = 2 :=
  length_padded_of_lt (by decide) (Nat.mod_lt _ (by decide))

/-- The two places behind the whole reais make up the count of centavos. -/
theorem ofDigits_reais_cents (a : Centavos) :
    ofDigits (digits a.reais ++ padded 2 a.cents) = a.toNat := by
  rw [ofDigits_append, ofDigits_digits, ofDigits_padded, length_padded_cents]
  exact reais_cents a

theorem decimalValue?_plainText (a : Centavos) :
    decimalValue? a.plainText.toList = some ((a.toNat : Rat) / 100) := by
  have hne : digits a.reais ++ padded 2 a.cents ≠ [] := by simp [digits_ne_nil]
  rw [plainText, String.toList_ofList,
    decimalValue?_point (fun _ h => isDigit_of_mem_digits h)
      (fun _ h => isDigit_of_mem_padded h) hne,
    ofDigits_reais_cents, length_padded_cents]
  norm_num

theorem plainText_injective {a b : Centavos} (h : a.plainText = b.plainText) : a = b := by
  have hv := decimalValue?_plainText a
  rw [h, decimalValue?_plainText b] at hv
  have hq : (b.toNat : Rat) / 100 = (a.toNat : Rat) / 100 := Option.some.inj hv
  have hn : (a.toNat : Rat) = b.toNat := by linarith
  exact toNat_injective (Nat.cast_injective hn)

theorem length_plainText_le (a : Centavos) : a.plainText.toList.length ≤ 21 := by
  have hlt : a.toNat < 2 ^ 64 := a.toNat_lt_bound
  have hreais : a.reais < 10 ^ 18 := by unfold reais; omega
  have hdigits : (digits a.reais).length ≤ 18 :=
    (Nat.length_toDigits_le_iff (by decide) (by decide)).mpr hreais
  rw [plainText, String.toList_ofList, List.length_append, List.length_cons, length_padded_cents]
  omega

end RentBilling.Centavos
