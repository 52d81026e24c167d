import RentBilling.Money.Centavos
import RentBilling.Numeral.Decimal

/-!
Amounts as text, in reais.

Three forms: the one that invoices show (`R$ 2.850,00`), the same without the currency as a form
field shows it, and the plain one that payment payloads carry (`2850.00`). The first two group the
whole reais by thousands and put a comma before the centavos; all of them write two places.
-/

namespace RentBilling.Centavos

open Numeral

/-- Whole reais. -/
def reais (a : Centavos) : Nat := a.toNat / 100

/-- Centavos over the whole reais, below a hundred. -/
def cents (a : Centavos) : Nat := a.toNat % 100

/-- Digits of the whole reais, a point, two places. -/
def plainText (a : Centavos) : String :=
  .ofList (digits a.reais ++ '.' :: padded 2 a.cents)

/-- Whole reais in groups of three, a comma, two places. -/
def fieldText (a : Centavos) : String :=
  .ofList (grouped a.reais ++ ',' :: padded 2 a.cents)

/-- The amount with its currency. -/
def label (a : Centavos) : String := "R$ " ++ a.fieldText

instance : ToString Centavos := ⟨label⟩

theorem reais_cents (a : Centavos) : 100 * a.reais + a.cents = a.toNat := by
  unfold reais cents; omega

end RentBilling.Centavos
