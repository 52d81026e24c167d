import RentBilling.Money.Centavos
import RentBilling.Refusal
import RentBilling.Text.Blank

/-!
Extra charges: single amounts added to one bill, such as repairs and fines.
-/

namespace RentBilling

/-- A charge with a description that is not blank and an amount that is not zero. -/
structure ExtraCharge where
  description : String
  amount : Centavos
  described : Text.isBlankText description = false
  positive : amount.isZero = false
  deriving DecidableEq, Repr

/-- The charge with this description, kept as it is, and this amount. The description is looked at
first. -/
def ExtraCharge.of? (description : String) (amount : Centavos) : Except Refusal ExtraCharge :=
  if hd : Text.isBlankText description then .error .blankExtraDescription
  else if ha : amount.isZero then .error .zeroExtraAmount
  else .ok ⟨description, amount, by simpa using hd, by simpa using ha⟩

end RentBilling
