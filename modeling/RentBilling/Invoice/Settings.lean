import RentBilling.Text.Folded

/-!
Settings of payments: the key that payments go to by default and the merchant's name and city.
-/

namespace RentBilling

structure PixSettings where
  pixKey : String
  merchantName : String
  merchantCity : String
  deriving DecidableEq, Repr

namespace PixSettings

def empty : PixSettings := ⟨"", "", ""⟩

/-- The trimmed value of a variable; empty if it is not set. -/
def variableOr (lookup : String → Option String) (name : String) : String :=
  ((lookup name).map Text.trim).getD ""

/-- The settings that variables of the environment hold. -/
def ofLookup (lookup : String → Option String) : PixSettings :=
  ⟨variableOr lookup "RENTIVO_PIX_KEY", variableOr lookup "RENTIVO_PIX_MERCHANT_NAME",
    variableOr lookup "RENTIVO_PIX_MERCHANT_CITY"⟩

/-- Name and city both have text left once they are folded to ASCII. -/
def hasMerchantIdentity (s : PixSettings) : Bool :=
  Text.survivesFolding s.merchantName && Text.survivesFolding s.merchantCity

end PixSettings

end RentBilling
