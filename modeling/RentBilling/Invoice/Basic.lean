import RentBilling.Billing.Bill
import RentBilling.Invoice.Settings
import RentBilling.Pix.Payload
import RentBilling.Qr.Picture

/-!
Invoices: a bill and, where the settings allow it, how to pay it.

Without a key, or without a merchant's name and city, an invoice has no payment section; that is
reported and is not an error.
-/

namespace RentBilling

/-- The payment section of an invoice. -/
structure PaymentSection where
  pixKey : String
  payload : String
  picture : Qr.Picture
  deriving DecidableEq, Repr

structure Invoice where
  bill : Bill
  pix : Option PaymentSection
  deriving DecidableEq, Repr

namespace Invoice

/-- The key of the template, or else the trimmed one of the settings. -/
def effectiveKey? (template : Template) (settings : PixSettings) : Option String :=
  template.pixKey <|>
    if Text.trim settings.pixKey = "" then none else some (Text.trim settings.pixKey)

/-- What the payload of a bill is made from. -/
def request (key : String) (settings : PixSettings) (bill : Bill) : Pix.Request :=
  ⟨key, settings.merchantName, settings.merchantCity, some bill.total, Pix.defaultTxid⟩

/-- The invoice of a bill, its symbol drawn as asked. -/
def buildWith (bill : Bill) (template : Template) (settings : PixSettings) (drawing : Qr.Drawing) :
    Logged (Except Pix.Error Invoice) :=
  match effectiveKey? template settings with
  | none => ⟨[.noPixKey template.name], .ok ⟨bill, none⟩⟩
  | some key =>
    if settings.hasMerchantIdentity then
      let encoded := (request key settings bill).encode
      match encoded.result with
      | .error e => ⟨encoded.events, .error e⟩
      | .ok payload =>
        let drawn := Qr.render payload drawing
        ⟨encoded.events ++ drawn.events,
          drawn.result.map fun picture => ⟨bill, some ⟨key, payload, picture⟩⟩⟩
    else ⟨[.noMerchantIdentity template.name], .ok ⟨bill, none⟩⟩

/-- The invoice of a bill. -/
def build (bill : Bill) (template : Template) (settings : PixSettings) :
    Logged (Except Pix.Error Invoice) :=
  buildWith bill template settings .default

/-- The invoice has a payment section. -/
def hasPix (invoice : Invoice) : Bool := invoice.pix.isSome

end Invoice

end RentBilling
