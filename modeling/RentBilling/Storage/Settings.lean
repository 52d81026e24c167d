import RentBilling.Invoice.Settings
import RentBilling.Log.Settings
import RentBilling.Pix.Payload
import RentBilling.Storage.Values

/-!
Stored forms of payment requests and of settings. Every field of the settings may be missing.
-/

namespace RentBilling

open Storage

instance : ToJson Pix.Request where
  toJson r := .record
    [("pix_key", toJson r.pixKey), ("merchant_name", toJson r.merchantName),
      ("merchant_city", toJson r.merchantCity), ("amount", toJson r.amount),
      ("txid", toJson r.txid)]

instance : OfJson Pix.Request where
  ofJson j := do
    match slots? ["pix_key", "merchant_name", "merchant_city", "amount", "txid"] j with
    | some [pixKey, merchantName, merchantCity, amount, txid] =>
      return ⟨← required pixKey, ← required merchantName, ← required merchantCity,
        ← optional amount, ← required txid⟩
    | _ => .error .unreadable

instance : OfJson PixSettings where
  ofJson j := do
    match slots? ["pix_key", "merchant_name", "merchant_city"] j with
    | some [pixKey, merchantName, merchantCity] =>
      return ⟨← orElse "" pixKey, ← orElse "" merchantName, ← orElse "" merchantCity⟩
    | _ => .error .unreadable

instance : OfJson LogSettings where
  ofJson j := do
    match slots? ["level", "json"] j with
    | some [level, json] =>
      return ⟨← orElse LogSettings.default.level level, ← orElse LogSettings.default.json json⟩
    | _ => .error .unreadable

end RentBilling
