import RentBilling.Calendar.StoredDate
import RentBilling.Money.Centavos
import RentBilling.Storage.Form

/-!
Stored forms of single values: amounts as numbers, months, identifiers and dates as texts.
-/

namespace RentBilling

open Storage

instance : ToJson Centavos := ⟨fun a => .natural a.toNat⟩

instance : OfJson Centavos where
  ofJson
    | .natural n => orUnreadable (Centavos.ofNat? n)
    | _ => .error .unreadable

instance : ToJson ReferenceMonth := ⟨fun m => .text m.text⟩

/-- A text that names no month is refused with the reason. -/
instance : OfJson ReferenceMonth where
  ofJson j := do
    let text : String ← ofJson j
    (readMonth text).mapError .refused

instance : ToJson ItemId := ⟨fun id => .text id.text⟩

/-- A text that spells no identifier is unreadable. -/
instance : OfJson ItemId where
  ofJson j := do
    let text : String ← ofJson j
    (ItemId.ofText text).mapError fun _ => .unreadable

instance : ToJson Date := ⟨fun d => .text d.text⟩

instance : OfJson Date where
  ofJson j := do
    let text : String ← ofJson j
    orUnreadable (Date.ofText? text)

end RentBilling
