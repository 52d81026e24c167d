import RentBilling.Proofs.Calendar.StoredDates
import RentBilling.Proofs.ItemId.Spellings
import RentBilling.Proofs.Storage.Form
import RentBilling.Storage.Billing
import RentBilling.Storage.Settings

/-!
Stored amounts, months, identifiers, dates, choices and records read back.

Each is `Stored`: a value that is written as a text because its text reads back, a choice because no
two have the same name, and a record because every field is. Reading a charge checks its rules
again, which it keeps (`ExtraCharge.of?_self`).
-/

namespace RentBilling

open Storage

/-! ## Single values -/

instance : Stored Centavos where
  ofJson_toJson a := by
    have hread : ofJson (toJson a) = orUnreadable (Centavos.ofNat? a.toNat) := rfl
    rw [hread, Centavos.ofNat?_toNat, orUnreadable]
  toJson_ne_null _ := nofun

theorem ReferenceMonth.ofJson_text (text : String) :
    ofJson (Json.text text) = (readMonth text).mapError ReadFailure.refused := rfl

instance : Stored ReferenceMonth where
  ofJson_toJson m := by
    have hread := ReferenceMonth.ofJson_text m.text
    rw [readMonth, ReferenceMonth.ofText_text] at hread
    exact hread
  toJson_ne_null _ := nofun

theorem ItemId.ofJson_text (text : String) :
    ofJson (Json.text text) = (ofText text).mapError fun _ => ReadFailure.unreadable := rfl

instance : Stored ItemId where
  ofJson_toJson id := by
    have hread := ItemId.ofJson_text id.text
    rw [ItemId.ofText_text] at hread
    exact hread
  toJson_ne_null _ := nofun

theorem Date.ofJson_text (text : String) :
    ofJson (Json.text text) = orUnreadable (ofText? text) := rfl

instance : Stored Date where
  ofJson_toJson d := by
    have hread := Date.ofJson_text d.text
    rw [Date.ofText?_text] at hread
    exact hread
  toJson_ne_null _ := nofun

/-! ## Choices -/

instance : Stored ItemKind where
  ofJson_toJson k := by cases k <;> rfl
  toJson_ne_null _ := nofun

instance : Stored RowKind where
  ofJson_toJson k := by cases k <;> rfl
  toJson_ne_null _ := nofun

instance : Stored PaymentStatus where
  ofJson_toJson s := by cases s <;> rfl
  toJson_ne_null _ := nofun

/-! ## Records -/

instance : StoredRecord TemplateItem where
  names := ["id", "description", "amount", "kind", "sort_order"]
  names_nodup := by decide
  fields item :=
    [("id", toJson item.id), ("description", toJson item.description),
      ("amount", toJson item.amount), ("kind", toJson item.kind),
      ("sort_order", toJson item.sortOrder)]
  map_fst_fields _ := rfl
  toJson_eq _ := rfl
  ofJson_of_spelling {item j} h := by
    have hslots := slots?_of_spelling h
    simp only [List.map_cons, List.map_nil] at hslots
    simp only [ofJson, hslots, optional_toJson, required_toJson]
    rfl

instance : StoredRecord LineItem where
  names := ["description", "amount", "kind", "sort_order"]
  names_nodup := by decide
  fields row :=
    [("description", toJson row.description), ("amount", toJson row.amount),
      ("kind", toJson row.kind), ("sort_order", toJson row.sortOrder)]
  map_fst_fields _ := rfl
  toJson_eq _ := rfl
  ofJson_of_spelling {row j} h := by
    have hslots := slots?_of_spelling h
    simp only [List.map_cons, List.map_nil] at hslots
    simp only [ofJson, hslots, required_toJson]
    rfl

instance : StoredRecord Draft where
  names := ["description", "amount", "kind"]
  names_nodup := by decide
  fields d :=
    [("description", toJson d.description), ("amount", toJson d.amount), ("kind", toJson d.kind)]
  map_fst_fields _ := rfl
  toJson_eq _ := rfl
  ofJson_of_spelling {d j} h := by
    have hslots := slots?_of_spelling h
    simp only [List.map_cons, List.map_nil] at hslots
    simp only [ofJson, hslots, required_toJson]
    rfl

theorem ExtraCharge.of?_self (e : ExtraCharge) : of? e.description e.amount = .ok e := by
  have hdescribed : ¬ Text.isBlankText e.description := by simp [e.described]
  have hpositive : ¬ e.amount.isZero := by simp [e.positive]
  rw [of?, dif_neg hdescribed, dif_neg hpositive]

instance : StoredRecord ExtraCharge where
  names := ["description", "amount"]
  names_nodup := by decide
  fields e := [("description", toJson e.description), ("amount", toJson e.amount)]
  map_fst_fields _ := rfl
  toJson_eq _ := rfl
  ofJson_of_spelling {e j} h := by
    have hslots := slots?_of_spelling h
    simp only [List.map_cons, List.map_nil] at hslots
    have hread : ofJson j = (ExtraCharge.of? e.description e.amount).mapError .refused := by
      simp only [ofJson, hslots, required_toJson]
      rfl
    rw [hread, ExtraCharge.of?_self]
    rfl

instance : StoredRecord Pix.Request where
  names := ["pix_key", "merchant_name", "merchant_city", "amount", "txid"]
  names_nodup := by decide
  fields r :=
    [("pix_key", toJson r.pixKey), ("merchant_name", toJson r.merchantName),
      ("merchant_city", toJson r.merchantCity), ("amount", toJson r.amount),
      ("txid", toJson r.txid)]
  map_fst_fields _ := rfl
  toJson_eq _ := rfl
  ofJson_of_spelling {r j} h := by
    have hslots := slots?_of_spelling h
    simp only [List.map_cons, List.map_nil] at hslots
    simp only [ofJson, hslots, optional_toJson, required_toJson]
    rfl

end RentBilling
