import RentBilling.Invoice.Basic
import RentBilling.Proofs.Billing.Edits
import RentBilling.Proofs.Outcome
import RentBilling.Proofs.Pix.Payload

/-!
What the payment section of an invoice asks for.

The section is the encoded request for the bill's total under the key that is in force
(`encode_of_buildWith`). A bill's total is the sum of its rows in every state, and a payload reads
back as its request, so that whoever scans the payload pays what the rows sum to, to that key
(`payment_of_edited_bill`).
-/

namespace RentBilling.Invoice

open Numeral Pix Bill

/-- The key in force is the template's, or else the trimmed one of the settings. -/
theorem effectiveKey?_eq_some {template : Template} {settings : PixSettings} {key : String}
    (h : effectiveKey? template settings = some key) :
    key = template.pixKey.getD (Text.trim settings.pixKey) := by
  simp only [effectiveKey?, Option.orElse_eq_orElse, Option.orElse_eq_or] at h
  cases hk : template.pixKey with
  | some own =>
    rw [hk, Option.some_or] at h
    exact (Option.some.inj h).symm
  | none =>
    rw [hk, Option.none_or] at h
    split at h
    · cases h
    · exact (Option.some.inj h).symm

/-- The invoice with a payment section: the payload is made first, and the picture from it. -/
def withSection (key : String) (bill : Bill) (settings : PixSettings) (drawing : Qr.Drawing) :
    Except Pix.Error Invoice :=
  (request key settings bill).encode.result.bind fun payload =>
    (Qr.render payload drawing).result.map fun picture => ⟨bill, some ⟨key, payload, picture⟩⟩

theorem withSection_eq_ok {key : String} {bill : Bill} {settings : PixSettings}
    {drawing : Qr.Drawing} {invoice : Invoice} :
    withSection key bill settings drawing = .ok invoice ↔
      ∃ payload picture, (request key settings bill).encode.result = .ok payload ∧
        (Qr.render payload drawing).result = .ok picture ∧
        ⟨bill, some ⟨key, payload, picture⟩⟩ = invoice := by
  rw [withSection, bind_eq_ok]
  constructor
  · rintro ⟨payload, hencode, hdraw⟩
    obtain ⟨picture, hrender, hinvoice⟩ := map_eq_ok.mp hdraw
    exact ⟨payload, picture, hencode, hrender, hinvoice⟩
  · rintro ⟨payload, picture, hencode, hrender, hinvoice⟩
    exact ⟨payload, hencode, map_eq_ok.mpr ⟨picture, hrender, hinvoice⟩⟩

/-- Events apart, an invoice is the bill alone or what `withSection` makes of it. -/
theorem buildWith_result (bill : Bill) (template : Template) (settings : PixSettings)
    (drawing : Qr.Drawing) :
    (buildWith bill template settings drawing).result =
      match effectiveKey? template settings with
      | none => .ok ⟨bill, none⟩
      | some key =>
        if settings.hasMerchantIdentity then withSection key bill settings drawing
        else .ok ⟨bill, none⟩ := by
  unfold buildWith
  cases effectiveKey? template settings with
  | none => rfl
  | some key =>
    dsimp only
    split
    · unfold withSection
      cases (request key settings bill).encode.result <;> rfl
    · rfl

/-- A section is only there if name and city passed and a key is in force. -/
theorem withSection_of_buildWith {bill : Bill} {template : Template} {settings : PixSettings}
    {drawing : Qr.Drawing} {invoice : Invoice} {pix : PaymentSection}
    (h : (buildWith bill template settings drawing).result = .ok invoice)
    (hp : invoice.pix = some pix) :
    settings.hasMerchantIdentity ∧ ∃ key, effectiveKey? template settings = some key ∧
      withSection key bill settings drawing = .ok invoice := by
  have hne : Except.ok (⟨bill, none⟩ : Invoice) ≠ (.ok invoice : Except Pix.Error Invoice) := by
    intro heq
    rw [← Except.ok.inj heq] at hp
    cases hp
  rw [buildWith_result] at h
  cases hk : effectiveKey? template settings with
  | none =>
    rw [hk] at h
    exact absurd h hne
  | some key =>
    rw [hk] at h
    by_cases hid : settings.hasMerchantIdentity
    · exact ⟨hid, key, rfl, (if_pos hid).symm.trans h⟩
    · exact absurd ((if_neg hid).symm.trans h) hne

/-- A payment section holds the payload of the bill's request under the key in force. -/
theorem encode_of_buildWith {bill : Bill} {template : Template} {settings : PixSettings}
    {drawing : Qr.Drawing} {invoice : Invoice} {pix : PaymentSection}
    (h : (buildWith bill template settings drawing).result = .ok invoice)
    (hp : invoice.pix = some pix) :
    invoice.bill = bill ∧ effectiveKey? template settings = some pix.pixKey ∧
      (request pix.pixKey settings bill).encode.result = .ok pix.payload := by
  obtain ⟨-, key, hk, hsection⟩ := withSection_of_buildWith h hp
  obtain ⟨payload, picture, hencode, -, rfl⟩ := withSection_eq_ok.mp hsection
  obtain rfl := Option.some.inj hp
  exact ⟨rfl, hk, hencode⟩

/-- The payment section asks for exactly what the rows of the bill sum to, under the key in
force. -/
structure AsksForRows (bill : Bill) (template : Template) (settings : PixSettings)
    (invoice : Invoice) (pix : PaymentSection) : Prop where
  same : invoice.bill = bill
  verified : verify pix.payload
  /-- An amount is named exactly if there is something to pay, and then it is the sum of the rows.
  The field of the account names the key. -/
  records : ∃ records, decodeFields pix.payload = .ok records ∧ (records.map Prod.fst).Nodup ∧
    ((records.lookup "54").isSome ↔ 0 < rowSum bill.rows) ∧
    (∀ v, records.lookup "54" = some v →
      ∃ x, decimalValue? v.toList = some x ∧ x * 100 = rowSum bill.rows) ∧
    ∃ account, records.lookup "26" = some account ∧
      decodeFields account = .ok [("00", "br.gov.bcb.pix"), ("01", pix.pixKey)]
  key : pix.pixKey = template.pixKey.getD (Text.trim settings.pixKey)

/-- **Paying what is owed.** However a bill was made and edited, an invoice with a payment section
holds that bill, and its payload asks for the sum of the bill's rows, to the centavo. -/
theorem payment_of_edited_bill {month : ReferenceMonth} {b : Bill} (hb : Created month b)
    (edits : List Edit) {template : Template} {settings : PixSettings} {drawing : Qr.Drawing}
    {invoice : Invoice} {pix : PaymentSection}
    (h : (buildWith (b.editAll edits) template settings drawing).result = .ok invoice)
    (hp : invoice.pix = some pix) :
    AsksForRows (b.editAll edits) template settings invoice pix := by
  obtain ⟨hbill, hkey, hencode⟩ := encode_of_buildWith h hp
  have hasked : (request pix.pixKey settings (b.editAll edits)).asked =
      rowSum (b.editAll edits).rows := (hb.consistent.1.editAll edits).total
  obtain ⟨account, extra, checksum, hread, haccount, -, -⟩ := Request.decodeFields_of_encode hencode
  refine ⟨hbill, (Request.verify_of_encode hencode).2,
    ⟨_, hread, Request.nodup_tags .., ?_, ?_, account, Request.lookup_account .., haccount⟩,
    effectiveKey?_eq_some hkey⟩
  · rw [Request.lookup_amount_isSome_iff, hasked]
  · intro v hv
    exact ⟨_, Request.decimalValue?_of_lookup_amount hv, by rw [hasked]; ring⟩

theorem exists_section {result : Except Pix.Error Invoice}
    (h : (result.toOption.bind Invoice.pix).isSome) :
    ∃ invoice pix, result = .ok invoice ∧ invoice.pix = some pix := by
  cases result with
  | error e => cases h
  | ok invoice =>
    obtain ⟨pix, hp⟩ := Option.isSome_iff_exists.mp h
    exact ⟨invoice, pix, rfl, hp⟩

def sampleSettings : PixSettings := ⟨"x@pix", "Ana 6304", "Rio"⟩

set_option maxRecDepth 4000 in
theorem payment_of_edited_bill_sample :
    ∃ invoice pix,
      (buildWith (sample.editAll sampleEdits) sampleTemplate sampleSettings .default).result =
        .ok invoice ∧
      invoice.pix = some pix ∧
      AsksForRows (sample.editAll sampleEdits) sampleTemplate sampleSettings invoice pix := by
  have hsome : ((buildWith (sample.editAll sampleEdits) sampleTemplate sampleSettings
      .default).result.toOption.bind Invoice.pix).isSome := by decide +kernel
  obtain ⟨invoice, pix, h, hp⟩ := exists_section hsome
  exact ⟨invoice, pix, h, hp, payment_of_edited_bill created_sample sampleEdits h hp⟩

end RentBilling.Invoice
