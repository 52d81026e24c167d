import RentBilling.Proofs.Invoice.PaymentSection
import RentBilling.Proofs.Text.Folding

/-!
What is left of the merchant's name and city.

An invoice has a payment section only if name and city are not blank once folded. The payload holds
their first 25 and 15 folded characters; these have something other than blanks exactly if fewer
blanks than that stand in front (`merchant_fields`). With more of them the name passes as a whole
and its field is blank all the same, also where the settings were trimmed (`merchant_name_lost`).
-/

namespace RentBilling

open Text Pix

/-- What is kept of a text is blank if the blanks in front of its folded form take it all up. -/
theorem Pix.isBlankText_shortened {s : String} (h : ¬ isBlankText (fold s)) (most : Nat) :
    isBlankText (shortened most s) ↔ most ≤ leadingBlanks (fold s).toList := by
  rw [isBlankText, shortened, String.toList_ofList, all_isBlank_take_iff h]

namespace Pix.Request

theorem lookup_merchantName (r : Request) (account extra checksum : String) :
    (r.records account extra checksum).lookup "59" =
      some (shortened maxNameLength r.merchantName) := by
  unfold records
  rcases r.fixedAmount?_cases with ⟨-, -, hr⟩ | ⟨a, -, -, -, hr⟩ <;> rw [hr] <;> rfl

theorem lookup_merchantCity (r : Request) (account extra checksum : String) :
    (r.records account extra checksum).lookup "60" =
      some (shortened maxCityLength r.merchantCity) := by
  unfold records
  rcases r.fixedAmount?_cases with ⟨-, -, hr⟩ | ⟨a, -, -, -, hr⟩ <;> rw [hr] <;> rfl

theorem encode_of_fold_eq {name name' city city' : String} (hname : fold name = fold name')
    (hcity : fold city = fold city') (key : String) (amount : Option Centavos) (txid : String) :
    encode ⟨key, name, city, amount, txid⟩ = encode ⟨key, name', city', amount, txid⟩ := by
  simp only [encode, fields, fixedAmount?, shortened, hname, hcity]

end Pix.Request

theorem PixSettings.hasMerchantIdentity_of_fold_eq {s s' : PixSettings}
    (hname : fold s.merchantName = fold s'.merchantName)
    (hcity : fold s.merchantCity = fold s'.merchantCity) :
    s.hasMerchantIdentity = s'.hasMerchantIdentity := by
  simp only [hasMerchantIdentity, survivesFolding, hname, hcity]

namespace Invoice

/-- The payload of a section holds what is kept of name and city. -/
theorem records_of_buildWith {bill : Bill} {template : Template} {settings : PixSettings}
    {drawing : Qr.Drawing} {invoice : Invoice} {pix : PaymentSection}
    (h : (buildWith bill template settings drawing).result = .ok invoice)
    (hp : invoice.pix = some pix) :
    ∃ records, decodeFields pix.payload = .ok records ∧ (records.map Prod.fst).Nodup ∧
      records.lookup "59" = some (shortened maxNameLength settings.merchantName) ∧
      records.lookup "60" = some (shortened maxCityLength settings.merchantCity) := by
  obtain ⟨-, -, hencode⟩ := encode_of_buildWith h hp
  obtain ⟨account, extra, checksum, hread, -⟩ := Request.decodeFields_of_encode hencode
  exact ⟨_, hread, Request.nodup_tags .., Request.lookup_merchantName ..,
    Request.lookup_merchantCity ..⟩

/-- **Name and city in the payload.** Of an invoice with a payment section the merchant's name and
city are not blank once folded. The fields of the payload are blank exactly if their folded texts
begin with as many blanks as a field has room for. -/
theorem merchant_fields {bill : Bill} {template : Template} {settings : PixSettings}
    {drawing : Qr.Drawing} {invoice : Invoice} {pix : PaymentSection}
    (h : (buildWith bill template settings drawing).result = .ok invoice)
    (hp : invoice.pix = some pix) :
    ¬ isBlankText (fold settings.merchantName) ∧ ¬ isBlankText (fold settings.merchantCity) ∧
      ∃ records name city, decodeFields pix.payload = .ok records ∧
        (records.map Prod.fst).Nodup ∧
        records.lookup "59" = some name ∧ records.lookup "60" = some city ∧
        (isBlankText name ↔ 25 ≤ leadingBlanks (fold settings.merchantName).toList) ∧
        (isBlankText city ↔ 15 ≤ leadingBlanks (fold settings.merchantCity).toList) := by
  obtain ⟨hid, -⟩ := withSection_of_buildWith h hp
  obtain ⟨hname, hcity⟩ := hasMerchantIdentity_iff.mp hid
  obtain ⟨records, hread, hnodup, hlname, hlcity⟩ := records_of_buildWith h hp
  exact ⟨hname, hcity, records, _, _, hread, hnodup, hlname, hlcity,
    isBlankText_shortened hname maxNameLength, isBlankText_shortened hcity maxCityLength⟩

/-! ## A name that is lost -/

/-- Of name and city only the folded forms matter. -/
theorem buildWith_of_fold_eq {settings settings' : PixSettings}
    (hkey : settings.pixKey = settings'.pixKey)
    (hname : fold settings.merchantName = fold settings'.merchantName)
    (hcity : fold settings.merchantCity = fold settings'.merchantCity) (bill : Bill)
    (template : Template) (drawing : Qr.Drawing) :
    buildWith bill template settings drawing = buildWith bill template settings' drawing := by
  have heff : effectiveKey? template settings = effectiveKey? template settings' := by
    rw [effectiveKey?, effectiveKey?, hkey]
  have hid := PixSettings.hasMerchantIdentity_of_fold_eq hname hcity
  have hencode (key : String) :
      (request key settings bill).encode = (request key settings' bill).encode :=
    Request.encode_of_fold_eq hname hcity key (some bill.total) defaultTxid
  unfold buildWith
  simp only [heff, hid, hencode]

/-- A Korean syllable, twenty-five blanks, and three letters. -/
def spacedName : String := "김                         Ana"

/-- The settings that variables with this name hold; there is nothing to trim off it. -/
def spacedSettings : PixSettings :=
  .ofLookup fun name => List.lookup name
    [("RENTIVO_PIX_KEY", "ana@pix"), ("RENTIVO_PIX_MERCHANT_NAME", spacedName),
      ("RENTIVO_PIX_MERCHANT_CITY", "Rio")]

theorem spacedSettings_eq : spacedSettings = ⟨"ana@pix", spacedName, "Rio"⟩ := by decide +kernel

/-- The same settings with the name folded. -/
def foldedSettings : PixSettings := ⟨"ana@pix", "                         Ana", "Rio"⟩

theorem foldChar_syllable : foldChar '김' = [] := by
  unfold foldChar decompose
  -- Neither the parts of the syllable nor the syllable itself are ASCII.
  split <;> decide

theorem fold_spacedName : fold spacedName = foldedSettings.merchantName := by
  have hchars : spacedName.toList = '김' :: foldedSettings.merchantName.toList := by decide
  rw [fold, hchars, foldChars_eq_flatMap, List.flatMap_cons, foldChar_syllable, List.nil_append,
    ← foldChars_eq_flatMap, foldChars_of_ascii (by decide), String.ofList_toList]

set_option maxRecDepth 4000 in
/-- The tables of decompositions are too long to be run through here, and ASCII does not need
them: so the invoice is built with the folded name. -/
theorem exists_section_spaced :
    ∃ invoice pix,
      (buildWith Bill.sample bareTemplate spacedSettings .default).result = .ok invoice ∧
      invoice.pix = some pix := by
  have hsome : ((buildWith Bill.sample bareTemplate foldedSettings
      .default).result.toOption.bind Invoice.pix).isSome := by decide +kernel
  have hfolded : fold foldedSettings.merchantName = foldedSettings.merchantName := by
    rw [fold, foldChars_of_ascii (by decide), String.ofList_toList]
  have hsame : buildWith Bill.sample bareTemplate spacedSettings .default =
      buildWith Bill.sample bareTemplate foldedSettings .default := by
    rw [spacedSettings_eq]
    apply buildWith_of_fold_eq
    · rfl
    · exact fold_spacedName.trans hfolded.symm
    · rfl
  rw [hsame]
  exact exists_section hsome

theorem merchant_fields_spaced :
    ∃ invoice pix,
      (buildWith Bill.sample bareTemplate spacedSettings .default).result = .ok invoice ∧
      invoice.pix = some pix ∧
      ¬ isBlankText (fold spacedName) ∧ ¬ isBlankText (fold "Rio") ∧
      ∃ records name city, decodeFields pix.payload = .ok records ∧
        (records.map Prod.fst).Nodup ∧
        records.lookup "59" = some name ∧ records.lookup "60" = some city ∧
        (isBlankText name ↔ 25 ≤ leadingBlanks (fold spacedName).toList) ∧
        (isBlankText city ↔ 15 ≤ leadingBlanks (fold "Rio").toList) := by
  obtain ⟨invoice, pix, h, hp⟩ := exists_section_spaced
  have hfields := merchant_fields h hp
  rw [spacedSettings_eq] at hfields
  exact ⟨invoice, pix, h, hp, hfields⟩

/-- A name that is not blank can leave a blank field, also if all settings were trimmed. -/
theorem merchant_name_lost :
    ¬ ∀ (bill : Bill) (template : Template) (lookup : String → Option String)
        (drawing : Qr.Drawing) (invoice : Invoice) (pix : PaymentSection),
      (buildWith bill template (.ofLookup lookup) drawing).result = .ok invoice →
      invoice.pix = some pix →
      ∃ records name city, decodeFields pix.payload = .ok records ∧
        records.lookup "59" = some name ∧ records.lookup "60" = some city ∧
        ¬ isBlankText name ∧ ¬ isBlankText city := by
  intro hall
  obtain ⟨invoice, pix, h, hp⟩ := exists_section_spaced
  obtain ⟨records, name, city, hread, hname, -, hkept, -⟩ := hall _ _ _ _ _ _ h hp
  obtain ⟨records', hread', -, hname', -⟩ := records_of_buildWith h hp
  obtain rfl := Except.ok.inj (hread.symm.trans hread')
  obtain rfl := Option.some.inj (hname.symm.trans hname')
  obtain ⟨hid, -⟩ := withSection_of_buildWith h hp
  obtain ⟨hwhole, -⟩ := hasMerchantIdentity_iff.mp hid
  rw [spacedSettings_eq] at hkept hwhole
  refine hkept ((isBlankText_shortened hwhole maxNameLength).mpr ?_)
  rw [fold_spacedName]
  decide

end Invoice

end RentBilling
