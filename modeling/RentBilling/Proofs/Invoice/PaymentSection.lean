import RentBilling.Proofs.Billing.Template
import RentBilling.Proofs.Invoice.Payment

/-!
Which invoices have a payment section.

There is no section exactly if no key is in force or the merchant's name or city is blank once
folded; how the symbol is to be drawn plays no part in that. In every other case the section is
there or the fault that kept it from being made is reported, one of the payload before one of the
picture (`buildWith_outcome`).
-/

namespace RentBilling.Invoice

open Text

/-- The key in force, from the texts that were set as the template's key: that of the last one,
unless it is blank, or else that of the settings. -/
def keyInForce? (keys : List String) (settings : PixSettings) : Option String :=
  (keys.getLast?.bind trimmed?).or (trimmed? settings.pixKey)

theorem effectiveKey?_eq_keyInForce? {name : String} {items : List TemplateItem}
    {template : Template} (h : Template.of? name items = .ok template) (keys : List String)
    (settings : PixSettings) :
    effectiveKey? (keys.foldl Template.withPixKey template) settings =
      keyInForce? keys settings := by
  unfold effectiveKey? keyInForce?
  rw [Template.pixKey_foldl_withPixKey, Template.pixKey_of? h, ← trimmed?_eq,
    Option.orElse_eq_orElse, Option.orElse_eq_or]
  cases keys.getLast? <;> rfl

/-- A key in force has text and no blanks at its ends. -/
theorem of_keyInForce?_eq_some {keys : List String} {settings : PixSettings} {key : String}
    (h : keyInForce? keys settings = some key) : key ≠ "" ∧ trim key = key := by
  rcases Option.or_eq_some_iff.mp h with hset | ⟨-, hdefault⟩
  · obtain ⟨text, -, htext⟩ := Option.bind_eq_some_iff.mp hset
    exact of_trimmed?_eq_some htext
  · exact of_trimmed?_eq_some hdefault

/-- What a payment section needs is missing. -/
def Incomplete (key? : Option String) (settings : PixSettings) : Prop :=
  key? = none ∨ isBlankText (fold settings.merchantName) ∨ isBlankText (fold settings.merchantCity)

theorem hasMerchantIdentity_iff {settings : PixSettings} :
    settings.hasMerchantIdentity ↔
      ¬ isBlankText (fold settings.merchantName) ∧ ¬ isBlankText (fold settings.merchantCity) := by
  simp [PixSettings.hasMerchantIdentity, survivesFolding]

theorem not_incomplete_iff {key : String} {settings : PixSettings} :
    ¬ Incomplete (some key) settings ↔ settings.hasMerchantIdentity := by
  simp [Incomplete, hasMerchantIdentity_iff]

/-- Where something is missing, neither the payload nor the picture is tried. -/
theorem buildWith_of_incomplete {template : Template} {settings : PixSettings}
    (h : Incomplete (effectiveKey? template settings) settings) (bill : Bill)
    (drawing : Qr.Drawing) :
    (buildWith bill template settings drawing).result = .ok ⟨bill, none⟩ := by
  rw [buildWith_result]
  cases hk : effectiveKey? template settings with
  | none => rfl
  | some key =>
    rw [hk] at h
    exact if_neg fun hid => not_incomplete_iff.mpr hid h

theorem buildWith_of_key {template : Template} {settings : PixSettings} {key : String}
    (hk : effectiveKey? template settings = some key) (hid : settings.hasMerchantIdentity)
    (bill : Bill) (drawing : Qr.Drawing) :
    (buildWith bill template settings drawing).result =
      withSection key bill settings drawing := by
  rw [buildWith_result, hk]
  exact if_pos hid

/-- What comes of building an invoice. -/
structure Outcome (key? : Option String) (bill : Bill) (settings : PixSettings)
    (drawing : Qr.Drawing) (result : Except Pix.Error Invoice) : Prop where
  /-- The section is left out exactly if something is missing. -/
  omitted_iff :
    (∃ invoice, result = .ok invoice ∧ invoice.pix = none) ↔ Incomplete key? settings
  same : ∀ invoice, result = .ok invoice → invoice.bill = bill
  key : ∀ key, key? = some key → key ≠ "" ∧ trim key = key
  /-- Otherwise a fault is reported, the payload's before the picture's, or there is a section with
  the key and its payload. -/
  tried : ∀ key, key? = some key → ¬ Incomplete key? settings →
    (∀ e, (request key settings bill).encode.result = .error e → result = .error e) ∧
    ∀ payload, (request key settings bill).encode.result = .ok payload →
      (∀ e, (Qr.render payload drawing).result = .error e → result = .error e) ∧
      ∀ picture, (Qr.render payload drawing).result = .ok picture →
        result = .ok ⟨bill, some ⟨key, payload, picture⟩⟩

theorem outcome_of_incomplete {key? : Option String} {bill : Bill} {settings : PixSettings}
    {drawing : Qr.Drawing} (hkey : ∀ key, key? = some key → key ≠ "" ∧ trim key = key)
    (h : Incomplete key? settings) :
    Outcome key? bill settings drawing (.ok ⟨bill, none⟩) where
  omitted_iff := iff_of_true ⟨_, rfl, rfl⟩ h
  same := by
    intro invoice hresult
    obtain rfl := Except.ok.inj hresult
    rfl
  key := hkey
  tried := fun _ _ hcomplete => absurd h hcomplete

theorem outcome_of_key {key : String} {bill : Bill} {settings : PixSettings}
    {drawing : Qr.Drawing} (hkey : key ≠ "" ∧ trim key = key)
    (h : ¬ Incomplete (some key) settings) :
    Outcome (some key) bill settings drawing (withSection key bill settings drawing) where
  omitted_iff := by
    refine iff_of_false ?_ h
    rintro ⟨invoice, hresult, hpix⟩
    obtain ⟨payload, picture, -, -, rfl⟩ := withSection_eq_ok.mp hresult
    cases hpix
  same := by
    intro invoice hresult
    obtain ⟨payload, picture, -, -, rfl⟩ := withSection_eq_ok.mp hresult
    rfl
  key := by
    intro key' hsome
    rwa [← Option.some.inj hsome]
  tried := by
    intro key' hsome _
    obtain rfl := Option.some.inj hsome
    unfold withSection
    refine ⟨fun e he => by rw [he]; rfl, fun payload hencode => ?_⟩
    rw [hencode]
    exact ⟨fun e he => by rw [Except.bind, he]; rfl, fun picture hp => by rw [Except.bind, hp]; rfl⟩

/-- **Leaving the section out, failing, and attaching it.** Whatever texts were set as the key of a
new template, the invoice of any bill is the one that the key in force and the merchant's name and
city decide, and how the symbol is drawn only matters if none of them is missing. -/
theorem buildWith_outcome {name : String} {items : List TemplateItem} {template : Template}
    (h : Template.of? name items = .ok template) (keys : List String) (bill : Bill)
    (settings : PixSettings) (drawing : Qr.Drawing) :
    Outcome (keyInForce? keys settings) bill settings drawing
      (buildWith bill (keys.foldl Template.withPixKey template) settings drawing).result := by
  have heff := effectiveKey?_eq_keyInForce? h keys settings
  by_cases hinc : Incomplete (keyInForce? keys settings) settings
  · rw [buildWith_of_incomplete (heff ▸ hinc)]
    exact outcome_of_incomplete (fun _ => of_keyInForce?_eq_some) hinc
  · cases hk : keyInForce? keys settings with
    | none => exact absurd (.inl hk) hinc
    | some key =>
      rw [hk] at hinc heff
      rw [buildWith_of_key heff (not_incomplete_iff.mp hinc)]
      exact outcome_of_key (of_keyInForce?_eq_some hk) hinc

/-- A template without items. -/
def bareTemplate : Template := ⟨"Apto 101", [], none, by decide⟩

def paddedSettings : PixSettings := ⟨" x@pix ", "Ana 6304", "Rio"⟩

/-- The last text is blank, so the key of the settings is in force; boxes without pixels are an
error then, and not a reason to leave the section out. -/
theorem buildWith_outcome_reset :
    Template.of? "Apto 101" [] = .ok bareTemplate ∧
      keyInForce? [" a@pix", " "] paddedSettings = some "x@pix" ∧
      Outcome (some "x@pix") Bill.sample paddedSettings ⟨0, 2, .medium⟩
        (buildWith Bill.sample ([" a@pix", " "].foldl Template.withPixKey bareTemplate)
          paddedSettings ⟨0, 2, .medium⟩).result ∧
      (buildWith Bill.sample ([" a@pix", " "].foldl Template.withPixKey bareTemplate)
        paddedSettings ⟨0, 2, .medium⟩).result = .error (.badDrawing .emptyBoxes) := by
  have hof : Template.of? "Apto 101" [] = .ok bareTemplate := rfl
  have hkey : keyInForce? [" a@pix", " "] paddedSettings = some "x@pix" := by decide
  have houtcome := buildWith_outcome hof [" a@pix", " "] Bill.sample paddedSettings ⟨0, 2, .medium⟩
  rw [hkey] at houtcome
  exact ⟨hof, hkey, houtcome, by decide +kernel⟩

end RentBilling.Invoice
