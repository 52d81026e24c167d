import RentBilling.Proofs.Invoice.MerchantText

/-!
Spellings of the merchant's name and city.

An accented letter is one character or a letter and a mark, and both are the same text. They have
one normal form, and folding does not tell a text from it; so payloads, and whether there is one, do
not depend on the spelling (`spellings_fold_alike`).
-/

namespace RentBilling

open Text

/-- The request with another name and city. -/
def Pix.Request.spelled (r : Pix.Request) (name city : String) : Pix.Request :=
  { r with merchantName := name, merchantCity := city }

/-- The settings with another name and city. -/
def PixSettings.spelled (s : PixSettings) (name city : String) : PixSettings :=
  { s with merchantName := name, merchantCity := city }

namespace Invoice

section Spelled

variable {name name' city city' : String}

theorem encode_spelled (hname : fold name = fold name') (hcity : fold city = fold city')
    (r : Pix.Request) : (r.spelled name city).encode = (r.spelled name' city').encode :=
  Pix.Request.encode_of_fold_eq hname hcity r.pixKey r.amount r.txid

theorem hasMerchantIdentity_spelled (hname : fold name = fold name')
    (hcity : fold city = fold city') (s : PixSettings) :
    (s.spelled name city).hasMerchantIdentity = (s.spelled name' city').hasMerchantIdentity :=
  PixSettings.hasMerchantIdentity_of_fold_eq hname hcity

theorem buildWith_spelled (hname : fold name = fold name') (hcity : fold city = fold city')
    (s : PixSettings) (bill : Bill) (template : Template) (drawing : Qr.Drawing) :
    buildWith bill template (s.spelled name city) drawing =
      buildWith bill template (s.spelled name' city') drawing := by
  apply buildWith_of_fold_eq
  · rfl
  · exact hname
  · exact hcity

end Spelled

/-- **Spellings of a merchant.** A folded text is ASCII, an ASCII text folds to itself, folding
twice is folding once, a text of two parts folds to what they fold to, and a text folds as its
normal form does. So requests whose names and cities have the same normal forms make the same
payload; settings give the same answer whether there is a merchant, and the same invoices. All of
this holds of any normalization that leaves ASCII as it is, decomposes in full and moves only marks;
if it decomposes as the tables do, it folds as they do, whatever it counts as marks. -/
theorem spellings_fold_alike :
    (FoldLaws fold normalForm ∧ (∀ a, normalForm (normalForm a) = normalForm a) ∧
      ∀ name name' city city', normalForm name = normalForm name' →
        normalForm city = normalForm city' →
        (∀ r : Pix.Request, (r.spelled name city).encode = (r.spelled name' city').encode) ∧
        ∀ s : PixSettings,
          (s.spelled name city).hasMerchantIdentity =
            (s.spelled name' city').hasMerchantIdentity ∧
          ∀ bill template drawing,
            buildWith bill template (s.spelled name city) drawing =
              buildWith bill template (s.spelled name' city') drawing) ∧
    ∀ n : Normalization,
      FoldLaws n.fold n.normalForm ∧ (∀ a, n.normalForm (n.normalForm a) = n.normalForm a) ∧
      (∀ name name' city city', n.normalForm name = n.normalForm name' →
        n.normalForm city = n.normalForm city' →
        (∀ r : Pix.Request, (r.spelled (n.fold name) (n.fold city)).encode =
          (r.spelled (n.fold name') (n.fold city')).encode) ∧
        ∀ s : PixSettings, (s.spelled (n.fold name) (n.fold city)).hasMerchantIdentity =
          (s.spelled (n.fold name') (n.fold city')).hasMerchantIdentity) ∧
      (n.decompose = decompose → n.fold = fold ∧
        (n.order = orderMarks → n.normalForm = normalForm)) := by
  refine ⟨⟨foldLaws, normalForm_normalForm, ?tables⟩, fun n =>
    ⟨n.foldLaws, n.normalForm_normalForm, ?payload, fun h =>
      ⟨fold_eq_of_decompose_eq h, normalForm_eq_of_decompose_eq h⟩⟩⟩
  case tables =>
    intro name name' city city' hname hcity
    have hname := foldLaws.fold_eq_of_normalForm_eq hname
    have hcity := foldLaws.fold_eq_of_normalForm_eq hcity
    exact ⟨encode_spelled hname hcity, fun s => ⟨hasMerchantIdentity_spelled hname hcity s,
      buildWith_spelled hname hcity s⟩⟩
  case payload =>
    intro name name' city city' hname hcity
    have hname := n.foldLaws.fold_eq_of_normalForm_eq hname
    have hcity := n.foldLaws.fold_eq_of_normalForm_eq hcity
    exact ⟨fun r => by rw [hname, hcity], fun s => by rw [hname, hcity]⟩

/-- The little of the tables that Portuguese names with a tilde on an `a` need. -/
def tildes : Normalization where
  decompose c := if c = 'ã' then ['a', '\u0303'] else [c]
  order cs := cs
  combiningClass c := if c = '\u0303' then 230 else 0
  isMark c := c = '\u0303'
  decompose_of_isAsciiChar h := if_neg fun hc => by subst hc; contradiction
  decompose_of_mem {c d} h := by
    split at h
    · obtain rfl | rfl : d = 'a' ∨ d = '\u0303' := by simpa using h
      all_goals rfl
    · obtain rfl := List.mem_singleton.mp h
      exact if_neg ‹_›
  order_perm cs := .refl cs
  filter_order _ := rfl
  order_order _ := rfl
  isMark_of_combiningClass h := decide_eq_true (Decidable.byContradiction fun hc => h (if_neg hc))
  not_isMark_of_isAsciiChar h hmark := by
    obtain rfl := of_decide_eq_true hmark
    contradiction

def openRequest : Pix.Request := ⟨"ana@pix", "", "", none, Pix.defaultTxid⟩

def keyOnly : PixSettings := ⟨"ana@pix", "", ""⟩

/-- A name whose mark is a character of its own, by the few decompositions above; and a city,
whatever the tables make of it. -/
theorem spellings_fold_alike_tilde :
    tildes.normalForm "Joa\u0303o" = tildes.normalForm "João" ∧
      tildes.fold "Joa\u0303o" = "Joao" ∧
      (openRequest.spelled (tildes.fold "Joa\u0303o") (tildes.fold "Rio")).encode =
        (openRequest.spelled (tildes.fold "João") (tildes.fold "Rio")).encode ∧
      (keyOnly.spelled (tildes.fold "Joa\u0303o") (tildes.fold "Rio")).hasMerchantIdentity =
        (keyOnly.spelled (tildes.fold "João") (tildes.fold "Rio")).hasMerchantIdentity ∧
      (keyOnly.spelled (tildes.fold "João") (tildes.fold "Rio")).hasMerchantIdentity = true ∧
      (openRequest.spelled "Ana" (normalForm "São Paulo")).encode =
        (openRequest.spelled "Ana" "São Paulo").encode ∧
      (keyOnly.spelled "Ana" (normalForm "São Paulo")).hasMerchantIdentity =
        (keyOnly.spelled "Ana" "São Paulo").hasMerchantIdentity ∧
      Normalization.unicode.fold = fold ∧ Normalization.unicode.normalForm = normalForm := by
  have hname : tildes.normalForm "Joa\u0303o" = tildes.normalForm "João" := by decide +kernel
  obtain ⟨-, -, hpayload, -⟩ := spellings_fold_alike.2 tildes
  obtain ⟨hencode, hid⟩ := hpayload "Joa\u0303o" "João" "Rio" "Rio" hname rfl
  obtain ⟨-, hidem, htables⟩ := spellings_fold_alike.1
  obtain ⟨hencode', hid'⟩ := htables "Ana" "Ana" _ "São Paulo" rfl (hidem "São Paulo")
  obtain ⟨-, -, -, hunicode⟩ := spellings_fold_alike.2 .unicode
  exact ⟨hname, by decide +kernel, hencode openRequest, hid keyOnly, by decide +kernel,
    hencode' openRequest, (hid' keyOnly).1, (hunicode rfl).1, (hunicode rfl).2 rfl⟩

end Invoice

end RentBilling
