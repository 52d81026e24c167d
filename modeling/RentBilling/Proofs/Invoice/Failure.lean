import RentBilling.Proofs.Invoice.Payment
import RentBilling.Proofs.Pix.Refusals
import RentBilling.Proofs.Qr.Picture

/-!
When an invoice cannot be built.

By default only the key in force can be at fault (`build_eq_error_iff`): it is not ASCII, or it is
too long by itself or for the group that holds it. Names are cut, totals are short and the
transaction is always the same one, so that a payload has at most 314 bytes. Data of that size has a
symbol, and even the widest symbol makes a picture of the default kind that is not too large.
-/

namespace RentBilling.Invoice

open Pix Text

/-- What is wrong with a key in force. -/
inductive KeyFault (key : String) : Pix.Error → Prop where
  | nonAscii (h : ¬ isAscii key) : KeyFault key (.nonAscii "01")
  | tooLong (ha : isAscii key) (h : 99 < byteLength key.toList) :
    KeyFault key (.fieldTooLong "01" (byteLength key.toList))
  | /-- The key alone is short enough, but not with the scheme in front of it. -/
    accountTooLong (ha : isAscii key) (h : 77 < byteLength key.toList)
    (hshort : byteLength key.toList ≤ 99) :
    KeyFault key (.fieldTooLong "26" (22 + byteLength key.toList))

theorem heldFault?_key_eq_some_iff {key : String} {e : Pix.Error} :
    heldFault? "26" "01" 22 key = some e ↔ KeyFault key e := by
  unfold heldFault? maxValue
  constructor
  · intro h
    by_cases ha : isAscii key
    · rw [if_pos ha] at h
      by_cases hshort : byteLength key.toList ≤ 99
      · rw [if_pos hshort] at h
        by_cases hboth : 22 + byteLength key.toList ≤ 99
        · rw [if_pos hboth] at h
          cases h
        · rw [if_neg hboth] at h
          obtain rfl := Option.some.inj h
          exact .accountTooLong ha (by omega) hshort
      · rw [if_neg hshort] at h
        obtain rfl := Option.some.inj h
        exact .tooLong ha (Nat.not_le.mp hshort)
    · rw [if_neg ha] at h
      obtain rfl := Option.some.inj h
      exact .nonAscii ha
  · intro h
    cases h with
    | nonAscii ha => rw [if_neg ha]
    | tooLong ha h => rw [if_pos ha, if_neg (Nat.not_le.mpr h)]
    | accountTooLong ha h hshort => rw [if_pos ha, if_pos hshort, if_neg (by omega)]

theorem exists_keyFault_iff {key : String} :
    (∃ e, KeyFault key e) ↔ ¬ isAscii key ∨ 77 < byteLength key.toList := by
  have hnone : heldFault? "26" "01" 22 key = none ↔ _ := heldFault?_eq_none_iff
  simp only [← heldFault?_key_eq_some_iff]
  rw [← Option.ne_none_iff_exists', ne_eq, hnone, maxValue, Classical.not_and_iff_not_or_not]
  refine or_congr_right ?_
  omega

/-- A transaction of three stars has no fault, so only the key of an invoice can have one. -/
theorem firstFault?_request (key : String) (settings : PixSettings) (bill : Bill) :
    firstFault? (request key settings bill).fields = heldFault? "26" "01" 22 key := by
  have htxid : heldFault? "62" "05" 4 defaultTxid = none := by decide
  have hfields := (request key settings bill).firstFault?_fields
  rw [hfields]
  show (heldFault? "26" "01" 22 key).or (heldFault? "62" "05" 4 defaultTxid) = _
  rw [htxid, Option.or_none]

theorem withSection_eq_error_iff {key : String} {bill : Bill} {settings : PixSettings}
    {e : Pix.Error} :
    withSection key bill settings .default = .error e ↔ KeyFault key e := by
  rw [← heldFault?_key_eq_some_iff, ← firstFault?_request key settings bill,
    ← Request.encode_eq_error_iff, withSection]
  cases hencode : (request key settings bill).encode.result with
  | error e' => simp [Except.bind]
  | ok payload =>
    have hlength := Request.byteLength_le_of_encode hencode
    obtain ⟨picture, hpicture⟩ := Qr.exists_picture (Nat.le_trans hlength (by decide))
    dsimp only [Except.bind]
    rw [hpicture]
    constructor
    · intro h
      cases h
    · intro h
      cases h

theorem result_build_eq_error_iff {bill : Bill} {template : Template} {settings : PixSettings}
    {e : Pix.Error} :
    (build bill template settings).result = .error e ↔
      ∃ key, effectiveKey? template settings = some key ∧ settings.hasMerchantIdentity ∧
        KeyFault key e := by
  rw [build, buildWith_result]
  cases effectiveKey? template settings with
  | none => exact ⟨nofun, nofun⟩
  | some key =>
    dsimp only
    by_cases hid : settings.hasMerchantIdentity
    · rw [if_pos hid, withSection_eq_error_iff]
      simp [hid]
    · rw [if_neg hid]
      simp [hid]

/-- **Failing to build an invoice.** Whatever the bill comes to, building its invoice by default
fails exactly if there is a key in force, a name and a city, and the key is not ASCII or longer than
77 bytes. Then the fault of the key is reported. No symbol is ever too small for a payload, and no
picture too large. -/
theorem build_eq_error_iff (bill : Bill) (template : Template) (settings : PixSettings) :
    ((∃ e, (build bill template settings).result = .error e) ↔
        ∃ key, effectiveKey? template settings = some key ∧ settings.hasMerchantIdentity ∧
          (¬ isAscii key ∨ 77 < byteLength key.toList)) ∧
      (∀ e, (build bill template settings).result = .error e ↔
        ∃ key, effectiveKey? template settings = some key ∧ settings.hasMerchantIdentity ∧
          KeyFault key e) ∧
      (build bill template settings).result ≠ .error .dataTooLong ∧
      ∀ fault, (build bill template settings).result ≠ .error (.badDrawing fault) := by
  refine ⟨?_, fun e => result_build_eq_error_iff, ?_, fun fault => ?_⟩
  · simp only [result_build_eq_error_iff, ← exists_keyFault_iff]
    constructor
    · rintro ⟨e, key, hkey, hid, hfault⟩
      exact ⟨key, hkey, hid, e, hfault⟩
    · rintro ⟨key, hkey, hid, e, hfault⟩
      exact ⟨e, key, hkey, hid, hfault⟩
  · rw [Ne, result_build_eq_error_iff]
    rintro ⟨key, -, -, hfault⟩
    cases hfault
  · rw [Ne, result_build_eq_error_iff]
    rintro ⟨key, -, -, hfault⟩
    cases hfault

end RentBilling.Invoice
