import RentBilling.Proofs.Pix.Faults
import RentBilling.Proofs.Pix.Payload

/-!
Which requests have a payload.

Only the key and the transaction can keep a payload from being made. Each is the last text of a
group, which has to hold it together with what stands before it (`heldFault?`); names are cut and
folded, and every amount is short. The fault of the key comes before that of the transaction
(`firstFault?_fields`). A payload that is made has at most 314 bytes (`byteLength_le_of_encode`).

So a request is refused for the first entry of a short list (`Request.faults`), and where none
applies the length of the payload is known beforehand (`encode_outcome`).
-/

namespace RentBilling.Pix

open Numeral Text

/-- What keeps a text from standing last in a group, behind `before` other bytes. -/
def heldFault? (group tag : String) (before : Nat) (value : String) : Option Error :=
  if isAscii value then
    if byteLength value.toList ≤ maxValue then
      if before + byteLength value.toList ≤ maxValue then none
      else some (.fieldTooLong group (before + byteLength value.toList))
    else some (.fieldTooLong tag (byteLength value.toList))
  else some (.nonAscii tag)

theorem heldFault?_eq_none_iff {group tag value : String} {before : Nat} :
    heldFault? group tag before value = none ↔
      isAscii value ∧ before + byteLength value.toList ≤ maxValue := by
  unfold heldFault?
  by_cases ha : isAscii value
  · rw [if_pos ha]
    by_cases hshort : byteLength value.toList ≤ maxValue
    · rw [if_pos hshort]
      by_cases hboth : before + byteLength value.toList ≤ maxValue <;> simp [ha, hboth]
    · rw [if_neg hshort]
      exact iff_of_false (Option.some_ne_none _) fun h => hshort (by omega)
  · rw [if_neg ha]
    exact iff_of_false (Option.some_ne_none _) fun h => ha h.1

/-- The same, as a search among conditions. -/
theorem heldFault?_eq_find? (group tag : String) (before : Nat) (value : String) :
    heldFault? group tag before value =
      ([(!isAscii value, Error.nonAscii tag),
        (decide (99 < byteLength value.toList), .fieldTooLong tag (byteLength value.toList)),
        (decide (99 < before + byteLength value.toList),
          .fieldTooLong group (before + byteLength value.toList))].find? (·.1)).map Prod.snd := by
  unfold heldFault? maxValue
  by_cases ha : isAscii value
  · by_cases hshort : byteLength value.toList ≤ 99
    · by_cases hboth : before + byteLength value.toList ≤ 99
      · simp [ha, hshort, hboth]
      · simp [ha, hshort, hboth]
    · simp [ha, hshort, Nat.not_le.mp hshort]
  · simp [ha]

/-! ## Groups -/

theorem IsTag.byteLength {tag : String} (h : IsTag tag) : byteLength tag.toList = 2 := by
  have hascii : tag.toList.all isAsciiChar := by
    rw [List.all_eq_true]
    exact fun c hc => isAsciiChar_of_isDigit (List.all_eq_true.mp h.2 c hc)
  rw [byteLength_eq_length hascii, h.1]

section

variable {group tag value : String} {others : List Record} {before : Nat}

/-- The content of a group whose last text is short. -/
theorem byteLength_contentAll_held (ht : IsTag tag)
    (hbefore : byteLength (contentAll (textFields others)) + 4 = before)
    (h : byteLength value.toList ≤ maxValue) :
    byteLength (contentAll (textFields others ++ [.text tag value])) =
      before + byteLength value.toList := by
  have hlast : contentAll [.text tag value] = framed tag value.toList := List.append_nil _
  rw [contentAll_append, byteLength_append, hlast, byteLength_framed ht.byteLength h]
  omega

theorem firstFault?_held (ht : IsTag tag) (hothers : ∀ r ∈ others, Writable r.2)
    (hbefore : byteLength (contentAll (textFields others)) + 4 = before) :
    firstFault? [.group group (textFields others ++ [.text tag value])] =
      heldFault? group tag before value := by
  rw [firstFault?_group, firstFault?_append, firstFault?_textFields hothers, firstFault?_text,
    heldFault?, Option.none_or]
  by_cases ha : isAscii value
  · rw [if_pos ha, if_pos ha]
    by_cases hshort : byteLength value.toList ≤ maxValue
    · rw [tooLong?, if_pos hshort, if_pos hshort, Option.none_or, tooLong?,
        byteLength_contentAll_held ht hbefore hshort]
    · rw [tooLong?, if_neg hshort, if_neg hshort]
      rfl
  · rw [if_neg ha, if_neg ha]
    rfl

theorem byteLength_held (hgroup : IsTag group) (ht : IsTag tag)
    (hbefore : byteLength (contentAll (textFields others)) + 4 = before)
    (h : heldFault? group tag before value = none) :
    byteLength (contentAll [.group group (textFields others ++ [.text tag value])]) =
      4 + before + byteLength value.toList := by
  obtain ⟨-, hboth⟩ := heldFault?_eq_none_iff.mp h
  have hcontent : byteLength (contentAll (textFields others ++ [.text tag value])) =
      before + byteLength value.toList := byteLength_contentAll_held ht hbefore (by omega)
  have hframed : contentAll [.group group (textFields others ++ [.text tag value])] =
      framed group (contentAll (textFields others ++ [.text tag value])) := List.append_nil _
  rw [hframed, byteLength_framed hgroup.byteLength (hcontent ▸ hboth), hcontent, Nat.add_assoc]

end

/-! ## Values that are always short -/

theorem isAscii_plainText (a : Centavos) : isAscii a.plainText := by
  have hpoint : isAsciiChar '.' := by decide
  rw [isAscii, Centavos.plainText, String.toList_ofList, List.all_append, List.all_cons, hpoint,
    Bool.true_and, Bool.and_eq_true, List.all_eq_true, List.all_eq_true]
  exact ⟨fun c hc => isAsciiChar_of_isDigit (isDigit_of_mem_digits hc),
    fun c hc => isAsciiChar_of_isDigit (isDigit_of_mem_padded hc)⟩

theorem isAscii_shortened (most : Nat) (s : String) : isAscii (shortened most s) := by
  have hfold : ∀ c ∈ (fold s).toList, isAsciiChar c := List.all_eq_true.mp (isAscii_fold s)
  rw [isAscii, shortened, String.toList_ofList, List.all_eq_true]
  exact fun c hc => hfold c (List.mem_of_mem_take hc)

/-- The texts of a payload between the two groups, and how long they can get. -/
theorem byteLength_plainText_le (a : Centavos) : byteLength a.plainText.toList ≤ 21 := by
  rw [byteLength_eq_length (isAscii_plainText a)]
  exact a.length_plainText_le

theorem byteLength_shortened_le (most : Nat) (s : String) :
    byteLength (shortened most s).toList ≤ most := by
  rw [byteLength_eq_length (isAscii_shortened most s), shortened, String.toList_ofList]
  exact List.length_take_le _ _

theorem byteLength_contentAll_textFields {rs : List Record}
    (ht : ∀ tag ∈ rs.map Prod.fst, IsTag tag) (h : ∀ r ∈ rs, Writable r.2) :
    byteLength (contentAll (textFields rs)) =
      (rs.map fun r => 4 + byteLength r.2.toList).sum := by
  induction rs with
  | nil => rfl
  | cons r rs ih =>
    rw [List.map_cons, List.forall_mem_cons] at ht
    rw [List.forall_mem_cons] at h
    have hcons : contentAll (textFields (r :: rs)) =
        framed r.1 r.2.toList ++ contentAll (textFields rs) := rfl
    rw [hcons, byteLength_append, byteLength_framed ht.1.byteLength h.1.2, ih ht.2 h.2,
      List.map_cons, List.sum_cons]

namespace Request

theorem writable_middle (r : Request) : ∀ record ∈ r.middle, Writable record.2 := by
  have hname : Writable (shortened maxNameLength r.merchantName) :=
    ⟨isAscii_shortened .., Nat.le_trans (byteLength_shortened_le ..) (by decide)⟩
  have hcity : Writable (shortened maxCityLength r.merchantCity) :=
    ⟨isAscii_shortened .., Nat.le_trans (byteLength_shortened_le ..) (by decide)⟩
  have hplain : ∀ a : Centavos, Writable a.plainText := fun a =>
    ⟨isAscii_plainText a, Nat.le_trans (byteLength_plainText_le a) (by decide)⟩
  have hzeros : Writable "0000" := by decide
  have hcurrency : Writable "986" := by decide
  have hcountry : Writable "BR" := by decide
  unfold middle
  rcases r.fixedAmount?_cases with ⟨-, -, hr⟩ | ⟨a, -, -, -, hr⟩ <;> rw [hr] <;>
    simp [hname, hcity, hplain, hzeros, hcurrency, hcountry]

/-- The group of the account, with its key behind the scheme. -/
def account (r : Request) : Field :=
  .group "26" (textFields [("00", scheme)] ++ [.text "01" r.pixKey])

/-- The group of the transaction. -/
def extra (r : Request) : Field := .group "62" (textFields [] ++ [.text "05" r.txid])

theorem fields_eq_groups (r : Request) :
    r.fields =
      textFields [("00", "01")] ++ r.account :: (textFields r.middle ++ [r.extra]) :=
  r.fields_eq

theorem firstFault?_account (r : Request) :
    firstFault? [r.account] = heldFault? "26" "01" 22 r.pixKey :=
  firstFault?_held (by decide) (by decide) (by decide)

theorem firstFault?_extra (r : Request) :
    firstFault? [r.extra] = heldFault? "62" "05" 4 r.txid :=
  firstFault?_held (by decide) (by decide) rfl

/-- The first fault of a request is that of its key, or else that of its transaction. -/
theorem firstFault?_fields (r : Request) :
    firstFault? r.fields =
      (heldFault? "26" "01" 22 r.pixKey).or (heldFault? "62" "05" 4 r.txid) := by
  have hformat : ∀ record ∈ [(("00", "01") : Record)], Writable record.2 := by decide
  rw [fields_eq_groups, firstFault?_append, firstFault?_textFields hformat, firstFault?_cons,
    firstFault?_account, firstFault?_append, firstFault?_textFields r.writable_middle,
    firstFault?_extra, Option.none_or, Option.none_or]

theorem encode_eq_written (r : Request) :
    r.encode.result =
      (written (firstFault? r.fields) (contentAll r.fields)).map fun body =>
        String.ofList (close body) := by
  rw [encode_result, writeAll_eq]

theorem encode_eq_error_iff {r : Request} {e : Error} :
    r.encode.result = .error e ↔ firstFault? r.fields = some e := by
  rw [encode_eq_written, written]
  cases firstFault? r.fields <;> simp [Except.map]

theorem encode_eq_ok_iff {r : Request} {p : String} :
    r.encode.result = .ok p ↔
      firstFault? r.fields = none ∧ p = .ofList (close (contentAll r.fields)) := by
  rw [encode_eq_written, written]
  cases firstFault? r.fields <;> simp [Except.map, eq_comm]

/-! ## How long a payload is -/

/-- Bytes that the field of the amount takes. -/
def amountLength (r : Request) : Nat :=
  (r.amountRecords.map fun record => 4 + byteLength record.2.toList).sum

theorem amountLength_le (r : Request) : r.amountLength ≤ 25 := by
  unfold amountLength
  rcases r.fixedAmount?_cases with ⟨-, -, hr⟩ | ⟨a, -, -, -, hr⟩ <;> rw [hr]
  · exact Nat.zero_le _
  · have ha := byteLength_plainText_le a
    simp only [List.map_cons, List.map_nil, List.sum_cons, List.sum_nil]
    omega

theorem byteLength_middle (r : Request) :
    byteLength (contentAll (textFields r.middle)) =
      29 + r.amountLength + byteLength (shortened maxNameLength r.merchantName).toList +
        byteLength (shortened maxCityLength r.merchantCity).toList := by
  have hzeros : byteLength "0000".toList = 4 := by decide
  have hcurrency : byteLength "986".toList = 3 := by decide
  have hcountry : byteLength "BR".toList = 2 := by decide
  rw [byteLength_contentAll_textFields r.isTag_of_mem_middle r.writable_middle, middle,
    List.map_append, List.map_append, List.sum_append, List.sum_append]
  simp only [List.map_cons, List.map_nil, List.sum_cons, List.sum_nil, hzeros, hcurrency, hcountry,
    amountLength]
  omega

/-- The length of a payload: 77 bytes around its texts, and those of the amount. -/
theorem byteLength_of_encode {r : Request} {p : String} (h : r.encode.result = .ok p) :
    byteLength p.toList =
      77 + byteLength r.pixKey.toList +
        byteLength (shortened maxNameLength r.merchantName).toList +
        byteLength (shortened maxCityLength r.merchantCity).toList + byteLength r.txid.toList +
        r.amountLength := by
  obtain ⟨hnone, rfl⟩ := encode_eq_ok_iff.mp h
  rw [firstFault?_fields, Option.or_eq_none_iff] at hnone
  have haccount : byteLength (contentAll [r.account]) = 4 + 22 + byteLength r.pixKey.toList :=
    byteLength_held (by decide) (by decide) (by decide) hnone.1
  have hextra : byteLength (contentAll [r.extra]) = 4 + 4 + byteLength r.txid.toList :=
    byteLength_held (by decide) (by decide) rfl hnone.2
  have hformat : byteLength (contentAll (textFields [("00", "01")])) = 6 := by decide
  have hheader : byteLength checksumHeader = 4 := by decide
  have hchecksum : byteLength (Checksum.ofChars (contentAll r.fields ++ checksumHeader)) = 4 := by
    rw [byteLength_eq_length (Checksum.all_isAsciiChar_ofChars _), Checksum.length_ofChars]
  rw [String.toList_ofList, close, byteLength_append, byteLength_append, hheader, hchecksum,
    fields_eq_groups, contentAll_append, contentAll_cons, contentAll_append, byteLength_append,
    byteLength_append, byteLength_append, haccount, hextra, r.byteLength_middle, hformat]
  omega

theorem byteLength_le_of_encode {r : Request} {p : String} (h : r.encode.result = .ok p) :
    byteLength p.toList ≤ 314 := by
  have hlength := byteLength_of_encode h
  have hname : byteLength (shortened maxNameLength r.merchantName).toList ≤ 25 :=
    byteLength_shortened_le ..
  have hcity : byteLength (shortened maxCityLength r.merchantCity).toList ≤ 15 :=
    byteLength_shortened_le ..
  have hamount := r.amountLength_le
  obtain ⟨hnone, -⟩ := encode_eq_ok_iff.mp h
  rw [firstFault?_fields, Option.or_eq_none_iff] at hnone
  obtain ⟨-, hkey⟩ := heldFault?_eq_none_iff.mp hnone.1
  obtain ⟨-, htxid⟩ := heldFault?_eq_none_iff.mp hnone.2
  unfold maxValue at hkey htxid
  omega

/-! ## All requests -/

/-- What can be wrong with a request, with the error for it, in the order of the search. -/
def faults (r : Request) : List (Bool × Error) :=
  let key := byteLength r.pixKey.toList
  let txid := byteLength r.txid.toList
  [(!isAscii r.pixKey, .nonAscii "01"),
    (decide (99 < key), .fieldTooLong "01" key),
    (decide (99 < 22 + key), .fieldTooLong "26" (22 + key)),
    (!isAscii r.txid, .nonAscii "05"),
    (decide (99 < txid), .fieldTooLong "05" txid),
    (decide (99 < 4 + txid), .fieldTooLong "62" (4 + txid))]

/-- The error for the first thing that is wrong. -/
def fault? (r : Request) : Option Error := (r.faults.find? (·.1)).map Prod.snd

/-- Bytes for the amount, if it is fixed: a tag, a length and the decimal text. -/
def amountBytes (r : Request) : Nat :=
  match r.amount with
  | some a => if a.toNat = 0 then 0 else 4 + byteLength a.plainText.toList
  | none => 0

theorem firstFault?_eq_fault? (r : Request) : firstFault? r.fields = r.fault? := by
  rw [firstFault?_fields, heldFault?_eq_find?, heldFault?_eq_find?, fault?, ← Option.map_or,
    ← List.find?_append]
  rfl

theorem firstFault?_eq_none_iff (r : Request) :
    firstFault? r.fields = none ↔
      (isAscii r.pixKey ∧ byteLength r.pixKey.toList ≤ 77) ∧
        isAscii r.txid ∧ byteLength r.txid.toList ≤ 95 := by
  have hkey : 22 + byteLength r.pixKey.toList ≤ maxValue ↔ byteLength r.pixKey.toList ≤ 77 := by
    unfold maxValue
    omega
  have htxid : 4 + byteLength r.txid.toList ≤ maxValue ↔ byteLength r.txid.toList ≤ 95 := by
    unfold maxValue
    omega
  rw [firstFault?_fields, Option.or_eq_none_iff, heldFault?_eq_none_iff, heldFault?_eq_none_iff,
    hkey, htxid]

theorem amountLength_eq_amountBytes (r : Request) : r.amountLength = r.amountBytes := by
  unfold amountLength amountRecords amountBytes
  cases r.amount with
  | none => rfl
  | some a =>
    dsimp only
    split
    · rfl
    · rfl

/-- **Which requests have a payload.** Those whose key has at most 77 bytes and whose transaction
has at most 95, all of them ASCII; names and amounts play no part. Any other request is refused for
the first of its faults. The length of a payload follows from the lengths of its texts and is never
more than 314 bytes. -/
theorem encode_outcome (r : Request) :
    ((∃ p, r.encode.result = .ok p) ↔
      (isAscii r.pixKey ∧ byteLength r.pixKey.toList ≤ 77) ∧
        isAscii r.txid ∧ byteLength r.txid.toList ≤ 95) ∧
    (∀ e, r.encode.result = .error e ↔ r.fault? = some e) ∧
    ∀ p, r.encode.result = .ok p →
      byteLength p.toList =
        77 + byteLength r.pixKey.toList +
          byteLength (shortened maxNameLength r.merchantName).toList +
          byteLength (shortened maxCityLength r.merchantCity).toList + byteLength r.txid.toList +
          r.amountBytes ∧
      byteLength p.toList ≤ 314 := by
  refine ⟨?_, ?_, ?_⟩
  · rw [← firstFault?_eq_none_iff]
    constructor
    · intro ⟨p, hp⟩
      exact (encode_eq_ok_iff.mp hp).1
    · intro hnone
      exact ⟨_, encode_eq_ok_iff.mpr ⟨hnone, rfl⟩⟩
  · intro e
    rw [encode_eq_error_iff, firstFault?_eq_fault?]
  · intro p hp
    have hlength := byteLength_of_encode hp
    rw [amountLength_eq_amountBytes] at hlength
    exact ⟨hlength, byteLength_le_of_encode hp⟩

/-- A request in which every text is as long as it can be, and the names longer. -/
def longest : Request where
  pixKey := .ofList (.replicate 77 'k')
  merchantName := .ofList (.replicate 26 'n')
  merchantCity := .ofList (.replicate 16 'c')
  amount := some ⟨18446744073709551615⟩
  txid := .ofList (.replicate 95 't')

/-- The longest payload, and the refusal of a longer key before that of any transaction. -/
theorem encode_outcome_longest :
    (∃ p, longest.encode.result = .ok p ∧ byteLength p.toList = 314) ∧
      ({ longest with pixKey := .ofList (.replicate 78 'k'), txid := "ç" }).encode.result =
        .error (.fieldTooLong "26" 100) := by
  obtain ⟨hok, -, hlength⟩ := encode_outcome longest
  obtain ⟨p, hp⟩ := hok.mpr (by decide +kernel)
  have h314 : 77 + byteLength longest.pixKey.toList +
      byteLength (shortened maxNameLength longest.merchantName).toList +
      byteLength (shortened maxCityLength longest.merchantCity).toList +
      byteLength longest.txid.toList + longest.amountBytes = 314 := by decide +kernel
  exact ⟨⟨p, hp, (hlength p hp).1.trans h314⟩,
    ((encode_outcome _).2.1 _).mpr (by decide +kernel)⟩

end Request

end RentBilling.Pix
