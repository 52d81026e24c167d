import Mathlib.Tactic.Linarith
import RentBilling.Pix.Payload
import RentBilling.Proofs.Money.PlainText
import RentBilling.Proofs.Pix.Checksum
import RentBilling.Proofs.Pix.Records

/-!
What a payload says.

A payload reads back as the records of its request, the amount's only if one is fixed, and then the
record of a checksum that is right (`encode_reads_back`). The two nested values read back as well.
So nothing of a request is lost but what folding and cutting drop: two requests have one payload
exactly if they ask for the same payment (`SamePayment`).
-/

namespace RentBilling.Pix

open Numeral Text

namespace Request

/-! ## Requests seen from their payloads -/

/-- The amount in centavos. Nothing and zero are the same. -/
def asked (r : Request) : Nat := (r.amount.map Centavos.toNat).getD 0

/-- The record of the amount, if there is one to pay. -/
def amountRecords (r : Request) : List Record :=
  match r.amount with
  | some a => if a.toNat = 0 then [] else [("54", a.plainText)]
  | none => []

/-- All records of a payload. The values of the two groups and of the checksum are given. -/
def records (r : Request) (account extra checksum : String) : List Record :=
  [("00", "01"), ("26", account), ("52", "0000"), ("53", "986")] ++ r.amountRecords ++
    [("58", "BR"), ("59", .ofList ((fold r.merchantName).toList.take 25)),
      ("60", .ofList ((fold r.merchantCity).toList.take 15)), ("62", extra), ("63", checksum)]

/-- The requests agree on everything that stands in a payload. -/
structure SamePayment (r s : Request) : Prop where
  pixKey : r.pixKey = s.pixKey
  txid : r.txid = s.txid
  asked : r.asked = s.asked
  name : (fold r.merchantName).toList.take 25 = (fold s.merchantName).toList.take 25
  city : (fold r.merchantCity).toList.take 15 = (fold s.merchantCity).toList.take 15

/-- Either nothing is fixed and there is no record for it, or a positive amount is, and it has
one. -/
theorem fixedAmount?_cases (r : Request) :
    (r.fixedAmount? = none ∧ r.asked = 0 ∧ r.amountRecords = []) ∨
      ∃ a, r.fixedAmount? = some a ∧ r.asked = a.toNat ∧ 0 < a.toNat ∧
        r.amountRecords = [("54", a.plainText)] := by
  unfold fixedAmount? asked amountRecords
  cases r.amount with
  | none => exact .inl ⟨rfl, rfl, rfl⟩
  | some a =>
    by_cases h : a.isZero
    · have hz : a.toNat = 0 := Centavos.isZero_iff.mp h
      exact .inl ⟨by simp [Option.filter_some, h], hz, if_pos hz⟩
    · have hne : a.toNat ≠ 0 := fun he => h (Centavos.isZero_iff.mpr he)
      exact .inr ⟨a, by simp [Option.filter_some, h], rfl, Nat.pos_of_ne_zero hne, if_neg hne⟩

theorem fixedAmount?_of_asked {r s : Request} (h : r.asked = s.asked) :
    r.fixedAmount? = s.fixedAmount? := by
  rcases r.fixedAmount?_cases with ⟨hr, hra, -⟩ | ⟨a, hr, hra, hpos, -⟩
  · rcases s.fixedAmount?_cases with ⟨hs, -, -⟩ | ⟨b, -, hsb, hpos, -⟩
    · rw [hr, hs]
    · omega
  · rcases s.fixedAmount?_cases with ⟨-, hsb, -⟩ | ⟨b, hs, hsb, -, -⟩
    · omega
    · have hab : a.toNat = b.toNat := by omega
      rw [hr, hs, Centavos.toNat_injective hab]

theorem asked_of_amountRecords {r s : Request} (h : r.amountRecords = s.amountRecords) :
    r.asked = s.asked := by
  rcases r.fixedAmount?_cases with ⟨-, hra, hr⟩ | ⟨a, -, hra, -, hr⟩
  · rcases s.fixedAmount?_cases with ⟨-, hsa, -⟩ | ⟨b, -, -, -, hs⟩
    · rw [hra, hsa]
    · rw [hr, hs] at h
      contradiction
  · rcases s.fixedAmount?_cases with ⟨-, -, hs⟩ | ⟨b, -, hsb, -, hs⟩
    · rw [hr, hs] at h
      contradiction
    · rw [hr, hs] at h
      have hab : a.plainText = b.plainText := by simpa using h
      rw [hra, hsb, Centavos.plainText_injective hab]

theorem SamePayment.fields {r s : Request} (h : r.SamePayment s) : r.fields = s.fields := by
  unfold Request.fields shortened maxNameLength maxCityLength
  rw [fixedAmount?_of_asked h.asked, h.pixKey, h.txid, h.name, h.city]

/-- The records tell requests apart. -/
theorem of_records_eq {r s : Request} {account extra checksum account' extra' checksum' : String}
    (h : r.records account extra checksum = s.records account' extra' checksum') :
    account = account' ∧ extra = extra' ∧ r.asked = s.asked ∧
      (fold r.merchantName).toList.take 25 = (fold s.merchantName).toList.take 25 ∧
      (fold r.merchantCity).toList.take 15 = (fold s.merchantCity).toList.take 15 := by
  unfold records at h
  obtain ⟨hfront, hback⟩ := List.append_inj' h (by simp)
  obtain ⟨hfirst, hamount⟩ := List.append_inj hfront (by simp)
  simp only [List.cons.injEq, Prod.mk.injEq, true_and, and_true, String.ofList_inj] at hfirst hback
  obtain ⟨hname, hcity, hextra, -⟩ := hback
  exact ⟨hfirst, hextra, asked_of_amountRecords hamount, hname, hcity⟩

/-! ## Looking records up -/

theorem nodup_tags (r : Request) (account extra checksum : String) :
    ((r.records account extra checksum).map Prod.fst).Nodup := by
  unfold records
  rcases r.fixedAmount?_cases with ⟨-, -, hr⟩ | ⟨a, -, -, -, hr⟩
  · have h : ["00", "26", "52", "53", "58", "59", "60", "62", "63"].Nodup := by decide
    rw [hr]
    exact h
  · have h : ["00", "26", "52", "53", "54", "58", "59", "60", "62", "63"].Nodup := by decide
    rw [hr]
    exact h

theorem lookup_account (r : Request) (account extra checksum : String) :
    (r.records account extra checksum).lookup "26" = some account := rfl

/-- The field of the amount is there exactly if something is asked for. -/
theorem lookup_amount_isSome_iff (r : Request) (account extra checksum : String) :
    ((r.records account extra checksum).lookup "54").isSome ↔ 0 < r.asked := by
  unfold records
  rcases r.fixedAmount?_cases with ⟨-, hask, hr⟩ | ⟨a, -, hask, hpos, hr⟩
  · rw [hr, hask]
    exact iff_of_false Bool.false_ne_true (Nat.lt_irrefl 0)
  · rw [hr, hask]
    exact iff_of_true rfl hpos

/-- The field of the amount has its exact value. -/
theorem decimalValue?_of_lookup_amount {r : Request} {account extra checksum v : String}
    (h : (r.records account extra checksum).lookup "54" = some v) :
    decimalValue? v.toList = some ((r.asked : Rat) / 100) := by
  unfold records at h
  rcases r.fixedAmount?_cases with ⟨-, -, hr⟩ | ⟨a, -, hask, -, hr⟩
  · rw [hr] at h
    cases h
  · rw [hr] at h
    obtain rfl := Option.some.inj h
    rw [Centavos.decimalValue?_plainText, hask]

/-! ## Writing a payload -/

theorem encode_result (r : Request) :
    r.encode.result = (writeAll r.fields).map fun body => String.ofList (close body) := by
  unfold encode
  cases writeAll r.fields <;> rfl

/-- The records of text between the two groups. -/
def middle (r : Request) : List Record :=
  [("52", "0000"), ("53", "986")] ++ r.amountRecords ++
    [("58", "BR"), ("59", shortened maxNameLength r.merchantName),
      ("60", shortened maxCityLength r.merchantCity)]

theorem fields_eq (r : Request) :
    r.fields = textFields [("00", "01")] ++
      .group "26" (textFields [("00", scheme), ("01", r.pixKey)]) ::
        (textFields r.middle ++ [.group "62" (textFields [("05", r.txid)])]) := by
  unfold Request.fields middle
  rcases r.fixedAmount?_cases with ⟨hf, -, hr⟩ | ⟨a, hf, -, -, hr⟩ <;> rw [hf, hr] <;> rfl

theorem isTag_of_mem_middle (r : Request) : ∀ tag ∈ r.middle.map Prod.fst, IsTag tag := by
  unfold middle
  rcases r.fixedAmount?_cases with ⟨-, -, hr⟩ | ⟨a, -, -, -, hr⟩
  · have h : ∀ tag ∈ ["52", "53", "58", "59", "60"], IsTag tag := by decide
    rw [hr]
    exact h
  · have h : ∀ tag ∈ ["52", "53", "54", "58", "59", "60"], IsTag tag := by decide
    rw [hr]
    exact h

theorem isTag_account : ∀ tag ∈ ["00", "01"], IsTag tag := by decide

theorem isTag_extra : ∀ tag ∈ ["05"], IsTag tag := by decide

theorem allTagged_fields (r : Request) : AllTagged r.fields := by
  have h00 : ∀ tag ∈ ["00"], IsTag tag := by decide
  have h26 : IsTag "26" := by decide
  have h62 : IsTag "62" := by decide
  rw [fields_eq]
  refine allTagged_append (allTagged_textFields h00)
    ⟨⟨h26, allTagged_textFields isTag_account⟩, ?_⟩
  exact allTagged_append (allTagged_textFields r.isTag_of_mem_middle)
    ⟨⟨h62, allTagged_textFields isTag_extra⟩, trivial⟩

/-- The checksum field is a record like any other. -/
theorem close_eq (body : List Char) :
    close body =
      body ++ writeRecord ("63", .ofList (Checksum.ofChars (body ++ checksumHeader))) := by
  have h4 : padded 2 4 = ['0', '4'] := by decide
  simp [close, writeRecord, Checksum.length_ofChars, h4, checksumHeader]

theorem fits_checksum (cs : List Char) : Record.Fits ("63", .ofList (Checksum.ofChars cs)) :=
  ⟨(by decide : IsTag "63"), by rw [String.toList_ofList, Checksum.length_ofChars]; decide⟩

theorem readRecords_close {rs : List Record} (h : ∀ r ∈ rs, r.Fits) :
    readRecords (close (rs.flatMap writeRecord)) =
      .ok (rs ++
        [("63", .ofList (Checksum.ofChars (rs.flatMap writeRecord ++ checksumHeader)))]) := by
  rw [close_eq, ← List.flatMap_singleton writeRecord ("63", _), ← List.flatMap_append]
  refine readRecords_flatMap fun r hr => ?_
  rcases List.mem_append.mp hr with hr | hr
  · exact h r hr
  · rw [List.mem_singleton.mp hr]
    exact fits_checksum _

theorem length_close (body : List Char) :
    (close body).length = (body ++ checksumHeader).length + 4 := by
  rw [close, List.length_append, Checksum.length_ofChars]

theorem take_close (body : List Char) :
    (close body).take ((close body).length - 4) = body ++ checksumHeader := by
  rw [length_close, Nat.add_sub_cancel, close, List.take_left]

theorem drop_close (body : List Char) :
    (close body).drop ((close body).length - 4) = Checksum.ofChars (body ++ checksumHeader) := by
  rw [length_close, Nat.add_sub_cancel, close, List.drop_left]

theorem all_isAsciiChar_close {body : List Char} (h : body.all isAsciiChar) :
    (close body).all isAsciiChar := by
  have hh : checksumHeader.all isAsciiChar := by decide
  rw [close, List.all_append, List.all_append, h, hh, Checksum.all_isAsciiChar_ofChars]
  rfl

theorem verify_close {body : List Char} (h : body.all isAsciiChar) :
    verify (.ofList (close body)) := by
  have hl : 8 ≤ (close body).length := by simp [length_close, checksumHeader]
  unfold verify isAscii
  simp only [String.toList_ofList, take_close, drop_close, all_isAsciiChar_close h]
  simp [hl]

/-- Only closed texts verify. -/
theorem eq_close_of_verify {p : String} (h : verify p) :
    ∃ body : List Char, body.all isAsciiChar ∧ p.toList = close body := by
  simp only [verify, Bool.and_eq_true, decide_eq_true_eq] at h
  obtain ⟨⟨⟨hascii, -⟩, hheader⟩, hsum⟩ := h
  obtain ⟨body, hbody⟩ := List.isSuffixOf_iff_suffix.mp hheader
  have hclose : p.toList = close body := by
    rw [close, hbody, hsum, List.take_append_drop]
  refine ⟨body, ?_, hclose⟩
  rw [isAscii, hclose, close, List.all_append, List.all_append, Bool.and_eq_true,
    Bool.and_eq_true] at hascii
  exact hascii.1.1

/-! ## Reading a payload -/

/-- What is read from the fields of a request. -/
theorem yields_fields {r : Request} {rs : List Record}
    (h : List.Forall₂ Field.Yields r.fields rs) (checksum : String) :
    ∃ account extra, rs ++ [("63", checksum)] = r.records account extra checksum ∧
      decodeFields account = .ok [("00", scheme), ("01", r.pixKey)] ∧
      decodeFields extra = .ok [("05", r.txid)] := by
  rw [fields_eq] at h
  obtain ⟨rs, rfl, h26⟩ := forall₂_textFields_append h
  obtain ⟨account, rs, rfl, haccount, hmiddle⟩ := forall₂_group_cons h26
  obtain ⟨rs, rfl, h62⟩ := forall₂_textFields_append hmiddle
  obtain ⟨extra, rs, rfl, hextra, hnil⟩ := forall₂_group_cons h62
  obtain rfl := List.forall₂_nil_left_iff.mp hnil
  refine ⟨account, extra, ?_, decodeFields_of_group isTag_account haccount,
    decodeFields_of_group isTag_extra hextra⟩
  simp [records, middle, shortened, maxNameLength, maxCityLength]

theorem closed_of_encode {r : Request} {p : String} (h : r.encode.result = .ok p) :
    ∃ body, writeAll r.fields = .ok body ∧ p = .ofList (close body) := by
  rw [encode_result] at h
  obtain ⟨body, hw, hp⟩ := map_eq_ok.mp h
  exact ⟨body, hw, hp.symm⟩

/-- A payload is ASCII and its checksum is right. -/
theorem verify_of_encode {r : Request} {p : String} (h : r.encode.result = .ok p) :
    isAscii p ∧ verify p := by
  obtain ⟨body, hw, rfl⟩ := closed_of_encode h
  obtain ⟨_, _, _, hascii⟩ := records_of_writeAll (allTagged_fields r) hw
  refine ⟨?_, verify_close hascii⟩
  rw [isAscii, String.toList_ofList]
  exact all_isAsciiChar_close hascii

/-- A payload reads back as the records of its request. -/
theorem decodeFields_of_encode {r : Request} {p : String} (h : r.encode.result = .ok p) :
    ∃ account extra checksum, decodeFields p = .ok (r.records account extra checksum) ∧
      decodeFields account = .ok [("00", scheme), ("01", r.pixKey)] ∧
      decodeFields extra = .ok [("05", r.txid)] ∧
      checksum.toList = Checksum.ofChars (p.toList.take (p.toList.length - 4)) := by
  have hascii := (verify_of_encode h).1
  obtain ⟨body, hw, rfl⟩ := closed_of_encode h
  obtain ⟨rs, hys, rfl, -⟩ := records_of_writeAll (allTagged_fields r) hw
  let checksum := String.ofList (Checksum.ofChars (rs.flatMap writeRecord ++ checksumHeader))
  obtain ⟨account, extra, hrs, haccount, hextra⟩ := yields_fields hys checksum
  refine ⟨account, extra, checksum, ?_, haccount, hextra, ?_⟩
  · rw [decodeFields, if_pos hascii, String.toList_ofList, readRecords_close (fits_of_yields hys),
      hrs]
    rfl
  · rw [String.toList_ofList, String.toList_ofList, take_close]

/-- Requests with one payload ask for the same payment. -/
theorem samePayment_of_encode {r s : Request} {p : String} (hr : r.encode.result = .ok p)
    (hs : s.encode.result = .ok p) : r.SamePayment s := by
  obtain ⟨account, extra, checksum, hp, haccount, hextra, -⟩ := decodeFields_of_encode hr
  obtain ⟨account', extra', checksum', hp', haccount', hextra', -⟩ := decodeFields_of_encode hs
  rw [hp] at hp'
  obtain ⟨rfl, rfl, hasked, hname, hcity⟩ := of_records_eq (Except.ok.inj hp')
  rw [haccount] at haccount'
  rw [hextra] at hextra'
  have hkey : r.pixKey = s.pixKey := by simpa using haccount'
  have htxid : r.txid = s.txid := by simpa using hextra'
  exact ⟨hkey, htxid, hasked, hname, hcity⟩

/-- What a payload says about its request. -/
structure ReadsBack (r : Request) (p : String) : Prop where
  ascii : isAscii p
  verified : verify p
  /-- Its records are those of the request, closed by the checksum of all before its digits; the
  two groups read back as well. -/
  records : ∃ account extra checksum, decodeFields p = .ok (r.records account extra checksum) ∧
    decodeFields account = .ok [("00", "br.gov.bcb.pix"), ("01", r.pixKey)] ∧
    decodeFields extra = .ok [("05", r.txid)] ∧
    Checksum.IsUpperHex
      (Checksum.ofBytes (utf8Bytes (p.toList.take (p.toList.length - 4)))) checksum.toList
  /-- The requests with this payload are those for the same payment. -/
  same : ∀ s : Request, s.encode.result = .ok p ↔ r.SamePayment s

/-- **Payloads read back.** Whatever texts a request holds, its payload verifies, and reading it
gives the request back up to what folding and cutting drop. -/
theorem encode_reads_back {r : Request} {p : String} (h : r.encode.result = .ok p) :
    r.ReadsBack p := by
  obtain ⟨hascii, hverify⟩ := verify_of_encode h
  obtain ⟨account, extra, checksum, hp, haccount, hextra, hchecksum⟩ := decodeFields_of_encode h
  refine ⟨hascii, hverify, ⟨account, extra, checksum, hp, haccount, hextra, ?_⟩, fun s => ?_⟩
  · rw [hchecksum]
    exact Checksum.isUpperHex_text _
  · constructor
    · exact samePayment_of_encode h
    · intro hsame
      rw [encode_result, ← hsame.fields, ← encode_result]
      exact h

/-- A key and a transaction that look like records, and a name that looks like the checksum's. -/
def lookalike : Request := ⟨"63040002016304", "Ana 6304", "Rio", some ⟨295000⟩, "00026304"⟩

set_option maxRecDepth 4000 in
theorem encode_reads_back_lookalike :
    ∃ p, lookalike.encode.result = .ok p ∧ lookalike.ReadsBack p := by
  have h : lookalike.encode.result = .ok ("00020126360014br.gov.bcb.pix011463040002016304" ++
      "52040000530398654072950.005802BR5908Ana 63046003Rio621205080002630463046E4C") := by
    decide +kernel
  exact ⟨_, h, encode_reads_back h⟩

end Request

end RentBilling.Pix
