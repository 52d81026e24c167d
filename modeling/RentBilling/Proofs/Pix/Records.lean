import Mathlib.Data.List.Forall2
import RentBilling.Pix.Field
import RentBilling.Pix.Record
import RentBilling.Proofs.Numeral.Decimal
import RentBilling.Proofs.Outcome

/-!
Records and the fields they come from.

A record that fits (a tag of two digits, a value of at most 99 characters) is read back from its
written form, whatever stands behind it (`readRecords_writeRecord_append`). Fields whose tags have
two digits on every level are written as fitting records, one for each of them in order
(`records_of_writeAll`), so that reading gives each field's tag and its written value
(`decodeFields_of_writeAll`). What a value looks like plays no part: lengths alone say where it
ends.
-/

namespace RentBilling.Pix

open Numeral Text

/-! ## Records that fit -/

/-- Two decimal digits. -/
def IsTag (tag : String) : Prop := tag.toList.length = 2 ∧ tag.toList.all Char.isDigit

instance (tag : String) : Decidable (IsTag tag) := inferInstanceAs (Decidable (_ ∧ _))

/-- The record can be written: its length needs no more than two digits. -/
structure Record.Fits (r : Record) : Prop where
  isTag : IsTag r.1
  short : r.2.toList.length ≤ maxValue

/-- Tag, length in two digits, value. -/
def writeRecord (r : Record) : List Char :=
  r.1.toList ++ padded 2 r.2.toList.length ++ r.2.toList

theorem padded_two {n : Nat} (h : n ≤ maxValue) : ∃ c d : Char, padded 2 n = [c, d] := by
  obtain ⟨c, d, hcd, -⟩ := exists_padded_two (Nat.lt_succ_of_le h)
  exact ⟨c, d, hcd⟩

/-- The length of a record is read back from its two digits. -/
theorem readLength?_padded {n : Nat} {c d : Char} (h : padded 2 n = [c, d]) :
    readLength? c d = some n := by
  have hc : c.isDigit := isDigit_of_mem_padded (by rw [h]; simp)
  have hd : d.isDigit := isDigit_of_mem_padded (by rw [h]; simp)
  rw [readLength?, if_pos hd, if_pos hc, ← h, ofDigits_padded]

theorem IsTag.exists_digits {tag : String} (h : IsTag tag) :
    ∃ a b : Char, a.isDigit ∧ b.isDigit ∧ tag = .ofList [a, b] := by
  obtain ⟨a, b, hab⟩ := List.length_eq_two.mp h.1
  have hdig : ∀ x ∈ tag.toList, x.isDigit := List.all_eq_true.mp h.2
  exact ⟨a, b, hdig a (by rw [hab]; simp), hdig b (by rw [hab]; simp),
    by rw [← hab, String.ofList_toList]⟩

/-- A record in front is read by itself, whatever stands behind its value. -/
theorem readRecords_record_append {r : Record} (ht : IsTag r.1) {c d : Char}
    (h : readLength? c d = some r.2.toList.length) (rest : List Char) :
    readRecords (r.1.toList ++ [c, d] ++ r.2.toList ++ rest) =
      (readRecords rest).map (r :: ·) := by
  obtain ⟨tag, value⟩ := r
  obtain ⟨a, b, ha, hb, rfl⟩ := ht.exists_digits
  have hlong : ¬ (value.toList ++ rest).length < value.toList.length := by simp
  simp only [String.toList_ofList, List.cons_append, List.nil_append]
  rw [readRecords]
  simp only [ha, hb, and_self, if_true, h, if_neg hlong, List.take_left, List.drop_left,
    String.ofList_toList]
  cases readRecords rest <;> rfl

theorem readRecords_writeRecord_append {r : Record} (h : r.Fits) (rest : List Char) :
    readRecords (writeRecord r ++ rest) = (readRecords rest).map (r :: ·) := by
  obtain ⟨c, d, hcd⟩ := padded_two h.short
  rw [writeRecord, hcd]
  exact readRecords_record_append h.isTag (readLength?_padded hcd) rest

theorem readRecords_flatMap {rs : List Record} (h : ∀ r ∈ rs, r.Fits) :
    readRecords (rs.flatMap writeRecord) = .ok rs := by
  induction rs with
  | nil => rw [List.flatMap_nil, readRecords]
  | cons r rs ih =>
    rw [List.flatMap_cons, readRecords_writeRecord_append (h r (by simp)),
      ih (fun s hs => h s (by simp [hs]))]
    rfl

/-! ## Fields as records -/

def Field.tag : Field → String
  | .text tag _ => tag
  | .group tag _ => tag

/-- What stands behind tag and length: the text, or the fields of a group as they are written. -/
def Field.value : Field → Except Error (List Char)
  | .text tag value => if isAscii value then .ok value.toList else .error (.nonAscii tag)
  | .group _ fields => writeAll fields

mutual

/-- Every tag has two digits, on all levels. -/
def Field.Tagged : Field → Prop
  | .text tag _ => IsTag tag
  | .group tag fields => IsTag tag ∧ AllTagged fields

def AllTagged : List Field → Prop
  | [] => True
  | field :: fields => field.Tagged ∧ AllTagged fields

end

/-- The record that a field is written as. -/
structure Field.Yields (field : Field) (r : Record) : Prop where
  tag : r.1 = field.tag
  value : field.value = .ok r.2.toList
  fits : r.Fits

theorem Field.Tagged.isTag {field : Field} (h : field.Tagged) : IsTag field.tag := by
  cases field with
  | text => exact h
  | group => exact h.1

theorem Field.write_eq (field : Field) : field.write = field.value.bind (record field.tag) := by
  cases field with
  | text tag value =>
    rw [write, Field.value]
    split <;> rfl
  | group tag fields =>
    rw [write]
    rfl

/-- A short value is written with its length in characters if it is ASCII, and then the record is
ASCII too. -/
theorem record_eq_ok {tag : String} {value cs : List Char} (ht : IsTag tag)
    (ha : value.all isAsciiChar) (h : record tag value = .ok cs) :
    (Record.Fits (tag, .ofList value)) ∧ cs = writeRecord (tag, .ofList value) ∧
      cs.all isAsciiChar := by
  unfold record at h
  rw [byteLength_eq_length ha] at h
  split at h
  · rename_i hshort
    obtain rfl := Except.ok.inj h
    refine ⟨⟨ht, by simpa using hshort⟩, by simp [writeRecord], ?_⟩
    rw [List.all_append, List.all_append, ha, Bool.and_true, Bool.and_eq_true,
      List.all_eq_true, List.all_eq_true]
    exact ⟨fun c hc => isAsciiChar_of_isDigit (List.all_eq_true.mp ht.2 c hc),
      fun c hc => isAsciiChar_of_isDigit (isDigit_of_mem_padded hc)⟩
  · contradiction

theorem Field.yields_of_value {field : Field} {value cs : List Char} (ht : field.Tagged)
    (hv : field.value = .ok value) (ha : value.all isAsciiChar) (h : field.write = .ok cs) :
    ∃ r, field.Yields r ∧ cs = writeRecord r ∧ cs.all isAsciiChar := by
  rw [write_eq, hv] at h
  obtain ⟨hfits, hcs, hascii⟩ := record_eq_ok ht.isTag ha h
  exact ⟨(field.tag, .ofList value), ⟨rfl, by simpa using hv, hfits⟩, hcs, hascii⟩

mutual

theorem Field.record_of_write {field : Field} {cs : List Char} (ht : field.Tagged)
    (h : field.write = .ok cs) :
    ∃ r, field.Yields r ∧ cs = writeRecord r ∧ cs.all isAsciiChar := by
  match field with
  | .text tag value =>
    by_cases ha : isAscii value
    · exact Field.yields_of_value ht (by rw [Field.value, if_pos ha]) ha h
    · rw [Field.write, if_neg ha] at h
      contradiction
  | .group tag fields =>
    have hw : (writeAll fields).bind (record tag) = .ok cs := by rwa [Field.write] at h
    obtain ⟨value, hv, -⟩ := bind_eq_ok.mp hw
    -- A length counts bytes. Inner fields are written in ASCII, so here it counts characters too.
    obtain ⟨_, _, _, ha⟩ := records_of_writeAll ht.2 hv
    exact Field.yields_of_value ht hv ha h

/-- Fields are written as records that fit, one for each. -/
theorem records_of_writeAll {fields : List Field} {cs : List Char} (ht : AllTagged fields)
    (h : writeAll fields = .ok cs) :
    ∃ rs, List.Forall₂ Field.Yields fields rs ∧ cs = rs.flatMap writeRecord ∧
      cs.all isAsciiChar := by
  match fields with
  | [] =>
    rw [writeAll] at h
    obtain rfl := Except.ok.inj h
    exact ⟨[], .nil, rfl, rfl⟩
  | field :: fields =>
    rw [writeAll] at h
    obtain ⟨first, hf, h⟩ := bind_eq_ok.mp h
    obtain ⟨rest, hr, h⟩ := bind_eq_ok.mp h
    obtain rfl := Except.ok.inj h
    obtain ⟨r, hy, rfl, hra⟩ := Field.record_of_write ht.1 hf
    obtain ⟨rs, hys, rfl, hrsa⟩ := records_of_writeAll ht.2 hr
    exact ⟨r :: rs, .cons hy hys, rfl, by rw [List.all_append, hra, hrsa]; rfl⟩

end

theorem fits_of_yields {fields : List Field} {rs : List Record}
    (h : List.Forall₂ Field.Yields fields rs) : ∀ r ∈ rs, r.Fits := by
  induction h with
  | nil => simp
  | cons hy _ ih =>
    intro r hr
    rcases List.mem_cons.mp hr with rfl | hr
    · exact hy.fits
    · exact ih r hr

/-- Reading what was written gives one record for each field. -/
theorem decodeFields_of_writeAll {fields : List Field} {s : String} (ht : AllTagged fields)
    (h : writeAll fields = .ok s.toList) :
    ∃ rs, List.Forall₂ Field.Yields fields rs ∧ decodeFields s = .ok rs := by
  obtain ⟨rs, hys, hs, ha⟩ := records_of_writeAll ht h
  refine ⟨rs, hys, ?_⟩
  rw [decodeFields, isAscii, if_pos ha, hs, readRecords_flatMap (fits_of_yields hys)]
  rfl

/-! ## Fields of text -/

/-- A field of text for each of the records. -/
def textFields (rs : List Record) : List Field := rs.map fun r => .text r.1 r.2

theorem allTagged_append {as bs : List Field} (ha : AllTagged as) (hb : AllTagged bs) :
    AllTagged (as ++ bs) := by
  induction as with
  | nil => exact hb
  | cons a as ih => exact ⟨ha.1, ih ha.2⟩

theorem allTagged_textFields {rs : List Record} (h : ∀ tag ∈ rs.map Prod.fst, IsTag tag) :
    AllTagged (textFields rs) := by
  induction rs with
  | nil => exact trivial
  | cons r rs ih =>
    rw [List.map_cons, List.forall_mem_cons] at h
    exact ⟨h.1, ih h.2⟩

theorem Field.Yields.eq_of_text {tag value : String} {r : Record}
    (h : (Field.text tag value).Yields r) : r = (tag, value) := by
  have hv := h.value
  rw [Field.value] at hv
  split at hv
  · exact Prod.ext h.tag (String.toList_inj.mp (Except.ok.inj hv)).symm
  · contradiction

/-- Fields of text are read back as the records that they were made for. -/
theorem forall₂_textFields_append {texts rs : List Record} {fields : List Field}
    (h : List.Forall₂ Field.Yields (textFields texts ++ fields) rs) :
    ∃ rest, rs = texts ++ rest ∧ List.Forall₂ Field.Yields fields rest := by
  induction texts generalizing rs with
  | nil => exact ⟨rs, rfl, h⟩
  | cons t texts ih =>
    obtain ⟨r, rs, hy, hys, rfl⟩ := List.forall₂_cons_left_iff.mp h
    obtain ⟨rest, rfl, hrest⟩ := ih hys
    exact ⟨rest, by rw [hy.eq_of_text]; rfl, hrest⟩

theorem forall₂_group_cons {tag : String} {inner fields : List Field} {rs : List Record}
    (h : List.Forall₂ Field.Yields (.group tag inner :: fields) rs) :
    ∃ value rest, rs = (tag, value) :: rest ∧ (Field.group tag inner).Yields (tag, value) ∧
      List.Forall₂ Field.Yields fields rest := by
  obtain ⟨⟨t, value⟩, rest, hy, hys, rfl⟩ := List.forall₂_cons_left_iff.mp h
  obtain rfl : t = tag := hy.tag
  exact ⟨value, rest, rfl, hy, hys⟩

/-- The value of a group of texts is read back as these texts. -/
theorem decodeFields_of_group {tag value : String} {texts : List Record}
    (ht : ∀ t ∈ texts.map Prod.fst, IsTag t)
    (h : (Field.group tag (textFields texts)).Yields (tag, value)) :
    decodeFields value = .ok texts := by
  obtain ⟨rs, hys, hd⟩ := decodeFields_of_writeAll (allTagged_textFields ht) h.value
  rw [← List.append_nil (textFields texts)] at hys
  obtain ⟨rest, rfl, hrest⟩ := forall₂_textFields_append hys
  obtain rfl := List.forall₂_nil_left_iff.mp hrest
  rw [hd, List.append_nil]

end RentBilling.Pix
