import RentBilling.Proofs.Pix.Records

/-!
Groups within groups.

A written field is a record whose value is its text or, for a group, the inner fields as they are
written. Reading does not look into values; reading the value of a group once more gives the records
of its inner fields. So a reader who goes down along the groups finds every field of the tree, in
order and on its level (`Field.ReadsBack`), whatever its texts look like
(`decodeFields_encodeFields`).
-/

namespace RentBilling.Pix

/-- The record says what the field says, and so does every record within it. -/
inductive Field.ReadsBack : Field → Record → Prop where
  | text (tag value : String) : ReadsBack (.text tag value) (tag, value)
  /-- The value holds the inner fields as they are written, and is read as one record for each. -/
  | group (tag : String) {value : String} {fields : List Field} {inner : List Record}
      (written : encodeFields fields = .ok value) (read : decodeFields value = .ok inner)
      (below : List.Forall₂ ReadsBack fields inner) : ReadsBack (.group tag fields) (tag, value)

theorem encodeFields_eq_ok {fields : List Field} {s : String} :
    encodeFields fields = .ok s ↔ writeAll fields = .ok s.toList := by
  rw [encodeFields, map_eq_ok]
  constructor
  · rintro ⟨cs, hw, rfl⟩
    rw [hw, String.toList_ofList]
  · intro hw
    exact ⟨s.toList, hw, String.ofList_toList⟩

mutual

theorem Field.readsBack_of_yields {field : Field} {r : Record} (ht : field.Tagged)
    (h : field.Yields r) : field.ReadsBack r := by
  match field with
  | .text tag value =>
    rw [h.eq_of_text]
    exact .text tag value
  | .group tag fields =>
    obtain ⟨_, value⟩ := r
    obtain rfl : _ = tag := h.tag
    have hw : writeAll fields = .ok value.toList := h.value
    obtain ⟨inner, hys, hd⟩ := decodeFields_of_writeAll ht.2 hw
    exact .group _ (encodeFields_eq_ok.mpr hw) hd (readsBack_of_forall₂ ht.2 hys)

theorem readsBack_of_forall₂ {fields : List Field} {rs : List Record} (ht : AllTagged fields)
    (h : List.Forall₂ Field.Yields fields rs) : List.Forall₂ Field.ReadsBack fields rs := by
  match fields with
  | [] =>
    obtain rfl := List.forall₂_nil_left_iff.mp h
    exact .nil
  | field :: fields =>
    obtain ⟨r, rs, hy, hys, rfl⟩ := List.forall₂_cons_left_iff.mp h
    exact .cons (Field.readsBack_of_yields ht.1 hy) (readsBack_of_forall₂ ht.2 hys)

end

/-- **Trees of fields read back.** Written fields are read as one record for each of them, with its
tag and its text or written inner fields, and these are read back likewise on every level. -/
theorem decodeFields_encodeFields {fields : List Field} {s : String} (ht : AllTagged fields)
    (h : encodeFields fields = .ok s) :
    ∃ rs, decodeFields s = .ok rs ∧ List.Forall₂ Field.ReadsBack fields rs := by
  obtain ⟨rs, hys, hd⟩ := decodeFields_of_writeAll ht (encodeFields_eq_ok.mp h)
  exact ⟨rs, hd, readsBack_of_forall₂ ht hys⟩

/-- Three levels, an empty group, an empty text, and a text that looks like two records. -/
def nestedSample : List Field :=
  [.group "26" [.text "00" "010399905000", .group "27" [.group "28" [], .text "05" "6304"]],
    .text "59" ""]

theorem decodeFields_encodeFields_nested :
    AllTagged nestedSample ∧
      encodeFields nestedSample = .ok "2632001201039990500027122800050463045900" ∧
      ∃ rs, decodeFields "2632001201039990500027122800050463045900" = .ok rs ∧
        List.Forall₂ Field.ReadsBack nestedSample rs := by
  have ht : AllTagged nestedSample := by
    simp only [nestedSample, AllTagged, Field.Tagged]
    decide
  have h : encodeFields nestedSample = .ok "2632001201039990500027122800050463045900" := by
    decide +kernel
  exact ⟨ht, h, decodeFields_encodeFields ht h⟩

end RentBilling.Pix
