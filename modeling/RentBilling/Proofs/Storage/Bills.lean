import RentBilling.Proofs.Billing.Replay
import RentBilling.Proofs.Storage.Values

/-!
Stored bills are restored.

A stored bill has its total and the places of its rows as well, but it is restored from the rest:
the month, the rows without their places, the notes and the dates (`PartsStored`). Total and places
are worked out anew, and come out as they were, because a bill is consistent however it was made and
edited (`decode_encode_editAll`).
-/

namespace RentBilling.Bill

open Storage

/-! ## Rows -/

/-- A stored row is read without its place, which is one member more than such a row has. -/
theorem ofJson_row (row : LineItem) : ofJson (toJson row) = .ok row.toDraft := by
  have hnodup : ((StoredRecord.fields row).map Prod.fst).Nodup :=
    StoredRecord.map_fst_fields row ▸ StoredRecord.names_nodup
  rw [StoredRecord.toJson_eq]
  refine StoredRecord.ofJson_of_subset hnodup ?_
  exact List.subset_append_left (StoredRecord.fields row.toDraft)
    [("sort_order", toJson row.sortOrder)]

theorem mapM_ofJson_rows (rows : List LineItem) :
    (rows.map toJson).mapM ofJson = .ok (rows.map LineItem.toDraft) := by
  rw [mapM_eq_ok, List.forall₂_map_left_iff, List.forall₂_map_right_iff, List.forall₂_same]
  exact fun row _ => ofJson_row row

/-! ## Parts -/

/-- All members of a stored bill. -/
def fields (b : Bill) : List (String × Json) :=
  [("reference_month", toJson b.month), ("line_items", .array (b.rows.map toJson)),
    ("total_centavos", toJson b.total), ("notes", toJson b.notes), ("due_date", toJson b.dueDate),
    ("paid_on", toJson b.paidOn)]

/-- The parts from which a bill is restored, each with the member that stores it. -/
structure PartsStored (members : List (Option String × Json)) (b : Bill) : Prop where
  month : ∃ j, member? members "reference_month" = some (some j) ∧ ofJson j = .ok b.month
  rows : ∃ js, member? members "line_items" = some (some (.array js)) ∧
    js.mapM ofJson = .ok b.drafts
  notes : ∃ j, member? members "notes" = some (some j) ∧ ofJson j = .ok b.notes
  dueDate : ∃ j, member? members "due_date" = some (some j) ∧
    Storage.optional (some j) = .ok b.dueDate
  paidOn : ∃ j, member? members "paid_on" = some (some j) ∧
    Storage.optional (some j) = .ok b.paidOn

theorem partsStored (b : Bill) : PartsStored (b.fields.map fun f => (some f.1, f.2)) b := by
  have hnodup : (b.fields.map Prod.fst).Nodup := by
    have hnames : b.fields.map Prod.fst =
        ["reference_month", "line_items", "total_centavos", "notes", "due_date", "paid_on"] := rfl
    rw [hnames]
    decide
  have hmember : ∀ f ∈ b.fields,
      member? (b.fields.map fun f => (some f.1, f.2)) f.1 = some (some f.2) := fun f hf =>
    member?_of_filter (filter_record hnodup hf)
  simp only [fields, List.forall_mem_cons] at hmember
  obtain ⟨hmonth, hrows, -, hnotes, hdueDate, hpaidOn, -⟩ := hmember
  exact
    { month := ⟨_, hmonth, Stored.ofJson_toJson b.month⟩
      rows := ⟨_, hrows, mapM_ofJson_rows b.rows⟩
      notes := ⟨_, hnotes, Stored.ofJson_toJson b.notes⟩
      dueDate := ⟨_, hdueDate, optional_toJson b.dueDate⟩
      paidOn := ⟨_, hpaidOn, optional_toJson b.paidOn⟩ }

/-- A bill is read by restoring it from its parts. -/
theorem ofJson_of_partsStored {members : List (Option String × Json)} {b : Bill}
    (hnamed : ∀ m ∈ members, m.1.isSome) (h : PartsStored members b) :
    ofJson (.object members) =
      (restore b.month b.drafts b.notes b.dueDate b.paidOn).mapError ReadFailure.refused := by
  obtain ⟨month, hmonth, hreadMonth⟩ := h.month
  obtain ⟨rows, hrows, hreadRows⟩ := h.rows
  obtain ⟨notes, hnotes, hreadNotes⟩ := h.notes
  obtain ⟨dueDate, hdueDate, hreadDueDate⟩ := h.dueDate
  obtain ⟨paidOn, hpaidOn, hreadPaidOn⟩ := h.paidOn
  have hslots : slots? ["reference_month", "line_items", "notes", "due_date", "paid_on"]
      (.object members) =
        some [some month, some (.array rows), some notes, some dueDate, some paidOn] := by
    rw [slots?, if_pos (List.all_eq_true.mpr hnamed)]
    simp only [List.mapM_cons, List.mapM_nil, hmonth, hrows, hnotes, hdueDate, hpaidOn]
    rfl
  have hmonth : required (some month) = .ok b.month := hreadMonth
  have hrows : ofStoredRows (some (.array rows)) = .ok b.drafts := hreadRows
  have hnotes : required (some notes) = .ok b.notes := hreadNotes
  simp only [ofJson, hslots]
  rw [hmonth, hrows, hnotes, hreadDueDate, hreadPaidOn]
  rfl

/-- **Stored bills are restored.** However a bill was made and edited, its stored form has the parts
that it is restored from; restoring it from them gives the bill itself, total and places included,
and so the same stored form again. -/
theorem decode_encode_editAll {month : ReferenceMonth} {b : Bill} (h : Created month b)
    (edits : List Edit) :
    (∃ members, Json.read (encode (b.editAll edits)) = some (.object members, false) ∧
      PartsStored members (b.editAll edits)) ∧
    restore (b.editAll edits).month (b.editAll edits).drafts (b.editAll edits).notes
      (b.editAll edits).dueDate (b.editAll edits).paidOn = .ok (b.editAll edits) ∧
    decode (encode (b.editAll edits)) = .ok (b.editAll edits) ∧
    (decode (encode (b.editAll edits)) : Except ReadFailure Bill).map encode =
      .ok (encode (b.editAll edits)) := by
  obtain ⟨hb, -⟩ := h.consistent
  have hrestore := (hb.editAll edits).restore_eq
  generalize b.editAll edits = left at hrestore ⊢
  have hread : Json.read (encode left) =
      some (.object (left.fields.map fun f => (some f.1, f.2)), false) :=
    Json.read_render (toJson left)
  have hdecode : decode (encode left) = .ok left := by
    rw [decode_of_read hread,
      ofJson_of_partsStored (fun _ => isSome_of_mem_record) left.partsStored, hrestore]
    rfl
  exact ⟨⟨_, hread, left.partsStored⟩, hrestore, hdecode, by rw [hdecode]; rfl⟩

/-! ## A bill that was edited -/

/-- After the rows, notes with a quote and a line break, and dates with signed years. -/
def datedEdits : List Edit :=
  sampleEdits ++ [.setNotes "\"Água\"\n€", .setDueDate (some ⟨12345, 2, 28, by decide⟩),
    .markPaid ⟨-1, 12, 31, by decide⟩]

theorem decode_encode_editAll_sample :
    Created sampleMonth sample ∧
      (∃ members, Json.read (encode (sample.editAll datedEdits)) = some (.object members, false) ∧
        PartsStored members (sample.editAll datedEdits)) ∧
      restore (sample.editAll datedEdits).month (sample.editAll datedEdits).drafts
        (sample.editAll datedEdits).notes (sample.editAll datedEdits).dueDate
        (sample.editAll datedEdits).paidOn = .ok (sample.editAll datedEdits) ∧
      decode (encode (sample.editAll datedEdits)) = .ok (sample.editAll datedEdits) ∧
      (decode (encode (sample.editAll datedEdits)) : Except ReadFailure Bill).map encode =
        .ok (encode (sample.editAll datedEdits)) :=
  ⟨created_sample, decode_encode_editAll created_sample datedEdits⟩

end RentBilling.Bill
