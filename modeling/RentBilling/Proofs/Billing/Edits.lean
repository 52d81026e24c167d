import RentBilling.Proofs.Billing.Assembly
import RentBilling.Proofs.Outcome

/-!
What holds of a bill in every state.

A bill is made by assembling or by restoring (`Bill.Created`) and then only changed by edits. Each
of these works the total and the numbers out from the rows it installs, or touches neither; a
refused edit keeps the bill. So the total is the exact sum of the rows and every row stands at its
number (`Bill.Consistent`), whatever was edited and in whatever order.
-/

namespace RentBilling.Bill

/-- A bill as it is made for a month, before any edit. -/
inductive Created (month : ReferenceMonth) : Bill → Prop where
  | assembled {template : Template} {overrides : Overrides} {extras : List ExtraCharge}
      {dueDate : Option Date} {notes : String} {b : Bill}
      (h : (assemble template overrides extras month dueDate notes).result = .ok b) :
      Created month b
  | restored {drafts : List Draft} {notes : String} {dueDate paidOn : Option Date} {b : Bill}
      (h : restore month drafts notes dueDate paidOn = .ok b) : Created month b

/-- The total is the sum of the rows, which stand at their numbers. -/
structure Consistent (b : Bill) : Prop where
  total : b.total.toNat = rowSum b.rows
  numbered : ∀ i (h : i < b.rows.length), b.rows[i].sortOrder.toNat = i

theorem Consistent.rowSum_lt {b : Bill} (h : b.Consistent) : rowSum b.rows < 2 ^ 64 := by
  rw [← h.total]
  exact b.total.toNat_lt_bound

/-- Rows that were placed make any bill consistent. -/
theorem consistent_of_placeRows {b : Bill} {drafts : List Draft}
    (h : placeRows drafts = .ok (b.rows, b.total)) : b.Consistent := by
  obtain ⟨hrows, htotal, hl⟩ := of_placeRows_ok h
  refine ⟨by rw [htotal, hrows, rowSum_number], ?_⟩
  rw [hrows]
  exact sortOrder_number hl

/-! ## Making a bill -/

theorem placeRows_of_ofDrafts {month : ReferenceMonth} {drafts : List Draft} {notes : String}
    {dueDate : Option Date} {b : Bill} (h : ofDrafts month drafts notes dueDate = .ok b) :
    placeRows drafts = .ok (b.rows, b.total) ∧ b.month = month := by
  obtain ⟨⟨rows, total⟩, hp, rfl⟩ := map_eq_ok.mp h
  exact ⟨hp, rfl⟩

theorem Created.consistent {month : ReferenceMonth} {b : Bill} (h : Created month b) :
    b.Consistent ∧ b.month = month := by
  cases h with
  | @assembled template overrides extras dueDate notes _ h =>
    rw [assemble_result] at h
    obtain ⟨drafts, -, hmade⟩ := bind_eq_ok.mp h
    obtain ⟨hp, hm⟩ := placeRows_of_ofDrafts hmade
    exact ⟨consistent_of_placeRows hp, hm⟩
  | @restored drafts notes dueDate paidOn _ h =>
    obtain ⟨made, hmade, rfl⟩ := map_eq_ok.mp h
    obtain ⟨hp, hm⟩ := placeRows_of_ofDrafts hmade
    exact ⟨consistent_of_placeRows hp, hm⟩

/-! ## Editing it -/

/-- One edit, refused or not, keeps a bill consistent. -/
theorem Consistent.edit {b : Bill} (h : b.Consistent) (e : Edit) : (b.edit e).1.Consistent := by
  cases e with
  | replaceRows drafts =>
    rw [Bill.edit]
    cases hp : placeRows drafts with
    | error e => exact h
    | ok placed => exact consistent_of_placeRows hp
  | setNotes notes => exact ⟨h.total, h.numbered⟩
  | setDueDate date => exact ⟨h.total, h.numbered⟩
  | markPaid date => exact ⟨h.total, h.numbered⟩
  | markUnpaid => exact ⟨h.total, h.numbered⟩

/-- No edit moves a bill to another month. -/
theorem month_edit (b : Bill) (e : Edit) : (b.edit e).1.month = b.month := by
  cases e with
  | replaceRows drafts =>
    rw [Bill.edit]
    cases placeRows drafts <;> rfl
  | setNotes notes => rfl
  | setDueDate date => rfl
  | markPaid date => rfl
  | markUnpaid => rfl

theorem Consistent.editAll {b : Bill} (h : b.Consistent) (edits : List Edit) :
    (b.editAll edits).Consistent := by
  induction edits generalizing b with
  | nil => exact h
  | cons e edits ih => exact ih (h.edit e)

theorem month_editAll (b : Bill) (edits : List Edit) : (b.editAll edits).month = b.month := by
  induction edits generalizing b with
  | nil => rfl
  | cons e edits ih => exact (ih _).trans (month_edit b e)

/-- **Every state of a bill.** However a bill was made and edited, its total is the unbounded sum of
its rows, which is below `2 ^ 64`; its rows stand at their numbers; and its month is the one it was
made for. -/
theorem editAll_of_created {month : ReferenceMonth} {b : Bill} (h : Created month b)
    (edits : List Edit) :
    (b.editAll edits).total.toNat = rowSum (b.editAll edits).rows ∧
      rowSum (b.editAll edits).rows < 2 ^ 64 ∧
      (∀ i (hi : i < (b.editAll edits).rows.length),
        (b.editAll edits).rows[i].sortOrder.toNat = i) ∧
      (b.editAll edits).month = month := by
  obtain ⟨hb, hmonth⟩ := h.consistent
  have hc : (b.editAll edits).Consistent := hb.editAll edits
  exact ⟨hc.total, hc.rowSum_lt, hc.numbered, by rw [month_editAll, hmonth]⟩

/-! ## A bill that was edited -/

def sampleMonth : ReferenceMonth := ⟨2025, 3, by decide, by decide, by decide⟩

/-- A fixed rent and water by meter. -/
def sampleTemplate : Template :=
  ⟨"Apto 101",
    [⟨none, "Aluguel", ⟨285000⟩, .fixed, 0⟩, ⟨some ⟨7#128⟩, "Agua", ⟨0⟩, .varying, 1⟩],
    some "6304@pix", by decide⟩

def sample : Bill :=
  ⟨sampleMonth, [⟨"Aluguel", ⟨285000⟩, .fixed, 0⟩, ⟨"Agua", ⟨8000⟩, .varying, 1⟩],
    ⟨293000⟩, "", none, none⟩

/-- New rows with too large a total, which are refused, and then rows that fit. -/
def sampleEdits : List Edit :=
  [.setNotes "x", .replaceRows [⟨"a", ⟨18446744073709551615⟩, .extra⟩, ⟨"b", ⟨1⟩, .extra⟩],
    .replaceRows [⟨"Aluguel", ⟨285000⟩, .fixed⟩, ⟨"Multa", ⟨1507⟩, .extra⟩], .markUnpaid]

theorem created_sample : Created sampleMonth sample :=
  .assembled (by decide +kernel :
    (assemble sampleTemplate (.ofPairs [(⟨7#128⟩, ⟨8000⟩)]) [] sampleMonth none "").result =
      .ok sample)

theorem editAll_of_created_sample :
    Created sampleMonth sample ∧
      (sample.editAll sampleEdits).total.toNat = rowSum (sample.editAll sampleEdits).rows ∧
      rowSum (sample.editAll sampleEdits).rows < 2 ^ 64 ∧
      (∀ i (hi : i < (sample.editAll sampleEdits).rows.length),
        (sample.editAll sampleEdits).rows[i].sortOrder.toNat = i) ∧
      (sample.editAll sampleEdits).month = sampleMonth :=
  ⟨created_sample, editAll_of_created created_sample sampleEdits⟩

end RentBilling.Bill
