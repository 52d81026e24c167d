import RentBilling.Proofs.Billing.Replacement
import RentBilling.Proofs.Billing.Replay

/-!
How payment of a bill stands.

On any day the status of a bill depends on its due date and its payment alone (`status_congr`), and
of each of these the last edit that set it decides (`MadeWith.dates_editAll`). Rows and notes play
no part, and a bill that is overdue stays so on all later days (`overdue_of_le`).
-/

namespace RentBilling

theorem Date.lt_of_lt_of_le {a b c : Date} (hab : a < b) (hbc : b ≤ c) : a < c := by
  have hab' : a.year < b.year ∨
      (a.year = b.year ∧ (a.month < b.month ∨ (a.month = b.month ∧ a.day < b.day))) := hab
  have hbc' : ¬ (c.year < b.year ∨
      (c.year = b.year ∧ (c.month < b.month ∨ (c.month = b.month ∧ c.day < b.day)))) := hbc
  show a.year < c.year ∨
    (a.year = c.year ∧ (a.month < c.month ∨ (a.month = c.month ∧ a.day < c.day)))
  omega

namespace Bill

/-! ## The status on a day -/

section

variable {b : Bill} {today : Date}

theorem isOverdue_iff :
    b.isOverdue today ↔ b.paidOn = none ∧ ∃ due, b.dueDate = some due ∧ due < today := by
  unfold isOverdue
  cases b.dueDate <;> simp

theorem status_eq_paid_iff : b.status today = .paid ↔ ∃ day, b.paidOn = some day := by
  rw [← Option.isSome_iff_exists, status]
  by_cases hpaid : b.paidOn.isSome
  · rw [if_pos hpaid]
    exact iff_of_true rfl hpaid
  · rw [if_neg hpaid]
    refine iff_of_false ?_ hpaid
    split <;> exact nofun

/-- Both ways of asking agree: a paid bill is not overdue. -/
theorem status_eq_overdue_iff : b.status today = .overdue ↔ b.isOverdue today := by
  rw [status]
  by_cases hpaid : b.paidOn.isSome
  · rw [if_pos hpaid]
    refine iff_of_false nofun fun hoverdue => ?_
    rw [(isOverdue_iff.mp hoverdue).1] at hpaid
    contradiction
  · rw [if_neg hpaid]
    by_cases hoverdue : b.isOverdue today
    · rw [if_pos hoverdue]
      exact iff_of_true rfl hoverdue
    · rw [if_neg hoverdue]
      exact iff_of_false nofun hoverdue

theorem status_eq_pending_iff :
    b.status today = .pending ↔
      b.paidOn = none ∧ ∀ due, b.dueDate = some due → today ≤ due := by
  have hothers : b.status today = .pending ↔
      b.status today ≠ .paid ∧ b.status today ≠ .overdue := by
    cases b.status today <;> decide
  rw [hothers, ne_eq, ne_eq, status_eq_paid_iff, status_eq_overdue_iff, isOverdue_iff,
    ← Option.isSome_iff_exists, Bool.not_eq_true, Option.isSome_eq_false_iff,
    Option.isNone_iff_eq_none]
  constructor
  · rintro ⟨hunpaid, hnot⟩
    exact ⟨hunpaid, fun due hdue hlt => hnot ⟨hunpaid, due, hdue, hlt⟩⟩
  · rintro ⟨hunpaid, hall⟩
    exact ⟨hunpaid, fun ⟨_, due, hdue, hlt⟩ => hall due hdue hlt⟩

theorem overdue_of_le {later : Date} (h : b.status today = .overdue) (hle : today ≤ later) :
    b.status later = .overdue := by
  rw [status_eq_overdue_iff, isOverdue_iff] at h ⊢
  obtain ⟨hunpaid, due, hdue, hlt⟩ := h
  exact ⟨hunpaid, due, hdue, Date.lt_of_lt_of_le hlt hle⟩

end

/-! ## Edits -/

theorem status_congr {b b' : Bill} (hdue : b.dueDate = b'.dueDate) (hpaid : b.paidOn = b'.paidOn)
    (today : Date) : b.status today = b'.status today := by
  rw [status, status, isOverdue, isOverdue, hdue, hpaid]

/-- An edit that sets neither leaves the status as it is, whether or not it is refused. -/
theorem status_edit_of_unset (b : Bill) {e : Edit} (hdue : e.dueDate? = none)
    (hpaid : e.paidOn? = none) (today : Date) : (b.edit e).1.status today = b.status today := by
  obtain ⟨-, -, hdueDate, hpaidOn⟩ := b.edit_parts e
  rw [hdue, Option.getD_none] at hdueDate
  rw [hpaid, Option.getD_none] at hpaidOn
  exact status_congr hdueDate hpaidOn today

/-- Taking a payment back leaves an unpaid bill as it was before. -/
theorem editAll_markPaid_markUnpaid {b : Bill} (h : b.paidOn = none) (day : Date) :
    b.editAll [.markPaid day, .markUnpaid] = b := by
  obtain ⟨month, rows, total, notes, dueDate, paidOn⟩ := b
  obtain rfl : paidOn = none := h
  rfl

/-- A bill as it is made for a month, with the due date and the payment that it is given. An
assembled bill is not paid. -/
inductive MadeWith (month : ReferenceMonth) (dueDate : Option Date) :
    Option Date → Bill → Prop where
  | assembled {template : Template} {overrides : Overrides} {extras : List ExtraCharge}
      {notes : String} {b : Bill}
      (h : (assemble template overrides extras month dueDate notes).result = .ok b) :
      MadeWith month dueDate none b
  | restored {drafts : List Draft} {notes : String} {paidOn : Option Date} {b : Bill}
      (h : restore month drafts notes dueDate paidOn = .ok b) : MadeWith month dueDate paidOn b

section

variable {month : ReferenceMonth} {dueDate paidOn : Option Date} {b : Bill}

theorem MadeWith.dates (h : MadeWith month dueDate paidOn b) :
    b.dueDate = dueDate ∧ b.paidOn = paidOn := by
  cases h with
  | assembled h =>
    rw [assemble_result] at h
    obtain ⟨drafts, -, hmade⟩ := bind_eq_ok.mp h
    obtain ⟨placed, -, rfl⟩ := map_eq_ok.mp hmade
    exact ⟨rfl, rfl⟩
  | restored h =>
    rw [restore_eq_map] at h
    obtain ⟨placed, -, rfl⟩ := map_eq_ok.mp h
    exact ⟨rfl, rfl⟩

/-- After any edits both are as they were set last, or else as the bill was made. -/
theorem MadeWith.dates_editAll (h : MadeWith month dueDate paidOn b) (edits : List Edit) :
    (b.editAll edits).dueDate = lastSet Edit.dueDate? dueDate edits ∧
      (b.editAll edits).paidOn = lastSet Edit.paidOn? paidOn edits := by
  obtain ⟨-, -, hdueDate, hpaidOn⟩ := b.editAll_parts edits
  rw [hdueDate, hpaidOn, h.dates.1, h.dates.2]
  exact ⟨rfl, rfl⟩

/-- **The status of a bill after any edits.** A bill is paid if the last payment that was set is a
day, the one it was made with included. Otherwise it is overdue on the days after the due date that
was set last, and stays so; on all other days, or without a due date, it is pending. New rows, also
refused ones, and new notes change none of this, nor does a payment that is taken back. -/
theorem status_editAll (h : MadeWith month dueDate paidOn b) (edits : List Edit) :
    let edited := b.editAll edits
    let payment := lastSet Edit.paidOn? paidOn edits
    let due := lastSet Edit.dueDate? dueDate edits
    (∀ d, (edited.status d = .paid ↔ ∃ day, payment = some day) ∧
      (edited.status d = .overdue ↔ payment = none ∧ ∃ day, due = some day ∧ day < d) ∧
      (edited.status d = .pending ↔ payment = none ∧ ∀ day, due = some day → d ≤ day) ∧
      (edited.isOverdue d ↔ edited.status d = .overdue)) ∧
    (∀ d d', d ≤ d' → edited.status d = .overdue → edited.status d' = .overdue) ∧
    (∀ d drafts, (edited.edit (.replaceRows drafts)).1.status d = edited.status d) ∧
    (∀ d notes, (edited.edit (.setNotes notes)).1.status d = edited.status d) ∧
    (payment = none → ∀ d day,
      (edited.editAll [.markPaid day, .markUnpaid]).status d = edited.status d) := by
  intro edited payment due
  have hdue : edited.dueDate = due := (h.dates_editAll edits).1
  have hpaid : edited.paidOn = payment := (h.dates_editAll edits).2
  refine ⟨fun d => ⟨?paid, ?overdue, ?pending, status_eq_overdue_iff.symm⟩, ?later, ?rows, ?notes,
    ?takenBack⟩
  case paid => rw [status_eq_paid_iff, hpaid]
  case overdue => rw [status_eq_overdue_iff, isOverdue_iff, hpaid, hdue]
  case pending => rw [status_eq_pending_iff, hpaid, hdue]
  case later => exact fun d d' hle hoverdue => overdue_of_le hoverdue hle
  case rows => exact fun d drafts => edited.status_edit_of_unset rfl rfl d
  case notes => exact fun d notes => edited.status_edit_of_unset rfl rfl d
  case takenBack =>
    intro hunpaid d day
    rw [editAll_markPaid_markUnpaid (hpaid.trans hunpaid)]

end

/-! ## A bill that falls due -/

def tenthOfApril : Date := ⟨2025, 4, 10, by decide⟩

def fifteenthOfApril : Date := ⟨2025, 4, 15, by decide⟩

/-- The sample bill, due on the tenth and paid five days later. -/
def paidLate : Bill := { sample with dueDate := some tenthOfApril, paidOn := some fifteenthOfApril }

theorem madeWith_paidLate :
    MadeWith sampleMonth (some tenthOfApril) (some fifteenthOfApril) paidLate :=
  .restored (by decide +kernel :
    restore sampleMonth sample.drafts "" (some tenthOfApril) (some fifteenthOfApril) =
      .ok paidLate)

/-- Paid as it is made, and overdue from the day after the tenth once the payment is taken back;
rows that are refused and new notes do not matter. -/
theorem status_editAll_paidLate :
    MadeWith sampleMonth (some tenthOfApril) (some fifteenthOfApril) paidLate ∧
      (paidLate.editAll []).status tenthOfApril = .paid ∧
      let edited := paidLate.editAll [.setNotes "x", .markUnpaid, .replaceRows tooMuch]
      edited.status tenthOfApril = .pending ∧ edited.status fifteenthOfApril = .overdue ∧
        edited.isOverdue fifteenthOfApril ∧
        (edited.edit (.replaceRows tooMuch)).1.status fifteenthOfApril = .overdue ∧
        (edited.editAll [.markPaid tenthOfApril, .markUnpaid]).status fifteenthOfApril =
          .overdue := by
  obtain ⟨hfirst, -⟩ := status_editAll madeWith_paidLate []
  obtain ⟨hstatus, -, hrows, -, htakenBack⟩ := status_editAll madeWith_paidLate
    [.setNotes "x", .markUnpaid, .replaceRows tooMuch]
  obtain ⟨-, -, hpending, -⟩ := hstatus tenthOfApril
  obtain ⟨-, hoverdue, -, hagree⟩ := hstatus fifteenthOfApril
  have hlate := hoverdue.mpr ⟨by decide, tenthOfApril, by decide, by decide⟩
  have hpend := hpending.mpr ⟨by decide, fun day hday => by
    obtain rfl : tenthOfApril = day := Option.some.inj hday
    decide⟩
  exact ⟨madeWith_paidLate, (hfirst tenthOfApril).1.mpr ⟨fifteenthOfApril, rfl⟩, hpend, hlate,
    hagree.mpr hlate, (hrows _ _).trans hlate, (htakenBack (by decide) _ _).trans hlate⟩

end Bill

end RentBilling
