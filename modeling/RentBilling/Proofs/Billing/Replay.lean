import Mathlib.Data.List.Basic
import RentBilling.Proofs.Billing.Edits

/-!
What a run of edits comes to.

An edit sets one part of a bill and leaves the others as they are, and a refused edit sets nothing
(`edit_parts`, `edit_outcome`). So for each part the last edit that set it decides, and the bill is
the one that restoring makes from these last settings in one go (`restore_editAll`). Leaving out
refused edits, or moving an edit past one of another part, changes nothing.
-/

namespace RentBilling

/-- The parts of a bill that an edit can set. -/
inductive BillPart where
  | rows
  | notes
  | dueDate
  | payment
  deriving DecidableEq, Repr

/-! ## What an edit sets -/

namespace Edit

def part : Edit → BillPart
  | replaceRows _ => .rows
  | setNotes _ => .notes
  | setDueDate _ => .dueDate
  | markPaid _ | markUnpaid => .payment

/-- The rows that the edit asks for. -/
def drafts? : Edit → Option (List Draft)
  | replaceRows drafts => some drafts
  | _ => none

/-- The rows that the edit asks for, if they can be placed. -/
def placed? : Edit → Option (List Draft)
  | replaceRows drafts => if (placeRows drafts).isOk then some drafts else none
  | _ => none

def notes? : Edit → Option String
  | setNotes notes => some notes
  | _ => none

def dueDate? : Edit → Option (Option Date)
  | setDueDate date => some date
  | _ => none

def paidOn? : Edit → Option (Option Date)
  | markPaid date => some (some date)
  | markUnpaid => some none
  | _ => none

/-- An edit sets nothing outside its part. -/
theorem part_of_set (e : Edit) :
    (e.placed? ≠ none → e.part = .rows) ∧ (e.notes? ≠ none → e.part = .notes) ∧
      (e.dueDate? ≠ none → e.part = .dueDate) ∧ (e.paidOn? ≠ none → e.part = .payment) := by
  cases e <;> simp [placed?, notes?, dueDate?, paidOn?, part]

end Edit

/-- What the last of the edits that set it sets, or else what was there before. -/
def lastSet {α : Type} (set? : Edit → Option α) (before : α) (edits : List Edit) : α :=
  (edits.filterMap set?).getLastD before

section

variable {α : Type} {set? : Edit → Option α}

theorem lastSet_cons (before : α) (e : Edit) (edits : List Edit) :
    lastSet set? before (e :: edits) = lastSet set? ((set? e).getD before) edits := by
  unfold lastSet
  cases h : set? e with
  | none => rw [List.filterMap_cons_none h, Option.getD_none]
  | some a => rw [List.filterMap_cons_some h, List.getLastD_cons, Option.getD_some]

/-- Only the edits of its part count. -/
theorem lastSet_of_part {part : BillPart} (hset : ∀ e : Edit, set? e ≠ none → e.part = part)
    {edits edits' : List Edit}
    (h : edits.filter (·.part = part) = edits'.filter (·.part = part)) (before : α) :
    lastSet set? before edits = lastSet set? before edits' := by
  have hfilter : ∀ l : List Edit, (l.filter (·.part = part)).filterMap set? = l.filterMap set? := by
    intro l
    rw [List.filterMap_filter]
    refine List.filterMap_congr fun e _ => ?_
    by_cases he : e.part = part
    · simp [he]
    · simp [he, Classical.not_not.mp fun hne => he (hset e hne)]
  rw [lastSet, lastSet, ← hfilter edits, h, hfilter]

end

namespace Bill

/-! ## One edit -/

/-- An edit sets its part, if its rows can be placed, and leaves the others as they are. -/
theorem edit_parts (b : Bill) (e : Edit) :
    (b.edit e).1.drafts = e.placed?.getD b.drafts ∧
      (b.edit e).1.notes = e.notes?.getD b.notes ∧
      (b.edit e).1.dueDate = e.dueDate?.getD b.dueDate ∧
      (b.edit e).1.paidOn = e.paidOn?.getD b.paidOn := by
  cases e with
  | replaceRows drafts =>
    rw [edit, Edit.placed?]
    cases hp : placeRows drafts with
    | error e => exact ⟨rfl, rfl, rfl, rfl⟩
    | ok placed =>
      obtain ⟨rows, total⟩ := placed
      have hdrafts : rows.map LineItem.toDraft = drafts := by
        rw [(of_placeRows_ok hp).1, map_toDraft_number]
      exact ⟨hdrafts, rfl, rfl, rfl⟩
  | setNotes notes => exact ⟨rfl, rfl, rfl, rfl⟩
  | setDueDate date => exact ⟨rfl, rfl, rfl, rfl⟩
  | markPaid date => exact ⟨rfl, rfl, rfl, rfl⟩
  | markUnpaid => exact ⟨rfl, rfl, rfl, rfl⟩

/-- Either an edit is accepted and sets what it asks for, or it is refused and sets nothing. -/
theorem edit_outcome (b : Bill) (e : Edit) :
    ((b.edit e).2 = none ∧ e.placed? = e.drafts?) ∨
      ((b.edit e).2 ≠ none ∧ (b.edit e).1 = b ∧ e.placed? = none) := by
  cases e with
  | replaceRows drafts =>
    rw [edit, Edit.placed?]
    cases placeRows drafts with
    | error e => exact .inr ⟨Option.some_ne_none e, rfl, rfl⟩
    | ok placed => exact .inl ⟨rfl, rfl⟩
  | setNotes notes => exact .inl ⟨rfl, rfl⟩
  | setDueDate date => exact .inl ⟨rfl, rfl⟩
  | markPaid date => exact .inl ⟨rfl, rfl⟩
  | markUnpaid => exact .inl ⟨rfl, rfl⟩

/-! ## A run of edits -/

/-- The edits of a run that are not refused. -/
def accepted (b : Bill) : List Edit → List Edit
  | [] => []
  | e :: edits =>
    let rest := (b.edit e).1.accepted edits
    if (b.edit e).2 = none then e :: rest else rest

/-- What each edit does to a part of the bill, the run does with the last of the edits. -/
theorem editAll_lastSet {α : Type} {set? : Edit → Option α} {get : Bill → α}
    (hstep : ∀ b e, get (b.edit e).1 = (set? e).getD (get b)) (b : Bill) (edits : List Edit) :
    get (b.editAll edits) = lastSet set? (get b) edits := by
  induction edits generalizing b with
  | nil => rfl
  | cons e edits ih =>
    rw [lastSet_cons, ← hstep]
    exact ih (b.edit e).1

/-- Without the refused edits the run leads to the same bill. -/
theorem editAll_accepted (b : Bill) (edits : List Edit) :
    b.editAll (b.accepted edits) = b.editAll edits := by
  induction edits generalizing b with
  | nil => rfl
  | cons e edits ih =>
    rw [accepted]
    rcases b.edit_outcome e with ⟨hnone, -⟩ | ⟨hsome, hsame, -⟩
    · rw [if_pos hnone]
      exact ih (b.edit e).1
    · rw [if_neg hsome]
      calc b.editAll ((b.edit e).1.accepted edits)
          = (b.edit e).1.editAll ((b.edit e).1.accepted edits) := by rw [hsame]
        _ = b.editAll (e :: edits) := ih (b.edit e).1

theorem filterMap_drafts?_accepted (b : Bill) (edits : List Edit) :
    (b.accepted edits).filterMap Edit.drafts? = edits.filterMap Edit.placed? := by
  induction edits generalizing b with
  | nil => rfl
  | cons e edits ih =>
    rw [accepted]
    rcases b.edit_outcome e with ⟨hnone, hplaced⟩ | ⟨hsome, -, hplaced⟩
    · rw [if_pos hnone, List.filterMap_cons, List.filterMap_cons, hplaced, ih]
    · rw [if_neg hsome, ih, List.filterMap_cons_none hplaced]

/-! ## Restoring -/

/-- A row that stands at its number cannot stand beyond the last one. -/
theorem Consistent.length_le {b : Bill} (h : b.Consistent) : b.rows.length ≤ 2 ^ 32 := by
  by_contra hl
  have hi : 2 ^ 32 < b.rows.length := Nat.not_le.mp hl
  have hlt : b.rows[2 ^ 32].sortOrder.toNat < 2 ^ 32 := UInt32.toNat_lt _
  rw [h.numbered (2 ^ 32) hi] at hlt
  exact Nat.lt_irrefl _ hlt

theorem Consistent.number_drafts {b : Bill} (h : b.Consistent) : number b.drafts = b.rows := by
  apply List.ext_getElem
  · simp [drafts, length_number]
  · intro i h1 h2
    have hplace : UInt32.ofNat i = b.rows[i].sortOrder := by
      rw [UInt32.ofNat_eq_iff_mod_eq_toNat, h.numbered i h2]
      exact Nat.mod_eq_of_lt (Nat.lt_of_lt_of_le h2 h.length_le)
    simp [number, drafts, Draft.at, LineItem.toDraft, hplace]

/-- A consistent bill is made from its own rows, notes and dates. -/
theorem Consistent.restore_eq {b : Bill} (h : b.Consistent) :
    restore b.month b.drafts b.notes b.dueDate b.paidOn = .ok b := by
  have hsum : draftSum b.drafts = b.total.toNat := by rw [drafts, draftSum_toDraft, h.total]
  have hlt : draftSum b.drafts < 2 ^ 64 := hsum ▸ b.total.toNat_lt_bound
  have hl : b.drafts.length ≤ 2 ^ 32 := by simpa [drafts] using h.length_le
  have htotal : (⟨.ofNat (draftSum b.drafts)⟩ : Centavos) = b.total :=
    Centavos.toNat_injective ((Centavos.toNat_of_lt hlt).trans hsum)
  rw [restore, ofDrafts, placeRows_eq, if_neg (Nat.not_le.mpr hlt), if_neg (Nat.not_lt.mpr hl),
    h.number_drafts, htotal]
  rfl

/-! ## The bill that is left -/

/-- Each part is as the last edit left it that set it. -/
theorem editAll_parts (b : Bill) (edits : List Edit) :
    (b.editAll edits).drafts = lastSet Edit.placed? b.drafts edits ∧
      (b.editAll edits).notes = lastSet Edit.notes? b.notes edits ∧
      (b.editAll edits).dueDate = lastSet Edit.dueDate? b.dueDate edits ∧
      (b.editAll edits).paidOn = lastSet Edit.paidOn? b.paidOn edits :=
  ⟨editAll_lastSet (fun b e => (b.edit_parts e).1) b edits,
    editAll_lastSet (fun b e => (b.edit_parts e).2.1) b edits,
    editAll_lastSet (fun b e => (b.edit_parts e).2.2.1) b edits,
    editAll_lastSet (fun b e => (b.edit_parts e).2.2.2) b edits⟩

theorem restore_lastSet {month : ReferenceMonth} {b : Bill} (h : Created month b)
    (edits : List Edit) :
    restore month (lastSet Edit.placed? b.drafts edits) (lastSet Edit.notes? b.notes edits)
      (lastSet Edit.dueDate? b.dueDate edits) (lastSet Edit.paidOn? b.paidOn edits) =
      .ok (b.editAll edits) := by
  obtain ⟨hb, hmonth⟩ := h.consistent
  obtain ⟨hdrafts, hnotes, hdue, hpaid⟩ := b.editAll_parts edits
  rw [← hdrafts, ← hnotes, ← hdue, ← hpaid, ← hmonth, ← b.month_editAll edits]
  exact (hb.editAll edits).restore_eq

/-- Runs that have the same edits of each part, in the same order, lead to the same bill. -/
theorem editAll_of_parts {month : ReferenceMonth} {b : Bill} (h : Created month b)
    {edits edits' : List Edit}
    (hparts : ∀ part, edits.filter (·.part = part) = edits'.filter (·.part = part)) :
    b.editAll edits = b.editAll edits' := by
  have hleft := restore_lastSet h edits
  rw [lastSet_of_part (fun e => e.part_of_set.1) (hparts _),
    lastSet_of_part (fun e => e.part_of_set.2.1) (hparts _),
    lastSet_of_part (fun e => e.part_of_set.2.2.1) (hparts _),
    lastSet_of_part (fun e => e.part_of_set.2.2.2) (hparts _), restore_lastSet h edits'] at hleft
  exact (Except.ok.inj hleft).symm

/-- **Runs of edits.** However a bill was made and edited, restoring makes the same bill from the
month of the first, the rows that were accepted last, and the notes, the due date and the payment
that were set last. No other row is left of earlier ones, refused edits leave no trace, and only the
order of the edits of one part matters. -/
theorem restore_editAll {month : ReferenceMonth} {b : Bill} (h : Created month b)
    (edits : List Edit) :
    restore month (lastSet Edit.drafts? b.drafts (b.accepted edits))
        (lastSet Edit.notes? b.notes edits) (lastSet Edit.dueDate? b.dueDate edits)
        (lastSet Edit.paidOn? b.paidOn edits) = .ok (b.editAll edits) ∧
      (b.editAll edits).drafts = lastSet Edit.drafts? b.drafts (b.accepted edits) ∧
      b.editAll (b.accepted edits) = b.editAll edits ∧
      ∀ edits' : List Edit,
        (∀ part, edits.filter (·.part = part) = edits'.filter (·.part = part)) →
        b.editAll edits = b.editAll edits' := by
  have hrows : lastSet Edit.drafts? b.drafts (b.accepted edits) =
      lastSet Edit.placed? b.drafts edits := by
    rw [lastSet, filterMap_drafts?_accepted, lastSet]
  rw [hrows]
  exact ⟨restore_lastSet h edits, (b.editAll_parts edits).1, b.editAll_accepted edits,
    fun _ hparts => editAll_of_parts h hparts⟩

/-- Rows that fit, and then rows with too large a total, which are refused. -/
def interleavedEdits : List Edit :=
  [.setNotes "x", .replaceRows [⟨"Multa", ⟨1507⟩, .extra⟩], .markUnpaid,
    .markPaid ⟨2025, 4, 20, by decide⟩,
    .replaceRows [⟨"a", ⟨18446744073709551615⟩, .extra⟩, ⟨"b", ⟨1⟩, .extra⟩], .setNotes "y"]

theorem restore_editAll_interleaved :
    Created sampleMonth sample ∧
      restore sampleMonth [⟨"Multa", ⟨1507⟩, .extra⟩] "y" none
        (some ⟨2025, 4, 20, by decide⟩) = .ok (sample.editAll interleavedEdits) ∧
      (sample.editAll interleavedEdits).drafts = [⟨"Multa", ⟨1507⟩, .extra⟩] ∧
      sample.editAll (sample.accepted interleavedEdits) = sample.editAll interleavedEdits ∧
      ∀ edits' : List Edit,
        (∀ part, interleavedEdits.filter (·.part = part) = edits'.filter (·.part = part)) →
        sample.editAll interleavedEdits = sample.editAll edits' :=
  ⟨created_sample, restore_editAll created_sample interleavedEdits⟩

end Bill

end RentBilling
