import RentBilling.Proofs.Billing.Edits

/-!
Restoring a bill and replacing its rows.

Both place the same rows, so both take or refuse the same drafts and come to the same total,
whatever the bill held before (`restore_agrees_with_replaceRows`). What is refused depends on the
unbounded sum of the amounts and on the number of rows alone, so their order does not matter
(`map_snd_placeRows_of_perm`).

Rows need not be counted before they are numbered: giving out the numbers one after another, until
there are none left, refuses the same drafts (`numberInTurn_eq`).
-/

namespace RentBilling

/-! ## Numbering in turn -/

/-- One more row, at this place if there is such a number. -/
def pushRow (rows : List LineItem) (placed : Draft × Nat) : Except Refusal (List LineItem) :=
  if placed.2 < UInt32.size then .ok (rows ++ [placed.1.at placed.2]) else .error .tooManyRows

/-- Numbers the rows one after another, until a row finds no number. -/
def numberInTurn (drafts : List Draft) : Except Refusal (List LineItem) :=
  drafts.zipIdx.foldlM pushRow []

/-- With the numbers below `start` given out, the drafts are numbered from there. -/
theorem foldlM_pushRow (drafts : List Draft) {start : Nat} (hstart : start ≤ maxRows)
    (rows : List LineItem) :
    (drafts.zipIdx start).foldlM pushRow rows =
      if start + drafts.length ≤ maxRows then
        .ok (rows ++ (drafts.zipIdx start).map fun (d, place) => d.at place)
      else .error .tooManyRows := by
  induction drafts generalizing start rows with
  | nil =>
    rw [List.length_nil, Nat.add_zero, if_pos hstart, List.zipIdx_nil, List.map_nil,
      List.append_nil]
    rfl
  | cons d drafts ih =>
    have hlength : start + (d :: drafts).length = start + 1 + drafts.length := by
      rw [List.length_cons, Nat.add_right_comm, Nat.add_assoc]
    rw [List.zipIdx_cons, List.foldlM_cons, hlength, pushRow]
    by_cases hplace : start < UInt32.size
    · have hrow : (Except.ok (rows ++ [d.at start]) >>= fun rows =>
          (drafts.zipIdx (start + 1)).foldlM pushRow rows) =
            (drafts.zipIdx (start + 1)).foldlM pushRow (rows ++ [d.at start]) := rfl
      rw [if_pos hplace, hrow, ih hplace, List.append_assoc]
      rfl
    · -- No number is left for this row, so there are more rows than numbers.
      have hmany : ¬ start + 1 + drafts.length ≤ maxRows := by
        have : maxRows = UInt32.size := rfl
        omega
      rw [if_neg hplace, if_neg hmany]
      rfl

theorem numberInTurn_eq (drafts : List Draft) :
    numberInTurn drafts =
      if drafts.length ≤ maxRows then .ok (number drafts) else .error .tooManyRows := by
  rw [numberInTurn, foldlM_pushRow drafts (Nat.zero_le maxRows), Nat.zero_add, List.nil_append]
  rfl

/-- Placing rows is adding up their amounts and then numbering them in turn. -/
theorem placeRows_eq_numberInTurn (drafts : List Draft) :
    placeRows drafts =
      match Centavos.sum? (drafts.map (·.amount)) with
      | none => .error .totalOverflow
      | some total => (numberInTurn drafts).map (·, total) := by
  rw [placeRows, numberInTurn_eq]
  cases Centavos.sum? (drafts.map (·.amount)) with
  | none => rfl
  | some total =>
    dsimp only
    split <;> rfl

/-! ## What is refused -/

theorem placeRows_eq_totalOverflow_iff {drafts : List Draft} :
    placeRows drafts = .error .totalOverflow ↔ 2 ^ 64 ≤ draftSum drafts := by
  rw [placeRows_eq]
  split
  · next hsum => exact iff_of_true rfl hsum
  · next hsum =>
    refine iff_of_false ?_ hsum
    split <;> exact nofun

theorem placeRows_eq_tooManyRows_iff {drafts : List Draft} :
    placeRows drafts = .error .tooManyRows ↔
      draftSum drafts < 2 ^ 64 ∧ 2 ^ 32 < drafts.length := by
  rw [placeRows_eq]
  split
  · next hsum => exact iff_of_false nofun fun h => Nat.not_le.mpr h.1 hsum
  · next hsum =>
    split
    · next hl => exact iff_of_true rfl ⟨Nat.not_le.mp hsum, hl⟩
    · next hl => exact iff_of_false nofun fun h => hl h.2

/-- There are no other refusals. -/
theorem eq_of_placeRows_error {drafts : List Draft} {e : Refusal}
    (h : placeRows drafts = .error e) : e = .totalOverflow ∨ e = .tooManyRows := by
  rw [placeRows_eq] at h
  split at h
  · exact .inl (Except.error.inj h).symm
  · split at h
    · exact .inr (Except.error.inj h).symm
    · contradiction

/-- Drafts that fit become rows in the same order, numbered from zero, with their exact sum. -/
theorem exists_placeRows_ok {drafts : List Draft} (hsum : draftSum drafts < 2 ^ 64)
    (hl : drafts.length ≤ 2 ^ 32) :
    ∃ rows total, placeRows drafts = .ok (rows, total) ∧ rows.map LineItem.toDraft = drafts ∧
      (∀ i (h : i < rows.length), rows[i].sortOrder.toNat = i) ∧
      total.toNat = draftSum drafts := by
  refine ⟨number drafts, ⟨.ofNat (draftSum drafts)⟩, ?_, map_toDraft_number drafts,
    sortOrder_number hl, Centavos.toNat_of_lt hsum⟩
  rw [placeRows_eq, if_neg (Nat.not_le.mpr hsum), if_neg (Nat.not_lt.mpr hl)]

/-! ## The order of the drafts -/

theorem draftSum_of_perm {drafts drafts' : List Draft} (h : drafts.Perm drafts') :
    draftSum drafts' = draftSum drafts :=
  (h.map fun d : Draft => d.amount.toNat).sum_eq.symm

/-- In any order the drafts have the same total, or are refused for the same reason. -/
theorem map_snd_placeRows_of_perm {drafts drafts' : List Draft} (h : drafts.Perm drafts') :
    (placeRows drafts').map Prod.snd = (placeRows drafts).map Prod.snd := by
  rw [placeRows_eq, placeRows_eq, draftSum_of_perm h, h.length_eq]
  split
  · rfl
  · split <;> rfl

namespace Bill

/-! ## The two ways to install rows -/

section

variable (month : ReferenceMonth) (drafts : List Draft) (notes : String)
variable (dueDate paidOn : Option Date)

theorem restore_eq_map :
    restore month drafts notes dueDate paidOn =
      (placeRows drafts).map fun (rows, total) => ⟨month, rows, total, notes, dueDate, paidOn⟩ := by
  unfold restore ofDrafts
  cases placeRows drafts <;> rfl

theorem restore_eq_error_iff {e : Refusal} :
    restore month drafts notes dueDate paidOn = .error e ↔ placeRows drafts = .error e := by
  rw [restore_eq_map]
  cases placeRows drafts with
  | error e' => rw [Except.map, Except.error.injEq, Except.error.injEq]
  | ok placed => exact ⟨nofun, nofun⟩

variable {month drafts} in
theorem restore_of_placeRows_ok {rows : List LineItem} {total : Centavos}
    (h : placeRows drafts = .ok (rows, total)) :
    restore month drafts notes dueDate paidOn =
      .ok ⟨month, rows, total, notes, dueDate, paidOn⟩ := by
  rw [restore_eq_map, h]
  rfl

theorem map_total_restore :
    (restore month drafts notes dueDate paidOn).map total = (placeRows drafts).map Prod.snd := by
  rw [restore_eq_map]
  cases placeRows drafts <;> rfl

end

/-- A refusal leaves the bill as it was. -/
theorem edit_replaceRows_of_error (b : Bill) {drafts : List Draft} {e : Refusal}
    (h : placeRows drafts = .error e) : b.edit (.replaceRows drafts) = (b, some e) := by
  rw [edit, h]

theorem edit_replaceRows_of_ok (b : Bill) {drafts : List Draft} {rows : List LineItem}
    {total : Centavos} (h : placeRows drafts = .ok (rows, total)) :
    b.edit (.replaceRows drafts) = ({ b with rows, total }, none) := by
  rw [edit, h]

theorem snd_edit_replaceRows_eq_some_iff {b : Bill} {drafts : List Draft} {e : Refusal} :
    (b.edit (.replaceRows drafts)).2 = some e ↔ placeRows drafts = .error e := by
  cases h : placeRows drafts with
  | error e' =>
    rw [edit_replaceRows_of_error b h, Option.some_inj, Except.error.injEq]
  | ok placed =>
    rw [edit_replaceRows_of_ok b h]
    exact ⟨nofun, nofun⟩

theorem fst_edit_replaceRows_of_refused {b : Bill} {drafts : List Draft}
    (h : (b.edit (.replaceRows drafts)).2.isSome) : (b.edit (.replaceRows drafts)).1 = b := by
  obtain ⟨e, he⟩ := Option.isSome_iff_exists.mp h
  rw [edit_replaceRows_of_error b (snd_edit_replaceRows_eq_some_iff.mp he)]

/-- What was refused is told by its words. -/
theorem message_edit_replaceRows_iff {b : Bill} {drafts : List Draft} {e : Refusal}
    (he : e = .totalOverflow ∨ e = .tooManyRows) :
    (b.edit (.replaceRows drafts)).2.map Refusal.message = some e.message ↔
      placeRows drafts = .error e := by
  rw [Option.map_eq_some_iff]
  constructor
  · rintro ⟨e', he', hmessage⟩
    have hplaced := snd_edit_replaceRows_eq_some_iff.mp he'
    have hdistinct : Refusal.totalOverflow.message ≠ Refusal.tooManyRows.message := by decide
    obtain rfl | rfl := he <;> obtain rfl | rfl := eq_of_placeRows_error hplaced
    · exact hplaced
    · exact absurd hmessage.symm hdistinct
    · exact absurd hmessage hdistinct
    · exact hplaced
  · intro h
    exact ⟨e, snd_edit_replaceRows_eq_some_iff.mpr h, rfl⟩

/-- Whether rows were refused, and the total of the bill afterwards. -/
theorem outcome_edit_replaceRows (b : Bill) (drafts : List Draft) :
    ((b.edit (.replaceRows drafts)).2, (b.edit (.replaceRows drafts)).1.total) =
      match (placeRows drafts).map Prod.snd with
      | .error e => (some e, b.total)
      | .ok total => (none, total) := by
  rw [edit]
  cases placeRows drafts <;> rfl

/-- In any order the drafts are refused for the same reason, or give the bill the same total. -/
theorem edit_replaceRows_of_perm (b : Bill) {drafts drafts' : List Draft}
    (h : drafts.Perm drafts') :
    (b.edit (.replaceRows drafts')).2 = (b.edit (.replaceRows drafts)).2 ∧
      (b.edit (.replaceRows drafts')).1.total = (b.edit (.replaceRows drafts)).1.total := by
  have houtcome : ((b.edit (.replaceRows drafts')).2, (b.edit (.replaceRows drafts')).1.total) =
      ((b.edit (.replaceRows drafts)).2, (b.edit (.replaceRows drafts)).1.total) := by
    rw [outcome_edit_replaceRows, outcome_edit_replaceRows, map_snd_placeRows_of_perm h]
  exact Prod.mk.inj houtcome

/-- **Installing rows.** Restoring a bill and replacing the rows of any bill refuse the same drafts
for the same reason: a sum that reaches `2 ^ 64`, and else more than `2 ^ 32` rows. A refusal leaves
every field of the bill as it was. Other drafts become the rows of the bill, in order and numbered
from zero, and their exact sum its total, whatever rows the bill had. Their order changes neither
what is refused nor the total. -/
theorem restore_agrees_with_replaceRows (month : ReferenceMonth) (drafts : List Draft)
    (notes : String) (dueDate paidOn : Option Date) (b : Bill) :
    let restored := restore month drafts notes dueDate paidOn
    let replaced := b.edit (.replaceRows drafts)
    (∀ e, restored = .error e ↔ replaced.2 = some e) ∧
      (replaced.2.map Refusal.message = some "invariant violated: bill total overflow" ↔
        2 ^ 64 ≤ draftSum drafts) ∧
      (replaced.2.map Refusal.message = some "invariant violated: too many bill line items" ↔
        draftSum drafts < 2 ^ 64 ∧ 2 ^ 32 < drafts.length) ∧
      (replaced.2.isSome → replaced.1 = b) ∧
      (draftSum drafts < 2 ^ 64 → drafts.length ≤ 2 ^ 32 →
        ∃ rows total,
          rows.map LineItem.toDraft = drafts ∧
          (∀ i (h : i < rows.length), rows[i].sortOrder.toNat = i) ∧
          total.toNat = draftSum drafts ∧
          restored = .ok ⟨month, rows, total, notes, dueDate, paidOn⟩ ∧
          replaced = ({ b with rows, total }, none)) ∧
      ∀ drafts', drafts.Perm drafts' →
        (restore month drafts' notes dueDate paidOn).map total = restored.map total ∧
        (b.edit (.replaceRows drafts')).2 = replaced.2 ∧
        (b.edit (.replaceRows drafts')).1.total = replaced.1.total := by
  intro restored replaced
  refine ⟨?agree, ?overflow, ?many, ?kept, ?installed, ?reordered⟩
  case agree =>
    intro e
    rw [restore_eq_error_iff, snd_edit_replaceRows_eq_some_iff]
  case overflow =>
    rw [← placeRows_eq_totalOverflow_iff]
    exact message_edit_replaceRows_iff (.inl rfl)
  case many =>
    rw [← placeRows_eq_tooManyRows_iff]
    exact message_edit_replaceRows_iff (.inr rfl)
  case kept => exact fst_edit_replaceRows_of_refused
  case installed =>
    intro hsum hl
    obtain ⟨rows, total, hplaced, hdrafts, hnumbered, htotal⟩ := exists_placeRows_ok hsum hl
    exact ⟨rows, total, hdrafts, hnumbered, htotal,
      restore_of_placeRows_ok notes dueDate paidOn hplaced, edit_replaceRows_of_ok b hplaced⟩
  case reordered =>
    intro drafts' hperm
    refine ⟨?_, edit_replaceRows_of_perm b hperm⟩
    exact (map_total_restore ..).trans
      ((map_snd_placeRows_of_perm hperm).trans (map_total_restore ..).symm)

/-! ## Rows for one bill -/

/-- The second amount does not fit any more. -/
def tooMuch : List Draft :=
  [⟨"a", ⟨18446744073709551615⟩, .extra⟩, ⟨"b", ⟨1⟩, .extra⟩, ⟨"c", ⟨0⟩, .extra⟩]

/-- Rows that differ in nothing but their place. -/
def freeRows (n : Nat) : List Draft := List.replicate n ⟨"a", ⟨0⟩, .extra⟩

theorem draftSum_freeRows (n : Nat) : draftSum (freeRows n) = 0 := by
  rw [draftSum, freeRows, List.map_replicate]
  exact List.sum_eq_zero fun amount hamount => List.eq_of_mem_replicate hamount

theorem length_freeRows (n : Nat) : (freeRows n).length = n := List.length_replicate

/-- Too large a total, too many rows, and rows that fit. -/
theorem restore_agrees_with_replaceRows_sample :
    (sample.edit (.replaceRows tooMuch)).2.map Refusal.message =
        some "invariant violated: bill total overflow" ∧
      (sample.edit (.replaceRows tooMuch)).1 = sample ∧
      (sample.edit (.replaceRows tooMuch.reverse)).2 = (sample.edit (.replaceRows tooMuch)).2 ∧
      (sample.edit (.replaceRows (freeRows (2 ^ 32 + 1)))).2.map Refusal.message =
        some "invariant violated: too many bill line items" ∧
      ∃ rows total, sample.edit (.replaceRows tooMuch.tail) = ({ sample with rows, total }, none) ∧
        rows.map LineItem.toDraft = tooMuch.tail ∧ total.toNat = 1 := by
  obtain ⟨-, hmuch, -, hkept, -, hreordered⟩ :=
    restore_agrees_with_replaceRows sampleMonth tooMuch "" none none sample
  obtain ⟨-, -, hmany, -⟩ :=
    restore_agrees_with_replaceRows sampleMonth (freeRows (2 ^ 32 + 1)) "" none none sample
  obtain ⟨-, -, -, -, hinstalled, -⟩ :=
    restore_agrees_with_replaceRows sampleMonth tooMuch.tail "" none none sample
  have hsum : draftSum (freeRows (2 ^ 32 + 1)) < 2 ^ 64 := by
    rw [draftSum_freeRows]
    decide
  have hlength : 2 ^ 32 < (freeRows (2 ^ 32 + 1)).length := by
    rw [length_freeRows]
    decide
  obtain ⟨rows, total, hdrafts, -, htotal, -, hreplaced⟩ := hinstalled (by decide) (by decide)
  exact ⟨hmuch.mpr (by decide), hkept (by decide),
    (hreordered tooMuch.reverse tooMuch.reverse_perm.symm).2.1, hmany.mpr ⟨hsum, hlength⟩,
    rows, total, hreplaced, hdrafts, htotal⟩

end Bill

end RentBilling
