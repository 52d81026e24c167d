import RentBilling.Proofs.Text.Runs
import RentBilling.Text.Blank

/-!
Blank texts.

Trimming leaves nothing of a blank text and something of any other (`trim_eq_empty_iff`). Of a text
that is not blank, a piece at the front is blank as long as it reaches no further than the blanks
there (`all_isBlank_take_iff`).
-/

namespace RentBilling.Text

theorem trimFront_append {blanks cs : List Char} (hblanks : ∀ c ∈ blanks, isBlank c)
    (hcs : ∀ c ∈ cs.head?, isBlank c = false) : trimFront (blanks ++ cs) = cs :=
  dropWhile_append_of_stop hblanks hcs

theorem exists_blanks (cs : List Char) :
    ∃ blanks, (∀ c ∈ blanks, isBlank c) ∧ cs = blanks ++ trimFront cs :=
  ⟨cs.takeWhile isBlank, fun _ hc => List.mem_takeWhile_imp hc,
    List.takeWhile_append_dropWhile.symm⟩

theorem trimChars_eq_nil_iff {cs : List Char} : trimChars cs = [] ↔ cs.all isBlank := by
  unfold trimChars
  cases h : trimFront cs with
  | nil =>
    have hall : ∀ c ∈ cs, isBlank c := List.dropWhile_eq_nil_iff.mp h
    exact iff_of_true rfl (List.all_eq_true.mpr hall)
  | cons c r =>
    rw [trimBack_cons_of_not_isBlank (not_isBlank_of_trimFront h)]
    refine iff_of_false (List.cons_ne_nil _ _) fun hall => ?_
    have hnil : trimFront cs = [] := List.dropWhile_eq_nil_iff.mpr (List.all_eq_true.mp hall)
    rw [hnil] at h
    cases h

theorem trim_eq_empty_iff {s : String} : trim s = "" ↔ isBlankText s := by
  rw [isBlankText, ← trimChars_eq_nil_iff, ← toList_trim, String.toList_eq_nil_iff]

/-- The trimmed text, unless it is blank. -/
def trimmed? (s : String) : Option String := if isBlankText s then none else some (trim s)

theorem trimmed?_eq (s : String) :
    trimmed? s = if trim s = "" then none else some (trim s) := by
  unfold trimmed?
  by_cases h : isBlankText s
  · rw [if_pos h, if_pos (trim_eq_empty_iff.mpr h)]
  · rw [if_neg h, if_neg fun he => h (trim_eq_empty_iff.mp he)]

theorem of_trimmed?_eq_some {s t : String} (h : trimmed? s = some t) : t ≠ "" ∧ trim t = t := by
  rw [trimmed?_eq] at h
  split at h
  · cases h
  · rename_i hne
    obtain rfl := Option.some.inj h
    exact ⟨hne, trim_trim s⟩

/-- How many blanks the characters begin with. -/
def leadingBlanks (cs : List Char) : Nat := (cs.takeWhile isBlank).length

theorem all_isBlank_take_iff {cs : List Char} (h : ¬ cs.all isBlank) (n : Nat) :
    (cs.take n).all isBlank ↔ n ≤ leadingBlanks cs := by
  unfold leadingBlanks
  induction cs generalizing n with
  | nil => exact absurd rfl h
  | cons c cs ih =>
    cases n with
    | zero => simp
    | succ n =>
      by_cases hc : isBlank c
      · have hcs : ¬ cs.all isBlank := by simpa [hc] using h
        simpa [hc] using ih hcs n
      · simp [hc]

end RentBilling.Text
