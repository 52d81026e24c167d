/-!
Cutting a run of characters at its separators.

`n` separators leave `n + 1` parts, empty ones included; joined by separators they are the run
again. The other way around, what is joined by a separator that stands in no part is cut into these
parts.
-/

namespace RentBilling.Text

/-- The parts between the characters that `isSeparator` picks. -/
def splitChars (isSeparator : Char → Bool) (cs : List Char) : List (List Char) :=
  cs.foldr (fun c parts =>
    if isSeparator c then [] :: parts
    else match parts with
      | [] => [[c]]
      | part :: rest => (c :: part) :: rest) [[]]

theorem splitChars_ne_nil (isSeparator : Char → Bool) (cs : List Char) :
    splitChars isSeparator cs ≠ [] := by
  cases cs with
  | nil => simp [splitChars]
  | cons c cs =>
    simp only [splitChars, List.foldr_cons]
    split
    · simp
    · split <;> simp

/-- Cutting at one character and joining with it gives the run back. -/
theorem intercalate_splitChars (s : Char) (cs : List Char) :
    [s].intercalate (splitChars (· == s) cs) = cs := by
  induction cs with
  | nil => rfl
  | cons c cs ih =>
    have hne := splitChars_ne_nil (· == s) cs
    simp only [splitChars, List.foldr_cons] at ih hne ⊢
    revert ih hne
    generalize List.foldr _ _ cs = parts
    intro ih hne
    cases parts with
    | nil => contradiction
    | cons part rest =>
      by_cases h : c = s
      · subst h
        simp only [beq_self_eq_true, if_true]
        rw [← ih]
        simp [List.intercalate, List.intersperse]
      · have hb : (c == s) = false := by simpa using h
        simp only [hb]
        rw [← ih]
        cases rest <;> simp [List.intercalate, List.intersperse]

theorem splitChars_cons_separator (isSeparator : Char → Bool) {s : Char} (hs : isSeparator s)
    (rest : List Char) :
    splitChars isSeparator (s :: rest) = [] :: splitChars isSeparator rest := by
  simp [splitChars, hs]

/-- A character that is no separator belongs to the first part. -/
theorem splitChars_cons_of_eq {isSeparator : Char → Bool} {c : Char} {cs : List Char}
    {part : List Char} {parts : List (List Char)} (hc : isSeparator c = false)
    (h : splitChars isSeparator cs = part :: parts) :
    splitChars isSeparator (c :: cs) = (c :: part) :: parts := by
  rw [splitChars] at h ⊢
  rw [List.foldr_cons, h]
  simp [hc]

theorem splitChars_append_of_eq {isSeparator : Char → Bool} {first cs : List Char}
    {part : List Char} {parts : List (List Char)} (hfirst : ∀ c ∈ first, isSeparator c = false)
    (h : splitChars isSeparator cs = part :: parts) :
    splitChars isSeparator (first ++ cs) = (first ++ part) :: parts := by
  induction first with
  | nil => exact h
  | cons c first ih =>
    obtain ⟨hc, hfirst⟩ := List.forall_mem_cons.mp hfirst
    exact splitChars_cons_of_eq hc (ih hfirst)

theorem splitChars_of_forall {isSeparator : Char → Bool} {part : List Char}
    (h : ∀ c ∈ part, isSeparator c = false) : splitChars isSeparator part = [part] := by
  have hnil : splitChars isSeparator [] = [[]] := rfl
  simpa using splitChars_append_of_eq h hnil

/-- Cutting at one character undoes joining with it. -/
theorem splitChars_intercalate {s : Char} {parts : List (List Char)} (hne : parts ≠ [])
    (h : ∀ part ∈ parts, s ∉ part) : splitChars (· == s) ([s].intercalate parts) = parts := by
  induction parts with
  | nil => exact absurd rfl hne
  | cons first parts ih =>
    obtain ⟨hfirst, hparts⟩ := List.forall_mem_cons.mp h
    have hno : ∀ c ∈ first, (c == s) = false := fun c hc =>
      beq_eq_false_iff_ne.mpr fun hcs => hfirst (hcs ▸ hc)
    cases parts with
    | nil =>
      have hjoin : [s].intercalate [first] = first := by simp [List.intercalate]
      rw [hjoin, splitChars_of_forall hno]
    | cons second parts =>
      have hjoin : [s].intercalate (first :: second :: parts) =
          first ++ s :: [s].intercalate (second :: parts) := by
        simp [List.intercalate]
      have hcut := splitChars_cons_separator (· == s) (beq_self_eq_true s)
        ([s].intercalate (second :: parts))
      rw [hjoin, splitChars_append_of_eq hno hcut, List.append_nil, ih nofun hparts]

end RentBilling.Text
