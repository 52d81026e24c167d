import Mathlib.Data.List.Basic
import RentBilling.Text.Folded

/-!
What folding needs of a normalization.

The compatibility decomposition goes by a table of characters and a table of classes, and folding
needs little of either: ASCII stays as it is, the parts of a character do not decompose any further,
and only marks change places. With every `Normalization` of that kind, dropping the marks and
whatever is left outside of ASCII goes character by character (`foldChars_eq_flatMap`) and does not
tell a text from its normal form (`foldLaws`).
-/

namespace RentBilling.Text

/-- A folding of texts to ASCII that does not tell them from their normal forms. -/
structure FoldLaws (fold normalForm : String → String) : Prop where
  isAscii_fold : ∀ a, isAscii (fold a)
  fold_of_isAscii : ∀ a, isAscii a → fold a = a
  fold_fold : ∀ a, fold (fold a) = fold a
  fold_append : ∀ a b, fold (a ++ b) = fold a ++ fold b
  fold_normalForm : ∀ a, fold (normalForm a) = fold a

theorem FoldLaws.fold_eq_of_normalForm_eq {fold normalForm : String → String}
    (laws : FoldLaws fold normalForm) {a b : String} (h : normalForm a = normalForm b) :
    fold a = fold b := by
  rw [← laws.fold_normalForm a, h, laws.fold_normalForm b]

/-! ## Normalizations -/

/-- Characters decomposed one by one, and the result put in order. -/
structure Normalization where
  decompose : Char → List Char
  order : List Char → List Char
  combiningClass : Char → Nat
  isMark : Char → Bool
  decompose_of_isAsciiChar : ∀ {c}, isAsciiChar c → decompose c = [c]
  /-- Decompositions are full. -/
  decompose_of_mem : ∀ {c d}, d ∈ decompose c → decompose d = [d]
  order_perm : ∀ cs, (order cs).Perm cs
  /-- What is of class zero keeps its place among its like. -/
  filter_order : ∀ cs,
    (order cs).filter (combiningClass · = 0) = cs.filter (combiningClass · = 0)
  order_order : ∀ cs, order (order cs) = order cs
  isMark_of_combiningClass : ∀ {c}, combiningClass c ≠ 0 → isMark c
  not_isMark_of_isAsciiChar : ∀ {c}, isAsciiChar c → ¬ isMark c

namespace Normalization

variable (n : Normalization)

def normalize (cs : List Char) : List Char := n.order (cs.flatMap n.decompose)

/-- The normal form without its marks, and of that the ASCII characters. -/
def foldChars (cs : List Char) : List Char :=
  ((n.normalize cs).filter (!n.isMark ·)).filter isAsciiChar

def normalForm (s : String) : String := .ofList (n.normalize s.toList)

def fold (s : String) : String := .ofList (n.foldChars s.toList)

/-! ### Normal forms -/

theorem decompose_of_mem_normalize {cs : List Char} {d : Char} (h : d ∈ n.normalize cs) :
    n.decompose d = [d] := by
  have hparts : d ∈ cs.flatMap n.decompose := (n.order_perm _).mem_iff.mp h
  obtain ⟨c, -, hd⟩ := List.mem_flatMap.mp hparts
  exact n.decompose_of_mem hd

theorem flatMap_decompose_normalize (cs : List Char) :
    (n.normalize cs).flatMap n.decompose = n.normalize cs := by
  rw [List.flatMap_congr fun _ => n.decompose_of_mem_normalize, List.flatMap_singleton']

theorem normalize_normalize (cs : List Char) : n.normalize (n.normalize cs) = n.normalize cs := by
  rw [normalize, flatMap_decompose_normalize, normalize, n.order_order]

theorem normalForm_normalForm (s : String) : n.normalForm (n.normalForm s) = n.normalForm s := by
  rw [normalForm, normalForm, String.toList_ofList, normalize_normalize]

/-! ### Folding -/

theorem combiningClass_of_isAsciiChar {c : Char} (h : isAsciiChar c) : n.combiningClass c = 0 :=
  Decidable.byContradiction fun hclass =>
    n.not_isMark_of_isAsciiChar h (n.isMark_of_combiningClass hclass)

/-- ASCII characters are of class zero, so ordering keeps theirs. -/
theorem filter_isAsciiChar_order (cs : List Char) :
    (n.order cs).filter isAsciiChar = cs.filter isAsciiChar := by
  have hzero (ds : List Char) : (ds.filter (n.combiningClass · = 0)).filter isAsciiChar =
      ds.filter isAsciiChar := by
    rw [List.filter_filter]
    exact List.filter_congr fun c _ => Bool.and_eq_left_iff_imp.mpr fun hc =>
      decide_eq_true (n.combiningClass_of_isAsciiChar hc)
  rw [← hzero, n.filter_order, hzero]

/-- No ASCII character is a mark, so the marks would go without a step of their own. -/
theorem foldChars_eq_filter (cs : List Char) :
    n.foldChars cs = (n.normalize cs).filter isAsciiChar := by
  rw [foldChars, List.filter_filter]
  refine List.filter_congr fun c _ => Bool.and_eq_left_iff_imp.mpr fun hc => ?_
  rw [Bool.not_eq_true', ← Bool.not_eq_true]
  exact n.not_isMark_of_isAsciiChar hc

theorem foldChars_eq_flatMap (cs : List Char) :
    n.foldChars cs = cs.flatMap fun c => (n.decompose c).filter isAsciiChar := by
  rw [foldChars_eq_filter, normalize, filter_isAsciiChar_order, List.filter_flatMap]

theorem foldChars_append (as bs : List Char) :
    n.foldChars (as ++ bs) = n.foldChars as ++ n.foldChars bs := by
  simp only [foldChars_eq_flatMap, List.flatMap_append]

theorem all_isAsciiChar_foldChars (cs : List Char) : (n.foldChars cs).all isAsciiChar := by
  rw [foldChars, List.all_eq_true]
  exact fun c hc => (List.mem_filter.mp hc).2

theorem foldChars_of_ascii {cs : List Char} (h : cs.all isAsciiChar) : n.foldChars cs = cs := by
  have hchar : ∀ c ∈ cs, (n.decompose c).filter isAsciiChar = [c] := by
    intro c hc
    have hascii := List.all_eq_true.mp h c hc
    rw [n.decompose_of_isAsciiChar hascii, List.filter_cons_of_pos hascii, List.filter_nil]
  rw [foldChars_eq_flatMap, List.flatMap_congr hchar, List.flatMap_singleton']

theorem foldChars_normalize (cs : List Char) : n.foldChars (n.normalize cs) = n.foldChars cs := by
  rw [foldChars_eq_filter, normalize_normalize, ← foldChars_eq_filter]

theorem foldLaws : FoldLaws n.fold n.normalForm := by
  have hascii (a : String) : isAscii (n.fold a) := by
    rw [isAscii, fold, String.toList_ofList]
    exact n.all_isAsciiChar_foldChars a.toList
  have hself (a : String) (ha : isAscii a) : n.fold a = a := by
    rw [fold, n.foldChars_of_ascii ha, String.ofList_toList]
  refine ⟨hascii, hself, fun a => hself _ (hascii a), fun a b => ?_, fun a => ?_⟩
  · rw [fold, String.toList_append, foldChars_append, String.ofList_append, fold, fold]
  · rw [fold, normalForm, String.toList_ofList, foldChars_normalize, fold]

end Normalization

end RentBilling.Text
