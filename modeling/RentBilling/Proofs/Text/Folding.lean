import Mathlib.Data.List.Chain
import RentBilling.Proofs.Text.Normalization

/-!
Folding character by character.

Ordering marks moves a character only past marks, so all others stay in their order
(`filter_orderMarks`), and ordered text stays as it is (`orderMarks_orderMarks`). With that the
tables are a normalization (`Normalization.unicode`). A folded text is what its characters fold to,
one after the other (`foldChars_eq_flatMap`), and a text folds as its normal form does (`foldLaws`).
-/

namespace RentBilling.Text

/-- What a character leaves in a folded text. -/
def foldChar (c : Char) : List Char := (decompose c).filter isAsciiChar

theorem combiningClass_of_isAsciiChar {c : Char} (h : isAsciiChar c) : combiningClass c = 0 := by
  have hlt : c.toNat < 128 := of_decide_eq_true h
  exact if_pos (by omega)

/-! ## The order of marks -/

theorem filter_insertMark (c : Char) (cs : List Char) :
    (insertMark c cs).filter (combiningClass · = 0) =
      (c :: cs).filter (combiningClass · = 0) := by
  induction cs with
  | nil => rfl
  | cons d ds ih =>
    unfold insertMark
    split
    · next hmark =>
      -- What the character moves past is a mark, so it is dropped on either side.
      simp only [List.filter_cons, ih, hmark.1, decide_false, Bool.false_eq_true, if_false]
    · rfl

theorem orderMarks_cons (c : Char) (cs : List Char) :
    orderMarks (c :: cs) = insertMark c (orderMarks cs) := rfl

theorem filter_orderMarks (cs : List Char) :
    (orderMarks cs).filter (combiningClass · = 0) = cs.filter (combiningClass · = 0) := by
  induction cs with
  | nil => rfl
  | cons c cs ih => rw [orderMarks_cons, filter_insertMark, List.filter_cons, List.filter_cons, ih]

/-- A character that does not have to be put in front of the one before it. -/
def Settled (c d : Char) : Prop := combiningClass d = 0 ∨ combiningClass c ≤ combiningClass d

theorem not_moves_iff_settled {c d : Char} :
    ¬ (combiningClass d ≠ 0 ∧ combiningClass d < combiningClass c) ↔ Settled c d := by
  rw [Settled]
  omega

theorem insertMark_of_settled {c : Char} {cs : List Char} (h : ∀ d ∈ cs.head?, Settled c d) :
    insertMark c cs = c :: cs := by
  cases cs with
  | nil => rfl
  | cons d ds => exact if_neg (not_moves_iff_settled.mpr (h d rfl))

theorem head?_insertMark (c : Char) (cs : List Char) :
    (insertMark c cs).head? = some c ∨ (insertMark c cs).head? = cs.head? := by
  cases cs with
  | nil => exact .inl rfl
  | cons d ds =>
    unfold insertMark
    split
    · exact .inr rfl
    · exact .inl rfl

theorem isChain_insertMark (c : Char) {cs : List Char} (h : cs.IsChain Settled) :
    (insertMark c cs).IsChain Settled := by
  induction cs with
  | nil => exact .singleton c
  | cons d ds ih =>
    obtain ⟨hd, hds⟩ := List.isChain_cons.mp h
    unfold insertMark
    split
    · next hmoves =>
      refine List.isChain_cons.mpr ⟨fun e he => ?_, ih hds⟩
      -- Behind the mark stands what stood there before, or the character that moves past it.
      obtain hhead | hhead := head?_insertMark c ds
      · obtain rfl := Option.some.inj (hhead.symm.trans he)
        exact .inr (Nat.le_of_lt hmoves.2)
      · exact hd e (hhead ▸ he)
    · next hstays =>
      refine List.isChain_cons.mpr ⟨fun e he => ?_, h⟩
      obtain rfl := Option.some.inj he
      exact not_moves_iff_settled.mp hstays

theorem isChain_orderMarks (cs : List Char) : (orderMarks cs).IsChain Settled := by
  induction cs with
  | nil => exact .nil
  | cons c cs ih => exact isChain_insertMark c ih

theorem orderMarks_of_isChain {cs : List Char} (h : cs.IsChain Settled) : orderMarks cs = cs := by
  induction cs with
  | nil => rfl
  | cons c cs ih =>
    obtain ⟨hc, hcs⟩ := List.isChain_cons.mp h
    rw [orderMarks_cons, ih hcs, insertMark_of_settled hc]

theorem orderMarks_orderMarks (cs : List Char) : orderMarks (orderMarks cs) = orderMarks cs :=
  orderMarks_of_isChain (isChain_orderMarks cs)

/-! ## The tables as a normalization -/

/-- The tables, all of non-zero class being marks. -/
def Normalization.unicode : Normalization where
  decompose := Text.decompose
  order := orderMarks
  combiningClass := Text.combiningClass
  isMark c := Text.combiningClass c ≠ 0
  decompose_of_isAsciiChar h := decompose_of_lt (of_decide_eq_true h)
  decompose_of_mem := decompose_of_mem_decompose
  order_perm := orderMarks_perm
  filter_order := filter_orderMarks
  order_order := orderMarks_orderMarks
  isMark_of_combiningClass h := decide_eq_true h
  not_isMark_of_isAsciiChar h := by
    rw [decide_eq_true_iff, not_not]
    exact Text.combiningClass_of_isAsciiChar h

/-- The compatibility decomposition of a text. -/
def normalForm (s : String) : String := .ofList (decomposeAll s.toList)

section

variable {n : Normalization}

/-- Whatever else a normalization counts as marks, with the decompositions of the tables it folds as
they do. -/
theorem foldChars_eq_of_decompose_eq (h : n.decompose = decompose) (cs : List Char) :
    n.foldChars cs = foldChars cs := by
  have hflat : n.foldChars cs = Normalization.unicode.foldChars cs := by
    rw [Normalization.foldChars_eq_flatMap, Normalization.foldChars_eq_flatMap, h]
    rfl
  rw [hflat, Normalization.foldChars_eq_filter]
  rfl

theorem fold_eq_of_decompose_eq (h : n.decompose = decompose) : n.fold = fold := by
  funext s
  rw [Normalization.fold, foldChars_eq_of_decompose_eq h, fold]

theorem normalForm_eq_of_decompose_eq (h : n.decompose = decompose)
    (horder : n.order = orderMarks) : n.normalForm = normalForm := by
  funext s
  rw [Normalization.normalForm, Normalization.normalize, h, horder, normalForm, decomposeAll]

end

theorem foldChars_unicode (cs : List Char) : Normalization.unicode.foldChars cs = foldChars cs :=
  foldChars_eq_of_decompose_eq rfl cs

theorem fold_unicode : Normalization.unicode.fold = fold := fold_eq_of_decompose_eq rfl

theorem normalForm_unicode : Normalization.unicode.normalForm = normalForm :=
  normalForm_eq_of_decompose_eq rfl rfl

theorem foldChars_eq_flatMap (cs : List Char) : foldChars cs = cs.flatMap foldChar := by
  rw [← foldChars_unicode, Normalization.foldChars_eq_flatMap]
  rfl

/-- ASCII characters fold to themselves. -/
theorem foldChars_of_ascii {cs : List Char} (h : cs.all isAsciiChar) : foldChars cs = cs := by
  rw [← foldChars_unicode, Normalization.foldChars_of_ascii _ h]

theorem foldLaws : FoldLaws fold normalForm := by
  rw [← fold_unicode, ← normalForm_unicode]
  exact Normalization.unicode.foldLaws

theorem normalForm_normalForm (s : String) : normalForm (normalForm s) = normalForm s := by
  rw [← normalForm_unicode]
  exact Normalization.unicode.normalForm_normalForm s

end RentBilling.Text
