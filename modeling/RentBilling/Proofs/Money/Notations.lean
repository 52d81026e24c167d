import RentBilling.Proofs.Money.Entry
import RentBilling.Proofs.Numeral.Grouped

/-!
The notations of an amount agree.

What a form field shows has the whole reais in thousands and two places behind the comma
(`fieldText_inThousands`). Without its points and with a point for its comma it is the plain text
(`plainText_of_fieldText`), which says the amount exactly. So each notation tells amounts apart, and
both texts are read alike when they are typed back, whatever that comes to (`notations_agree`).
-/

namespace RentBilling.Centavos

open Numeral

theorem fieldText_inThousands (a : Centavos) :
    ∃ (first : List Char) (groups : List (List Char)) (places : List Char),
      a.fieldText.toList = first ++ groups.flatMap ('.' :: ·) ++ ',' :: places ∧
      InThousands first groups ∧ places.length = 2 ∧ ∀ c ∈ places, c.isDigit := by
  obtain ⟨first, groups, hpoints, -, hgroups⟩ := grouped_eq a.reais
  refine ⟨first, groups, padded 2 a.cents, ?_, hgroups, length_padded_cents a,
    fun c hc => isDigit_of_mem_padded hc⟩
  rw [fieldText, String.toList_ofList, hpoints]

theorem plainText_of_fieldText (a : Centavos) :
    (a.fieldText.toList.filter (· ≠ '.')).map (fun c => if c = ',' then '.' else c) =
      a.plainText.toList := by
  have hcomma : ',' ∈ a.fieldText.toList := by
    rw [fieldText, String.toList_ofList]
    exact List.mem_append_right _ (.head _)
  have hpoint := withDecimalPoint_of_filter (filter_fieldText a) (isDigit_of_mem_reais_cents a)
  rw [withDecimalPoint, if_pos hcomma] at hpoint
  rw [hpoint, plainText, String.toList_ofList]

theorem fieldText_injective : Function.Injective fieldText := by
  intro a b h
  apply plainText_injective
  rw [← String.toList_inj, ← plainText_of_fieldText a, ← plainText_of_fieldText b, h]

theorem label_injective : Function.Injective label := by
  intro a b h
  have htext := congrArg String.toList h
  rw [label, label, String.toList_append, String.toList_append] at htext
  exact fieldText_injective (String.toList_inj.mp (List.append_cancel_left htext))

/-- **One amount, three notations.** Every amount has its form field's text in thousands, with the
points where a walk along the digits puts them; without points and comma it is the plain text, whose
exact value is the amount. No notation is shared by two amounts, and both texts are read alike. -/
theorem notations_agree :
    (∀ a : Centavos,
      (∃ (first : List Char) (groups : List (List Char)) (places : List Char),
        a.fieldText.toList = first ++ groups.flatMap ('.' :: ·) ++ ',' :: places ∧
        InThousands first groups ∧ places.length = 2 ∧ ∀ c ∈ places, c.isDigit) ∧
      a.fieldText.toList = pointed (digits a.reais).length 0 (digits a.reais) ++
        ',' :: padded 2 a.cents ∧
      (a.fieldText.toList.filter (· ≠ '.')).map (fun c => if c = ',' then '.' else c) =
        a.plainText.toList ∧
      (∃ x, decimalValue? a.plainText.toList = some x ∧ x * 100 = a.toNat) ∧
      ofEntry? a.fieldText = ofEntry? a.plainText) ∧
    Function.Injective label ∧ Function.Injective fieldText ∧ Function.Injective plainText := by
  refine ⟨fun a => ⟨fieldText_inThousands a, ?_, plainText_of_fieldText a, ?_, ?_⟩,
    label_injective, fieldText_injective, fun _ _ => plainText_injective⟩
  · rw [fieldText, String.toList_ofList, grouped_eq_pointed]
  · refine ⟨_, decimalValue?_plainText a, ?_⟩
    exact div_mul_cancel₀ _ (by norm_num)
  · rw [ofEntry?_of_plainDecimal (plainDecimal_fieldText a),
      ofEntry?_of_plainDecimal (plainDecimal_plainText a)]

end RentBilling.Centavos
