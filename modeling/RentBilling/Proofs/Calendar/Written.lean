import RentBilling.Calendar.Date
import RentBilling.Calendar.ReferenceMonth
import RentBilling.Proofs.Numeral.Decimal

/-!
Written months read back, and the parts of dates.

The padded digits of a month fill their width, so the hyphen stands where the reader looks for it
(`ReferenceMonth.ofText_text`). The day and the month of a date fit into two digits, and its year
lies among the numbers that are read as one.
-/

namespace RentBilling

open Numeral

/-! ## Months -/

theorem ReferenceMonth.of?_self (m : ReferenceMonth) : of? m.year m.month = .ok m := by
  rw [of?, dif_pos m.year_le, dif_pos ⟨m.one_le_month, m.month_le⟩]

/-- A month is read back from its text. -/
theorem ReferenceMonth.ofText_text (m : ReferenceMonth) : ofText m.text = .ok m := by
  have hyearLe := m.year_le
  have hmonthLe := m.month_le
  obtain ⟨a, b, c, d, habcd, hdigits⟩ := exists_padded_four (by omega : m.year < 10000)
  obtain ⟨e, f, hef, he, hf⟩ := exists_padded_two (by omega : m.month < 100)
  have htext : m.text.toList = [a, b, c, d, '-', e, f] := by
    rw [text, String.toList_ofList, habcd, hef]
    rfl
  have hall : [a, b, c, d, e, f].all Char.isDigit := by
    simp only [List.forall_mem_cons] at hdigits
    simp [hdigits, he, hf]
  have hyear : ofDigits [a, b, c, d] = m.year := by rw [← habcd, ofDigits_padded]
  have hmonth : ofDigits [e, f] = m.month := by rw [← hef, ofDigits_padded]
  have hread : ofText m.text = of? (ofDigits [a, b, c, d]) (ofDigits [e, f]) := by
    rw [ofText, htext]
    exact if_pos hall
  rw [hread, hyear, hmonth, of?_self]

/-! ## Dates -/

namespace Date

theorem of?_self (d : Date) : of? d.year d.month d.day = some d := by
  rw [of?, dif_pos d.isDate]

theorem parts_of_of? {year : Int} {month day : Nat} {d : Date} (h : of? year month day = some d) :
    d.year = year ∧ d.month = month ∧ d.day = day := by
  unfold of? at h
  split at h
  · obtain rfl := Option.some.inj h
    exact ⟨rfl, rfl, rfl⟩
  · contradiction

theorem daysInMonth_le (year : Int) (month : Nat) : daysInMonth year month ≤ 31 := by
  unfold daysInMonth
  split
  · split <;> decide
  · split
    · decide
    · split <;> decide

theorem day_bounds (d : Date) : 1 ≤ d.day ∧ d.day ≤ 31 :=
  ⟨d.isDate.2.2.1, d.isDate.2.2.2.trans (daysInMonth_le d.year d.month)⟩

theorem day_lt (d : Date) : d.day < 100 := by
  have := d.day_bounds
  omega

theorem month_bounds (d : Date) : 1 ≤ d.month ∧ d.month ≤ 12 := by
  have hone := d.isDate.2.2.1
  have hdays := d.isDate.2.2.2
  by_contra hnone
  have hzero : daysInMonth d.year d.month = 0 := by
    have hshort : d.month ∉ [4, 6, 9, 11] := by
      simp only [List.mem_cons, List.not_mem_nil, or_false]
      omega
    rw [daysInMonth, if_neg (by omega), if_neg hshort, if_neg hnone]
  omega

theorem month_lt (d : Date) : d.month < 100 := by
  have := d.month_bounds
  omega

/-- The calendar ends long before the numbers that are read as a year. -/
theorem year_bounds (d : Date) :
    Int32.minValue.toInt ≤ d.year ∧ d.year ≤ Int32.maxValue.toInt :=
  ⟨le_trans (by decide) d.isDate.1, le_trans d.isDate.2.1 (by decide)⟩

end Date

end RentBilling
