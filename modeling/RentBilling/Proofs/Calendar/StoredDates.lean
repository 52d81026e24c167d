import RentBilling.Calendar.StoredDate
import RentBilling.Proofs.Calendar.Spellings

/-!
Stored dates read back.

The parts of a due date, joined by hyphens in the opposite order, are read as the same date, however
they are spelled (`ofText?_ofSpelling`). Writing joins the parts of the spelling that due dates are
written with, so every date is read back (`ofText?_text`).
-/

namespace RentBilling.Date

open DueDate Numeral Text

/-- No digit runs on into the hyphen behind it. -/
theorem hyphen_stops (cs : List Char) : ∀ c ∈ ('-' :: cs).head?, c.isDigit = false := by
  simp

/-- The year first and the day last. -/
def storedChars (s : Spelling) : List Char :=
  s.fromYear ++ '-' :: (s.monthBlanks ++ (s.month ++ '-' :: s.day))

theorem ofText?_ofSpelling {s : Spelling} {d : Date} (h : s.date? = some d) :
    ofText? (.ofList (storedChars s)) = some d := by
  obtain ⟨hyear, hmonth, hday⟩ := parts_of_of? h
  have hyearRead : readYear (storedChars s) =
      .ok (d.year, '-' :: (s.monthBlanks ++ (s.month ++ '-' :: s.day))) :=
    (readYear_numeral_iff (hyphen_stops _)).mpr ⟨s.yearBlanks, s.sign, s.year, s.isBlank_year,
      s.isNumeral_year, by simp [storedChars, Spelling.fromYear], hyear, d.year_bounds⟩
  have hmonthRead : readPart 12 (s.monthBlanks ++ (s.month ++ '-' :: s.day)) =
      .ok (d.month, '-' :: s.day) :=
    (readPart_numeral_iff (hyphen_stops _)).mpr ⟨s.monthBlanks, s.month, s.isBlank_month,
      s.isNumeral_month, rfl, hmonth, d.month_bounds⟩
  have hdayRead : readPart 31 s.day = .ok (d.day, []) :=
    (readPart_numeral_iff (by simp)).mpr ⟨[], s.day, by simp, s.isNumeral_day,
      (List.append_nil _).symm, hday, d.day_bounds⟩
  have hhyphen : ∀ cs, readHyphen? ('-' :: cs) = some cs := fun _ => rfl
  unfold ofText?
  rw [String.toList_ofList, hyearRead]
  simp only [Except.toOption, Option.bind_eq_bind, Option.bind_some, hhyphen, hmonthRead, hdayRead]
  exact d.of?_self

theorem text_eq (d : Date) : d.text = .ofList (storedChars (Spelling.printed d)) := by
  rw [Date.text, Spelling.yearText_eq]
  simp [storedChars, Spelling.fromYear, Spelling.printed]

/-- A date is read back from its text. -/
theorem ofText?_text (d : Date) : ofText? d.text = some d := by
  rw [text_eq, ofText?_ofSpelling (Spelling.date?_printed d)]

end RentBilling.Date
