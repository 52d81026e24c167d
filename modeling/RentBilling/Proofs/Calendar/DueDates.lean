import RentBilling.Proofs.Calendar.Spellings
import RentBilling.Refusal

/-!
Written due dates read back.

The written form of a date begins and ends with a digit, so the blanks around it are all that
trimming takes off (`trim_between_blanks`), and what is left is the spelling that every date has
(`Spelling.printed`). That goes for all dates, whatever the sign and the length of their year
(`written_dates_read_back`).
-/

namespace RentBilling.DueDate

open Numeral Text

/-- The digits of the year end the text. -/
theorem isDigit_of_mem_getLast?_chars (s : Spelling) : ∀ c ∈ s.chars.getLast?, c.isDigit := by
  intro c hc
  have hchars : s.chars =
      s.day ++ '/' :: (s.monthBlanks ++ (s.month ++ '/' :: (s.yearBlanks ++ signChars s.sign))) ++
        s.year := by
    simp [Spelling.chars, Spelling.fromMonth, Spelling.fromYear]
  rw [hchars, List.getLast?_append_of_ne_nil _ s.isNumeral_year.ne_nil] at hc
  exact s.isNumeral_year.isDigit c (List.mem_of_getLast? hc)

theorem trim_between_blanks {before after : String} (hbefore : isBlankText before)
    (hafter : isBlankText after) (s : Spelling) : trim (before ++ s.text ++ after) = s.text := by
  have hfirst : ∀ c ∈ (s.chars ++ after.toList).head?, isBlank c = false := by
    rw [Spelling.chars, List.append_assoc]
    exact s.isNumeral_day.not_isBlank _
  have hlast : ∀ c ∈ s.chars.reverse.head?, isBlank c = false := by
    rw [List.head?_reverse]
    exact fun c hc => not_isBlank_of_isDigit (isDigit_of_mem_getLast?_chars s c hc)
  have hblanks : ∀ c ∈ after.toList.reverse, isBlank c := fun c hc =>
    List.all_eq_true.mp hafter c (List.mem_reverse.mp hc)
  rw [Spelling.eq_text_iff, toList_trim, String.toList_append, String.toList_append,
    List.append_assoc, Spelling.text, String.toList_ofList, trimChars,
    trimFront_append (List.all_eq_true.mp hbefore) hfirst, trimBack, List.reverse_append,
    dropWhile_append_of_stop hblanks hlast, List.reverse_reverse]

/-- A spelling of a date is read as the date, with blanks around it or without. -/
theorem ofText_between_blanks {before after : String} (hbefore : isBlankText before)
    (hafter : isBlankText after) {s : Spelling} {d : Date} (h : s.date? = some d) :
    ofText (before ++ s.text ++ after) = .ok d :=
  ofText_eq_ok_iff.mpr ⟨s, trim_between_blanks hbefore hafter s, h⟩

/-- **Written due dates.** Every date of the calendar is read back from its text, with any blanks
around it. So no two dates have the same text. -/
theorem written_dates_read_back :
    (∀ (d : Date) (before after : String), isBlankText before → isBlankText after →
      readDueDate (before ++ text d ++ after) = .ok d) ∧
    Function.Injective text := by
  have hreads : ∀ (d : Date) (before after : String), isBlankText before → isBlankText after →
      readDueDate (before ++ text d ++ after) = .ok d := by
    intro d before after hbefore hafter
    rw [Spelling.text_printed, readDueDate, mapError_eq_ok]
    exact ofText_between_blanks hbefore hafter (Spelling.date?_printed d)
  refine ⟨hreads, fun d d' h => ?_⟩
  have hd := hreads d "" "" rfl rfl
  rw [h, hreads d' "" "" rfl rfl] at hd
  exact (Except.ok.inj hd).symm

/-- A leap day before the year 0. -/
def leapDay : Date := ⟨-4, 2, 29, by decide⟩

/-- The last day of the calendar. -/
def lastDay : Date := ⟨262142, 12, 31, by decide⟩

theorem written_dates_read_back_leap :
    readDueDate "\u3000\n29/02/-0004\t " = .ok leapDay ∧
      readDueDate "31/12/+262142" = .ok lastDay := by
  obtain ⟨hreads, -⟩ := written_dates_read_back
  have hleap : "\u3000\n" ++ text leapDay ++ "\t " = "\u3000\n29/02/-0004\t " := by decide
  have hlast : "" ++ text lastDay ++ "" = "31/12/+262142" := by decide
  exact ⟨hleap ▸ hreads leapDay _ _ (by decide) (by decide), hlast ▸ hreads lastDay _ _ rfl rfl⟩

end RentBilling.DueDate
