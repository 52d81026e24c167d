import RentBilling.Calendar.DueDate

/-!
Dates as they are stored: `YYYY-MM-DD`.

The parts are read like those of a due date, in the opposite order: a year of up to four digits, or
of any count behind a sign, then a month and a day of one or two, with blanks in front of each.
Blanks may also stand in front of the hyphens and at the end.
-/

namespace RentBilling.Date

/-- Reads the hyphen between two parts. -/
def readHyphen? (cs : List Char) : Option (List Char) :=
  match Text.trimFront cs with
  | '-' :: cs => some cs
  | _ => none

/-- The date that a text names. -/
def ofText? (text : String) : Option Date := do
  let (year, cs) ← (DueDate.readYear text.toList).toOption
  let cs ← readHyphen? cs
  let (month, cs) ← (DueDate.readPart 12 cs).toOption
  let cs ← readHyphen? cs
  let (day, cs) ← (DueDate.readPart 31 cs).toOption
  if Text.trimFront cs ≠ [] then none
  of? year month day

end RentBilling.Date
