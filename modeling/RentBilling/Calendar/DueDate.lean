import RentBilling.Calendar.Date
import RentBilling.Text.Blank

/-!
Due dates as text: `dd/mm/YYYY`.

Writing pads the day and the month to two digits. Reading takes the parts in order, skips blanks in
front of each, and checks each as soon as it is read; the first part that does not fit decides what
is wrong.
-/

namespace RentBilling.DueDate

open Numeral

/-- Why a text is not a due date. -/
inductive Fault where
  | endsEarly
  | badCharacter
  | outOfRange
  | goesOn
  deriving DecidableEq, Repr

/-- What is wrong, in words. -/
def Fault.reason : Fault → String
  | endsEarly => "premature end of input"
  | badCharacter => "input contains invalid characters"
  | outOfRange => "input is out of range"
  | goesOn => "trailing input"

/-- Reads a number of one to `most` digits, or of any count. -/
def readNumber (most : Option Nat) (cs : List Char) : Except Fault (Nat × List Char) :=
  match cs with
  | [] => .error .endsEarly
  | c :: _ =>
    if c.isDigit then
      let run := cs.takeWhile Char.isDigit
      let taken := match most with
        | some n => run.take n
        | none => run
      .ok (ofDigits taken, cs.drop taken.length)
    else .error .badCharacter

/-- Reads the slash between two parts. -/
def readSlash : List Char → Except Fault (List Char)
  | [] => .error .endsEarly
  | c :: cs => if c = '/' then .ok cs else .error .badCharacter

/-- Reads a day or a month, which must lie between 1 and `greatest`. -/
def readPart (greatest : Nat) (cs : List Char) : Except Fault (Nat × List Char) := do
  let (n, rest) ← readNumber (some 2) (Text.trimFront cs)
  if 1 ≤ n ∧ n ≤ greatest then .ok (n, rest) else .error .outOfRange

/-- Reads a year: up to four digits, or a sign and any count of them. -/
def readYear (cs : List Char) : Except Fault (Int × List Char) := do
  let (year, rest) ← match Text.trimFront cs with
    | '-' :: ds => (readNumber none ds).map fun (n, rest) => (-(n : Int), rest)
    | '+' :: ds => (readNumber none ds).map fun (n, rest) => ((n : Int), rest)
    | ds => (readNumber (some 4) ds).map fun (n, rest) => ((n : Int), rest)
  if Int32.minValue.toInt ≤ year ∧ year ≤ Int32.maxValue.toInt then .ok (year, rest)
  else .error .outOfRange

/-- Reads a due date that is the whole of a run of characters. -/
def ofChars (cs : List Char) : Except Fault Date := do
  let (day, cs) ← readPart 31 cs
  let cs ← readSlash cs
  let (month, cs) ← readPart 12 cs
  let cs ← readSlash cs
  let (year, cs) ← readYear cs
  if cs ≠ [] then .error .goesOn
  else match Date.of? year month day with
    | some date => .ok date
    | none => .error .outOfRange

/-- The date that a text names, blanks around it aside. -/
def ofText (text : String) : Except Fault Date := ofChars (Text.trimChars text.toList)

/-- The date as `dd/mm/YYYY`. -/
def text (d : Date) : String :=
  .ofList (padded 2 d.day ++ '/' :: padded 2 d.month ++ '/' :: Date.yearText d.year)

end RentBilling.DueDate
