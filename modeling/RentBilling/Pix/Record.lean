import RentBilling.Pix.Error
import RentBilling.Text.Ascii

/-!
Records: the fields of a payload as they are read back.

A record is a tag of two digits, a length in two characters and a value of that many bytes. Values
are not looked into.
-/

namespace RentBilling.Pix

open Numeral

/-- A tag and its value. -/
abbrev Record := String × String

/-- The number that the two characters of a length mean; the first may be a plus sign. -/
def readLength? (a b : Char) : Option Nat :=
  if b.isDigit then
    if a.isDigit then some (ofDigits [a, b])
    else if a = '+' then some (ofDigits [b]) else none
  else none

/-- The records of a run of ASCII characters. -/
def readRecords : List Char → Except Malformation (List Record)
  | [] => .ok []
  | a :: b :: c :: d :: rest =>
    let tag := String.ofList [a, b]
    if a.isDigit ∧ b.isDigit then
      match readLength? c d with
      | none => .error (.badLength (.ofList [c, d]) tag)
      | some n =>
        if rest.length < n then .error (.shortValue tag)
        else do
          let records ← readRecords (rest.drop n)
          .ok ((tag, .ofList (rest.take n)) :: records)
    else .error (.badTag tag)
  | cs => .error (.shortHeader (.ofList cs))
termination_by cs => cs.length
decreasing_by simp only [List.length_drop, List.length_cons]; omega

/-- The records of a text, which has to be ASCII. -/
def decodeFields (payload : String) : Except Error (List Record) :=
  if Text.isAscii payload then (readRecords payload.toList).mapError .malformed
  else .error (.malformed .notAscii)

end RentBilling.Pix
