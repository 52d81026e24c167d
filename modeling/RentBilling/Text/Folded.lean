import RentBilling.Text.Ascii
import RentBilling.Text.Decomposition

/-!
Texts folded to ASCII, as payment payloads need them.

A text is decomposed and everything outside ASCII is dropped: accents vanish with their marks, and
characters without an ASCII counterpart vanish whole (`São Paulo` folds to `Sao Paulo`).
-/

namespace RentBilling.Text

/-- The ASCII characters of the decomposition. -/
def foldChars (cs : List Char) : List Char := (decomposeAll cs).filter isAsciiChar

/-- The text folded to ASCII. -/
def fold (s : String) : String := .ofList (foldChars s.toList)

theorem all_isAsciiChar_foldChars (cs : List Char) : (foldChars cs).all isAsciiChar := by
  simp [foldChars]

theorem isAscii_fold (s : String) : isAscii (fold s) := by
  simpa [isAscii, fold] using all_isAsciiChar_foldChars s.toList

/-- Something other than blanks is left once the text is folded. -/
def survivesFolding (s : String) : Bool := !isBlankText (fold s)

end RentBilling.Text
