import RentBilling.Numeral.Hex
import RentBilling.Text.Split

/-!
Tables over code points, written as text.

A table is a sequence of words between spaces or line ends. A word is a code point or a range
`first-last`, then perhaps `=` and numbers parted by `+`; every number is hexadecimal. Rows stand in
ascending order and do not overlap, so that a row is found by halving.
-/

namespace RentBilling.Text

/-- What a table says about the code points from `first` to `last`. -/
structure CodeRow where
  first : Nat
  last : Nat
  values : List Nat
  deriving Repr, Inhabited

abbrev CodeTable := Array CodeRow

namespace CodeTable

def number (cs : List Char) : Nat := (Numeral.ofHex? cs).getD 0

def rowOfWord (word : List Char) : CodeRow :=
  let range := splitChars (· == '-') (word.takeWhile (· ≠ '='))
  let values := match word.dropWhile (· ≠ '=') with
    | _ :: cs => (splitChars (· == '+') cs).map number
    | [] => []
  match range with
  | [first, last] => ⟨number first, number last, values⟩
  | cs => ⟨number cs.flatten, number cs.flatten, values⟩

/-- The table that a text writes down. -/
def ofText (text : String) : CodeTable :=
  let words := splitChars (fun c => c == ' ' || c == '\n') text.toList
  ((words.filter (· ≠ [])).map rowOfWord).toArray

/-- Looks for the row of `n` among those from `low` to just below `high`. -/
def search (table : CodeTable) (n low high : Nat) : Option CodeRow :=
  if _ : low < high then
    let middle := (low + high) / 2
    match table[middle]? with
    | none => none
    | some row =>
      if n < row.first then search table n low middle
      else if row.last < n then search table n (middle + 1) high
      else some row
  else none
termination_by high - low

/-- The row that covers the code point `n`. -/
def find? (table : CodeTable) (n : Nat) : Option CodeRow := search table n 0 table.size

/-- Some row covers the character. -/
def covers (table : CodeTable) (c : Char) : Bool := (table.find? c.toNat).isSome

end CodeTable

end RentBilling.Text
