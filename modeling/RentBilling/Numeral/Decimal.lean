/-!
Decimal numerals: the digits of a number, padded and grouped forms, and the number a run of digits
denotes.
-/

namespace RentBilling.Numeral

/-- The decimal digits of `n`, without leading zeros. -/
def digits (n : Nat) : List Char := Nat.toDigits 10 n

/-- The digits of `n` after as many zeros as fill `width` places. -/
def padded (width n : Nat) : List Char :=
  List.replicate (width - (digits n).length) '0' ++ digits n

/-- Puts a point after every third digit, the least significant digit first. -/
def groupLeast : List Char → List Char
  | a :: b :: c :: d :: rest => a :: b :: c :: '.' :: groupLeast (d :: rest)
  | ds => ds

/-- The digits of `n` in groups of three, parted by points: `1234567` is `1.234.567`. -/
def grouped (n : Nat) : List Char := (groupLeast (digits n).reverse).reverse

/-- The number that a run of decimal digits denotes. -/
def ofDigits (cs : List Char) : Nat := Nat.ofDigitChars 10 cs 0

theorem ofDigits_digits (n : Nat) : ofDigits (digits n) = n := by
  simp [ofDigits, digits, Nat.ofDigitChars_ten_toDigits]

theorem isDigit_of_mem_digits {n : Nat} {c : Char} (h : c ∈ digits n) : c.isDigit :=
  Nat.isDigit_of_mem_toDigits (by decide) (by decide) h

theorem digits_ne_nil (n : Nat) : digits n ≠ [] := Nat.toDigits_ne_nil

theorem length_padded (width n : Nat) : (padded width n).length = max width (digits n).length := by
  simp [padded]; omega

theorem ofDigits_padded (width n : Nat) : ofDigits (padded width n) = n := by
  simp [ofDigits, padded, digits, Nat.ofDigitChars_append, Nat.ofDigitChars_replicate_zero,
    Nat.ofDigitChars_ten_toDigits]

end RentBilling.Numeral
