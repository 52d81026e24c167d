import RentBilling.Money.Centavos
import RentBilling.Numeral.Decimal
import RentBilling.Numeral.Rounding
import RentBilling.Text.Blank

/-!
Amounts as people type them.

With a comma in it, a text has points between thousands and the comma before the centavos; without
one, the point is the decimal mark. What is left is a decimal numeral, perhaps with a sign and a
power of ten. Its value is rounded to a double, multiplied by a hundred, rounded to a double again
and then to an integer, which is the amount if it fits. A negative number is refused unless the
double nearest to it is zero.
-/

namespace RentBilling

open Numeral

/-- A decimal numeral `±whole.fraction·10^power`. -/
structure DecimalNumeral where
  negative : Bool
  whole : List Char
  fraction : List Char
  power : Int
  deriving DecidableEq, Repr

namespace DecimalNumeral

/-- The sign in front, if any, and the rest. -/
def readSign : List Char → Bool × List Char
  | '-' :: cs => (true, cs)
  | '+' :: cs => (false, cs)
  | cs => (false, cs)

/-- The power of ten at the end: nothing, or `e`, an optional sign and digits. -/
def readPower : List Char → Option Int
  | [] => some 0
  | e :: cs =>
    if e = 'e' ∨ e = 'E' then
      let (negative, ds) := readSign cs
      if ds ≠ [] ∧ ds.all Char.isDigit then
        some (if negative then -(ofDigits ds : Int) else ofDigits ds)
      else none
    else none

/-- Digits, optionally a point and more digits, with a digit on one side at least. -/
def readUnsigned (negative : Bool) (cs : List Char) : Option DecimalNumeral :=
  let whole := cs.takeWhile Char.isDigit
  let rest := cs.dropWhile Char.isDigit
  let (fraction, rest) := match rest with
    | '.' :: r => (r.takeWhile Char.isDigit, r.dropWhile Char.isDigit)
    | r => ([], r)
  if whole = [] ∧ fraction = [] then none
  else (readPower rest).map (⟨negative, whole, fraction, ·⟩)

/-- The numeral that a text is, with nothing before or after it. -/
def ofChars? (cs : List Char) : Option DecimalNumeral :=
  let (negative, rest) := readSign cs
  readUnsigned negative rest

/-- The power of ten that scales all the digits taken as one integer. Beyond four hundred above
zero, or below minus the number of digits, it decides the answer by itself and is cut off. -/
def scale (d : DecimalNumeral) : Int :=
  let exact := d.power - d.fraction.length
  max (min exact 400) (-((d.whole.length + d.fraction.length + 400 : Nat) : Int))

/-- The value without its sign. -/
def magnitude (d : DecimalNumeral) : Rat :=
  (ofDigits (d.whole ++ d.fraction) : Rat) * 10 ^ d.scale

end DecimalNumeral

namespace Centavos

/-- The amount closest to `reais`, by way of doubles. -/
def ofReais? (reais : Rat) : Option Centavos :=
  ofNat? (roundHalfEven (nearestDouble (nearestDouble reais * 100))).toNat

/-- Reads points as thousands marks and commas as decimal marks if there is a comma at all. -/
def withDecimalPoint (cs : List Char) : List Char :=
  if ',' ∈ cs then (cs.filter (· ≠ '.')).map (fun c => if c = ',' then '.' else c) else cs

/-- The amount that a typed text means. -/
def ofEntry? (text : String) : Option Centavos := do
  let d ← DecimalNumeral.ofChars? (withDecimalPoint (Text.trimChars text.toList))
  if d.negative ∧ nearestDouble d.magnitude ≠ 0 then none
  ofReais? d.magnitude

end Centavos

end RentBilling
