import RentBilling.Numeral.Decimal

/-!
Reference months: the month that a bill charges for.

A month is written `YYYY-MM`, with a year of four digits. Only that form is read, so that a month
has one written form.
-/

namespace RentBilling

/-- A month of a year from 0 to 9999. -/
structure ReferenceMonth where
  year : Nat
  month : Nat
  year_le : year ≤ 9999
  one_le_month : 1 ≤ month
  month_le : month ≤ 12
  deriving DecidableEq, Repr

namespace ReferenceMonth

/-- Why something is not a reference month. -/
inductive Fault where
  | malformed (text : String)
  | yearTooLong
  | noSuchMonth (month : Nat)
  deriving DecidableEq, Repr

/-- The month of that year, where the year is looked at first. -/
def of? (year month : Nat) : Except Fault ReferenceMonth :=
  if hy : year ≤ 9999 then
    if hm : 1 ≤ month ∧ month ≤ 12 then .ok ⟨year, month, hy, hm.1, hm.2⟩
    else .error (.noSuchMonth month)
  else .error .yearTooLong

open Numeral

/-- The month that a text of the form `YYYY-MM` names. -/
def ofText (text : String) : Except Fault ReferenceMonth :=
  match text.toList with
  | [a, b, c, d, '-', e, f] =>
    if [a, b, c, d, e, f].all Char.isDigit then of? (ofDigits [a, b, c, d]) (ofDigits [e, f])
    else .error (.malformed text)
  | _ => .error (.malformed text)

/-- The month as `YYYY-MM`. -/
def text (m : ReferenceMonth) : String := .ofList (padded 4 m.year ++ '-' :: padded 2 m.month)

instance : ToString ReferenceMonth := ⟨text⟩

/-- Earlier years first, and earlier months within a year. -/
instance : LT ReferenceMonth := ⟨fun a b => a.year < b.year ∨ (a.year = b.year ∧ a.month < b.month)⟩

instance : LE ReferenceMonth := ⟨fun a b => ¬ b < a⟩

instance (a b : ReferenceMonth) : Decidable (a < b) :=
  inferInstanceAs (Decidable (a.year < b.year ∨ (a.year = b.year ∧ a.month < b.month)))

instance (a b : ReferenceMonth) : Decidable (a ≤ b) := inferInstanceAs (Decidable (¬ b < a))

/-- The months in ascending order. -/
def sort (months : List ReferenceMonth) : List ReferenceMonth := months.mergeSort (fun a b => a ≤ b)

/-! ## Names -/

/-- The Portuguese names of the twelve months. -/
def names : List String :=
  ["Janeiro", "Fevereiro", "Março", "Abril", "Maio", "Junho", "Julho", "Agosto", "Setembro",
    "Outubro", "Novembro", "Dezembro"]

/-- The name of the month. -/
def name (m : ReferenceMonth) : String :=
  names.get ⟨m.month - 1, by
    have h : names.length = 12 := rfl
    have := m.one_le_month
    have := m.month_le
    omega⟩

/-- The month as invoices print it: `Março/2025`. -/
def label (m : ReferenceMonth) : String := m.name ++ "/" ++ .ofList (padded 4 m.year)

end ReferenceMonth

end RentBilling
