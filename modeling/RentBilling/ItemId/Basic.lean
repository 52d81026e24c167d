import RentBilling.Numeral.Hex

/-!
Identifiers of template items: 128-bit numbers, ordered as numbers.

Written in lower case as 32 hexadecimal digits, parted by hyphens into groups of 8, 4, 4, 4 and 12.
-/

namespace RentBilling

/-- The identifier of a template item. -/
structure ItemId where
  value : BitVec 128
  deriving DecidableEq, Repr

namespace ItemId

def toNat (id : ItemId) : Nat := id.value.toNat

instance : LT ItemId := ⟨fun a b => a.toNat < b.toNat⟩

instance : LE ItemId := ⟨fun a b => a.toNat ≤ b.toNat⟩

instance (a b : ItemId) : Decidable (a < b) := inferInstanceAs (Decidable (a.toNat < b.toNat))

instance (a b : ItemId) : Decidable (a ≤ b) := inferInstanceAs (Decidable (a.toNat ≤ b.toNat))

theorem toNat_injective {a b : ItemId} (h : a.toNat = b.toNat) : a = b := by
  cases a; cases b
  simpa [toNat, BitVec.toNat_inj] using h

/-- The identifiers in ascending order. -/
def sort (ids : List ItemId) : List ItemId := ids.mergeSort (fun a b => a ≤ b)

/-! ## Written form -/

/-- Sizes of the groups of digits. -/
def groupSizes : List Nat := [8, 4, 4, 4, 12]

/-- Cuts digits into groups of the given sizes; what is left over is dropped. -/
def cut : List Nat → List Char → List (List Char)
  | [], _ => []
  | n :: sizes, ds => ds.take n :: cut sizes (ds.drop n)

/-- The 32 hexadecimal digits. -/
def hexChars (id : ItemId) : List Char := Numeral.fixedHex Numeral.hexDigit 32 id.toNat

/-- The digits in groups, as identifiers are written. -/
def text (id : ItemId) : String := .ofList (['-'].intercalate (cut groupSizes id.hexChars))

/-- The digits alone. -/
def hexText (id : ItemId) : String := .ofList id.hexChars

instance : ToString ItemId := ⟨text⟩

end ItemId

end RentBilling
