/-!
ASCII texts and lengths in bytes.

Payment payloads are ASCII and their lengths are counted in bytes; for an ASCII text that is the
number of characters (`byteLength_eq_length`).
-/

namespace RentBilling.Text

def isAsciiChar (c : Char) : Bool := c.toNat < 128

/-- Every character is one of the 128 of ASCII. -/
def isAscii (s : String) : Bool := s.toList.all isAsciiChar

/-- Number of bytes the characters take in UTF-8. -/
def byteLength : List Char → Nat
  | [] => 0
  | c :: cs => c.utf8Size + byteLength cs

@[simp] theorem byteLength_nil : byteLength [] = 0 := rfl

@[simp] theorem byteLength_cons (c : Char) (cs : List Char) :
    byteLength (c :: cs) = c.utf8Size + byteLength cs := rfl

@[simp] theorem byteLength_append (as bs : List Char) :
    byteLength (as ++ bs) = byteLength as + byteLength bs := by
  induction as with
  | nil => simp
  | cons c as ih => simp [ih, Nat.add_assoc]

theorem utf8Size_of_isAsciiChar {c : Char} (h : isAsciiChar c) : c.utf8Size = 1 := by
  have h' : c.val.toNat < 128 := by simpa [isAsciiChar] using h
  have : c.val ≤ 0x7F := by
    rw [UInt32.le_iff_toNat_le]
    show c.val.toNat ≤ 127
    omega
  simp [Char.utf8Size, this]

theorem byteLength_eq_length {cs : List Char} (h : cs.all isAsciiChar) :
    byteLength cs = cs.length := by
  induction cs with
  | nil => rfl
  | cons c cs ih =>
    simp only [List.all_cons, Bool.and_eq_true] at h
    simp [utf8Size_of_isAsciiChar h.1, ih h.2, Nat.add_comm]

end RentBilling.Text
