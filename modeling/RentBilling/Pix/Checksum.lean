import RentBilling.Numeral.Hex
import RentBilling.Text.Utf8

/-!
The checksum that closes a payment payload.

A cyclic redundancy check of 16 bits: polynomial `x^16 + x^12 + x^5 + 1`, all ones at the start,
most significant bit first, nothing added at the end.
-/

namespace RentBilling.Pix.Checksum

/-- The polynomial without its leading term. -/
def polynomial : BitVec 16 := 0x1021#16

/-- The register before any byte. -/
def start : BitVec 16 := 0xFFFF#16

/-- Shifts the register by one bit and takes the polynomial off if a one falls out. -/
def shift (r : BitVec 16) : BitVec 16 :=
  if r.msb then (r <<< 1) ^^^ polynomial else r <<< 1

/-- Takes in one byte. -/
def step (r : BitVec 16) (byte : UInt8) : BitVec 16 :=
  Nat.repeat shift 8 (r ^^^ (byte.toBitVec.zeroExtend 16 <<< 8))

/-- The checksum of a run of bytes. -/
def ofBytes (bytes : List UInt8) : BitVec 16 := bytes.foldl step start

/-- The checksum as four hexadecimal digits. -/
def text (crc : BitVec 16) : List Char := Numeral.fixedHex Numeral.upperHexDigit 4 crc.toNat

/-- The digits of the checksum of a run of characters. -/
def ofChars (cs : List Char) : List Char := text (ofBytes (Text.utf8Bytes cs))

theorem length_ofChars (cs : List Char) : (ofChars cs).length = 4 :=
  Numeral.length_fixedHex ..

end RentBilling.Pix.Checksum
