import RentBilling.Numeral.HexLemmas
import RentBilling.Pix.Checksum

/-!
The digits of the checksum.

Four digits of upper-case hexadecimal that read back as the register (`isUpperHex_text`). They are
ASCII, whatever was summed.
-/

namespace RentBilling.Pix.Checksum

open Numeral Text

/-- Four upper-case hexadecimal digits that stand for the register. -/
structure IsUpperHex (crc : BitVec 16) (cs : List Char) : Prop where
  length : cs.length = 4
  upper : ∀ c ∈ cs, c ∈ "0123456789ABCDEF".toList
  value : ofHex? cs = some crc.toNat

theorem isUpperHex_text (crc : BitVec 16) : IsUpperHex crc (text crc) := by
  refine ⟨length_fixedHex .., ?_, ?_⟩
  · intro c hc
    obtain ⟨d, hd, rfl⟩ := mem_fixedHex hc
    have hall : ∀ d < 16, upperHexDigit d ∈ "0123456789ABCDEF".toList := by decide
    exact hall d hd
  · have hlt : crc.toNat < 16 ^ 4 := crc.isLt
    rw [text, ofHex?_fixedHex hexValue?_upperHexDigit, Nat.mod_eq_of_lt hlt]

theorem all_isAsciiChar_ofChars (cs : List Char) : (ofChars cs).all isAsciiChar := by
  rw [List.all_eq_true]
  intro c hc
  obtain ⟨d, hd, rfl⟩ := mem_fixedHex hc
  have hall : ∀ d < 16, isAsciiChar (upperHexDigit d) := by decide
  exact hall d hd

end RentBilling.Pix.Checksum
