import RentBilling.Text.Ascii

/-!
The bytes of a text in UTF-8, the encoding in which payloads are summed and drawn.
-/

namespace RentBilling.Text

/-- The bytes of a run of characters in UTF-8. -/
def utf8Bytes (cs : List Char) : List UInt8 := cs.flatMap String.utf8EncodeChar

end RentBilling.Text
