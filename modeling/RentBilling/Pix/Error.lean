import RentBilling.Numeral.Decimal
import RentBilling.Text.Quoted

/-!
What can be wrong with a payment payload or its picture.
-/

namespace RentBilling.Pix

/-- Why a text is not a sequence of records. -/
inductive Malformation where
  | notAscii
  | shortHeader (rest : String)
  | badTag (tag : String)
  | badLength (length tag : String)
  | shortValue (tag : String)
  deriving DecidableEq, Repr

/-- Why a picture cannot be drawn as asked. -/
inductive DrawingFault where
  | emptyBoxes
  | tooLarge (boxSize border : UInt32)
  deriving DecidableEq, Repr

inductive Error where
  | fieldTooLong (tag : String) (length : Nat)
  | nonAscii (tag : String)
  | malformed (cause : Malformation)
  | badDrawing (cause : DrawingFault)
  | dataTooLong
  deriving DecidableEq, Repr

def Malformation.reason : Malformation → String
  | notAscii => "payload is not ASCII"
  | shortHeader rest => "truncated header " ++ Text.quoted rest
  | badTag tag => "bad tag " ++ Text.quoted tag
  | badLength length tag => "bad length " ++ Text.quoted length ++ " for tag " ++ tag
  | shortValue tag => "value of tag " ++ tag ++ " is truncated"

def DrawingFault.reason : DrawingFault → String
  | emptyBoxes => "box_size must be at least 1"
  | tooLarge boxSize border =>
    s!"image side exceeds 10000px (box_size {boxSize}, border {border})"

/-- What is wrong, in words. -/
def Error.message : Error → String
  | fieldTooLong tag length => s!"field {tag} is {length} bytes long (max 99)"
  | nonAscii tag => s!"field {tag} contains non-ASCII characters"
  | malformed cause => "malformed payload: " ++ cause.reason
  | badDrawing cause => "invalid QR options: " ++ cause.reason
  | dataTooLong => "QR encoding failed: data too long"

end RentBilling.Pix
