import RentBilling.Log.Event
import RentBilling.Money.Reais
import RentBilling.Pix.Checksum
import RentBilling.Pix.Field
import RentBilling.Pix.Record
import RentBilling.Text.Folded

/-!
Payment payloads.

A payload names the key that gets the money, the merchant and, unless the payer is free to choose
it, the amount. Its fields stand in a fixed order, and the last one is the checksum of all that
precedes its digits.
-/

namespace RentBilling.Pix

/-- What a payload is made from. -/
structure Request where
  pixKey : String
  merchantName : String
  merchantCity : String
  /-- Nothing and zero both leave the amount open. -/
  amount : Option Centavos
  txid : String
  deriving DecidableEq, Repr

/-- The scheme that the key belongs to. -/
def scheme : String := "br.gov.bcb.pix"

/-- The transaction of a payload that is not made for one. -/
def defaultTxid : String := "***"

def maxNameLength : Nat := 25

def maxCityLength : Nat := 15

/-- The tag and the length of the checksum field. -/
def checksumHeader : List Char := ['6', '3', '0', '4']

/-- A text folded to ASCII and cut off. -/
def shortened (most : Nat) (s : String) : String := .ofList ((Text.fold s).toList.take most)

namespace Request

/-- The amount, if the payload fixes one. -/
def fixedAmount? (r : Request) : Option Centavos := r.amount.filter (!·.isZero)

/-- The fields before the checksum. -/
def fields (r : Request) : List Field :=
  [.text "00" "01", .group "26" [.text "00" scheme, .text "01" r.pixKey], .text "52" "0000",
      .text "53" "986"] ++
    (r.fixedAmount?.map fun a => Field.text "54" a.plainText).toList ++
    [.text "58" "BR", .text "59" (shortened maxNameLength r.merchantName),
      .text "60" (shortened maxCityLength r.merchantCity), .group "62" [.text "05" r.txid]]

/-- Characters closed by a checksum field. -/
def close (body : List Char) : List Char :=
  let summed := body ++ checksumHeader
  summed ++ Checksum.ofChars summed

/-- The payload. -/
def encode (r : Request) : Logged (Except Error String) :=
  match writeAll r.fields with
  | .error e => ⟨[], .error e⟩
  | .ok body =>
    let payload := String.ofList (close body)
    ⟨[.payloadEncoded (Text.byteLength (close body))], .ok payload⟩

end Request

/-- The payload ends with a checksum field whose digits are right. -/
def verify (payload : String) : Bool :=
  let cs := payload.toList
  let body := cs.take (cs.length - 4)
  Text.isAscii payload && decide (8 ≤ cs.length) && checksumHeader.isSuffixOf body &&
    decide (Checksum.ofChars body = cs.drop (cs.length - 4))

end RentBilling.Pix
