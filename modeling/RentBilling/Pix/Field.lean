import RentBilling.Pix.Error
import RentBilling.Text.Ascii

/-!
Fields of a payment payload.

A field holds text or further fields under a tag. It is written as the tag, the length of its value
in two digits, and the value; a field of fields has the written fields as its value. Text has to be
ASCII, and a value has at most 99 bytes.
-/

namespace RentBilling.Pix

open Numeral Text

inductive Field where
  | text (tag value : String)
  | group (tag : String) (fields : List Field)

/-- The most bytes a value can have. -/
def maxValue : Nat := 99

/-- A written field. Whether its value is short enough is checked here. -/
def record (tag : String) (value : List Char) : Except Error (List Char) :=
  if byteLength value ≤ maxValue then
    .ok (tag.toList ++ padded 2 (byteLength value) ++ value)
  else .error (.fieldTooLong tag (byteLength value))

mutual

/-- The field as it is written, its own fields first. -/
def Field.write : Field → Except Error (List Char)
  | .text tag value =>
    if isAscii value then record tag value.toList else .error (.nonAscii tag)
  | .group tag fields => do record tag (← writeAll fields)

/-- The fields as they are written one after another; the first fault ends the writing. -/
def writeAll : List Field → Except Error (List Char)
  | [] => .ok []
  | field :: fields => do
    let first ← field.write
    let rest ← writeAll fields
    .ok (first ++ rest)

end

/-- The written fields as a text. -/
def encodeFields (fields : List Field) : Except Error String := (writeAll fields).map String.ofList

/-- The text with the field behind it, and what was wrong if it could not be written; then the text
stays as it is. -/
def Field.appendTo (field : Field) (out : String) : String × Option Error :=
  match field.write with
  | .ok cs => (out ++ .ofList cs, none)
  | .error e => (out, some e)

end RentBilling.Pix
