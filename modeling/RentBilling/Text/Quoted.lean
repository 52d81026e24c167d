import RentBilling.Text.Printable

/-!
Texts quoted in messages.

A quoted text stands between double quotes. Quotes and backslashes get a backslash, four controls
have a letter, and every other character that does not show as itself is written by its code point.
-/

namespace RentBilling.Text

/-- A character as it stands in a quoted text. -/
def quotedChar (c : Char) : List Char :=
  if c = '"' then ['\\', '"']
  else if c = '\\' then ['\\', '\\']
  else if c = '\x00' then ['\\', '0']
  else if c = '\t' then ['\\', 't']
  else if c = '\n' then ['\\', 'n']
  else if c = '\r' then ['\\', 'r']
  else if isPrintable c then [c]
  else ['\\', 'u', '\x7b'] ++ Numeral.hexDigits c.toNat ++ ['\x7d']

/-- The characters between double quotes. -/
def quotedChars (cs : List Char) : List Char := '"' :: cs.flatMap quotedChar ++ ['"']

/-- The text between double quotes. -/
def quoted (s : String) : String := .ofList (quotedChars s.toList)

end RentBilling.Text
