import RentBilling.Json.Value
import RentBilling.Numeral.Decimal
import RentBilling.Numeral.Hex

/-!
JSON values as text, without blanks.

In strings the quote, the backslash and the controls are escaped, five controls by a letter and the
others by their code point.
-/

namespace RentBilling.Json

open Numeral

/-- A character as it stands inside a string. -/
def escaped (c : Char) : List Char :=
  if c = '"' then ['\\', '"']
  else if c = '\\' then ['\\', '\\']
  else if c = '\x08' then ['\\', 'b']
  else if c = '\x0c' then ['\\', 'f']
  else if c = '\n' then ['\\', 'n']
  else if c = '\r' then ['\\', 'r']
  else if c = '\t' then ['\\', 't']
  else if c.toNat < 0x20 then ['\\', 'u'] ++ fixedHex hexDigit 4 c.toNat
  else [c]

/-- A string between its quotes; half of a surrogate pair stands for one that denotes no text. -/
def stringChars : Option String → List Char
  | some s => '"' :: s.toList.flatMap escaped ++ ['"']
  | none => "\"\\ud800\"".toList

mutual

/-- The value as characters. -/
def chars : Json → List Char
  | null => "null".toList
  | bool true => "true".toList
  | bool false => "false".toList
  | natural n => digits n
  | otherNumber => "-0".toList
  | string s => stringChars s
  | array [] => ['[', ']']
  | array (item :: items) => '[' :: chars item ++ restItems items
  | object [] => ['\x7b', '\x7d']
  | object ((key, value) :: members) =>
    '\x7b' :: stringChars key ++ ':' :: chars value ++ restMembers members

/-- The items after the first, and the closing bracket. -/
def restItems : List Json → List Char
  | [] => [']']
  | item :: items => ',' :: chars item ++ restItems items

/-- The members after the first, and the closing brace. -/
def restMembers : List (Option String × Json) → List Char
  | [] => ['\x7d']
  | (key, value) :: members => ',' :: stringChars key ++ ':' :: chars value ++ restMembers members

end

/-- The value as text. -/
def render (j : Json) : String := .ofList (chars j)

end RentBilling.Json
