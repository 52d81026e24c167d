import RentBilling.ItemId.Basic
import RentBilling.Text.Ascii
import RentBilling.Text.Split

/-!
Reading identifiers.

Four spellings are read: 32 digits; the digits in hyphenated groups; the groups between braces; the
groups after `urn:uuid:`. Letters may have either case. When a text is none of these, the fault says
where it goes wrong; places and lengths in it are counted in bytes.
-/

namespace RentBilling.ItemId

open Text Numeral

/-- Why a text is no identifier. -/
inductive Fault where
  | badCharacter (found : Char) (place : Nat)
  | badLength (found : Nat)
  | badGroupCount (found : Nat)
  | badGroupLength (group expected found : Nat)
  deriving DecidableEq, Repr

/-- What is wrong, in words. -/
def Fault.reason : Fault → String
  | badCharacter found place => s!"invalid character: found `{found}` at {place}"
  | badLength found => s!"invalid length: found {found}"
  | badGroupCount found => s!"invalid group count: expected 5, found {found}"
  | badGroupLength group expected found =>
    s!"invalid group length in group {group}: expected {expected}, found {found}"

/-! ## Spellings -/

/-- What stands between braces that enclose everything. -/
def unbraced? (cs : List Char) : Option (List Char) :=
  match cs with
  | '\x7b' :: rest => if rest.getLast? = some '\x7d' then some rest.dropLast else none
  | _ => none

/-- What follows `urn:uuid:`, whose letters may have either case. -/
def afterScheme? (cs : List Char) : Option (List Char) :=
  if (cs.take 9).map Char.toLower = "urn:uuid:".toList then some (cs.drop 9) else none

/-- The digits of hyphenated groups of the right sizes. -/
def groupedDigits? (cs : List Char) : Option (List Char) :=
  let groups := splitChars (· == '-') cs
  if groups.map List.length = groupSizes ∧ groups.flatten.all isHexDigit then some groups.flatten
  else none

/-- The 32 digits of a text in one of the four spellings. -/
def spelledDigits? (cs : List Char) : Option (List Char) :=
  if cs.length = 32 ∧ cs.all isHexDigit then some cs
  else
    groupedDigits? cs <|> (unbraced? cs).bind groupedDigits? <|>
      (afterScheme? cs).bind groupedDigits?

/-! ## Faults -/

/-- The first character that is neither a digit nor a hyphen, and its place, counted from
`start`. -/
def firstOutsider? (start : Nat) : List Char → Option (Char × Nat)
  | [] => none
  | c :: cs =>
    if isHexDigit c ∨ c = '-' then firstOutsider? (start + c.utf8Size) cs else some (c, start)

/-- Places of the hyphens, counted from `start`. -/
def hyphens (start : Nat) : List Char → List Nat
  | [] => []
  | c :: cs => (if c = '-' then [start] else []) ++ hyphens (start + 1) cs

/-- Where four hyphens fail to leave groups of the right sizes, in a text of the given length. -/
def groupFault (length : Nat) (places : List Nat) : Fault :=
  let groups := (places.zip [(8, 0), (13, 9), (18, 14), (23, 19)]).zipIdx
  match groups.find? (fun x => x.1.1 ≠ x.1.2.1) with
  | some ((found, right, start), group) => .badGroupLength group (right - start) (found - start)
  | none => .badGroupLength 4 12 (length - 24)

/-- The fault of a text of the given length whose digits and hyphens are `body`, which starts at
`start`; `plain` texts have neither braces nor scheme and may do without hyphens. -/
def bodyFault (length start : Nat) (plain : Bool) (body : List Char) : Fault :=
  match firstOutsider? start body with
  | some (c, place) => .badCharacter c place
  | none =>
    let places := hyphens 0 body
    if plain ∧ places = [] then .badLength length
    else if places.length ≠ 4 then .badGroupCount (places.length + 1)
    else groupFault length places

/-- What is wrong with a text in none of the four spellings. -/
def faultOf (cs : List Char) : Fault :=
  let length := byteLength cs
  let inner? :=
    if length = 36 then some cs
    else if length = 38 then unbraced? cs
    else if length = 45 then afterScheme? cs
    else none
  match inner? with
  | some inner => bodyFault 36 0 false inner
  | none =>
    if length = 0 ∨ 45 < length then .badLength length
    else match unbraced? cs with
      | some body => bodyFault length 1 false body
      | none => match afterScheme? cs with
        | some body => bodyFault length 9 false body
        | none => bodyFault length 0 true cs

/-- The identifier that a text spells. -/
def ofText (text : String) : Except Fault ItemId :=
  match spelledDigits? text.toList with
  | some ds => .ok ⟨BitVec.ofNat 128 ((ofHex? ds).getD 0)⟩
  | none => .error (faultOf text.toList)

end RentBilling.ItemId
