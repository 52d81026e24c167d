import RentBilling.Json.Value
import RentBilling.Numeral.Hex

/-!
Reading JSON.

The reader takes one character at a time. Its state says what may come next and keeps the containers
that are still open, innermost first, so that nesting may go to any depth. A number ends at the
first character that cannot continue it, and that character is then taken as what follows the
number.

When a whole value has been read, anything but blanks after it is an excess: the value stands, and
the reader only notes that the text goes on.
-/

namespace RentBilling.Json

/-- The blanks between tokens. -/
def isSpace (c : Char) : Bool := c = ' ' || c = '\n' || c = '\t' || c = '\r'

/-! ## Numbers -/

/-- How far a number has been read. -/
inductive NumberPhase where
  | sign
  | zero (negative : Bool)
  | whole (negative : Bool) (value : Nat)
  | point
  | fraction
  | mark
  | markSign
  | power

namespace NumberPhase

def digitValue (c : Char) : Nat := c.toNat - 48

/-- The number up to and with its next character, if it can go on with it. -/
def step : NumberPhase → Char → Option NumberPhase
  | sign, c =>
    if c = '0' then some (zero true)
    else if c.isDigit then some (whole true (digitValue c)) else none
  | zero _, c =>
    if c = '.' then some point else if c = 'e' ∨ c = 'E' then some mark else none
  | whole negative value, c =>
    if c.isDigit then some (whole negative (10 * value + digitValue c))
    else if c = '.' then some point
    else if c = 'e' ∨ c = 'E' then some mark else none
  | point, c => if c.isDigit then some fraction else none
  | fraction, c =>
    if c.isDigit then some fraction else if c = 'e' ∨ c = 'E' then some mark else none
  | mark, c =>
    if c.isDigit then some power else if c = '+' ∨ c = '-' then some markSign else none
  | markSign, c => if c.isDigit then some power else none
  | power, c => if c.isDigit then some power else none

/-- The value of a number that ends here, if it can. -/
def value? : NumberPhase → Option Json
  | zero negative => some (if negative then otherNumber else natural 0)
  | whole negative value => some (if negative then otherNumber else natural value)
  | fraction | power => some otherNumber
  | sign | point | mark | markSign => none

end NumberPhase

/-! ## Strings -/

/-- What a string is made of: characters, and halves of surrogate pairs that escapes give. -/
inductive TextUnit where
  | char (c : Char)
  | half (n : Nat)

/-- The unit that a four-digit escape gives. -/
def TextUnit.ofNat (n : Nat) : TextUnit :=
  if 0xD800 ≤ n ∧ n < 0xE000 then half n else char (Char.ofNat n)

/-- Joins the halves of pairs, with the latest unit first; `after` are the characters behind. -/
def joinUnits (after : List Char) : List TextUnit → Option (List Char)
  | [] => some after
  | .char c :: units => joinUnits (c :: after) units
  | .half low :: .half high :: units =>
    if 0xDC00 ≤ low ∧ high < 0xDC00 then
      joinUnits (Char.ofNat (0x10000 + (high - 0xD800) * 0x400 + (low - 0xDC00)) :: after) units
    else none
  | .half _ :: _ => none

/-- Where in a string the reader is: between characters, after a backslash, or after some digits of
an escape. -/
inductive TextPhase where
  | plain
  | escape
  | hex (count value : Nat)

/-- The character that a backslash and a letter stand for. -/
def unescape? (c : Char) : Option Char :=
  if c = '"' ∨ c = '\\' ∨ c = '/' then some c
  else if c = 'b' then some '\x08'
  else if c = 'f' then some '\x0c'
  else if c = 'n' then some '\n'
  else if c = 'r' then some '\r'
  else if c = 't' then some '\t'
  else none

/-! ## Values -/

/-- A container that is still open, its parts so far in reverse; an object waits for the value of
its last key. -/
inductive Frame where
  | array (items : List Json)
  | object (members : List (Option String × Json)) (key : Option String)

/-- What a string will be once it ends. -/
inductive StringRole where
  | value (stack : List Frame)
  | key (members : List (Option String × Json)) (stack : List Frame)

/-- What has been read and what may come next. -/
inductive State where
  | /-- A value has to come. -/ value (stack : List Frame)
  | /-- The first item of an array may come, or its end. -/ firstItem (stack : List Frame)
  | /-- The first key of an object may come, or its end. -/ firstKey (stack : List Frame)
  | nextKey (members : List (Option String × Json)) (stack : List Frame)
  | colon (members : List (Option String × Json)) (key : Option String) (stack : List Frame)
  | string (role : StringRole) (units : List TextUnit) (phase : TextPhase)
  | number (phase : NumberPhase) (stack : List Frame)
  | /-- The rest of a word has to come. -/
    word (rest : List Char) (value : Json) (stack : List Frame)
  | /-- A value is complete. -/ after (value : Json) (stack : List Frame)
  | /-- The text goes on after its value. -/ excess (value : Json)

namespace State

/-- Takes the first character of a value. -/
def beginValue (stack : List Frame) (c : Char) : Option State :=
  if c = '[' then some (firstItem stack)
  else if c = '\x7b' then some (firstKey stack)
  else if c = '"' then some (string (.value stack) [] .plain)
  else if c = '-' then some (number .sign stack)
  else if c = '0' then some (number (.zero false) stack)
  else if c.isDigit then some (number (.whole false (NumberPhase.digitValue c)) stack)
  else if c = 'n' then some (word ['u', 'l', 'l'] .null stack)
  else if c = 't' then some (word ['r', 'u', 'e'] (.bool true) stack)
  else if c = 'f' then some (word ['a', 'l', 's', 'e'] (.bool false) stack)
  else none

/-- A string has ended. -/
def endString (role : StringRole) (units : List TextUnit) : State :=
  let text := (joinUnits [] units).map String.ofList
  match role with
  | .value stack => after (.string text) stack
  | .key members stack => colon members text stack

/-- Takes a character after a complete value. -/
def stepAfter (v : Json) (stack : List Frame) (c : Char) : Option State :=
  if isSpace c then some (after v stack)
  else match stack with
    | [] => some (excess v)
    | .array items :: outer =>
      if c = ',' then some (value (.array (v :: items) :: outer))
      else if c = ']' then some (after (.array (v :: items).reverse) outer)
      else none
    | .object members key :: outer =>
      if c = ',' then some (nextKey ((key, v) :: members) outer)
      else if c = '\x7d' then some (after (.object ((key, v) :: members).reverse) outer)
      else none

/-- Takes a character inside a string. -/
def stepString (role : StringRole) (units : List TextUnit) (c : Char) : TextPhase → Option State
  | .plain =>
    if c = '"' then some (endString role units)
    else if c = '\\' then some (string role units .escape)
    else if c.toNat < 0x20 then none
    else some (string role (.char c :: units) .plain)
  | .escape =>
    if c = 'u' then some (string role units (.hex 0 0))
    else (unescape? c).map fun d => string role (.char d :: units) .plain
  | .hex count n =>
    (Numeral.hexValue? c).map fun d =>
      if count = 3 then string role (.ofNat (16 * n + d) :: units) .plain
      else string role units (.hex (count + 1) (16 * n + d))

/-- Takes the next character; `none` if the text cannot go on with it. -/
def step (state : State) (c : Char) : Option State :=
  match state with
  | value stack => if isSpace c then some (value stack) else beginValue stack c
  | firstItem stack =>
    if isSpace c then some (firstItem stack)
    else if c = ']' then some (after (.array []) stack)
    else beginValue (.array [] :: stack) c
  | firstKey stack =>
    if isSpace c then some (firstKey stack)
    else if c = '\x7d' then some (after (.object []) stack)
    else if c = '"' then some (string (.key [] stack) [] .plain)
    else none
  | nextKey members stack =>
    if isSpace c then some (nextKey members stack)
    else if c = '"' then some (string (.key members stack) [] .plain)
    else none
  | colon members key stack =>
    if isSpace c then some (colon members key stack)
    else if c = ':' then some (value (.object members key :: stack))
    else none
  | string role units phase => stepString role units c phase
  | number phase stack =>
    match phase.step c with
    | some phase => some (number phase stack)
    | none => phase.value?.bind fun v => stepAfter v stack c
  | word rest v stack =>
    match rest with
    | d :: ds =>
      if c = d then some (if ds.isEmpty then after v stack else word ds v stack) else none
    | [] => none
  | after v stack => stepAfter v stack c
  | excess v => some (excess v)

/-- The value of a text that ends in this state, and whether it has an excess. -/
def result? : State → Option (Json × Bool)
  | after v [] => some (v, false)
  | number phase [] => phase.value?.map fun v => (v, false)
  | excess v => some (v, true)
  | _ => none

end State

/-- The value at the start of a text, and whether the text goes on after it. -/
def readChars (cs : List Char) : Option (Json × Bool) :=
  (cs.foldlM State.step (.value [])).bind State.result?

/-- The value at the start of a text, and whether the text goes on after it. -/
def read (text : String) : Option (Json × Bool) := readChars text.toList

end RentBilling.Json
