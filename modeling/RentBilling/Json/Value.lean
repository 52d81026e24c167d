/-!
JSON values.

Members of an object keep their order and their repetitions; what a repetition means is for the type
that is read to say. A string whose escapes leave half of a surrogate pair is well-formed JSON but
denotes no text, and `none` stands for it. Numbers other than plain natural ones are not told apart,
because no field takes them.
-/

namespace RentBilling

inductive Json where
  | null
  | bool (b : Bool)
  | natural (n : Nat)
  | otherNumber
  | string (text : Option String)
  | array (items : List Json)
  | object (members : List (Option String × Json))

namespace Json

def text (s : String) : Json := string (some s)

/-- An object with these members, in this order. -/
def record (members : List (String × Json)) : Json :=
  object (members.map fun (name, value) => (some name, value))

/-- A value that may be missing, with `null` for nothing. -/
def optional {α : Type} (write : α → Json) : Option α → Json
  | some a => write a
  | none => null

end Json

end RentBilling
