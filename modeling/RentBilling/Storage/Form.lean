import RentBilling.Json.Reader
import RentBilling.Json.Writer
import RentBilling.Refusal

/-!
Stored forms: how values are written as JSON and read back.

A record is written as an object with its fields in order. It is read from an object, whose fields
may stand in any order among others, or from an array of its fields. A value of a few named choices
is written as its name; it is also read from an object whose only member is that name with `null`.
-/

namespace RentBilling

/-- Why a text is not taken for a value. -/
inductive ReadFailure where
  | /-- It is not the stored form of any value. -/ unreadable
  | /-- It is, but the value breaks a rule. -/ refused (e : Refusal)
  deriving DecidableEq, Repr

class ToJson (α : Type) where
  toJson : α → Json

class OfJson (α : Type) where
  ofJson : Json → Except ReadFailure α

export ToJson (toJson)
export OfJson (ofJson)

namespace Storage

variable {α : Type}

/-- The value as text. -/
def encode [ToJson α] (a : α) : String := (toJson a).render

/-- The value that a text stores. A value that breaks a rule is reported even if the text goes on
after it. -/
def decode [OfJson α] (text : String) : Except ReadFailure α :=
  match Json.read text with
  | none => .error .unreadable
  | some (j, goesOn) => do
    let a ← ofJson j
    if goesOn then .error .unreadable else .ok a

/-- Takes `none` for something unreadable. -/
def orUnreadable : Option α → Except ReadFailure α
  | some a => .ok a
  | none => .error .unreadable

/-! ## Records -/

/-- The value of a field among members, if it is there; a field must not be there twice. -/
def member? (members : List (Option String × Json)) (name : String) : Option (Option Json) :=
  match members.filter (·.1 = some name) with
  | [] => some none
  | [(_, value)] => some (some value)
  | _ => none

/-- The values of the named fields of a record, with `none` for those that are missing. -/
def slots? (names : List String) : Json → Option (List (Option Json))
  | .object members =>
    if members.all (·.1.isSome) then names.mapM (member? members) else none
  | .array items =>
    if items.length ≤ names.length then
      some (items.map some ++ List.replicate (names.length - items.length) none)
    else none
  | _ => none

/-- A field that must be there. -/
def required [OfJson α] : Option Json → Except ReadFailure α
  | some j => ofJson j
  | none => .error .unreadable

/-- A field that may be missing or `null`. -/
def optional [OfJson α] : Option Json → Except ReadFailure (Option α)
  | none | some .null => .ok none
  | some j => (ofJson j).map some

/-- A field with a value of its own if it is missing. -/
def orElse [OfJson α] (missing : α) : Option Json → Except ReadFailure α
  | some j => ofJson j
  | none => .ok missing

/-! ## Named choices -/

/-- The name of a choice. -/
def choiceName? : Json → Option String
  | .string name => name
  | .object [(name, .null)] => name
  | _ => none

/-- The choice that is named. -/
def ofChoices (choices : List (String × α)) (j : Json) : Except ReadFailure α :=
  orUnreadable ((choiceName? j).bind fun name => choices.lookup name)

end Storage

open Storage

instance : ToJson String := ⟨Json.text⟩

instance : OfJson String where
  ofJson
    | .string (some s) => .ok s
    | _ => .error .unreadable

instance : ToJson Bool := ⟨Json.bool⟩

instance : OfJson Bool where
  ofJson
    | .bool b => .ok b
    | _ => .error .unreadable

instance : ToJson UInt32 := ⟨fun n => .natural n.toNat⟩

instance : OfJson UInt32 where
  ofJson
    | .natural n => if n < UInt32.size then .ok (.ofNat n) else .error .unreadable
    | _ => .error .unreadable

instance {α : Type} [ToJson α] : ToJson (Option α) := ⟨Json.optional toJson⟩

end RentBilling
