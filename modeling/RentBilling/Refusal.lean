import RentBilling.Calendar.DueDate
import RentBilling.Calendar.ReferenceMonth
import RentBilling.ItemId.Reading
import RentBilling.Text.Quoted

/-!
Refusals of the billing rules.

Each cause belongs to one of four kinds. The message names the kind and then the cause.
-/

namespace RentBilling

/-- Broad kinds of refusal. -/
inductive RefusalKind where
  | /-- A value is not fit to be used. -/ validation
  | /-- A caller broke a precondition. -/ contract
  | /-- A rule that always holds would be broken. -/ invariant
  | /-- A text is no identifier. -/ invalidId
  deriving DecidableEq, Repr

def RefusalKind.text : RefusalKind → String
  | validation => "validation failed"
  | contract => "contract violation"
  | invariant => "invariant violated"
  | invalidId => "invalid identifier"

/-- Why something was refused. -/
inductive Refusal where
  | badMonth (fault : ReferenceMonth.Fault)
  | badDueDate (text : String) (fault : DueDate.Fault)
  | badItemId (fault : ItemId.Fault)
  | duplicateItemId (id : ItemId)
  | blankExtraDescription
  | zeroExtraAmount
  | variableItemWithoutId (description : String)
  | totalOverflow
  | tooManyRows
  | /-- A refusal in the caller's own words. -/ stated (kind : RefusalKind) (reason : String)
  deriving DecidableEq, Repr

namespace Refusal

def kind : Refusal → RefusalKind
  | badMonth _ | badDueDate .. | duplicateItemId _ | blankExtraDescription | zeroExtraAmount =>
    .validation
  | variableItemWithoutId _ => .contract
  | totalOverflow | tooManyRows => .invariant
  | badItemId _ => .invalidId
  | stated kind _ => kind

/-- What is wrong with a reference month, in words. -/
def monthReason : ReferenceMonth.Fault → String
  | .malformed text => "reference month must look like YYYY-MM (got " ++ Text.quoted text ++ ")"
  | .yearTooLong => "reference month year must have 4 digits"
  | .noSuchMonth month =>
    "reference month must be between 01 and 12 (got " ++ .ofList (Numeral.padded 2 month) ++ ")"

/-- The cause, in words. -/
def reason : Refusal → String
  | badMonth fault => monthReason fault
  | badDueDate text fault => "due date " ++ Text.quoted text ++ ": " ++ fault.reason
  | badItemId fault => "BillingItemId: " ++ fault.reason
  | duplicateItemId id => "duplicate billing item id " ++ id.text
  | blankExtraDescription => "extra charge description is required"
  | zeroExtraAmount => "extra charge amount must be positive"
  | variableItemWithoutId description =>
    "variable billing item " ++ Text.quoted description ++ " has no id"
  | totalOverflow => "bill total overflow"
  | tooManyRows => "too many bill line items"
  | stated _ reason => reason

/-- The kind and the cause, in words. -/
def message (e : Refusal) : String := e.kind.text ++ ": " ++ e.reason

end Refusal

/-! ## Reading with these refusals -/

/-- The month that a text names. -/
def readMonth (text : String) : Except Refusal ReferenceMonth :=
  (ReferenceMonth.ofText text).mapError .badMonth

/-- The due date that a text names. -/
def readDueDate (text : String) : Except Refusal Date :=
  (DueDate.ofText text).mapError (.badDueDate text)

/-- The identifier that a text spells. -/
def readItemId (text : String) : Except Refusal ItemId :=
  (ItemId.ofText text).mapError .badItemId

end RentBilling
