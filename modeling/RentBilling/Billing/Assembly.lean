import RentBilling.Billing.Bill
import RentBilling.Billing.ExtraCharge
import RentBilling.Billing.Overrides
import RentBilling.Log.Event

/-!
Assembling the bill of a month.

The items of the template come first, in their order: fixed items with their amount, varying items
with the amount given for the month, or zero. The extra charges follow. Amounts given for items that
the template does not have are reported and left out.
-/

namespace RentBilling

/-- The amount of a template item in a month. A varying item without an identifier has no amount to
look up. -/
def TemplateItem.monthAmount (overrides : Overrides) (item : TemplateItem) :
    Except Refusal Centavos :=
  match item.kind, item.id with
  | .fixed, _ => .ok item.amount
  | .varying, some id => .ok ((overrides.find? id).getD Centavos.zero)
  | .varying, none => .error (.variableItemWithoutId item.description)

/-- The row of a template item. -/
def TemplateItem.draft (overrides : Overrides) (item : TemplateItem) : Except Refusal Draft :=
  (item.monthAmount overrides).map fun amount => ⟨item.description, amount, item.kind.toRowKind⟩

def ExtraCharge.draft (extra : ExtraCharge) : Draft :=
  ⟨extra.description, extra.amount, .extra⟩

/-- The rows of a month: those of the template, then the extra charges. -/
def monthDrafts (template : Template) (overrides : Overrides) (extras : List ExtraCharge) :
    Except Refusal (List Draft) :=
  (template.items.mapM (TemplateItem.draft overrides)).map (· ++ extras.map ExtraCharge.draft)

/-- Identifiers that have an amount but no item, in ascending order. -/
def staleIds (template : Template) (overrides : Overrides) : List ItemId :=
  overrides.ids.filter fun id => !template.contains id

/-- The bill of a month. -/
def assemble (template : Template) (overrides : Overrides) (extras : List ExtraCharge)
    (month : ReferenceMonth) (dueDate : Option Date) (notes : String) :
    Logged (Except Refusal Bill) :=
  match monthDrafts template overrides extras with
  | .error e => ⟨[], .error e⟩
  | .ok drafts =>
    let stale := (staleIds template overrides).map Event.staleOverride
    match Bill.ofDrafts month drafts notes dueDate with
    | .error e => ⟨stale, .error e⟩
    | .ok bill =>
      ⟨stale ++ [.billAssembled template.name month bill.rows.length bill.total], .ok bill⟩

end RentBilling
