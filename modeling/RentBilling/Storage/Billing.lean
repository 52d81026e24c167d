import RentBilling.Billing.Bill
import RentBilling.Billing.ExtraCharge
import RentBilling.Billing.Overrides
import RentBilling.Storage.Values

/-!
Stored forms of templates, bills and what goes into them.

A stored bill has its total and the places of its rows, but reading takes neither: the bill is
restored from its rows.
-/

namespace RentBilling

open Storage

/-! ## Choices -/

def ItemKind.storedName : ItemKind → String
  | fixed => "fixed"
  | varying => "variable"

def RowKind.storedName : RowKind → String
  | fixed => "fixed"
  | varying => "variable"
  | extra => "extra"

def PaymentStatus.storedName : PaymentStatus → String
  | paid => "paid"
  | overdue => "overdue"
  | pending => "pending"

instance : ToJson ItemKind := ⟨fun k => .text k.storedName⟩
instance : ToJson RowKind := ⟨fun k => .text k.storedName⟩
instance : ToJson PaymentStatus := ⟨fun s => .text s.storedName⟩

instance : OfJson ItemKind :=
  ⟨ofChoices ([.fixed, .varying].map fun k => (ItemKind.storedName k, k))⟩

instance : OfJson RowKind :=
  ⟨ofChoices ([.fixed, .varying, .extra].map fun k => (RowKind.storedName k, k))⟩

instance : OfJson PaymentStatus :=
  ⟨ofChoices ([.paid, .overdue, .pending].map fun s => (PaymentStatus.storedName s, s))⟩

/-! ## Templates -/

instance : ToJson TemplateItem where
  toJson item := .record
    [("id", toJson item.id), ("description", toJson item.description),
      ("amount", toJson item.amount), ("kind", toJson item.kind),
      ("sort_order", toJson item.sortOrder)]

instance : OfJson TemplateItem where
  ofJson j := do
    match slots? ["id", "description", "amount", "kind", "sort_order"] j with
    | some [id, description, amount, kind, sortOrder] =>
      return ⟨← optional id, ← required description, ← required amount, ← required kind,
        ← required sortOrder⟩
    | _ => .error .unreadable

instance : ToJson Template where
  toJson t := .record
    [("name", toJson t.name), ("items", .array (t.items.map toJson)), ("pix_key", toJson t.pixKey)]

/-! ## A month's input -/

instance : ToJson ExtraCharge where
  toJson e := .record [("description", toJson e.description), ("amount", toJson e.amount)]

/-- A charge that breaks a rule is refused with the reason. -/
instance : OfJson ExtraCharge where
  ofJson j := do
    match slots? ["description", "amount"] j with
    | some [description, amount] =>
      let description ← required description
      let amount ← required amount
      (ExtraCharge.of? description amount).mapError .refused
    | _ => .error .unreadable

instance : ToJson Overrides where
  toJson o := .record (o.entries.map fun (id, amount) => (id.text, toJson amount))

/-- An object of amounts by identifier; of two keys that spell one identifier the later counts. -/
instance : OfJson Overrides where
  ofJson
    | .object members => do
      let pairs ← members.mapM fun (key, value) => do
        let id : ItemId ← ofJson (.string key)
        let amount : Centavos ← ofJson value
        return (id, amount)
      return .ofPairs pairs
    | _ => .error .unreadable

/-! ## Bills -/

instance : ToJson Draft where
  toJson d := .record
    [("description", toJson d.description), ("amount", toJson d.amount), ("kind", toJson d.kind)]

instance : OfJson Draft where
  ofJson j := do
    match slots? ["description", "amount", "kind"] j with
    | some [description, amount, kind] =>
      return ⟨← required description, ← required amount, ← required kind⟩
    | _ => .error .unreadable

instance : ToJson LineItem where
  toJson row := .record
    [("description", toJson row.description), ("amount", toJson row.amount),
      ("kind", toJson row.kind), ("sort_order", toJson row.sortOrder)]

instance : OfJson LineItem where
  ofJson j := do
    match slots? ["description", "amount", "kind", "sort_order"] j with
    | some [description, amount, kind, sortOrder] =>
      return ⟨← required description, ← required amount, ← required kind, ← required sortOrder⟩
    | _ => .error .unreadable

instance : ToJson Bill where
  toJson b := .record
    [("reference_month", toJson b.month), ("line_items", .array (b.rows.map toJson)),
      ("total_centavos", toJson b.total), ("notes", toJson b.notes),
      ("due_date", toJson b.dueDate), ("paid_on", toJson b.paidOn)]

/-- The rows of a stored bill, without their places. -/
def ofStoredRows : Option Json → Except ReadFailure (List Draft)
  | some (.array rows) => rows.mapM ofJson
  | _ => .error .unreadable

instance : OfJson Bill where
  ofJson j := do
    match slots? ["reference_month", "line_items", "notes", "due_date", "paid_on"] j with
    | some [month, rows, notes, dueDate, paidOn] =>
      let month ← required month
      let drafts ← ofStoredRows rows
      let notes ← required notes
      let dueDate ← optional dueDate
      let paidOn ← optional paidOn
      (Bill.restore month drafts notes dueDate paidOn).mapError .refused
    | _ => .error .unreadable

end RentBilling
