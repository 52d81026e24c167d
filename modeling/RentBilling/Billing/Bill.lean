import RentBilling.Billing.Template
import RentBilling.Calendar.Date

/-!
Bills: what one unit owes for one month.

The rows of a bill are replaced as a whole, never singly. Placing rows numbers them from zero and
adds up their amounts; it refuses a total that does not fit, and then more rows than there are
numbers.
-/

namespace RentBilling

/-- Where a row comes from. -/
inductive RowKind where
  | fixed
  | varying
  | extra
  deriving DecidableEq, Repr

/-- The Portuguese name of the kind, as invoices print it. -/
def RowKind.label : RowKind → String
  | fixed => "Fixo"
  | varying => "Variável"
  | extra => "Extra"

def ItemKind.toRowKind : ItemKind → RowKind
  | fixed => .fixed
  | varying => .varying

/-- A row before it has a place in a bill. -/
structure Draft where
  description : String
  amount : Centavos
  kind : RowKind
  deriving DecidableEq, Repr

/-- A row of a bill. -/
structure LineItem where
  description : String
  amount : Centavos
  kind : RowKind
  /-- Its place in the bill, counted from zero. -/
  sortOrder : UInt32
  deriving DecidableEq, Repr

/-- The row without its place. -/
def LineItem.toDraft (row : LineItem) : Draft := ⟨row.description, row.amount, row.kind⟩

def Draft.at (draft : Draft) (place : Nat) : LineItem :=
  ⟨draft.description, draft.amount, draft.kind, .ofNat place⟩

/-- The most rows a bill can have. -/
def maxRows : Nat := UInt32.size

/-- Numbers the rows in order. -/
def number (drafts : List Draft) : List LineItem := drafts.zipIdx.map fun (d, place) => d.at place

/-- The numbered rows and their total. -/
def placeRows (drafts : List Draft) : Except Refusal (List LineItem × Centavos) :=
  match Centavos.sum? (drafts.map (·.amount)) with
  | none => .error .totalOverflow
  | some total =>
    if drafts.length ≤ maxRows then .ok (number drafts, total) else .error .tooManyRows

theorem map_toDraft_number (drafts : List Draft) :
    (number drafts).map LineItem.toDraft = drafts := by
  simp only [number, List.map_map]
  have : (LineItem.toDraft ∘ fun (x : Draft × Nat) => x.1.at x.2) = Prod.fst := rfl
  simp [this]

/-! ## Bills -/

/-- How payment of a bill stands on some day. -/
inductive PaymentStatus where
  | paid
  | overdue
  | pending
  deriving DecidableEq, Repr

/-- What one unit owes for one month. -/
structure Bill where
  month : ReferenceMonth
  rows : List LineItem
  total : Centavos
  notes : String
  dueDate : Option Date
  paidOn : Option Date
  deriving DecidableEq, Repr

namespace Bill

/-- The bill with these rows, not paid yet. -/
def ofDrafts (month : ReferenceMonth) (drafts : List Draft) (notes : String)
    (dueDate : Option Date) : Except Refusal Bill :=
  (placeRows drafts).map fun (rows, total) => ⟨month, rows, total, notes, dueDate, none⟩

/-- A bill from its stored parts; places and total are worked out anew. -/
def restore (month : ReferenceMonth) (drafts : List Draft) (notes : String)
    (dueDate paidOn : Option Date) : Except Refusal Bill :=
  (ofDrafts month drafts notes dueDate).map fun b => { b with paidOn }

/-- The rows without their places. -/
def drafts (b : Bill) : List Draft := b.rows.map LineItem.toDraft

/-- Only an unpaid bill is overdue, and only once its due date has passed. -/
def isOverdue (b : Bill) (today : Date) : Bool :=
  b.paidOn.isNone && match b.dueDate with
    | some due => decide (due < today)
    | none => false

/-- How payment stands on a day. -/
def status (b : Bill) (today : Date) : PaymentStatus :=
  if b.paidOn.isSome then .paid else if b.isOverdue today then .overdue else .pending

end Bill

/-! ## Edits -/

/-- A change to a bill. -/
inductive Edit where
  | replaceRows (drafts : List Draft)
  | setNotes (notes : String)
  | setDueDate (date : Option Date)
  | markPaid (date : Date)
  | markUnpaid
  deriving Repr

namespace Bill

/-- The bill after an edit, and why the edit was refused if it was. Only new rows can be refused,
and then the bill stays as it is. -/
def edit (b : Bill) : Edit → Bill × Option Refusal
  | .replaceRows drafts =>
    match placeRows drafts with
    | .ok (rows, total) => ({ b with rows, total }, none)
    | .error e => (b, some e)
  | .setNotes notes => ({ b with notes }, none)
  | .setDueDate date => ({ b with dueDate := date }, none)
  | .markPaid date => ({ b with paidOn := some date }, none)
  | .markUnpaid => ({ b with paidOn := none }, none)

/-- The bill after a sequence of edits, refused ones included. -/
def editAll (b : Bill) (edits : List Edit) : Bill := edits.foldl (fun b e => (b.edit e).1) b

end Bill

end RentBilling
