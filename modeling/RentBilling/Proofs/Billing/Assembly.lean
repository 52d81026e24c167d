import RentBilling.Billing.Assembly
import RentBilling.Proofs.Billing.Rows

/-!
What assembling a bill comes to.

`monthBill` says what the bill of a month is without going through the rows one by one: it looks
for a varying item without an identifier, then at the unbounded sum of all rows, then at their
number. `assemble_eq_monthBill` says that the code gives this bill or this refusal, so a missing
identifier is reported even where the total would not fit.
-/

namespace RentBilling

variable (template : Template) (overrides : Overrides) (extras : List ExtraCharge)
variable (month : ReferenceMonth) (dueDate : Option Date) (notes : String)

/-! ## The bill of a month, said at once -/

/-- A varying item that no amount can be given for. -/
def TemplateItem.lacksId (item : TemplateItem) : Bool := item.kind = .varying ∧ item.id = none

/-- The row of an item: its own amount if it is fixed, or else the amount of the month, or zero. -/
def TemplateItem.monthRow (item : TemplateItem) : Draft where
  description := item.description
  amount := match item.kind with
    | .fixed => item.amount
    | .varying => (item.id.bind overrides.find?).getD ⟨0⟩
  kind := match item.kind with
    | .fixed => .fixed
    | .varying => .varying

/-- One row for each item, then one for each extra charge. -/
def monthRows : List Draft :=
  template.items.map (TemplateItem.monthRow overrides) ++
    extras.map fun extra => ⟨extra.description, extra.amount, .extra⟩

/-- The bill with these rows: its total is their exact sum, and each row stands at its number. -/
def exactBill (rows : List Draft) : Except Refusal Bill :=
  if hsum : draftSum rows < 2 ^ 64 then
    if hl : rows.length ≤ 2 ^ 32 then
      .ok
        { month, notes, dueDate, paidOn := none
          rows := rows.mapFinIdx fun i row hi =>
            ⟨row.description, row.amount, row.kind, .ofNatLT i (Nat.lt_of_lt_of_le hi hl)⟩
          total := ⟨.ofNatLT (draftSum rows) hsum⟩ }
    else .error .tooManyRows
  else .error .totalOverflow

/-- The bill of the month, or why there is none. -/
def monthBill : Except Refusal Bill :=
  match template.items.find? TemplateItem.lacksId with
  | some item => .error (.variableItemWithoutId item.description)
  | none => exactBill month dueDate notes (monthRows template overrides extras)

/-! ## Items one by one -/

theorem TemplateItem.draft_eq (item : TemplateItem) :
    item.draft overrides =
      if item.lacksId then .error (.variableItemWithoutId item.description)
      else .ok (item.monthRow overrides) := by
  obtain ⟨id, description, amount, kind, sortOrder⟩ := item
  cases kind with
  | fixed => rfl
  | varying => cases id <;> rfl

/-- The first item without an identifier ends the reading of all items. -/
theorem mapM_draft (items : List TemplateItem) :
    items.mapM (TemplateItem.draft overrides) =
      match items.find? TemplateItem.lacksId with
      | some item => .error (.variableItemWithoutId item.description)
      | none => .ok (items.map (TemplateItem.monthRow overrides)) := by
  induction items with
  | nil => rfl
  | cons item items ih =>
    rw [List.mapM_cons, TemplateItem.draft_eq, List.find?_cons]
    cases hid : item.lacksId with
    | true => rfl
    | false =>
      rw [ih]
      cases items.find? TemplateItem.lacksId <;> rfl

theorem monthDrafts_eq :
    monthDrafts template overrides extras =
      match template.items.find? TemplateItem.lacksId with
      | some item => .error (.variableItemWithoutId item.description)
      | none => .ok (monthRows template overrides extras) := by
  unfold monthDrafts monthRows
  rw [mapM_draft]
  cases template.items.find? TemplateItem.lacksId <;> rfl

/-! ## The whole bill -/

theorem number_eq_mapFinIdx {rows : List Draft} (hl : rows.length ≤ 2 ^ 32) :
    number rows = rows.mapFinIdx fun i row hi =>
      ⟨row.description, row.amount, row.kind, .ofNatLT i (Nat.lt_of_lt_of_le hi hl)⟩ := by
  apply List.ext_getElem
  · simp [number]
  · intro i h1 h2
    simp [number, Draft.at, UInt32.ofNatLT_eq_ofNat]

theorem ofDrafts_eq_exactBill (rows : List Draft) :
    Bill.ofDrafts month rows notes dueDate = exactBill month dueDate notes rows := by
  unfold Bill.ofDrafts exactBill
  rw [placeRows_eq]
  by_cases hsum : draftSum rows < 2 ^ 64
  · rw [if_neg (Nat.not_le.mpr hsum), dif_pos hsum]
    by_cases hl : rows.length ≤ 2 ^ 32
    · rw [if_neg (Nat.not_lt.mpr hl), dif_pos hl, number_eq_mapFinIdx hl, UInt64.ofNatLT_eq_ofNat]
      rfl
    · rw [if_pos (Nat.not_le.mp hl), dif_neg hl]
      rfl
  · rw [if_pos (Nat.not_lt.mp hsum), dif_neg hsum]
    rfl

/-- Events apart, the bill is made from the drafts of the month. -/
theorem assemble_result :
    (assemble template overrides extras month dueDate notes).result =
      (monthDrafts template overrides extras).bind fun drafts =>
        Bill.ofDrafts month drafts notes dueDate := by
  unfold assemble
  cases monthDrafts template overrides extras with
  | error e => rfl
  | ok drafts =>
    dsimp only [Except.bind]
    cases Bill.ofDrafts month drafts notes dueDate <;> rfl

/-- Rows are only ever refused for breaking an invariant. -/
theorem kind_exactBill (rows : List Draft) :
    (exactBill month dueDate notes rows).mapError Refusal.kind =
      (exactBill month dueDate notes rows).mapError fun _ => .invariant := by
  unfold exactBill
  by_cases hsum : draftSum rows < 2 ^ 64
  · rw [dif_pos hsum]
    by_cases hl : rows.length ≤ 2 ^ 32
    · rw [dif_pos hl]
      rfl
    · rw [dif_neg hl]
      rfl
  · rw [dif_neg hsum]
    rfl

/-- **Assembling.** The result is the bill of the month, or the refusal that says why there is
none: a varying item without an identifier before a total that does not fit, and that before too
many rows. The first breaks the contract, the others an invariant. -/
theorem assemble_eq_monthBill :
    (assemble template overrides extras month dueDate notes).result =
        monthBill template overrides extras month dueDate notes ∧
      (monthBill template overrides extras month dueDate notes).mapError Refusal.kind =
        match template.items.find? TemplateItem.lacksId with
        | some _ => .error .contract
        | none => (exactBill month dueDate notes (monthRows template overrides extras)).mapError
            fun _ => .invariant := by
  rw [assemble_result, monthDrafts_eq]
  unfold monthBill
  cases template.items.find? TemplateItem.lacksId with
  | some item => exact ⟨rfl, rfl⟩
  | none =>
    exact ⟨ofDrafts_eq_exactBill month dueDate notes _, kind_exactBill month dueDate notes _⟩

end RentBilling
