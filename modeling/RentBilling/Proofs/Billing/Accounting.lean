import Mathlib.Data.List.Pairwise
import RentBilling.Proofs.Billing.Relevance
import RentBilling.Proofs.ItemId.Spellings

/-!
What becomes of the amounts given for a month.

Every amount is given for an item by its identifier. If the item varies, its row has this amount. If
the item is fixed, its row keeps the amount of the template, and nothing at all would be different
without the amount that was given. If the template has no such item, the amount is left out: without
it the bill would be the same, and the log would lack the one line that reports it
(`accounts_for_overrides`). These lines come first and in ascending order of the identifiers; they
are there as well when the total does not fit and no bill is made.
-/

namespace RentBilling

/-! ## Reports -/

/-- The line of the log that reports an amount left out. -/
def Event.leavesOut (id : ItemId) (e : Event) : Bool :=
  e.level = .debug ∧ e.message = "ignoring override for item not in template" ∧
    e.fields = [("item_id", .text id.text)]

theorem ItemId.text_injective {id id' : ItemId} (h : id.text = id'.text) : id = id' := by
  have hread := ofText_text id
  rw [h, ofText_text] at hread
  exact (Except.ok.inj hread).symm

theorem Event.leavesOut_iff {id : ItemId} {e : Event} :
    e.leavesOut id ↔ e = .staleOverride id := by
  constructor
  · intro h
    obtain ⟨-, hmessage, hfields⟩ := of_decide_eq_true h
    cases e with
    | staleOverride id' =>
      have htext : id'.text = id.text := by simpa [fields] using hfields
      rw [ItemId.text_injective htext]
    | _ => simp [message] at hmessage
  · intro h
    rw [h]
    exact decide_eq_true ⟨rfl, rfl, rfl⟩

/-- Each identifier is reported as often as it is listed. -/
theorem countP_leavesOut_map (ids : List ItemId) (id : ItemId) :
    (ids.map Event.staleOverride).countP (Event.leavesOut id) = ids.count id := by
  rw [List.countP_map, List.count]
  refine List.countP_congr fun id' _ => ?_
  rw [Function.comp_apply, Event.leavesOut_iff, beq_iff_eq, Event.staleOverride.injEq]

/-- What is reported last, if a bill is made. -/
def closingEvents (template : Template) (month : ReferenceMonth) :
    Except Refusal Bill → List Event
  | .ok bill => [.billAssembled template.name month bill.rows.length bill.total]
  | .error _ => []

theorem not_mem_closingEvents (template : Template) (month : ReferenceMonth)
    (result : Except Refusal Bill) (id : ItemId) :
    .staleOverride id ∉ closingEvents template month result := by
  cases result <;> simp [closingEvents]

theorem countP_leavesOut_closing (template : Template) (month : ReferenceMonth)
    (result : Except Refusal Bill) (id : ItemId) :
    (closingEvents template month result).countP (Event.leavesOut id) = 0 := by
  rw [List.countP_eq_zero]
  intro e he hleaves
  obtain rfl := Event.leavesOut_iff.mp hleaves
  exact not_mem_closingEvents template month result id he

theorem mem_staleIds_iff {template : Template} {overrides : Overrides} {id : ItemId} :
    id ∈ staleIds template overrides ↔
      id ∈ overrides.ids ∧ ∀ item ∈ template.items, item.id ≠ some id := by
  simp [staleIds, Template.contains]

theorem ascending_staleIds (template : Template) (overrides : Overrides) :
    (staleIds template overrides).Pairwise (· < ·) :=
  overrides.ids_ascending.filter _

theorem nodup_staleIds (template : Template) (overrides : Overrides) :
    (staleIds template overrides).Nodup := overrides.nodup_ids.filter _

theorem staleIds_erase (template : Template) (overrides : Overrides) (id : ItemId) :
    staleIds template (overrides.erase id) = (staleIds template overrides).erase id := by
  rw [(nodup_staleIds template overrides).erase_eq_filter, staleIds, staleIds,
    Overrides.ids_erase, List.filter_comm]

/-! ## Items of an identifier -/

theorem Template.eq_of_id {t : Template} {item item' : TemplateItem} {id : ItemId}
    (hin : item ∈ t.items) (hin' : item' ∈ t.items) (hid : item.id = some id)
    (hid' : item'.id = some id) : item = item' := by
  have hpair := List.pairwise_filterMap.mp t.ids_nodup
  have hsymm : Std.Symm fun a b : TemplateItem => ∀ x, a.id = some x → ∀ y, b.id = some y → x ≠ y :=
    ⟨fun _ _ hab y hy x hx => (hab x hx y hy).symm⟩
  by_contra hne
  exact hpair.forall hin hin' hne id hid id hid' rfl

theorem Template.not_mem_varyingIds_of_fixed {t : Template} {item : TemplateItem} {id : ItemId}
    (hin : item ∈ t.items) (hid : item.id = some id) (hk : item.kind = .fixed) :
    id ∉ t.varyingIds := by
  rw [mem_varyingIds_iff]
  rintro ⟨other, hother, hvaries, hid'⟩
  rw [eq_of_id hother hin hid' hid, hk] at hvaries
  contradiction

/-! ## Assembling -/

theorem drafts_of_ofDrafts {month : ReferenceMonth} {rows : List Draft} {notes : String}
    {dueDate : Option Date} {bill : Bill} (h : Bill.ofDrafts month rows notes dueDate = .ok bill) :
    bill.drafts = rows := by
  obtain ⟨hplaced, -⟩ := Bill.placeRows_of_ofDrafts h
  rw [Bill.drafts, (of_placeRows_ok hplaced).1, map_toDraft_number]

section

variable {template : Template} (overrides : Overrides) (extras : List ExtraCharge)
variable (month : ReferenceMonth) (dueDate : Option Date) (notes : String)

theorem monthDrafts_of_ids (hids : ∀ item ∈ template.items, item.lacksId = false) :
    monthDrafts template overrides extras = .ok (monthRows template overrides extras) := by
  have hnone : template.items.find? TemplateItem.lacksId = none := by
    rw [List.find?_eq_none]
    intro item hitem
    rw [hids item hitem]
    exact Bool.false_ne_true
  rw [monthDrafts_eq, hnone]

theorem assemble_of_ids (hids : ∀ item ∈ template.items, item.lacksId = false) :
    (assemble template overrides extras month dueDate notes).result =
        Bill.ofDrafts month (monthRows template overrides extras) notes dueDate ∧
      (assemble template overrides extras month dueDate notes).events =
        (staleIds template overrides).map .staleOverride ++
          closingEvents template month
            (assemble template overrides extras month dueDate notes).result := by
  unfold assemble
  rw [monthDrafts_of_ids overrides extras hids]
  dsimp only
  cases Bill.ofDrafts month (monthRows template overrides extras) notes dueDate with
  | error e => exact ⟨rfl, (List.append_nil _).symm⟩
  | ok bill => exact ⟨rfl, rfl⟩

theorem countP_leavesOut_assemble (hids : ∀ item ∈ template.items, item.lacksId = false)
    (id : ItemId) :
    (assemble template overrides extras month dueDate notes).events.countP (Event.leavesOut id) =
      (staleIds template overrides).count id := by
  rw [(assemble_of_ids overrides extras month dueDate notes hids).2, List.countP_append,
    countP_leavesOut_closing, countP_leavesOut_map, Nat.add_zero]

/-- An amount given for an item of the template is not reported. -/
theorem countP_leavesOut_of_item (hids : ∀ item ∈ template.items, item.lacksId = false)
    {item : TemplateItem} {id : ItemId} (hin : item ∈ template.items) (hid : item.id = some id) :
    (assemble template overrides extras month dueDate notes).events.countP (Event.leavesOut id) =
      0 := by
  rw [countP_leavesOut_assemble overrides extras month dueDate notes hids, List.count_eq_zero]
  intro hstale
  exact (mem_staleIds_iff.mp hstale).2 item hin hid

theorem getElem?_monthRows {i : Nat} {item : TemplateItem} (h : template.items[i]? = some item) :
    (monthRows template overrides extras)[i]? = some (item.monthRow overrides) := by
  obtain ⟨hi, -⟩ := List.getElem?_eq_some_iff.mp h
  rw [monthRows, List.getElem?_append_left (by rwa [List.length_map]), List.getElem?_map, h]
  rfl

/-! ## Assembling without an amount -/

/-- The rows do not depend on an amount that no varying item has. -/
theorem monthRows_erase {id : ItemId} (h : id ∉ template.varyingIds) :
    monthRows template (overrides.erase id) extras = monthRows template overrides extras := by
  refine monthRows_congr (fun item hitem hkind other hother => ?_) extras
  refine overrides.find?_erase_of_ne ?_
  rintro rfl
  exact h (Template.mem_varyingIds_iff.mpr ⟨item, hitem, hkind, hother⟩)

/-- Without such an amount the result is the same, and the log has no report of it. -/
theorem assemble_erase (hids : ∀ item ∈ template.items, item.lacksId = false) {id : ItemId}
    (h : id ∉ template.varyingIds) :
    assemble template (overrides.erase id) extras month dueDate notes =
      ⟨(assemble template overrides extras month dueDate notes).events.erase (.staleOverride id),
        (assemble template overrides extras month dueDate notes).result⟩ := by
  obtain ⟨hresult, hevents⟩ := assemble_of_ids overrides extras month dueDate notes hids
  obtain ⟨hresult', hevents'⟩ :=
    assemble_of_ids (overrides.erase id) extras month dueDate notes hids
  rw [monthRows_erase overrides extras h, ← hresult] at hresult'
  have hclosing := not_mem_closingEvents template month
    (assemble template overrides extras month dueDate notes).result id
  have hlog : (assemble template (overrides.erase id) extras month dueDate notes).events =
      (assemble template overrides extras month dueDate notes).events.erase
        (.staleOverride id) := by
    rw [hevents', hresult', staleIds_erase, List.map_erase fun _ _ => Event.staleOverride.inj,
      hevents, List.erase_append]
    -- An amount of a fixed item has no report, and then nothing is taken away on either side.
    split
    · rfl
    · rename_i hnone
      rw [List.erase_of_not_mem hnone, List.erase_of_not_mem hclosing]
  rw [← hlog, ← hresult']

/-- Without the amount of a fixed item, result and log are the same. -/
theorem assemble_erase_of_fixed (hids : ∀ item ∈ template.items, item.lacksId = false)
    {item : TemplateItem} {id : ItemId} (hin : item ∈ template.items) (hid : item.id = some id)
    (hk : item.kind = .fixed) :
    assemble template (overrides.erase id) extras month dueDate notes =
      assemble template overrides extras month dueDate notes := by
  have hsilent := countP_leavesOut_of_item overrides extras month dueDate notes hids hin hid
  have hunreported :
      .staleOverride id ∉ (assemble template overrides extras month dueDate notes).events :=
    fun he => List.countP_eq_zero.mp hsilent _ he (Event.leavesOut_iff.mpr rfl)
  rw [assemble_erase overrides extras month dueDate notes hids
    (Template.not_mem_varyingIds_of_fixed hin hid hk), List.erase_of_not_mem hunreported]

/-! ## Every amount -/

/-- What becomes of the amount given for an item, in the rows of the month and in the log. It is
compared with what `run` gives without the amount. -/
inductive Accounted (template : Template) (overrides : Overrides) (rows : List Draft)
    (run : Overrides → Logged (Except Refusal Bill)) (id : ItemId) (amount : Centavos) : Prop where
  | /-- The item varies, and its row has the amount. -/
    applied {i : Nat} {item : TemplateItem} (item_at : template.items[i]? = some item)
    (has_id : item.id = some id) (varies : item.kind = .varying)
    (row_at : rows[i]? = some ⟨item.description, amount, .varying⟩)
    (silent : (run overrides).events.countP (Event.leavesOut id) = 0)
  | /-- The item is fixed, and its row has the item's own amount. Without the amount that was given,
    nothing is different. -/
    passedOver {i : Nat} {item : TemplateItem} (item_at : template.items[i]? = some item)
    (has_id : item.id = some id) (fixed : item.kind = .fixed)
    (row_at : rows[i]? = some ⟨item.description, item.amount, .fixed⟩)
    (unread : run (overrides.erase id) = run overrides)
    (silent : (run overrides).events.countP (Event.leavesOut id) = 0)
  | /-- There is no such item, and one line of the log says so. Without the amount, nothing but this
    line is different. -/
    leftOut (absent : ∀ item ∈ template.items, item.id ≠ some id)
    (dropped : run (overrides.erase id) =
      ⟨(run overrides).events.erase (.staleOverride id), (run overrides).result⟩)
    (reported : (run overrides).events.countP (Event.leavesOut id) = 1)

theorem accounted_of_mem (hids : ∀ item ∈ template.items, item.lacksId = false) {id : ItemId}
    {amount : Centavos} (h : (id, amount) ∈ overrides.entries) :
    Accounted template overrides (monthRows template overrides extras)
      (fun o => assemble template o extras month dueDate notes) id amount := by
  by_cases hitem : ∃ item ∈ template.items, item.id = some id
  · obtain ⟨item, hin, hid⟩ := hitem
    have hsilent := countP_leavesOut_of_item overrides extras month dueDate notes hids hin hid
    obtain ⟨i, hi⟩ := List.mem_iff_getElem?.mp hin
    have hrow := getElem?_monthRows overrides extras hi
    cases hk : item.kind with
    | varying =>
      refine .applied hi hid hk ?_ hsilent
      rw [hrow]
      simp [TemplateItem.monthRow, hk, hid, Overrides.find?_of_mem h]
    | fixed =>
      have hunread := assemble_erase_of_fixed overrides extras month dueDate notes hids hin hid hk
      refine .passedOver hi hid hk ?_ hunread hsilent
      rw [hrow]
      simp [TemplateItem.monthRow, hk]
  · have habsent : ∀ item ∈ template.items, item.id ≠ some id :=
      fun item hin hid => hitem ⟨item, hin, hid⟩
    have hvarying : id ∉ template.varyingIds := by
      rw [Template.mem_varyingIds_iff]
      rintro ⟨item, hin, -, hid⟩
      exact habsent item hin hid
    have hstale : id ∈ staleIds template overrides :=
      mem_staleIds_iff.mpr ⟨List.mem_map.mpr ⟨(id, amount), h, rfl⟩, habsent⟩
    refine .leftOut habsent
      (assemble_erase overrides extras month dueDate notes hids hvarying) ?_
    rw [countP_leavesOut_assemble overrides extras month dueDate notes hids,
      (nodup_staleIds template overrides).count, if_pos hstale]

end

/-- The bill of a month, made by `run`, and its log account for all amounts that were given. -/
structure AccountsFor (template : Template) (overrides : Overrides) (extras : List ExtraCharge)
    (month : ReferenceMonth) (dueDate : Option Date) (notes : String)
    (run : Overrides → Logged (Except Refusal Bill)) (leftOut : List ItemId) : Prop where
  /-- The bill has one row for each item, one for each extra charge, and no other row. There is none
  if their total or their number does not fit. -/
  result : (run overrides).result =
    exactBill month dueDate notes (monthRows template overrides extras)
  drafts : ∀ bill, (run overrides).result = .ok bill →
    bill.drafts = monthRows template overrides extras
  entries : ∀ id amount, (id, amount) ∈ overrides.entries →
    Accounted template overrides (monthRows template overrides extras) run id amount
  /-- The reports come first. Nothing follows them if there is no bill. -/
  events : (run overrides).events =
    leftOut.map .staleOverride ++ closingEvents template month (run overrides).result
  ascending : leftOut.Pairwise (· < ·)
  mem_leftOut : ∀ id, id ∈ leftOut ↔
    id ∈ overrides.ids ∧ ∀ item ∈ template.items, item.id ≠ some id

/-- **Where the amounts of a month go.** If no varying item lacks an identifier, every amount given
is the one in the row of its varying item; or it belongs to a fixed item, and result and log are the
same without it; or there is no item for it, and without it the result is the same and the log lacks
its report. Only these last ones are reported, each once, in ascending order and before the bill,
whether or not the total fits. The rows are those of the items and of the extra charges. -/
theorem accounts_for_overrides {template : Template}
    (hids : ∀ item ∈ template.items, item.lacksId = false) (overrides : Overrides)
    (extras : List ExtraCharge) (month : ReferenceMonth) (dueDate : Option Date)
    (notes : String) :
    ∃ leftOut, AccountsFor template overrides extras month dueDate notes
      (fun o => assemble template o extras month dueDate notes) leftOut := by
  obtain ⟨hresult, hevents⟩ := assemble_of_ids overrides extras month dueDate notes hids
  refine ⟨staleIds template overrides, hresult.trans (ofDrafts_eq_exactBill ..), ?_, ?_, hevents,
    ascending_staleIds template overrides, fun id => mem_staleIds_iff⟩
  · intro bill hbill
    exact drafts_of_ofDrafts (hresult.symm.trans hbill)
  · intro id amount h
    exact accounted_of_mem overrides extras month dueDate notes hids h

/-- A rent that is fixed and has an identifier, and water by meter. -/
def meteredTemplate : Template :=
  ⟨"Casa", [⟨some ⟨9#128⟩, "Aluguel", ⟨285000⟩, .fixed, 0⟩,
    ⟨some ⟨7#128⟩, "Agua", ⟨0⟩, .varying, 1⟩], none, by decide⟩

/-- Amounts for the water, for the rent, and for two items that there are not. -/
def meteredOverrides : Overrides :=
  .ofPairs [(⟨12#128⟩, ⟨1⟩), (⟨7#128⟩, ⟨8000⟩), (⟨9#128⟩, ⟨50⟩), (⟨3#128⟩, ⟨2⟩)]

/-- A charge that no other amount can be added to. -/
def largestExtra : ExtraCharge :=
  ⟨"Juros", ⟨18446744073709551615⟩, by decide, by decide⟩

/-- Without the charge there is a bill, of the rent and of the amount for the water. With it there
is none, but the same two reports. -/
theorem accounts_for_overrides_metered :
    (∀ item ∈ meteredTemplate.items, item.lacksId = false) ∧
      (∃ leftOut, AccountsFor meteredTemplate meteredOverrides [largestExtra] Bill.sampleMonth none
        "" (fun o => assemble meteredTemplate o [largestExtra] Bill.sampleMonth none "") leftOut) ∧
      assemble meteredTemplate meteredOverrides [largestExtra] Bill.sampleMonth none "" =
        ⟨[.staleOverride ⟨3#128⟩, .staleOverride ⟨12#128⟩], .error .totalOverflow⟩ ∧
      (assemble meteredTemplate meteredOverrides [] Bill.sampleMonth none "").events =
        [.staleOverride ⟨3#128⟩, .staleOverride ⟨12#128⟩,
          .billAssembled "Casa" Bill.sampleMonth 2 ⟨293000⟩] := by
  have hids : ∀ item ∈ meteredTemplate.items, item.lacksId = false := by decide
  exact ⟨hids, accounts_for_overrides hids meteredOverrides [largestExtra] Bill.sampleMonth none "",
    by decide +kernel, by decide +kernel⟩

/-- An amount given for a fixed item is neither used nor reported. -/
theorem fixed_amount_not_reported :
    ¬ ∀ (template : Template) (overrides : Overrides) (extras : List ExtraCharge)
        (month : ReferenceMonth) (dueDate : Option Date) (notes : String),
      (∀ item ∈ template.items, item.lacksId = false) →
        ∀ id amount, (id, amount) ∈ overrides.entries →
          id ∈ template.varyingIds ∨
            (assemble template overrides extras month dueDate notes).events.countP
              (Event.leavesOut id) = 1 := by
  intro h
  have hrent := h meteredTemplate meteredOverrides [] Bill.sampleMonth none "" (by decide)
    ⟨9#128⟩ ⟨50⟩ (by decide +kernel)
  revert hrent
  decide +kernel

end RentBilling
