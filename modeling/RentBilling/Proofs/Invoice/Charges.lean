import RentBilling.Proofs.Billing.Identifiers
import RentBilling.Proofs.Invoice.Payment
import RentBilling.Proofs.Storage.Charges

/-!
Bills and invoices with extra charges.

The extra rows of an assembled bill are its extra charges (`toDraft_mem_extras`), and every charge
has a row (`exists_row_of_mem_extras`). A charge is checked wherever it comes from. So every extra
row says what is to be paid and asks for something, a bill with extra charges is never free, and
neither is an invoice of it (`charges_are_checked`).
-/

namespace RentBilling

open Numeral Pix Storage

/-! ## Rows of extra charges -/

theorem ItemKind.toRowKind_ne_extra (kind : ItemKind) : kind.toRowKind ≠ .extra := by
  cases kind <;> exact nofun

section

variable {template : Template} {overrides : Overrides} {extras : List ExtraCharge}
variable {month : ReferenceMonth} {dueDate : Option Date} {notes : String} {bill : Bill}

theorem drafts_of_assemble
    (h : (assemble template overrides extras month dueDate notes).result = .ok bill) :
    bill.rows.map LineItem.toDraft =
      template.items.map (TemplateItem.monthRow overrides) ++ extras.map ExtraCharge.draft := by
  rw [Template.rows_of_assemble h, map_toDraft_number]
  rfl

theorem toDraft_mem_extras
    (h : (assemble template overrides extras month dueDate notes).result = .ok bill)
    {row : LineItem} (hrow : row ∈ bill.rows) (hkind : row.kind = .extra) :
    row.toDraft ∈ extras.map ExtraCharge.draft := by
  have hmem : row.toDraft ∈ bill.rows.map LineItem.toDraft := List.mem_map_of_mem hrow
  rw [drafts_of_assemble h, List.mem_append] at hmem
  rcases hmem with hitem | hextra
  · obtain ⟨item, _, hitem⟩ := List.mem_map.mp hitem
    have hkind' : item.kind.toRowKind = .extra := (congrArg Draft.kind hitem).trans hkind
    exact absurd hkind' item.kind.toRowKind_ne_extra
  · exact hextra

theorem exists_row_of_mem_extras
    (h : (assemble template overrides extras month dueDate notes).result = .ok bill)
    {e : ExtraCharge} (he : e ∈ extras) : ∃ row ∈ bill.rows, row.toDraft = e.draft := by
  have hmem : e.draft ∈ bill.rows.map LineItem.toDraft := by
    rw [drafts_of_assemble h]
    exact List.mem_append_right _ (List.mem_map_of_mem he)
  exact List.mem_map.mp hmem

/-- A bill costs at least what each of its extra charges does. -/
theorem amount_le_total
    (h : (assemble template overrides extras month dueDate notes).result = .ok bill)
    {e : ExtraCharge} (he : e ∈ extras) : e.amount.toNat ≤ bill.total.toNat := by
  obtain ⟨row, hrow, hdraft⟩ := exists_row_of_mem_extras h he
  have hamount : row.amount = e.amount := congrArg Draft.amount hdraft
  have hcreated : Bill.Created month bill := .assembled h
  rw [hcreated.consistent.1.total, ← hamount]
  exact amount_le_rowSum hrow

end

/-! ## Invoices that ask for an amount -/

/-- The payload of every payment section for the bill has a field of the amount, with the value of
the total. -/
def Bill.AsksForTotal (bill : Bill) : Prop :=
  ∀ (template : Template) (settings : PixSettings) (drawing : Qr.Drawing) (invoice : Invoice)
    (pix : PaymentSection),
    (Invoice.buildWith bill template settings drawing).result = .ok invoice →
    invoice.pix = some pix →
    ∃ records v, decodeFields pix.payload = .ok records ∧ records.lookup "54" = some v ∧
      decimalValue? v.toList = some ((bill.total.toNat : Rat) / 100)

theorem asksForTotal {bill : Bill} (hpos : 0 < bill.total.toNat) : bill.AsksForTotal := by
  intro template settings drawing invoice pix h hpix
  obtain ⟨_, _, hencode⟩ := Invoice.encode_of_buildWith h hpix
  obtain ⟨account, extra, checksum, hread, _⟩ := Request.decodeFields_of_encode hencode
  have hsome := (Request.lookup_amount_isSome_iff (Invoice.request pix.pixKey settings bill)
    account extra checksum).mpr hpos
  obtain ⟨v, hv⟩ := Option.isSome_iff_exists.mp hsome
  exact ⟨_, v, hread, hv, Request.decimalValue?_of_lookup_amount hv⟩

/-! ## Extra charges from end to end -/

/-- What is known of a bill with these extra charges. -/
structure Bill.Charges (bill : Bill) (extras : List ExtraCharge) : Prop where
  rows : ∀ row ∈ bill.rows, row.kind = .extra →
    0 < row.amount.toNat ∧ ∃ c ∈ row.description.toList, ¬ Text.isBlank c
  total : extras ≠ [] → 0 < bill.total.toNat
  asks : extras ≠ [] → bill.AsksForTotal

theorem Bill.charges_of_assemble {template : Template} {overrides : Overrides}
    {extras : List ExtraCharge} {month : ReferenceMonth} {dueDate : Option Date} {notes : String}
    {bill : Bill} (hextras : ∀ e ∈ extras, e.Obtained)
    (h : (assemble template overrides extras month dueDate notes).result = .ok bill) :
    bill.Charges extras := by
  have htotal : extras ≠ [] → 0 < bill.total.toNat := by
    intro hne
    obtain ⟨e, he⟩ := List.exists_mem_of_ne_nil extras hne
    exact Nat.lt_of_lt_of_le (hextras e he).checked.1 (amount_le_total h he)
  refine ⟨?_, htotal, fun hne => asksForTotal (htotal hne)⟩
  intro row hrow hkind
  obtain ⟨e, he, hdraft⟩ := List.mem_map.mp (toDraft_mem_extras h hrow hkind)
  have hamount : e.amount = row.amount := congrArg Draft.amount hdraft
  have hdescription : e.description = row.description := congrArg Draft.description hdraft
  rw [← hamount, ← hdescription]
  exact (hextras e he).checked

namespace ExtraCharge

/-- **No charge without its checks.** A new charge is refused if its description is blank, or else
if its amount is zero. A text stores as a charge what a new one of the stored description and amount
comes to, with the same refusals. So in a bill that is assembled with charges of either origin every
extra row has a positive amount and a description that is not blank, and if there is any, the total
is positive and every payment section for the bill asks for it. -/
theorem charges_are_checked :
    (∀ description amount, CheckedWhenNew description amount) ∧
      (∀ text, ReadsAsNew text) ∧
      (∀ description amount j, RecordSpelling (storedFields description amount) j →
        decode j.render = (of? description amount).mapError ReadFailure.refused) ∧
      ∀ (template : Template) (overrides : Overrides) (extras : List ExtraCharge)
        (month : ReferenceMonth) (dueDate : Option Date) (notes : String) (bill : Bill),
        (∀ e ∈ extras, e.Obtained) →
        (assemble template overrides extras month dueDate notes).result = .ok bill →
        bill.Charges extras :=
  ⟨checkedWhenNew, readsAsNew, fun _ _ j h => decode_of_spelled (Json.read_render j) h,
    fun _ _ _ _ _ _ _ hextras h => Bill.charges_of_assemble hextras h⟩

def repair : ExtraCharge := ⟨"Conserto", ⟨15000⟩, by decide, by decide⟩

/-- The repair as an array. -/
def listedRepair : Json := .array [.text "Conserto", .natural 15000]

/-- Only blanks, for free, among other members. -/
def blankCharge : Json :=
  .object [(some "amount", .natural 0), (some "paid", .null),
    (some "description", .text "\t\u3000")]

def repairBill : Bill :=
  ⟨Bill.sampleMonth,
    [⟨"Aluguel", ⟨285000⟩, .fixed, 0⟩, ⟨"Agua", ⟨0⟩, .varying, 1⟩,
      ⟨"Conserto", ⟨15000⟩, .extra, 2⟩], ⟨300000⟩, "", none, none⟩

set_option maxRecDepth 4000 in
/-- The repair, read from an array, in a bill with a payment section. The blank charge is refused
for its description, and so is one that a text goes on after. -/
theorem charges_are_checked_repair :
    decode listedRepair.render = .ok repair ∧
      (assemble Bill.sampleTemplate (.ofPairs []) [repair] Bill.sampleMonth none "").result =
        .ok repairBill ∧
      repairBill.Charges [repair] ∧
      (∃ invoice pix records, (Invoice.buildWith repairBill Bill.sampleTemplate
          Invoice.sampleSettings .default).result = .ok invoice ∧ invoice.pix = some pix ∧
        decodeFields pix.payload = .ok records ∧ (records.lookup "54").isSome) ∧
      decode blankCharge.render =
        (.error (.refused .blankExtraDescription) : Except ReadFailure ExtraCharge) ∧
      decode "[\" \", 0] x" =
        (.error (.refused .blankExtraDescription) : Except ReadFailure ExtraCharge) := by
  obtain ⟨_, hread, hspelled, hbills⟩ := charges_are_checked
  have hlisted : decode listedRepair.render = .ok repair :=
    hspelled "Conserto" ⟨15000⟩ listedRepair .array
  have hbill : (assemble Bill.sampleTemplate (.ofPairs []) [repair] Bill.sampleMonth none
      "").result = .ok repairBill := by decide +kernel
  have hobtained : ∀ e ∈ [repair], e.Obtained := by
    intro e he
    obtain rfl := List.mem_singleton.mp he
    exact .read hlisted
  have hcharges := hbills _ _ _ _ _ _ _ hobtained hbill
  have hsome : ((Invoice.buildWith repairBill Bill.sampleTemplate Invoice.sampleSettings
      .default).result.toOption.bind Invoice.pix).isSome := by decide +kernel
  obtain ⟨invoice, pix, hinvoice, hpix⟩ := Invoice.exists_section hsome
  obtain ⟨records, v, hrecords, hv, _⟩ := hcharges.asks nofun _ _ _ _ _ hinvoice hpix
  refine ⟨hlisted, hbill, hcharges,
    ⟨invoice, pix, records, hinvoice, hpix, hrecords, Option.isSome_iff_exists.mpr ⟨v, hv⟩⟩, ?_, ?_⟩
  · exact hspelled "\t\u3000" ⟨0⟩ blankCharge
      (.object (by decide) (List.forall_mem_cons.mpr ⟨rfl, List.forall_mem_singleton.mpr rfl⟩))
  · exact ((hread _).refusal _).mpr
      ⟨.array [.text " ", .natural 0], true, " ", ⟨0⟩, rfl, .array, rfl⟩

end ExtraCharge

end RentBilling
