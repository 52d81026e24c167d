import Mathlib.Data.List.Forall2
import RentBilling.Proofs.Billing.Edits
import RentBilling.Proofs.Billing.Overrides

/-!
What an assembled bill depends on.

Of an item, assembling reads the description and the kind; an amount counts for a fixed item only,
and an identifier for a varying one only (`TemplateItem.SameCharge`). Of the amounts of a month it
reads the last one for each varying item. Two runs that agree on all of this end alike, in the same
bill or in the same refusal, whatever else is different (`assemble_result_congr`): the name of the
template and its key, the places and the other amounts and identifiers of its items, and the amounts
given for anything else or given first and replaced later.
-/

namespace RentBilling

/-- The items agree on all that assembling reads. -/
structure TemplateItem.SameCharge (item item' : TemplateItem) : Prop where
  description : item.description = item'.description
  kind : item.kind = item'.kind
  amount : item.kind = .fixed → item.amount = item'.amount
  id : item.kind = .varying → item.id = item'.id

/-- For the item, if its amount varies, both give the same amount. -/
def TemplateItem.SameAmount (overrides overrides' : Overrides) (item : TemplateItem) : Prop :=
  item.kind = .varying → ∀ id, item.id = some id → overrides.find? id = overrides'.find? id

section

variable {overrides overrides' : Overrides}

theorem TemplateItem.monthAmount_congr {item item' : TemplateItem} (h : item.SameCharge item')
    (hamount : item.SameAmount overrides overrides') :
    item.monthAmount overrides = item'.monthAmount overrides' := by
  unfold monthAmount
  rw [← h.kind, ← h.description]
  cases hk : item.kind with
  | fixed => rw [h.amount hk]
  | varying =>
    rw [← h.id hk]
    cases hid : item.id with
    | none => rfl
    | some id =>
      dsimp only
      rw [hamount hk id hid]

theorem TemplateItem.draft_congr {item item' : TemplateItem} (h : item.SameCharge item')
    (hamount : item.SameAmount overrides overrides') :
    item.draft overrides = item'.draft overrides' := by
  unfold draft
  rw [monthAmount_congr h hamount, h.description, h.kind]

theorem mapM_draft_congr {items items' : List TemplateItem}
    (h : List.Forall₂ TemplateItem.SameCharge items items')
    (hamounts : ∀ item ∈ items, item.SameAmount overrides overrides') :
    items.mapM (TemplateItem.draft overrides) = items'.mapM (TemplateItem.draft overrides') := by
  induction h with
  | nil => rfl
  | cons hitem _ ih =>
    rw [List.forall_mem_cons] at hamounts
    rw [List.mapM_cons, List.mapM_cons, TemplateItem.draft_congr hitem hamounts.1, ih hamounts.2]

theorem TemplateItem.monthRow_congr {item : TemplateItem}
    (h : item.SameAmount overrides overrides') :
    item.monthRow overrides = item.monthRow overrides' := by
  obtain ⟨id, description, amount, kind, sortOrder⟩ := item
  cases kind with
  | fixed => rfl
  | varying =>
    cases id with
    | none => rfl
    | some id =>
      have hfind : overrides.find? id = overrides'.find? id := h rfl id rfl
      simp only [monthRow, Option.bind_some, hfind]

theorem monthRows_congr {template : Template}
    (h : ∀ item ∈ template.items, item.SameAmount overrides overrides')
    (extras : List ExtraCharge) :
    monthRows template overrides extras = monthRows template overrides' extras := by
  unfold monthRows
  rw [List.map_congr_left fun item hitem => TemplateItem.monthRow_congr (h item hitem)]

end

theorem Template.mem_varyingIds_iff {t : Template} {id : ItemId} :
    id ∈ t.varyingIds ↔ ∃ item ∈ t.items, item.kind = .varying ∧ item.id = some id := by
  simp [varyingIds, idsOf, and_assoc]

/-- **Two runs of assembling.** Templates whose items agree on all that is read, amounts that end up
the same for each varying item, and the same extra charges, month, due date and notes lead to the
same bill or to the same refusal. -/
theorem assemble_result_congr {template template' : Template}
    {pairs pairs' : List (ItemId × Centavos)}
    (hitems : List.Forall₂ TemplateItem.SameCharge template.items template'.items)
    (hamounts : ∀ id ∈ template.varyingIds, lastAmount? pairs id = lastAmount? pairs' id)
    (extras : List ExtraCharge) (month : ReferenceMonth) (dueDate : Option Date)
    (notes : String) :
    (assemble template (.ofPairs pairs) extras month dueDate notes).result =
      (assemble template' (.ofPairs pairs') extras month dueDate notes).result := by
  have hsame : ∀ item ∈ template.items,
      item.SameAmount (.ofPairs pairs) (.ofPairs pairs') := by
    intro item hmem hk id hid
    rw [Overrides.find?_ofPairs, Overrides.find?_ofPairs]
    exact hamounts id (Template.mem_varyingIds_iff.mpr ⟨item, hmem, hk, hid⟩)
  have hdrafts : monthDrafts template (.ofPairs pairs) extras =
      monthDrafts template' (.ofPairs pairs') extras := by
    unfold monthDrafts
    rw [mapM_draft_congr hitems hsame]
  rw [assemble_result, assemble_result, hdrafts]

/-! ## Two runs with little in common -/

/-- The template of the sample bill in another order of places, with another name, without a key,
and with an identifier for the rent and an amount for the water. -/
def disguisedTemplate : Template :=
  ⟨"Casa", [⟨some ⟨9#128⟩, "Aluguel", ⟨285000⟩, .fixed, 4⟩,
    ⟨some ⟨7#128⟩, "Agua", ⟨18446744073709551615⟩, .varying, 2⟩], none, by decide⟩

theorem sameCharge_disguised :
    List.Forall₂ TemplateItem.SameCharge Bill.sampleTemplate.items disguisedTemplate.items :=
  .cons ⟨rfl, rfl, fun _ => rfl, nofun⟩ (.cons ⟨rfl, rfl, nofun, fun _ => rfl⟩ .nil)

/-- The water has one amount in the first run. In the second it has another one first, and the rent
has one that does not count. -/
theorem assemble_result_congr_disguised :
    List.Forall₂ TemplateItem.SameCharge Bill.sampleTemplate.items disguisedTemplate.items ∧
      (∀ id ∈ Bill.sampleTemplate.varyingIds,
        lastAmount? [(⟨7#128⟩, ⟨8000⟩)] id =
          lastAmount? [(⟨7#128⟩, ⟨1⟩), (⟨9#128⟩, ⟨50⟩), (⟨7#128⟩, ⟨8000⟩)] id) ∧
      (assemble Bill.sampleTemplate (.ofPairs [(⟨7#128⟩, ⟨8000⟩)]) [] Bill.sampleMonth none
          "").result =
        (assemble disguisedTemplate
          (.ofPairs [(⟨7#128⟩, ⟨1⟩), (⟨9#128⟩, ⟨50⟩), (⟨7#128⟩, ⟨8000⟩)]) [] Bill.sampleMonth none
          "").result := by
  have hamounts : ∀ id ∈ Bill.sampleTemplate.varyingIds,
      lastAmount? [(⟨7#128⟩, ⟨8000⟩)] id =
        lastAmount? [(⟨7#128⟩, ⟨1⟩), (⟨9#128⟩, ⟨50⟩), (⟨7#128⟩, ⟨8000⟩)] id := by decide
  exact ⟨sameCharge_disguised, hamounts,
    assemble_result_congr sameCharge_disguised hamounts [] Bill.sampleMonth none ""⟩

end RentBilling
