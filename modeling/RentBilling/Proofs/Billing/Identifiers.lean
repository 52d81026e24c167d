import RentBilling.Proofs.Billing.Accounting
import RentBilling.Proofs.Billing.Relevance
import RentBilling.Proofs.Billing.Template

/-!
Identifiers of the items of a template.

Making a template goes through its items and stops at the first one whose identifier an item before
it has (`of?_eq_error_iff`). What is made has no identifier twice, whatever keys are set later. So
the amount that a month gives an identifier reaches one row at most, and the other rows of the bill
do not depend on it (`feedsOnce`).
-/

namespace RentBilling

/-! ## The first repetition -/

section

variable {α : Type} [DecidableEq α] {l : List α} {a : α}

/-- Nothing in front of the first repetition is one. -/
theorem firstRepeatedAfter_eq_some_iff {seen : List α} :
    firstRepeatedAfter seen l = some a ↔
      ∃ before after, l = before ++ a :: after ∧ firstRepeatedAfter seen before = none ∧
        (a ∈ seen ∨ a ∈ before) := by
  induction l generalizing seen with
  | nil => simp [firstRepeatedAfter]
  | cons b l ih =>
    rw [firstRepeatedAfter]
    by_cases hb : b ∈ seen
    · rw [if_pos hb, Option.some.injEq]
      constructor
      · rintro rfl
        exact ⟨[], l, rfl, rfl, .inl hb⟩
      · rintro ⟨before, after, hl, hnone, -⟩
        cases before with
        | nil => exact (List.cons.inj hl).1
        | cons c before =>
          obtain ⟨rfl, -⟩ := List.cons.inj hl
          rw [firstRepeatedAfter, if_pos hb] at hnone
          contradiction
    · rw [if_neg hb, ih]
      constructor
      · rintro ⟨before, after, rfl, hnone, ha⟩
        refine ⟨b :: before, after, rfl, by rw [firstRepeatedAfter, if_neg hb, hnone], ?_⟩
        rw [List.mem_cons] at ha ⊢
        tauto
      · rintro ⟨before, after, hl, hnone, ha⟩
        cases before with
        | nil =>
          obtain ⟨rfl, -⟩ := List.cons.inj hl
          exact absurd (ha.resolve_right List.not_mem_nil) hb
        | cons c before =>
          obtain ⟨rfl, rfl⟩ := List.cons.inj hl
          rw [firstRepeatedAfter, if_neg hb] at hnone
          refine ⟨before, after, rfl, hnone, ?_⟩
          rw [List.mem_cons] at ha ⊢
          tauto

theorem firstRepeated?_eq_some_iff :
    firstRepeated? l = some a ↔
      ∃ before after, l = before ++ a :: after ∧ before.Nodup ∧ a ∈ before := by
  rw [firstRepeated?, firstRepeatedAfter_eq_some_iff]
  simp only [← firstRepeated?_eq_none_iff, firstRepeated?, List.not_mem_nil, false_or]

end

/-! ## Items that clash -/

/-- Both items have the same identifier. Items without one never clash. -/
def TemplateItem.Clash (item item' : TemplateItem) : Prop :=
  ∃ id, item.id = some id ∧ item'.id = some id

/-- No item clashes with one behind it. -/
def ClashFree (items : List TemplateItem) : Prop :=
  items.Pairwise fun item item' => ¬ item.Clash item'

theorem nodup_idsOf_iff {items : List TemplateItem} : (idsOf items).Nodup ↔ ClashFree items := by
  rw [idsOf, List.Nodup, List.pairwise_filterMap]
  refine List.Pairwise.iff fun item item' => ?_
  constructor
  · rintro h ⟨id, hid, hid'⟩
    exact h id hid id hid' rfl
  · rintro h id hid id' hid' rfl
    exact h ⟨id, hid, hid'⟩

theorem not_clashFree_iff {items : List TemplateItem} :
    ¬ ClashFree items ↔ ∃ item item', [item, item'].Sublist items ∧ item.Clash item' := by
  rw [ClashFree, List.pairwise_iff_forall_sublist]
  simp only [not_forall, Classical.not_not, exists_prop]

/-- Items fall apart at an identifier as their identifiers do. -/
theorem idsOf_eq_append_cons_iff {items : List TemplateItem} {front back : List ItemId}
    {id : ItemId} :
    idsOf items = front ++ id :: back ↔
      ∃ before item after, items = before ++ item :: after ∧ idsOf before = front ∧
        item.id = some id ∧ idsOf after = back := by
  unfold idsOf
  constructor
  · intro h
    obtain ⟨before, rest, rfl, hfront, hrest⟩ := List.filterMap_eq_append_iff.mp h
    obtain ⟨between, item, after, rfl, hnone, hid, hback⟩ := List.filterMap_eq_cons_iff.mp hrest
    refine ⟨before ++ between, item, after, (List.append_assoc ..).symm, ?_, hid, hback⟩
    rw [List.filterMap_append, List.filterMap_eq_nil_iff.mpr hnone, List.append_nil, hfront]
  · rintro ⟨before, item, after, rfl, rfl, hid, rfl⟩
    rw [List.filterMap_append, List.filterMap_cons_some hid]

namespace Template

variable {name : String} {items : List TemplateItem} {t : Template}

/-! ## Making a template -/

theorem of?_eq_error_iff {e : Refusal} :
    of? name items = .error e ↔
      ∃ before item after id, items = before ++ item :: after ∧ item.id = some id ∧
        (∃ earlier ∈ before, earlier.id = some id) ∧ ClashFree before ∧
        e = .duplicateItemId id := by
  have hstep : of? name items = .error e ↔
      ∃ id, firstRepeated? (idsOf items) = some id ∧ e = .duplicateItemId id := by
    unfold of?
    split
    · next id hid => simp [hid, eq_comm]
    · next hnone => simp [hnone]
  rw [hstep]
  constructor
  · rintro ⟨id, hid, rfl⟩
    obtain ⟨front, back, hids, hnodup, hmem⟩ := firstRepeated?_eq_some_iff.mp hid
    obtain ⟨before, item, after, rfl, rfl, hitem, rfl⟩ := idsOf_eq_append_cons_iff.mp hids
    exact ⟨before, item, after, id, rfl, hitem, List.mem_filterMap.mp hmem,
      nodup_idsOf_iff.mp hnodup, rfl⟩
  · rintro ⟨before, item, after, id, rfl, hitem, hearlier, hfree, rfl⟩
    refine ⟨id, firstRepeated?_eq_some_iff.mpr ⟨idsOf before, idsOf after, ?_, ?_, ?_⟩, rfl⟩
    · exact idsOf_eq_append_cons_iff.mpr ⟨before, item, after, rfl, rfl, hitem, rfl⟩
    · exact nodup_idsOf_iff.mpr hfree
    · exact List.mem_filterMap.mpr hearlier

theorem message_duplicateItemId (id : ItemId) :
    (Refusal.duplicateItemId id).message =
      "validation failed: duplicate billing item id " ++ id.text := by
  unfold Refusal.message Refusal.reason
  rw [← String.append_assoc]
  rfl

theorem of?_refused_iff : (∃ e, of? name items = .error e) ↔ ¬ ClashFree items := by
  rw [← nodup_idsOf_iff, ← firstRepeated?_eq_none_iff]
  unfold of?
  split
  · next id hid => simp [hid]
  · next hnone => simp [hnone]

theorem items_of? (h : of? name items = .ok t) : t.items = items := by
  unfold of? at h
  split at h
  · contradiction
  · obtain rfl := Except.ok.inj h
    rfl

theorem clashFree_of? (h : of? name items = .ok t) : ClashFree items := by
  by_contra hclash
  obtain ⟨e, he⟩ := of?_refused_iff.mpr hclash
  rw [h] at he
  contradiction

theorem items_foldl_withPixKey (t : Template) (keys : List String) :
    (keys.foldl withPixKey t).items = t.items := by
  induction keys generalizing t with
  | nil => rfl
  | cons key keys ih => exact ih (t.withPixKey key)

/-! ## Varying items -/

theorem sublist_varyingIds (t : Template) :
    (t.varyingIds.map some).Sublist (t.items.map TemplateItem.id) := by
  unfold varyingIds idsOf
  rw [List.map_filterMap_some_eq_filter_map_isSome]
  exact List.filter_sublist.trans (List.filter_sublist.map _)

theorem nodup_varyingIds (h : ClashFree t.items) : t.varyingIds.Nodup :=
  nodup_idsOf_iff.mpr (h.sublist List.filter_sublist)

/-! ## The row of an identifier -/

/-- The item at this place varies and has the identifier. -/
def Feeds (t : Template) (id : ItemId) (place : Nat) : Prop :=
  ∃ item, t.items[place]? = some item ∧ item.kind = .varying ∧ item.id = some id

theorem eq_of_feeds (h : ClashFree t.items) {id : ItemId} {place place' : Nat}
    (hplace : t.Feeds id place) (hplace' : t.Feeds id place') : place = place' := by
  obtain ⟨item, hitem, -, hid⟩ := hplace
  obtain ⟨item', hitem', -, hid'⟩ := hplace'
  obtain ⟨hlt, rfl⟩ := List.getElem?_eq_some_iff.mp hitem
  obtain ⟨hlt', rfl⟩ := List.getElem?_eq_some_iff.mp hitem'
  have hpair := List.pairwise_iff_getElem.mp h
  rcases Nat.lt_trichotomy place place' with hbefore | heq | hbehind
  · exact absurd ⟨id, hid, hid'⟩ (hpair place place' hlt hlt' hbefore)
  · exact heq
  · exact absurd ⟨id, hid', hid⟩ (hpair place' place hlt' hlt hbehind)

section

variable {overrides overrides' : Overrides} {extras : List ExtraCharge} {month : ReferenceMonth}
variable {dueDate : Option Date} {notes : String} {bill bill' : Bill}

theorem rows_of_assemble
    (h : (assemble t overrides extras month dueDate notes).result = .ok bill) :
    bill.rows = number (monthRows t overrides extras) := by
  rw [assemble_result, monthDrafts_eq] at h
  cases hfind : t.items.find? TemplateItem.lacksId with
  | some item =>
    rw [hfind] at h
    contradiction
  | none =>
    rw [hfind] at h
    exact (of_placeRows_ok (Bill.placeRows_of_ofDrafts h).1).1

theorem getElem?_rows_of_assemble
    (h : (assemble t overrides extras month dueDate notes).result = .ok bill) (place : Nat) :
    bill.rows[place]? = (monthRows t overrides extras)[place]?.map (·.at place) := by
  rw [rows_of_assemble h, number, List.getElem?_map, List.getElem?_zipIdx, Option.map_map,
    Nat.zero_add]
  rfl

/-- Only the item at a place decides which amounts its row depends on. -/
theorem getElem?_monthRows_congr {place : Nat}
    (h : ∀ item, t.items[place]? = some item → item.SameAmount overrides overrides') :
    (monthRows t overrides extras)[place]? = (monthRows t overrides' extras)[place]? := by
  cases hitem : t.items[place]? with
  | some item =>
    rw [getElem?_monthRows overrides extras hitem, getElem?_monthRows overrides' extras hitem,
      TemplateItem.monthRow_congr (h item hitem)]
  | none =>
    have hle : t.items.length ≤ place := List.getElem?_eq_none_iff.mp hitem
    unfold monthRows
    rw [List.getElem?_append_right (by rwa [List.length_map]),
      List.getElem?_append_right (by rwa [List.length_map]), List.length_map, List.length_map]

end

/-- The amount that a month gives the identifier reaches one row at most. -/
structure FeedsOnce (t : Template) (id : ItemId) : Prop where
  unique : ∀ place place', t.Feeds id place → t.Feeds id place' → place = place'
  /-- This row has the amount, or zero if none is given. -/
  used : ∀ (overrides : Overrides) (extras : List ExtraCharge) (month : ReferenceMonth)
    (dueDate : Option Date) (notes : String) (bill : Bill),
    (assemble t overrides extras month dueDate notes).result = .ok bill →
    ∀ place, t.Feeds id place → ∃ row, bill.rows[place]? = some row ∧
      row.amount = (overrides.find? id).getD Centavos.zero
  /-- The others are the same whatever is given for the identifier. -/
  kept : ∀ (overrides overrides' : Overrides) (extras : List ExtraCharge) (month : ReferenceMonth)
    (dueDate : Option Date) (notes : String) (bill bill' : Bill),
    (∀ other, other ≠ id → overrides.find? other = overrides'.find? other) →
    (assemble t overrides extras month dueDate notes).result = .ok bill →
    (assemble t overrides' extras month dueDate notes).result = .ok bill' →
    ∀ place, ¬ t.Feeds id place → bill.rows[place]? = bill'.rows[place]?

theorem feedsOnce (h : ClashFree t.items) (id : ItemId) : t.FeedsOnce id where
  unique := fun _ _ => eq_of_feeds h
  used := by
    rintro overrides extras month dueDate notes bill hbill place ⟨item, hitem, hkind, hid⟩
    rw [getElem?_rows_of_assemble hbill, getElem?_monthRows overrides extras hitem]
    refine ⟨_, rfl, ?_⟩
    simp only [Draft.at, TemplateItem.monthRow, hkind, hid, Option.bind_some]
    rfl
  kept := by
    intro overrides overrides' extras month dueDate notes bill bill' hothers hbill hbill' place
      hplace
    rw [getElem?_rows_of_assemble hbill, getElem?_rows_of_assemble hbill',
      getElem?_monthRows_congr fun item hitem hkind other hother => hothers other ?_]
    rintro rfl
    exact hplace ⟨item, hitem, hkind, hother⟩

/-! ## Templates -/

/-- **Identifiers of a template.** Items are refused exactly if two of them have the same
identifier, and what is named is the identifier of the first item that repeats one before it.
Whatever texts are then set as the key of a template, its identifiers are distinct; those of its
varying items follow the order of the items, none twice, and each gives its amount to one row at
most. The key is what the last text decides: none, or a text that is not empty and has no blanks at
its ends. -/
theorem of?_distinct_ids (name : String) (items : List TemplateItem) :
    ((∃ e, of? name items = .error e) ↔
        ∃ item item', [item, item'].Sublist items ∧ item.Clash item') ∧
      (∀ e, of? name items = .error e ↔
        ∃ before item after id, items = before ++ item :: after ∧ item.id = some id ∧
          (∃ earlier ∈ before, earlier.id = some id) ∧ ClashFree before ∧
          e = .duplicateItemId id) ∧
      (∀ id, (Refusal.duplicateItemId id).message =
        "validation failed: duplicate billing item id " ++ id.text) ∧
      ∀ t, of? name items = .ok t → ∀ keys : List String,
        let keyed := keys.foldl withPixKey t
        keyed.items = items ∧ ClashFree keyed.items ∧
          keyed.varyingIds.Nodup ∧
          (keyed.varyingIds.map some).Sublist (keyed.items.map TemplateItem.id) ∧
          (∀ id, id ∈ keyed.varyingIds ↔
            ∃ item ∈ keyed.items, item.kind = .varying ∧ item.id = some id) ∧
          (∀ id, keyed.FeedsOnce id) ∧
          keyed.pixKey = keys.getLast?.bind Text.trimmed? ∧
          ∀ key, keyed.pixKey = some key → key ≠ "" ∧ Text.trim key = key := by
  refine ⟨of?_refused_iff.trans not_clashFree_iff, fun e => of?_eq_error_iff,
    message_duplicateItemId, ?_⟩
  intro t ht keys keyed
  have hitems : keyed.items = items := (items_foldl_withPixKey t keys).trans (items_of? ht)
  have hfree : ClashFree keyed.items := hitems ▸ clashFree_of? ht
  have hkey : keyed.pixKey = keys.getLast?.bind Text.trimmed? := by
    rw [pixKey_foldl_withPixKey, pixKey_of? ht]
    cases keys.getLast? <;> rfl
  refine ⟨hitems, hfree, nodup_varyingIds hfree, keyed.sublist_varyingIds,
    fun _ => mem_varyingIds_iff, feedsOnce hfree, hkey, fun key hsome => ?_⟩
  obtain ⟨text, -, htext⟩ := Option.bind_eq_some_iff.mp (hkey.symm.trans hsome)
  exact Text.of_trimmed?_eq_some htext

/-- The last item has the identifier of the first one, and the one before it that of the fourth. -/
def clashingItems : List TemplateItem :=
  [⟨some ⟨9#128⟩, "Aluguel", ⟨285000⟩, .fixed, 0⟩, ⟨none, "Portaria", ⟨50000⟩, .fixed, 1⟩,
    ⟨none, "Garagem", ⟨20000⟩, .fixed, 2⟩, ⟨some ⟨7#128⟩, "Agua", ⟨0⟩, .varying, 3⟩,
    ⟨some ⟨7#128⟩, "Luz", ⟨0⟩, .varying, 4⟩, ⟨some ⟨9#128⟩, "Multa", ⟨1507⟩, .fixed, 5⟩]

/-- The items that clash, and those in front of them with two texts as their key. -/
theorem of?_distinct_ids_clashing :
    of? "Casa" clashingItems = .error (.duplicateItemId ⟨7#128⟩) ∧
      ∃ t, of? "Casa" (clashingItems.take 4) = .ok t ∧
        let keyed := [" ", " ana@pix\n"].foldl withPixKey t
        keyed.varyingIds.Nodup ∧ ⟨7#128⟩ ∈ keyed.varyingIds ∧ keyed.FeedsOnce ⟨7#128⟩ ∧
          keyed.Feeds ⟨7#128⟩ 3 ∧ keyed.pixKey = some "ana@pix" := by
  obtain ⟨-, hrefused, -⟩ := of?_distinct_ids "Casa" clashingItems
  have hfree : ClashFree (clashingItems.take 4) := nodup_idsOf_iff.mp (by decide)
  refine ⟨(hrefused _).mpr ⟨clashingItems.take 4, _, clashingItems.drop 5, ⟨7#128⟩, rfl, rfl,
    by decide, hfree, rfl⟩, _, rfl, ?_⟩
  obtain ⟨hitems, -, hnodup, -, hmem, hfeeds, hkey, -⟩ :=
    (of?_distinct_ids "Casa" (clashingItems.take 4)).2.2.2 _ rfl [" ", " ana@pix\n"]
  have htrimmed : Text.trimmed? " ana@pix\n" = some "ana@pix" := by decide
  exact ⟨hnodup, (hmem _).mpr (by rw [hitems]; decide), hfeeds _, ⟨_, rfl, rfl, rfl⟩,
    hkey.trans htrimmed⟩

end Template

end RentBilling
