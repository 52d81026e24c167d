import RentBilling.Money.Centavos
import RentBilling.Refusal
import RentBilling.Text.Blank

/-!
Templates: the recurring charges of one rented unit.

A fixed item has its amount in the template; the amount of a varying item comes with each month. No
two items of a template have the same identifier; items without one never clash.
-/

namespace RentBilling

/-- How an item gets its amount. -/
inductive ItemKind where
  | fixed
  | varying
  deriving DecidableEq, Repr

/-- One recurring charge. The amount counts for fixed items only. -/
structure TemplateItem where
  id : Option ItemId
  description : String
  amount : Centavos
  kind : ItemKind
  sortOrder : UInt32
  deriving DecidableEq, Repr

/-- The first element that stands in `seen` or repeats one before it. -/
def firstRepeatedAfter {α : Type} [DecidableEq α] (seen : List α) : List α → Option α
  | [] => none
  | a :: rest => if a ∈ seen then some a else firstRepeatedAfter (a :: seen) rest

theorem firstRepeatedAfter_eq_none_iff {α : Type} [DecidableEq α] {seen l : List α} :
    firstRepeatedAfter seen l = none ↔ l.Nodup ∧ ∀ a ∈ l, a ∉ seen := by
  induction l generalizing seen with
  | nil => simp [firstRepeatedAfter]
  | cons a l ih =>
    unfold firstRepeatedAfter
    split
    · simp_all
    · rw [ih]
      simp only [List.nodup_cons, List.mem_cons, not_or]
      constructor
      · rintro ⟨hn, hs⟩
        exact ⟨⟨fun h => (hs a h).1 rfl, hn⟩, by rintro b (rfl | hb); assumption; exact (hs b hb).2⟩
      · rintro ⟨⟨ha, hn⟩, hs⟩
        exact ⟨hn, fun b hb => ⟨fun e => ha (e ▸ hb), hs b (.inr hb)⟩⟩

/-- The first element that repeats one before it. -/
def firstRepeated? {α : Type} [DecidableEq α] (l : List α) : Option α := firstRepeatedAfter [] l

theorem firstRepeated?_eq_none_iff {α : Type} [DecidableEq α] {l : List α} :
    firstRepeated? l = none ↔ l.Nodup := by
  simp [firstRepeated?, firstRepeatedAfter_eq_none_iff]

/-- The identifiers of the items that have one. -/
def idsOf (items : List TemplateItem) : List ItemId := items.filterMap (·.id)

/-- The recurring charges of one unit, in order. -/
structure Template where
  name : String
  items : List TemplateItem
  /-- The key that payments go to, instead of the configured one. -/
  pixKey : Option String
  ids_nodup : (idsOf items).Nodup
  deriving DecidableEq, Repr

namespace Template

/-- The template of these items, without a key. The first repeated identifier is refused. -/
def of? (name : String) (items : List TemplateItem) : Except Refusal Template :=
  match h : firstRepeated? (idsOf items) with
  | some id => .error (.duplicateItemId id)
  | none => .ok ⟨name, items, none, firstRepeated?_eq_none_iff.mp h⟩

/-- Sets the key to a trimmed text; a blank one leaves the template without a key. -/
def withPixKey (t : Template) (key : String) : Template :=
  { t with pixKey := if Text.trim key = "" then none else some (Text.trim key) }

/-- Identifiers of the varying items, in template order. -/
def varyingIds (t : Template) : List ItemId :=
  idsOf (t.items.filter (·.kind = .varying))

/-- Some item has this identifier. -/
def contains (t : Template) (id : ItemId) : Bool := t.items.any (·.id = some id)

end Template

end RentBilling
