import RentBilling.ItemId.Basic
import RentBilling.Money.Centavos

/-!
Amounts of varying items for one month, by item.

Entries stand in ascending order of their identifiers, one for each, so that two collections with
the same entries are equal (`ext`).
-/

namespace RentBilling

/-- Amounts by item. -/
structure Overrides where
  entries : List (ItemId × Centavos)
  ascending : entries.Pairwise (·.1 < ·.1)
  deriving DecidableEq, Repr

namespace Overrides

def empty : Overrides := ⟨[], .nil⟩

/-- Puts an entry in its place, instead of one with the same identifier. -/
def insertEntry (id : ItemId) (amount : Centavos) :
    List (ItemId × Centavos) → List (ItemId × Centavos)
  | [] => [(id, amount)]
  | (k, v) :: rest =>
    if id < k then (id, amount) :: (k, v) :: rest
    else if id = k then (id, amount) :: rest
    else (k, v) :: insertEntry id amount rest

theorem mem_insertEntry {id : ItemId} {amount : Centavos} {l : List (ItemId × Centavos)}
    {e : ItemId × Centavos} (h : e ∈ insertEntry id amount l) : e = (id, amount) ∨ e ∈ l := by
  induction l with
  | nil => simpa [insertEntry] using h
  | cons p l ih =>
    obtain ⟨k, v⟩ := p
    unfold insertEntry at h
    split at h
    · simpa using h
    · split at h
      · rcases List.mem_cons.mp h with h | h
        · exact .inl h
        · exact .inr (.tail _ h)
      · rcases List.mem_cons.mp h with h | h
        · exact .inr (h ▸ .head _)
        · exact (ih h).imp_right (.tail _)

theorem ascending_insertEntry (id : ItemId) (amount : Centavos) {l : List (ItemId × Centavos)}
    (h : l.Pairwise (·.1 < ·.1)) : (insertEntry id amount l).Pairwise (·.1 < ·.1) := by
  induction l with
  | nil => simp [insertEntry]
  | cons p l ih =>
    obtain ⟨k, v⟩ := p
    rw [List.pairwise_cons] at h
    unfold insertEntry
    split
    · rename_i hlt
      refine List.pairwise_cons.mpr ⟨?_, List.pairwise_cons.mpr h⟩
      rintro e (_ | ⟨_, he⟩)
      · exact hlt
      · exact Nat.lt_trans hlt (h.1 e he)
    · split
      · rename_i heq
        subst heq
        exact List.pairwise_cons.mpr ⟨h.1, h.2⟩
      · rename_i hlt hne
        refine List.pairwise_cons.mpr ⟨?_, ih h.2⟩
        intro e he
        rcases mem_insertEntry he with rfl | he
        · show k.toNat < id.toNat
          have h1 : ¬ id.toNat < k.toNat := hlt
          have h2 : id.toNat ≠ k.toNat := fun e => hne (ItemId.toNat_injective e)
          omega
        · exact h.1 e he

/-- The collection with this amount for the item, whatever it had before. -/
def insert (o : Overrides) (id : ItemId) (amount : Centavos) : Overrides :=
  ⟨insertEntry id amount o.entries, ascending_insertEntry id amount o.ascending⟩

/-- The amount for an item. -/
def find? (o : Overrides) (id : ItemId) : Option Centavos := o.entries.lookup id

/-- The collection of these pairs; of two for one item the later counts. -/
def ofPairs (pairs : List (ItemId × Centavos)) : Overrides :=
  pairs.foldl (fun o (id, amount) => o.insert id amount) empty

def size (o : Overrides) : Nat := o.entries.length

def isEmpty (o : Overrides) : Bool := o.entries.isEmpty

/-- The identifiers in ascending order. -/
def ids (o : Overrides) : List ItemId := o.entries.map (·.1)

theorem lookup_insertEntry_self (id : ItemId) (amount : Centavos) (l : List (ItemId × Centavos)) :
    (insertEntry id amount l).lookup id = some amount := by
  induction l with
  | nil => simp [insertEntry]
  | cons p l ih =>
    obtain ⟨k, v⟩ := p
    unfold insertEntry
    split
    · simp
    · split
      · simp
      · rename_i hne
        have : (id == k) = false := by simpa using hne
        simp [List.lookup_cons, this, ih]

theorem lookup_insertEntry_of_ne {id other : ItemId} (h : other ≠ id) (amount : Centavos)
    (l : List (ItemId × Centavos)) :
    (insertEntry id amount l).lookup other = l.lookup other := by
  have hb : (other == id) = false := by simpa using h
  induction l with
  | nil => simp [insertEntry, List.lookup_cons, hb]
  | cons p l ih =>
    obtain ⟨k, v⟩ := p
    unfold insertEntry
    split
    · rw [List.lookup_cons, hb]
    · split
      · rename_i heq
        subst heq
        simp [List.lookup_cons, hb]
      · simp only [List.lookup_cons, ih]

theorem find?_insert_self (o : Overrides) (id : ItemId) (amount : Centavos) :
    (o.insert id amount).find? id = some amount := lookup_insertEntry_self ..

theorem find?_insert_of_ne (o : Overrides) {id other : ItemId} (h : other ≠ id)
    (amount : Centavos) : (o.insert id amount).find? other = o.find? other :=
  lookup_insertEntry_of_ne h ..

theorem ids_ascending (o : Overrides) : o.ids.Pairwise (· < ·) := by
  simpa [ids, List.pairwise_map] using o.ascending

theorem ext {o p : Overrides} (h : o.entries = p.entries) : o = p := by
  cases o; cases p; cases h; rfl

end Overrides

end RentBilling
