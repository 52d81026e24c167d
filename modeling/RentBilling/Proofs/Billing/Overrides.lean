import Mathlib.Data.List.Induction
import RentBilling.Billing.Overrides

/-!
Amounts collected from pairs.

Pairs are taken in order and each replaces what its identifier had, so that for every identifier the
last of its pairs decides, and pairs of other identifiers play no part (`find?_ofPairs`). From its
own entries a collection is made again (`ofPairs_entries`). Taking one entry away leaves the others
as they were (`find?_erase_of_ne`).
-/

namespace RentBilling

/-- The amount that the last pair of an identifier gives it. -/
def lastAmount? (pairs : List (ItemId × Centavos)) (id : ItemId) : Option Centavos :=
  (pairs.filter (·.1 = id)).getLast?.map Prod.snd

theorem lastAmount?_concat (pairs : List (ItemId × Centavos)) (p : ItemId × Centavos)
    (id : ItemId) :
    lastAmount? (pairs ++ [p]) id = if p.1 = id then some p.2 else lastAmount? pairs id := by
  unfold lastAmount?
  rw [List.filter_append]
  by_cases h : p.1 = id
  · have hp : [p].filter (·.1 = id) = [p] := by simp [h]
    rw [hp, List.getLast?_concat, if_pos h]
    rfl
  · have hp : [p].filter (·.1 = id) = [] := by simp [h]
    rw [hp, List.append_nil, if_neg h]

/-- The last pair of an identifier is the one behind which there is no other of it. -/
theorem lastAmount?_eq_some_iff {pairs : List (ItemId × Centavos)} {id : ItemId}
    {amount : Centavos} :
    lastAmount? pairs id = some amount ↔ ∃ before after,
      pairs = before ++ (id, amount) :: after ∧ ∀ later ∈ after, later.1 ≠ id := by
  unfold lastAmount?
  rw [List.getLast?_filter, Option.map_eq_some_iff]
  constructor
  · intro ⟨p, hfind, hamount⟩
    obtain ⟨hid, back, front, hpairs, hback⟩ := List.find?_eq_some_iff_append.mp hfind
    have hp : p = (id, amount) := Prod.ext (by simpa using hid) hamount
    refine ⟨front.reverse, back.reverse, ?_, ?_⟩
    · rw [← List.reverse_reverse pairs, hpairs, hp]
      simp
    · intro later hlater
      simpa using hback later (List.mem_reverse.mp hlater)
  · intro ⟨before, after, hpairs, hafter⟩
    refine ⟨(id, amount), List.find?_eq_some_iff_append.mpr ⟨by simp, after.reverse,
      before.reverse, by simp [hpairs], ?_⟩, rfl⟩
    intro later hlater
    simpa using hafter later (List.mem_reverse.mp hlater)

namespace Overrides

theorem ofPairs_concat (pairs : List (ItemId × Centavos)) (p : ItemId × Centavos) :
    ofPairs (pairs ++ [p]) = (ofPairs pairs).insert p.1 p.2 := by
  unfold ofPairs
  rw [List.foldl_append]
  rfl

theorem find?_ofPairs (pairs : List (ItemId × Centavos)) (id : ItemId) :
    (ofPairs pairs).find? id = lastAmount? pairs id := by
  induction pairs using List.reverseRecOn with
  | nil => rfl
  | append_singleton pairs p ih =>
    rw [ofPairs_concat, lastAmount?_concat]
    by_cases h : p.1 = id
    · rw [if_pos h, h, find?_insert_self]
    · rw [if_neg h, find?_insert_of_ne _ (Ne.symm h), ih]

/-! ## Entries -/

theorem entries_insert (o : Overrides) (id : ItemId) (amount : Centavos) :
    (o.insert id amount).entries = insertEntry id amount o.entries := rfl

theorem insertEntry_of_forall_lt {id : ItemId} (amount : Centavos) {l : List (ItemId × Centavos)}
    (h : ∀ e ∈ l, e.1 < id) : insertEntry id amount l = l ++ [(id, amount)] := by
  induction l with
  | nil => rfl
  | cons e l ih =>
    obtain ⟨hlt, hl⟩ := List.forall_mem_cons.mp h
    have hle : ¬ id < e.1 := Nat.lt_asymm hlt
    have hne : id ≠ e.1 := fun heq => Nat.lt_irrefl _ (heq ▸ hlt)
    rw [insertEntry, if_neg hle, if_neg hne, ih hl, List.cons_append]

theorem entries_ofPairs_of_ascending {pairs : List (ItemId × Centavos)}
    (h : pairs.Pairwise (·.1 < ·.1)) : (ofPairs pairs).entries = pairs := by
  induction pairs using List.reverseRecOn with
  | nil => rfl
  | append_singleton pairs p ih =>
    obtain ⟨hpairs, -, hp⟩ := List.pairwise_append.mp h
    have hlt : ∀ e ∈ pairs, e.1 < p.1 := fun e he => hp e he p (List.mem_singleton_self p)
    rw [ofPairs_concat, entries_insert, ih hpairs, insertEntry_of_forall_lt p.2 hlt]

theorem lookup_of_mem {l : List (ItemId × Centavos)} (h : l.Pairwise (·.1 < ·.1)) {id : ItemId}
    {amount : Centavos} (hm : (id, amount) ∈ l) : l.lookup id = some amount := by
  induction l with
  | nil => cases hm
  | cons e l ih =>
    obtain ⟨hfirst, hl⟩ := List.pairwise_cons.mp h
    rw [List.lookup_cons]
    obtain rfl | hm := List.mem_cons.mp hm
    · rw [beq_self_eq_true]
    · have hlt : e.1 < id := hfirst _ hm
      have hne : id ≠ e.1 := fun heq => Nat.lt_irrefl _ (heq ▸ hlt)
      rw [beq_eq_false_iff_ne.mpr hne]
      exact ih hl hm

/-- The amount of an entry is the one that is found. -/
theorem find?_of_mem {o : Overrides} {id : ItemId} {amount : Centavos}
    (h : (id, amount) ∈ o.entries) : o.find? id = some amount :=
  lookup_of_mem o.ascending h

theorem ofPairs_entries (o : Overrides) : ofPairs o.entries = o :=
  ext (entries_ofPairs_of_ascending o.ascending)

/-! ## Without an entry -/

/-- The collection without an amount for this identifier. -/
def erase (o : Overrides) (id : ItemId) : Overrides :=
  ⟨o.entries.filter (·.1 != id), o.ascending.filter _⟩

theorem nodup_ids (o : Overrides) : o.ids.Nodup := by
  refine o.ids_ascending.imp ?_
  intro id id' hlt heq
  exact Nat.lt_irrefl _ (heq ▸ hlt)

theorem ids_erase (o : Overrides) (id : ItemId) : (o.erase id).ids = o.ids.filter (· != id) := by
  rw [ids, ids, List.filter_map]
  rfl

theorem lookup_filter_of_ne {id other : ItemId} (h : other ≠ id) (l : List (ItemId × Centavos)) :
    (l.filter (·.1 != id)).lookup other = l.lookup other := by
  induction l with
  | nil => rfl
  | cons e l ih =>
    by_cases he : e.1 = id
    · have hne : (other == e.1) = false := beq_eq_false_iff_ne.mpr (he ▸ h)
      rw [List.filter_cons_of_neg (by simpa using he), ih, List.lookup_cons, hne]
    · rw [List.filter_cons_of_pos (by simpa using he), List.lookup_cons, List.lookup_cons, ih]

theorem find?_erase_of_ne (o : Overrides) {id other : ItemId} (h : other ≠ id) :
    (o.erase id).find? other = o.find? other :=
  lookup_filter_of_ne h o.entries

end Overrides

end RentBilling
