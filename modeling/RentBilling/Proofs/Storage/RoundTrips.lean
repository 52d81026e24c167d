import RentBilling.Proofs.Billing.Overrides
import RentBilling.Proofs.Outcome
import RentBilling.Proofs.Storage.Values

/-!
All that is both stored and read is read back.

Amounts by item are read from an object whose keys spell identifiers; where several keys spell one,
the last of them decides (`Overrides.decode_eq_ok_iff`). With that, the stored form of every type
that is both stored and read is read back, and nothing is lost by writing anew what was read from
another spelling (`stored_forms_read_back`).
-/

namespace RentBilling

open Storage

/-! ## Amounts by item -/

theorem ItemId.ofJson_string_eq_ok {text? : Option String} {id : ItemId} :
    ofJson (.string text?) = .ok id ↔ ∃ text, text? = some text ∧ ofText text = .ok id := by
  cases text? with
  | none => exact ⟨nofun, nofun⟩
  | some text =>
    rw [← Json.text, ItemId.ofJson_text, mapError_eq_ok]
    simp

/-- A member whose key spells the identifier of a pair and whose value is the amount. -/
def SpellsPair (member : Option String × Json) (pair : ItemId × Centavos) : Prop :=
  (∃ key, member.1 = some key ∧ ItemId.ofText key = .ok pair.1) ∧ ofJson member.2 = .ok pair.2

/-- The pair that a member spells. -/
def readPair (member : Option String × Json) : Except ReadFailure (ItemId × Centavos) :=
  (ofJson (.string member.1) : Except ReadFailure ItemId).bind fun id =>
    (ofJson member.2).bind fun amount => .ok (id, amount)

theorem readPair_eq_ok {member : Option String × Json} {pair : ItemId × Centavos} :
    readPair member = .ok pair ↔ SpellsPair member pair := by
  rw [readPair, SpellsPair, ← ItemId.ofJson_string_eq_ok, bind_eq_ok]
  constructor
  · rintro ⟨id, hid, h⟩
    obtain ⟨amount, hamount, h⟩ := bind_eq_ok.mp h
    obtain rfl := Except.ok.inj h
    exact ⟨hid, hamount⟩
  · rintro ⟨hid, hamount⟩
    exact ⟨pair.1, hid, bind_eq_ok.mpr ⟨pair.2, hamount, rfl⟩⟩

namespace Overrides

/-- Amounts are read from the objects whose members spell pairs, and collected from these. -/
theorem ofJson_eq_ok {j : Json} {o : Overrides} :
    ofJson j = .ok o ↔ ∃ members pairs,
      j = .object members ∧ List.Forall₂ SpellsPair members pairs ∧ ofPairs pairs = o := by
  have hobject : ∀ members : List (Option String × Json),
      ofJson (.object members) = (members.mapM readPair).map ofPairs := fun _ => rfl
  have hspelled : ∀ (members : List (Option String × Json)) pairs,
      members.mapM readPair = .ok pairs ↔ List.Forall₂ SpellsPair members pairs := fun _ _ => by
    simp only [mapM_eq_ok, readPair_eq_ok]
  constructor
  · intro h
    cases j with
    | object members =>
      rw [hobject, map_eq_ok] at h
      obtain ⟨pairs, hpairs, ho⟩ := h
      exact ⟨members, pairs, rfl, (hspelled members pairs).mp hpairs, ho⟩
    | _ => contradiction
  · rintro ⟨members, pairs, rfl, hpairs, ho⟩
    rw [hobject, map_eq_ok]
    exact ⟨pairs, (hspelled members pairs).mpr hpairs, ho⟩

/-- Every entry is a member of what is written. -/
theorem spellsPair_members (o : Overrides) :
    List.Forall₂ SpellsPair (o.entries.map fun e => (some e.1.text, toJson e.2)) o.entries := by
  rw [List.forall₂_map_left_iff, List.forall₂_same]
  exact fun e _ => ⟨⟨e.1.text, rfl, e.1.ofText_text⟩, Stored.ofJson_toJson e.2⟩

end Overrides

instance : Stored Overrides where
  ofJson_toJson o := by
    have hwritten : toJson o = .object (o.entries.map fun e => (some e.1.text, toJson e.2)) :=
      congrArg Json.object List.map_map
    exact Overrides.ofJson_eq_ok.mpr
      ⟨_, o.entries, hwritten, o.spellsPair_members, o.ofPairs_entries⟩
  toJson_ne_null _ := nofun

theorem Overrides.decode_eq_ok_iff {text : String} {o : Overrides} :
    decode text = .ok o ↔ ∃ members pairs, Json.read text = some (.object members, false) ∧
      List.Forall₂ SpellsPair members pairs ∧ ofPairs pairs = o := by
  simp only [decode_eq_ok, ofJson_eq_ok]
  constructor
  · rintro ⟨j, hread, members, pairs, rfl, h⟩
    exact ⟨members, pairs, hread, h⟩
  · rintro ⟨members, pairs, hread, h⟩
    exact ⟨_, hread, members, pairs, rfl, h⟩

/-! ## Everything that is stored and read -/

/-- **Stored forms read back.** Every value of every type that is both stored and read is read back
from its text, and writing what was read from any text loses nothing of it. That goes for all
spellings: a record is read from its fields in any order among others and from the array of their
values, an identifier from every spelling of its digits, and amounts by item from keys in any
spelling, where the last key of an item decides. -/
theorem stored_forms_read_back :
    (RoundTrips Centavos ∧ RoundTrips ReferenceMonth ∧ RoundTrips ItemId ∧ RoundTrips ItemKind ∧
      RoundTrips RowKind ∧ RoundTrips PaymentStatus ∧ RoundTrips Overrides) ∧
    (RecordRoundTrips TemplateItem ∧ RecordRoundTrips LineItem ∧ RecordRoundTrips Draft ∧
      RecordRoundTrips ExtraCharge ∧ RecordRoundTrips Pix.Request) ∧
    (∀ (id : ItemId) (ds cs : List Char) (text : String), ds.map Char.toLower = id.hexChars →
      ItemId.Spells ds cs → Json.read text = some (.text (.ofList cs), false) →
        decode text = .ok id) ∧
    ∀ (text : String) (o : Overrides), decode text = .ok o ↔ ∃ members pairs,
      Json.read text = some (.object members, false) ∧ List.Forall₂ SpellsPair members pairs ∧
        Overrides.ofPairs pairs = o ∧ ∀ id, o.find? id = lastAmount? pairs id := by
  refine ⟨⟨roundTrips, roundTrips, roundTrips, roundTrips, roundTrips, roundTrips, roundTrips⟩,
    ⟨recordRoundTrips, recordRoundTrips, recordRoundTrips, recordRoundTrips, recordRoundTrips⟩,
    fun id ds cs text hds hspells hread => ?_, fun text o => ?_⟩
  · rw [decode_of_read hread, ItemId.ofJson_text, ItemId.ofText_of_spells hds hspells]
    rfl
  · rw [Overrides.decode_eq_ok_iff]
    refine exists₂_congr fun members pairs => and_congr_right fun _ => and_congr_right fun _ => ?_
    refine ⟨?_, And.left⟩
    rintro rfl
    exact ⟨rfl, Overrides.find?_ofPairs pairs⟩

/-! ## Other spellings -/

/-- Ten in capitals, and then after the scheme of identifiers. -/
def twiceSpelled : String :=
  "\x7b\"00000000-0000-0000-0000-00000000000A\":1," ++
    "\"urn:uuid:00000000-0000-0000-0000-00000000000a\":2\x7d"

/-- The digits of ten in capitals. -/
def capitalTen : List Char := List.replicate 31 '0' ++ ['A']

/-- A fine as an array. -/
def listedFine : Json := .array [.text "Multa", .natural 1507]

def fine : ExtraCharge := ⟨"Multa", ⟨1507⟩, by decide, by decide⟩

theorem stored_forms_read_back_respelled :
    decode twiceSpelled = .ok (Overrides.ofPairs [(⟨10#128⟩, ⟨2⟩)]) ∧
      (Overrides.ofPairs [(⟨10#128⟩, ⟨2⟩)]).find? ⟨10#128⟩ = some ⟨2⟩ ∧
      decode (encode (Overrides.ofPairs [(⟨10#128⟩, ⟨2⟩)])) =
        .ok (Overrides.ofPairs [(⟨10#128⟩, ⟨2⟩)]) ∧
      decode (encode (String.ofList ("URN:uuid:".toList ++ ItemId.hyphenated capitalTen))) =
        .ok (⟨10#128⟩ : ItemId) ∧
      decode listedFine.render = .ok fine := by
  obtain ⟨⟨-, -, -, -, -, -, hoverrides⟩, ⟨-, -, -, hcharge, -⟩, hid, -⟩ := stored_forms_read_back
  refine ⟨by decide +kernel, by decide, hoverrides.decode_encode _, ?_, ?_⟩
  · exact hid ⟨10#128⟩ capitalTen _ _ (by decide) (.named (by decide)) (Json.read_render _)
  · exact hcharge.decode_spelling (Json.read_render listedFine) .array

end RentBilling
