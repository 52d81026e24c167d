import RentBilling.Proofs.Json.Reading
import RentBilling.Proofs.Outcome
import RentBilling.Storage.Form

/-!
Stored values read back.

A type is `Stored` if what its values are written as is read as these values. Together with the
reading of JSON (`Json.read_render`) that gives `decode_encode` for texts, and from it that an
accepted text, however it is spelled, stores the same value as the text that is written for it
(`RoundTrips`).

A record is read from more than what is written: from its fields in any order among other members,
and from an array of their values (`RecordSpelling`), and its fields are found in nothing else
(`spelling_of_slots?`). A type whose values are records is `Stored` if it reads them from all their
spellings (`StoredRecord`).
-/

namespace RentBilling

open Storage

/-- What is stored is read back, and is never `null`. -/
class Stored (α : Type) [ToJson α] [OfJson α] : Prop where
  ofJson_toJson (a : α) : ofJson (toJson a) = .ok a
  toJson_ne_null (a : α) : toJson a ≠ .null

namespace Storage

variable {α : Type}

/-! ## Texts -/

theorem decode_of_read_goesOn [OfJson α] {text : String} {j : Json} {goesOn : Bool}
    (h : Json.read text = some (j, goesOn)) :
    decode text = (ofJson j : Except ReadFailure α).bind fun a =>
      if goesOn then .error .unreadable else .ok a := by
  rw [decode, h]
  rfl

theorem decode_of_read [OfJson α] {text : String} {j : Json}
    (h : Json.read text = some (j, false)) : decode text = (ofJson j : Except ReadFailure α) := by
  rw [decode_of_read_goesOn h]
  cases (ofJson j : Except ReadFailure α) <;> rfl

theorem decode_eq_ok [OfJson α] {text : String} {a : α} :
    decode text = .ok a ↔ ∃ j, Json.read text = some (j, false) ∧ ofJson j = .ok a := by
  constructor
  · intro h
    unfold decode at h
    split at h
    · contradiction
    · rename_i j goesOn hread
      obtain ⟨b, hb, h⟩ := bind_eq_ok.mp h
      cases goesOn with
      | true => contradiction
      | false =>
        obtain rfl := Except.ok.inj h
        exact ⟨j, hread, hb⟩
  · rintro ⟨j, hread, hj⟩
    rw [decode_of_read hread, hj]

/-- A refusal does not wait for the end of the text. -/
theorem decode_eq_refused [OfJson α] {text : String} {e : Refusal} :
    (decode text : Except ReadFailure α) = .error (.refused e) ↔
      ∃ j goesOn, Json.read text = some (j, goesOn) ∧
        (ofJson j : Except ReadFailure α) = .error (.refused e) := by
  constructor
  · intro h
    cases hread : Json.read text with
    | none =>
      rw [decode, hread] at h
      cases Except.error.inj h
    | some found =>
      obtain ⟨j, goesOn⟩ := found
      rw [decode_of_read_goesOn hread] at h
      refine ⟨j, goesOn, rfl, ?_⟩
      cases hj : (ofJson j : Except ReadFailure α) with
      | error failure =>
        rw [hj] at h
        exact h
      | ok a =>
        rw [hj] at h
        cases goesOn <;> cases h
  · intro h
    obtain ⟨j, goesOn, hread, hj⟩ := h
    rw [decode_of_read_goesOn hread, hj]
    rfl

theorem decode_encode [ToJson α] [OfJson α] [Stored α] (a : α) : decode (encode a) = .ok a := by
  rw [encode, decode_of_read (Json.read_render (toJson a)), Stored.ofJson_toJson]

/-- Every value is read back from its text, and writing what was read from some text loses nothing
of it. -/
structure RoundTrips (α : Type) [ToJson α] [OfJson α] : Prop where
  decode_encode (a : α) : decode (encode a) = .ok a
  decode_reencode (text : String) :
    ((decode text).bind fun a : α => decode (encode a)) = (decode text : Except ReadFailure α)

theorem roundTrips [ToJson α] [OfJson α] [Stored α] : RoundTrips α where
  decode_encode := decode_encode
  decode_reencode text := by
    cases (decode text : Except ReadFailure α) with
    | error e => rfl
    | ok a => exact decode_encode a

/-! ## Fields -/

@[simp] theorem required_toJson [ToJson α] [OfJson α] [Stored α] (a : α) :
    required (some (toJson a)) = .ok a :=
  Stored.ofJson_toJson a

@[simp] theorem optional_toJson [ToJson α] [OfJson α] [Stored α] (o : Option α) :
    optional (some (toJson o)) = .ok o := by
  cases o with
  | none => rfl
  | some a =>
    have hread : (optional (some (toJson a)) : Except ReadFailure (Option α)) =
        (ofJson (toJson a)).map some := by
      unfold optional
      split
      · contradiction
      · rename_i hnull
        exact absurd (Option.some.inj hnull) (Stored.toJson_ne_null a)
      · rename_i hj
        rw [Option.some.inj hj]
    rw [Stored.ofJson_toJson] at hread
    exact hread

/-- The spellings of a record: its fields in any order among other members, each once, or the array
of their values. -/
inductive RecordSpelling (fields : List (String × Json)) : Json → Prop where
  | object {members : List (Option String × Json)} (named : ∀ m ∈ members, m.1.isSome)
    (once : ∀ f ∈ fields, members.filter (·.1 = some f.1) = [(some f.1, f.2)]) :
    RecordSpelling fields (.object members)
  | array : RecordSpelling fields (.array (fields.map Prod.snd))

theorem member?_of_filter {members : List (Option String × Json)} {f : String × Json}
    (h : members.filter (·.1 = some f.1) = [(some f.1, f.2)]) :
    member? members f.1 = some (some f.2) := by rw [member?, h]

theorem mapM_member? {members : List (Option String × Json)} {fields : List (String × Json)}
    (once : ∀ f ∈ fields, members.filter (·.1 = some f.1) = [(some f.1, f.2)]) :
    (fields.map Prod.fst).mapM (member? members) = some (fields.map fun f => some f.2) := by
  induction fields with
  | nil => rfl
  | cons f fields ih =>
    obtain ⟨hf, hfields⟩ := List.forall_mem_cons.mp once
    rw [List.map_cons, List.mapM_cons, member?_of_filter hf, ih hfields]
    rfl

/-- From every spelling the fields are found. -/
theorem slots?_of_spelling {fields : List (String × Json)} {j : Json}
    (h : RecordSpelling fields j) :
    slots? (fields.map Prod.fst) j = some (fields.map fun f => some f.2) := by
  cases h with
  | object named once => rw [slots?, if_pos (List.all_eq_true.mpr named), mapM_member? once]
  | array => simp [slots?]

theorem filter_of_member? {members : List (Option String × Json)} {f : String × Json}
    (h : member? members f.1 = some (some f.2)) :
    members.filter (·.1 = some f.1) = [(some f.1, f.2)] := by
  unfold member? at h
  split at h
  · cases Option.some.inj h
  · rename_i key value hfilter
    have hvalue : value = f.2 := Option.some.inj (Option.some.inj h)
    have hmem : (key, value) ∈ members.filter (·.1 = some f.1) := by
      rw [hfilter]
      exact List.mem_singleton_self _
    have hkey : key = some f.1 := by simpa using (List.mem_filter.mp hmem).2
    rw [hfilter, hkey, hvalue]
  · contradiction

theorem of_mapM_member? {members : List (Option String × Json)} {fields : List (String × Json)}
    (h : (fields.map Prod.fst).mapM (member? members) = some (fields.map fun f => some f.2)) :
    ∀ f ∈ fields, members.filter (·.1 = some f.1) = [(some f.1, f.2)] := by
  induction fields with
  | nil => exact nofun
  | cons f fields ih =>
    rw [List.map_cons, List.mapM_cons] at h
    obtain ⟨value, hvalue, h⟩ := Option.bind_eq_some_iff.mp h
    obtain ⟨values, hvalues, h⟩ := Option.bind_eq_some_iff.mp h
    obtain ⟨rfl, rfl⟩ := List.cons.inj (Option.some.inj h)
    exact List.forall_mem_cons.mpr ⟨filter_of_member? hvalue, ih hvalues⟩

/-- Fields that are all found were spelled. -/
theorem spelling_of_slots? {fields : List (String × Json)} {j : Json}
    (h : slots? (fields.map Prod.fst) j = some (fields.map fun f => some f.2)) :
    RecordSpelling fields j := by
  unfold slots? at h
  split at h
  · split at h
    · rename_i hnamed
      exact .object (List.all_eq_true.mp hnamed) (of_mapM_member? h)
    · contradiction
  · rename_i items
    split at h
    · have hslots := Option.some.inj h
      -- A slot left over would be empty, and none of the fields' is.
      have hfull : (fields.map Prod.fst).length - items.length = 0 := by
        by_contra hleft
        have hnone : none ∈ fields.map fun f => some f.2 := by
          rw [← hslots]
          exact List.mem_append_right _ (List.mem_replicate.mpr ⟨hleft, rfl⟩)
        simp at hnone
      rw [hfull, List.replicate_zero, List.append_nil] at hslots
      have hitems : items = fields.map Prod.snd := by
        apply List.map_injective_iff.mpr (Option.some_injective Json)
        rw [hslots, List.map_map]
        rfl
      rw [hitems]
      exact .array
    · contradiction
  · contradiction

theorem filter_record {fields : List (String × Json)} (hnodup : (fields.map Prod.fst).Nodup)
    {f : String × Json} (hf : f ∈ fields) :
    (fields.map fun f => (some f.1, f.2)).filter (·.1 = some f.1) = [(some f.1, f.2)] := by
  induction fields with
  | nil => contradiction
  | cons g fields ih =>
    obtain ⟨hg, hnodup⟩ := List.nodup_cons.mp hnodup
    rcases List.mem_cons.mp hf with rfl | hf
    · have hrest : (fields.map fun f => (some f.1, f.2)).filter (·.1 = some f.1) = [] := by
        refine List.filter_eq_nil_iff.mpr fun m hm => ?_
        obtain ⟨g, hmem, rfl⟩ := List.mem_map.mp hm
        have hne : g.1 ≠ f.1 := fun heq => hg (heq ▸ List.mem_map_of_mem hmem)
        simpa using hne
      simp [hrest]
    · have hne : g.1 ≠ f.1 := fun heq => hg (heq ▸ List.mem_map_of_mem hf)
      simpa [hne] using ih hnodup hf

theorem isSome_of_mem_record {fields : List (String × Json)} {m : Option String × Json}
    (hm : m ∈ fields.map fun f => (some f.1, f.2)) : m.1.isSome := by
  obtain ⟨f, -, rfl⟩ := List.mem_map.mp hm
  rfl

/-- A record spells some of its fields, whatever others it has. -/
theorem spelling_record {fields all : List (String × Json)} (hnodup : (all.map Prod.fst).Nodup)
    (hsub : fields ⊆ all) : RecordSpelling fields (.record all) :=
  .object (fun _ => isSome_of_mem_record) fun _ hf => filter_record hnodup (hsub hf)

end Storage

/-- A type whose values are stored as records and read from every spelling of them. -/
class StoredRecord (α : Type) [ToJson α] [OfJson α] where
  names : List String
  names_nodup : names.Nodup
  fields : α → List (String × Json)
  map_fst_fields (a : α) : (fields a).map Prod.fst = names
  toJson_eq (a : α) : toJson a = .record (fields a)
  ofJson_of_spelling {a : α} {j : Json} (h : RecordSpelling (fields a) j) : ofJson j = .ok a

namespace StoredRecord

variable {α : Type} [ToJson α] [OfJson α] [StoredRecord α]

theorem ofJson_of_subset {a : α} {all : List (String × Json)} (hnodup : (all.map Prod.fst).Nodup)
    (hsub : fields a ⊆ all) : ofJson (.record all) = .ok a :=
  ofJson_of_spelling (spelling_record hnodup hsub)

instance : Stored α where
  ofJson_toJson a := by
    have hnodup : ((fields a).map Prod.fst).Nodup := map_fst_fields a ▸ names_nodup
    rw [toJson_eq]
    exact ofJson_of_subset hnodup (List.Subset.refl _)
  toJson_ne_null a := by
    rw [toJson_eq]
    exact nofun

end StoredRecord

/-- Records are read back, also from texts that spell them otherwise. -/
structure Storage.RecordRoundTrips (α : Type) [ToJson α] [OfJson α] [StoredRecord α] : Prop
    extends RoundTrips α where
  decode_spelling {a : α} {text : String} {j : Json} (hread : Json.read text = some (j, false))
    (h : RecordSpelling (StoredRecord.fields a) j) : decode text = .ok a

theorem Storage.recordRoundTrips {α : Type} [ToJson α] [OfJson α] [StoredRecord α] :
    RecordRoundTrips α where
  toRoundTrips := roundTrips
  decode_spelling hread h := decode_eq_ok.mpr ⟨_, hread, StoredRecord.ofJson_of_spelling h⟩

/-! ## Texts and numbers -/

instance : Stored String where
  ofJson_toJson _ := rfl
  toJson_ne_null _ := nofun

instance : Stored UInt32 where
  ofJson_toJson n := by
    have hread : ofJson (toJson n) = Except.ok (UInt32.ofNat n.toNat) := if_pos n.toNat_lt
    rw [hread, UInt32.ofNat_toNat]
  toJson_ne_null _ := nofun

end RentBilling
