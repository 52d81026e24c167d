import RentBilling.Proofs.Storage.Values

/-!
Stored charges are checked like new ones.

A charge is read from what stores a description and an amount, each as it is written, and from
nothing else (`ofJson_cases`). What is read then is what a new charge of these two comes to: the
charge, or the refusal with its reason (`ExtraCharge.readsAsNew`). So a stored form gives no charge
that could not be made anew, and what a new charge is checked for holds of every charge, however it
was obtained (`ExtraCharge.Obtained.checked`).
-/

namespace RentBilling

open Storage

/-! ## Fields that have one form -/

namespace Storage

/-- Values of this type are read from what they are written as, and anything else is unreadable. -/
def OneForm (α : Type) [ToJson α] [OfJson α] : Prop :=
  ∀ j : Json, (∃ a : α, j = toJson a) ∨ (ofJson j : Except ReadFailure α) = .error .unreadable

theorem OneForm.required {α : Type} [ToJson α] [OfJson α] (h : OneForm α) (slot : Option Json) :
    (∃ a : α, slot = some (toJson a)) ∨
      (required slot : Except ReadFailure α) = .error .unreadable := by
  cases slot with
  | none => exact .inr rfl
  | some j =>
    rcases h j with ⟨a, ha⟩ | hunreadable
    · exact .inl ⟨a, congrArg some ha⟩
    · exact .inr hunreadable

theorem oneForm_string : OneForm String := by
  intro j
  cases j with
  | string text =>
    cases text with
    | none => exact .inr rfl
    | some s => exact .inl ⟨s, rfl⟩
  | _ => exact .inr rfl

theorem oneForm_centavos : OneForm Centavos := by
  intro j
  cases j with
  | natural n =>
    by_cases h : n < Centavos.bound
    · left
      obtain ⟨a, ha⟩ : ∃ a, Centavos.ofNat? n = some a := ⟨_, if_pos h⟩
      exact ⟨a, congrArg Json.natural (Centavos.ofNat?_eq_some_iff.mp ha).symm⟩
    · right
      show orUnreadable (Centavos.ofNat? n) = _
      rw [show Centavos.ofNat? n = none from if_neg h]
      rfl
  | _ => exact .inr rfl

end Storage

namespace ExtraCharge

/-! ## New charges -/

theorem of?_eq_ok_iff {description : String} {amount : Centavos} {e : ExtraCharge} :
    of? description amount = .ok e ↔
      (¬ Text.isBlankText description ∧ 0 < amount.toNat) ∧ e.description = description ∧
        e.amount = amount := by
  unfold of?
  by_cases hd : Text.isBlankText description
  · rw [dif_pos hd]
    exact iff_of_false nofun fun h => h.1.1 hd
  · rw [dif_neg hd]
    by_cases ha : amount.isZero
    · have hzero : ¬ 0 < amount.toNat := by
        rw [Centavos.isZero_iff.mp ha]
        exact Nat.lt_irrefl 0
      rw [dif_pos ha]
      exact iff_of_false nofun fun h => hzero h.1.2
    · have hpos : 0 < amount.toNat := Nat.pos_of_ne_zero fun h => ha (Centavos.isZero_iff.mpr h)
      rw [dif_neg ha, Except.ok.injEq]
      constructor
      · intro h
        subst h
        exact ⟨⟨hd, hpos⟩, rfl, rfl⟩
      · intro ⟨_, hdescription, hamount⟩
        cases e
        cases hdescription
        cases hamount
        rfl

/-- The description is looked at first. -/
theorem of?_eq_error_iff {description : String} {amount : Centavos} {r : Refusal} :
    of? description amount = .error r ↔
      (Text.isBlankText description ∧ r = .blankExtraDescription) ∨
        (¬ Text.isBlankText description ∧ amount.toNat = 0 ∧ r = .zeroExtraAmount) := by
  unfold of?
  by_cases hd : Text.isBlankText description
  · rw [dif_pos hd, Except.error.injEq]
    simp [hd, eq_comm]
  · rw [dif_neg hd]
    by_cases ha : amount.isZero
    · rw [dif_pos ha, Except.error.injEq]
      simp [hd, Centavos.isZero_iff.mp ha, eq_comm]
    · have hne : amount.toNat ≠ 0 := fun h => ha (Centavos.isZero_iff.mpr h)
      rw [dif_neg ha]
      simp [hd, hne]

/-- When a new charge is made, and with which message it is refused otherwise. -/
structure CheckedWhenNew (description : String) (amount : Centavos) : Prop where
  charge (e : ExtraCharge) : of? description amount = .ok e ↔
    (¬ Text.isBlankText description ∧ 0 < amount.toNat) ∧ e.description = description ∧
      e.amount = amount
  /-- The description is looked at first. -/
  refusal (message : String) :
    (∃ r, of? description amount = .error r ∧ r.message = message) ↔
      (Text.isBlankText description ∧
          message = "validation failed: extra charge description is required") ∨
        (¬ Text.isBlankText description ∧ amount.toNat = 0 ∧
          message = "validation failed: extra charge amount must be positive")

theorem message_blankExtraDescription : Refusal.blankExtraDescription.message =
    "validation failed: extra charge description is required" := by decide

theorem message_zeroExtraAmount : Refusal.zeroExtraAmount.message =
    "validation failed: extra charge amount must be positive" := by decide

theorem checkedWhenNew (description : String) (amount : Centavos) :
    CheckedWhenNew description amount where
  charge _ := of?_eq_ok_iff
  refusal message := by
    constructor
    · intro ⟨r, hr, hmessage⟩
      rcases of?_eq_error_iff.mp hr with ⟨hblank, rfl⟩ | ⟨hdescribed, hzero, rfl⟩
      · exact .inl ⟨hblank, hmessage.symm.trans message_blankExtraDescription⟩
      · exact .inr ⟨hdescribed, hzero, hmessage.symm.trans message_zeroExtraAmount⟩
    · intro h
      rcases h with ⟨hblank, rfl⟩ | ⟨hdescribed, hzero, rfl⟩
      · exact ⟨_, of?_eq_error_iff.mpr (.inl ⟨hblank, rfl⟩), message_blankExtraDescription⟩
      · exact ⟨_, of?_eq_error_iff.mpr (.inr ⟨hdescribed, hzero, rfl⟩), message_zeroExtraAmount⟩

/-! ## Stored charges -/

/-- The fields that store a description and an amount. -/
def storedFields (description : String) (amount : Centavos) : List (String × Json) :=
  [("description", toJson description), ("amount", toJson amount)]

theorem ofJson_of_spelled {description : String} {amount : Centavos} {j : Json}
    (h : RecordSpelling (storedFields description amount) j) :
    ofJson j = (of? description amount).mapError ReadFailure.refused := by
  have hslots : slots? ["description", "amount"] j =
      some [some (toJson description), some (toJson amount)] := slots?_of_spelling h
  simp only [ofJson, hslots, required_toJson]
  rfl

/-- What stores no description and amount is unreadable. -/
theorem ofJson_cases (j : Json) :
    (∃ description amount, RecordSpelling (storedFields description amount) j) ∨
      (ofJson j : Except ReadFailure ExtraCharge) = .error .unreadable := by
  cases hslots : slots? ["description", "amount"] j with
  | none =>
    right
    simp only [ofJson, hslots]
  | some slots =>
    match slots with
    | [first, second] =>
      have hread : (ofJson j : Except ReadFailure ExtraCharge) =
          (required first).bind fun description => (required second).bind fun amount =>
            (of? description amount).mapError .refused := by
        simp only [ofJson, hslots]
        rfl
      rcases oneForm_string.required first with ⟨description, rfl⟩ | hfirst
      · rcases oneForm_centavos.required second with ⟨amount, rfl⟩ | hsecond
        · left
          exact ⟨description, amount, spelling_of_slots? hslots⟩
        · right
          rw [hread, hsecond, required_toJson]
          rfl
      · right
        rw [hread, hfirst]
        rfl
    | [] | [_] | _ :: _ :: _ :: _ =>
      right
      simp only [ofJson, hslots]

theorem ofJson_eq_ok_iff {j : Json} {e : ExtraCharge} :
    ofJson j = .ok e ↔ ∃ description amount,
      RecordSpelling (storedFields description amount) j ∧ of? description amount = .ok e := by
  constructor
  · intro h
    rcases ofJson_cases j with ⟨description, amount, hspelled⟩ | hunreadable
    · rw [ofJson_of_spelled hspelled, mapError_eq_ok] at h
      exact ⟨description, amount, hspelled, h⟩
    · rw [hunreadable] at h
      contradiction
  · intro ⟨description, amount, hspelled, h⟩
    rw [ofJson_of_spelled hspelled, h]
    rfl

theorem ofJson_eq_refused_iff {j : Json} {r : Refusal} :
    (ofJson j : Except ReadFailure ExtraCharge) = .error (.refused r) ↔ ∃ description amount,
      RecordSpelling (storedFields description amount) j ∧ of? description amount = .error r := by
  constructor
  · intro h
    rcases ofJson_cases j with ⟨description, amount, hspelled⟩ | hunreadable
    · rw [ofJson_of_spelled hspelled, mapError_eq_error] at h
      obtain ⟨r', hnew, hr⟩ := h
      obtain rfl := ReadFailure.refused.inj hr
      exact ⟨description, amount, hspelled, hnew⟩
    · rw [hunreadable] at h
      cases Except.error.inj h
  · intro ⟨description, amount, hspelled, h⟩
    rw [ofJson_of_spelled hspelled, h]
    rfl

/-! ## Stored texts -/

/-- What a text stores as a charge is what a new charge of the stored description and amount comes
to. A refusal does not wait for the end of the text. -/
structure ReadsAsNew (text : String) : Prop where
  charge (e : ExtraCharge) : decode text = .ok e ↔
    ∃ j description amount, Json.read text = some (j, false) ∧
      RecordSpelling (storedFields description amount) j ∧ of? description amount = .ok e
  refusal (r : Refusal) : (decode text : Except ReadFailure ExtraCharge) = .error (.refused r) ↔
    ∃ j goesOn description amount, Json.read text = some (j, goesOn) ∧
      RecordSpelling (storedFields description amount) j ∧ of? description amount = .error r

theorem readsAsNew (text : String) : ReadsAsNew text where
  charge e := by simp only [decode_eq_ok, ofJson_eq_ok_iff, exists_and_left]
  refusal r := by simp only [decode_eq_refused, ofJson_eq_refused_iff, exists_and_left]

theorem decode_of_spelled {description : String} {amount : Centavos} {text : String} {j : Json}
    (hread : Json.read text = some (j, false))
    (h : RecordSpelling (storedFields description amount) j) :
    decode text = (of? description amount).mapError ReadFailure.refused := by
  rw [decode_of_read hread, ofJson_of_spelled h]

/-! ## Where charges come from -/

/-- The charge was made from a description and an amount, or a text stores it. -/
inductive Obtained (e : ExtraCharge) : Prop where
  | made {description : String} {amount : Centavos} (h : of? description amount = .ok e)
  | read {text : String} (h : decode text = .ok e)

/-- A charge that was read could have been made. -/
theorem Obtained.exists_of? {e : ExtraCharge} (h : e.Obtained) :
    ∃ description amount, of? description amount = .ok e := by
  cases h with
  | @made description amount h => exact ⟨description, amount, h⟩
  | @read text h =>
    obtain ⟨_, description, amount, _, _, hnew⟩ := ((readsAsNew text).charge e).mp h
    exact ⟨description, amount, hnew⟩

/-- However a charge was obtained, there is something to pay and to read. -/
theorem Obtained.checked {e : ExtraCharge} (h : e.Obtained) :
    0 < e.amount.toNat ∧ ∃ c ∈ e.description.toList, ¬ Text.isBlank c := by
  obtain ⟨description, amount, hnew⟩ := h.exists_of?
  obtain ⟨⟨hdescription, hamount⟩, rfl, rfl⟩ := of?_eq_ok_iff.mp hnew
  refine ⟨hamount, ?_⟩
  unfold Text.isBlankText at hdescription
  simpa using hdescription

end ExtraCharge

end RentBilling
