import RentBilling.ItemId.Reading
import RentBilling.Numeral.HexLemmas

/-!
Spellings of identifiers.

An identifier is read from its digits, in either case, however they are spelled: bare, in hyphenated
groups, and these between braces or after `urn:uuid:` (`ofText_of_spells`). No spelling is taken
for another one, because each has a character that the ones tried before it cannot have. The written
form is one of the spellings (`ofText_text`).
-/

namespace RentBilling

open Numeral Text

/-! ## Digits of either case -/

theorem Numeral.hexValue?_toLower (c : Char) : hexValue? c.toLower = hexValue? c := by
  by_cases h : c.isUpper
  · have hall : ∀ n < 91, 65 ≤ n → hexValue? (Char.ofNat n).toLower = hexValue? (Char.ofNat n) := by
      decide
    obtain ⟨hge, hle⟩ := of_decide_eq_true h
    have hlow : 65 ≤ c.toNat := UInt32.le_iff_toNat_le.mp hge
    have hhigh : c.toNat ≤ 90 := UInt32.le_iff_toNat_le.mp hle
    simpa only [Char.ofNat_toNat] using hall c.toNat (by omega) hlow
  · have hself : c.toLower = c := dif_neg fun hup => h (decide_eq_true hup)
    rw [hself]

theorem Numeral.isHexDigit_toLower (c : Char) : isHexDigit c.toLower = isHexDigit c := by
  rw [isHexDigit, hexValue?_toLower, isHexDigit]

theorem Numeral.ofHex?_map_toLower (ds : List Char) : ofHex? (ds.map Char.toLower) = ofHex? ds := by
  simp only [ofHex?, List.foldlM_map, hexValue?_toLower]

theorem Numeral.isHexDigit_of_mem_fixedHex {digit : Nat → Char}
    (h : ∀ n < 16, hexValue? (digit n) = some n) {width n : Nat} {c : Char}
    (hc : c ∈ fixedHex digit width n) : isHexDigit c := by
  obtain ⟨d, hd, rfl⟩ := mem_fixedHex hc
  rw [isHexDigit, h d hd]
  rfl

theorem Numeral.map_toLower_fixedHex (width n : Nat) :
    (fixedHex hexDigit width n).map Char.toLower = fixedHex hexDigit width n := by
  have hall : ∀ d < 16, (hexDigit d).toLower = hexDigit d := by decide
  have hlower : ∀ c ∈ fixedHex hexDigit width n, c.toLower = id c := by
    intro c hc
    obtain ⟨d, hd, rfl⟩ := mem_fixedHex hc
    exact hall d hd
  rw [List.map_congr_left hlower, List.map_id]

theorem Text.mem_intercalate {s c : Char} {parts : List (List Char)}
    (h : c ∈ [s].intercalate parts) : c = s ∨ c ∈ parts.flatten := by
  induction parts with
  | nil => contradiction
  | cons first parts ih =>
    cases parts with
    | nil => exact .inr (by simpa [List.intercalate] using h)
    | cons second parts =>
      rw [List.intercalate_cons_cons, List.mem_append, List.mem_append] at h
      rw [List.flatten_cons, List.mem_append]
      rcases h with (h | h) | h
      · exact .inr (.inl h)
      · exact .inl (List.mem_singleton.mp h)
      · exact (ih h).imp_right .inr

namespace ItemId

/-! ## Groups -/

theorem flatten_cut {sizes : List Nat} {ds : List Char} (h : ds.length = sizes.sum) :
    (cut sizes ds).flatten = ds := by
  induction sizes generalizing ds with
  | nil => exact (List.eq_nil_of_length_eq_zero h).symm
  | cons n sizes ih =>
    have hrest : (ds.drop n).length = sizes.sum := by
      rw [List.length_drop, h, List.sum_cons, Nat.add_sub_cancel_left]
    rw [cut, List.flatten_cons, ih hrest, List.take_append_drop]

theorem map_length_cut {sizes : List Nat} {ds : List Char} (h : ds.length = sizes.sum) :
    (cut sizes ds).map List.length = sizes := by
  induction sizes generalizing ds with
  | nil => rfl
  | cons n sizes ih =>
    have hsum : ds.length = n + sizes.sum := h
    have hrest : (ds.drop n).length = sizes.sum := by
      rw [List.length_drop, hsum, Nat.add_sub_cancel_left]
    rw [cut, List.map_cons, ih hrest, List.length_take_of_le (by omega)]

/-- Digits in hyphenated groups. -/
def hyphenated (ds : List Char) : List Char := ['-'].intercalate (cut groupSizes ds)

/-- What is read as groups of digits has no other characters. -/
theorem groupedDigits?_eq_none {cs : List Char} {c : Char} (hmem : c ∈ cs)
    (hdigit : isHexDigit c = false) (hhyphen : c ≠ '-') : groupedDigits? cs = none := by
  unfold groupedDigits?
  refine if_neg ?_
  rintro ⟨-, hall⟩
  rw [← intercalate_splitChars '-' cs] at hmem
  have hflat : c ∈ (splitChars (· == '-') cs).flatten := (mem_intercalate hmem).resolve_left hhyphen
  exact Bool.false_ne_true (hdigit.symm.trans (List.all_eq_true.mp hall c hflat))

theorem groupedDigits?_hyphenated {ds : List Char} (hlength : ds.length = 32)
    (hdigits : ∀ c ∈ ds, isHexDigit c) : groupedDigits? (hyphenated ds) = some ds := by
  have hflat : (cut groupSizes ds).flatten = ds := flatten_cut hlength
  have hcut : splitChars (· == '-') (hyphenated ds) = cut groupSizes ds := by
    refine splitChars_intercalate nofun fun group hgroup hmem => ?_
    have hhyphen : '-' ∈ ds := hflat ▸ List.mem_flatten.mpr ⟨group, hgroup, hmem⟩
    exact absurd (hdigits _ hhyphen) (by decide)
  unfold groupedDigits?
  rw [hcut]
  dsimp only
  rw [hflat, if_pos ⟨map_length_cut hlength, List.all_eq_true.mpr hdigits⟩]

/-! ## The scheme -/

/-- The scheme of identifiers, in either case. -/
def IsScheme (scheme : List Char) : Prop := scheme.map Char.toLower = "urn:uuid:".toList

instance (scheme : List Char) : Decidable (IsScheme scheme) :=
  inferInstanceAs (Decidable (_ = _))

theorem IsScheme.length_eq {scheme : List Char} (h : IsScheme scheme) : scheme.length = 9 := by
  simpa using congrArg List.length h

theorem IsScheme.afterScheme?_append {scheme : List Char} (h : IsScheme scheme)
    (rest : List Char) : afterScheme? (scheme ++ rest) = some rest := by
  rw [afterScheme?, List.take_left' h.length_eq, List.drop_left' h.length_eq]
  exact if_pos h

theorem IsScheme.unbraced?_append {scheme : List Char} (h : IsScheme scheme) (rest : List Char) :
    unbraced? (scheme ++ rest) = none := by
  obtain ⟨first, scheme, rfl⟩ := List.exists_cons_of_length_eq_add_one h.length_eq
  have hu : first.toLower = 'u' := (List.cons.inj h).1
  have hne : first ≠ '\x7b' := by
    rintro rfl
    exact absurd hu (by decide)
  simp [unbraced?, hne]

/-- The colon of a scheme stands in no group of digits. -/
theorem IsScheme.exists_outsider {scheme : List Char} (h : IsScheme scheme) :
    ∃ c ∈ scheme, isHexDigit c = false ∧ c ≠ '-' := by
  have hcolon : ':' ∈ scheme.map Char.toLower := by
    rw [h]
    decide
  obtain ⟨c, hc, hlower⟩ := List.mem_map.mp hcolon
  refine ⟨c, hc, by rw [← isHexDigit_toLower, hlower]; decide, ?_⟩
  rintro rfl
  exact absurd hlower (by decide)

/-! ## Spellings -/

/-- The spellings of digits. -/
inductive Spells (ds : List Char) : List Char → Prop where
  | bare : Spells ds ds
  | groups : Spells ds (hyphenated ds)
  | braced : Spells ds ('\x7b' :: (hyphenated ds ++ ['\x7d']))
  | named {scheme : List Char} (h : IsScheme scheme) : Spells ds (scheme ++ hyphenated ds)

theorem not_bare {cs : List Char} {c : Char} (hmem : c ∈ cs) (hdigit : isHexDigit c = false) :
    ¬ (cs.length = 32 ∧ cs.all isHexDigit) := by
  rintro ⟨-, hall⟩
  exact Bool.false_ne_true (hdigit.symm.trans (List.all_eq_true.mp hall c hmem))

/-- From every spelling the digits are found. -/
theorem spelledDigits?_of_spells {ds cs : List Char} (hlength : ds.length = 32)
    (hdigits : ∀ c ∈ ds, isHexDigit c) (h : Spells ds cs) : spelledDigits? cs = some ds := by
  have hgroups := groupedDigits?_hyphenated hlength hdigits
  cases h with
  | bare => exact if_pos ⟨hlength, List.all_eq_true.mpr hdigits⟩
  | groups =>
    have hcut : hyphenated ds =
        ds.take 8 ++ ['-'] ++ ['-'].intercalate (cut [4, 4, 4, 12] (ds.drop 8)) :=
      List.intercalate_cons_cons
    have hhyphen : '-' ∈ hyphenated ds := by simp [hcut]
    rw [spelledDigits?, if_neg (not_bare hhyphen (by decide)), hgroups]
    rfl
  | braced =>
    have hbrace : '\x7b' ∈ '\x7b' :: (hyphenated ds ++ ['\x7d']) := List.mem_cons_self
    have hnone := groupedDigits?_eq_none hbrace (by decide) (by decide)
    have hinner : unbraced? ('\x7b' :: (hyphenated ds ++ ['\x7d'])) = some (hyphenated ds) := by
      simp [unbraced?]
    rw [spelledDigits?, if_neg (not_bare hbrace (by decide)), hnone, hinner, Option.bind_some,
      hgroups]
    rfl
  | @named scheme hscheme =>
    obtain ⟨c, hc, hdigit, hhyphen⟩ := hscheme.exists_outsider
    have hmem : c ∈ scheme ++ hyphenated ds := List.mem_append_left _ hc
    rw [spelledDigits?, if_neg (not_bare hmem hdigit), groupedDigits?_eq_none hmem hdigit hhyphen,
      hscheme.unbraced?_append, hscheme.afterScheme?_append, Option.bind_some, hgroups]
    rfl

/-- An identifier is read from every spelling of its digits, in either case. -/
theorem ofText_of_spells {id : ItemId} {ds cs : List Char} (hds : ds.map Char.toLower = id.hexChars)
    (h : Spells ds cs) : ofText (.ofList cs) = .ok id := by
  have hlength : ds.length = 32 := by
    rw [← List.length_map Char.toLower, hds]
    exact length_fixedHex ..
  have hdigits : ∀ c ∈ ds, isHexDigit c := fun c hc => by
    have hmem : c.toLower ∈ id.hexChars := hds ▸ List.mem_map_of_mem hc
    rw [← isHexDigit_toLower]
    exact isHexDigit_of_mem_fixedHex hexValue?_hexDigit hmem
  have hvalue : ofHex? ds = some id.toNat := by
    have hlt : id.toNat < 16 ^ 32 := id.value.isLt
    rw [← ofHex?_map_toLower, hds, hexChars, ofHex?_fixedHex hexValue?_hexDigit,
      Nat.mod_eq_of_lt hlt]
  rw [ofText, String.toList_ofList, spelledDigits?_of_spells hlength hdigits h]
  dsimp only
  rw [hvalue, Option.getD_some, toNat, BitVec.ofNat_toNat, BitVec.setWidth_eq]

/-- An identifier is read back from its text. -/
theorem ofText_text (id : ItemId) : ofText id.text = .ok id :=
  ofText_of_spells (map_toLower_fixedHex 32 id.toNat) .groups

end ItemId

end RentBilling
