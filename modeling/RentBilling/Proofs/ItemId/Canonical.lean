import RentBilling.Proofs.ItemId.Spellings
import RentBilling.Proofs.Numeral.Hex

/-!
What texts have in common that are read as one identifier.

A text is read exactly if it spells 32 digits (`spelledDigits?_eq_some_iff`), and these are those of
the identifier, letter case apart (`ofText_eq_ok_iff`). So the identifier is written with the digits
in lower case and in groups, whatever the text looked like, and two texts are read as one
identifier if and only if they have the same digits (`ofText_eq_iff_sameDigits`). Identifiers stand
in the order of their written forms, because hyphens stand at the same places in all of them
(`lt_iff_text_lt`).
-/

namespace RentBilling.ItemId

open Numeral Text

/-! ## Texts that spell digits -/

/-- The text spells these 32 hexadecimal digits. -/
structure HasDigits (text : String) (ds : List Char) : Prop where
  spells : Spells ds text.toList
  length_eq : ds.length = 32
  isHexDigit : ∀ c ∈ ds, isHexDigit c

theorem cut_flatten {sizes : List Nat} {groups : List (List Char)}
    (h : groups.map List.length = sizes) : cut sizes groups.flatten = groups := by
  induction groups generalizing sizes with
  | nil =>
    subst h
    rfl
  | cons group groups ih =>
    subst h
    rw [List.map_cons, cut, List.flatten_cons, List.take_left, List.drop_left, ih rfl]

theorem of_groupedDigits? {cs ds : List Char} (h : groupedDigits? cs = some ds) :
    cs = hyphenated ds ∧ ds.length = 32 ∧ ∀ c ∈ ds, isHexDigit c := by
  unfold groupedDigits? at h
  dsimp only at h
  split at h
  · rename_i hgroups
    obtain ⟨hlengths, hdigits⟩ := hgroups
    obtain rfl := Option.some.inj h
    refine ⟨?_, ?_, List.all_eq_true.mp hdigits⟩
    · rw [hyphenated, cut_flatten hlengths, intercalate_splitChars]
    · rw [List.length_flatten, hlengths]
      rfl
  · contradiction

theorem eq_of_unbraced? {cs inner : List Char} (h : unbraced? cs = some inner) :
    cs = '\x7b' :: (inner ++ ['\x7d']) := by
  unfold unbraced? at h
  split at h
  · split at h
    · rename_i hlast
      obtain rfl := Option.some.inj h
      rw [List.dropLast_append_getLast? _ hlast]
    · contradiction
  · contradiction

theorem exists_scheme_of_afterScheme? {cs rest : List Char} (h : afterScheme? cs = some rest) :
    ∃ scheme, IsScheme scheme ∧ cs = scheme ++ rest := by
  unfold afterScheme? at h
  split at h
  · rename_i hscheme
    obtain rfl := Option.some.inj h
    exact ⟨cs.take 9, hscheme, (List.take_append_drop 9 cs).symm⟩
  · contradiction

/-- Digits are found in the texts that spell them, and in no others. -/
theorem spelledDigits?_eq_some_iff {text : String} {ds : List Char} :
    spelledDigits? text.toList = some ds ↔ HasDigits text ds := by
  constructor
  · intro h
    unfold spelledDigits? at h
    split at h
    · rename_i hbare
      obtain rfl := Option.some.inj h
      exact ⟨.bare, hbare.1, List.all_eq_true.mp hbare.2⟩
    · simp only [Option.orElse_eq_orElse, Option.orElse_eq_or, Option.or_eq_some_iff] at h
      rcases h with h | ⟨-, h | ⟨-, h⟩⟩
      · obtain ⟨htext, hlength, hdigits⟩ := of_groupedDigits? h
        exact ⟨htext ▸ .groups, hlength, hdigits⟩
      · obtain ⟨inner, hinner, h⟩ := Option.bind_eq_some_iff.mp h
        obtain ⟨rfl, hlength, hdigits⟩ := of_groupedDigits? h
        exact ⟨eq_of_unbraced? hinner ▸ .braced, hlength, hdigits⟩
      · obtain ⟨rest, hrest, h⟩ := Option.bind_eq_some_iff.mp h
        obtain ⟨rfl, hlength, hdigits⟩ := of_groupedDigits? h
        obtain ⟨scheme, hscheme, htext⟩ := exists_scheme_of_afterScheme? hrest
        exact ⟨htext ▸ .named hscheme, hlength, hdigits⟩
  · intro h
    exact spelledDigits?_of_spells h.length_eq h.isHexDigit h.spells

/-- No text spells two runs of digits. -/
theorem HasDigits.unique {text : String} {ds es : List Char} (hds : HasDigits text ds)
    (hes : HasDigits text es) : ds = es := by
  rw [← spelledDigits?_eq_some_iff] at hds hes
  rw [hds] at hes
  exact Option.some.inj hes

/-! ## The identifier of a text -/

theorem hexChars_injective {a b : ItemId} (h : a.hexChars = b.hexChars) : a = b :=
  toNat_injective ((fixedHex_inj a.value.isLt b.value.isLt).mp h)

/-- Digits are those of an identifier, letter case apart. -/
theorem exists_hexChars {ds : List Char} (hlength : ds.length = 32)
    (hdigits : ∀ c ∈ ds, isHexDigit c) : ∃ id : ItemId, ds.map Char.toLower = id.hexChars := by
  obtain ⟨n, hn⟩ := exists_ofHex? hdigits
  obtain ⟨hlt, hchars⟩ := fixedHex_of_ofHex? hn
  rw [hlength] at hlt hchars
  refine ⟨⟨BitVec.ofNat 128 n⟩, ?_⟩
  have hvalue : (⟨BitVec.ofNat 128 n⟩ : ItemId).toNat = n := Nat.mod_eq_of_lt hlt
  rw [hexChars, hvalue, hchars]

theorem ofText_of_hasDigits {text : String} {ds : List Char} {id : ItemId}
    (h : HasDigits text ds) (hds : ds.map Char.toLower = id.hexChars) : ofText text = .ok id := by
  have hread := ofText_of_spells hds h.spells
  rwa [String.ofList_toList] at hread

/-- The texts of an identifier are those that spell its digits, in either case. -/
theorem ofText_eq_ok_iff {text : String} {id : ItemId} :
    ofText text = .ok id ↔ ∃ ds, HasDigits text ds ∧ ds.map Char.toLower = id.hexChars := by
  constructor
  · intro h
    cases hds : spelledDigits? text.toList with
    | none =>
      rw [ofText, hds] at h
      contradiction
    | some ds =>
      rw [spelledDigits?_eq_some_iff] at hds
      obtain ⟨id', hid'⟩ := exists_hexChars hds.length_eq hds.isHexDigit
      have hread := ofText_of_hasDigits hds hid'
      rw [h] at hread
      obtain rfl := Except.ok.inj hread
      exact ⟨ds, hds, hid'⟩
  · rintro ⟨ds, h, hds⟩
    exact ofText_of_hasDigits h hds

/-- What spells digits is read, and is written with these in lower case and in groups. -/
theorem HasDigits.exists_text {text : String} {ds : List Char} (h : HasDigits text ds) :
    ∃ id, ofText text = .ok id ∧ id.text = .ofList (hyphenated (ds.map Char.toLower)) := by
  obtain ⟨id, hid⟩ := exists_hexChars h.length_eq h.isHexDigit
  refine ⟨id, ofText_of_hasDigits h hid, ?_⟩
  rw [hid]
  rfl

/-- The texts spell the same digits, letter case apart. -/
def SameDigits (s t : String) : Prop :=
  ∃ ds es, HasDigits s ds ∧ HasDigits t es ∧ ds.map Char.toLower = es.map Char.toLower

theorem ofText_eq_iff_sameDigits {s t : String} {a b : ItemId} (hs : ofText s = .ok a)
    (ht : ofText t = .ok b) : a = b ↔ SameDigits s t := by
  obtain ⟨ds, hds, ha⟩ := ofText_eq_ok_iff.mp hs
  obtain ⟨es, hes, hb⟩ := ofText_eq_ok_iff.mp ht
  constructor
  · intro h
    exact ⟨ds, es, hds, hes, by rw [ha, hb, h]⟩
  · intro ⟨ds', es', hds', hes', hsame⟩
    obtain rfl := hds.unique hds'
    obtain rfl := hes.unique hes'
    apply hexChars_injective
    rw [← ha, ← hb, hsame]

/-! ## Order -/

/-- Hyphens at the same places do not change the order. -/
theorem intercalate_cut_lt_iff {sizes : List Nat} {as bs : List Char} (ha : as.length = sizes.sum)
    (hb : bs.length = sizes.sum) :
    ['-'].intercalate (cut sizes as) < ['-'].intercalate (cut sizes bs) ↔ as < bs := by
  induction sizes generalizing as bs with
  | nil =>
    obtain rfl := List.eq_nil_of_length_eq_zero ha
    obtain rfl := List.eq_nil_of_length_eq_zero hb
    rfl
  | cons n sizes ih =>
    rw [List.sum_cons] at ha hb
    have ha' : (as.drop n).length = sizes.sum := by
      rw [List.length_drop]
      omega
    have hb' : (bs.drop n).length = sizes.sum := by
      rw [List.length_drop]
      omega
    cases sizes with
    | nil =>
      have hone : ∀ cs : List Char, cs.length = n + 0 → ['-'].intercalate (cut [n] cs) = cs := by
        intro cs hcs
        show ['-'].intercalate [cs.take n] = cs
        rw [List.take_of_length_le (by omega)]
        simp [List.intercalate]
      rw [hone as ha, hone bs hb]
    | cons m sizes =>
      have hlength : (as.take n).length = (bs.take n).length := by
        rw [List.length_take, List.length_take]
        omega
      have hgroups : ∀ cs : List Char, ['-'].intercalate (cut (n :: m :: sizes) cs) =
          cs.take n ++ '-' :: ['-'].intercalate (cut (m :: sizes) (cs.drop n)) := by
        intro cs
        show ['-'].intercalate (cs.take n :: (cs.drop n).take m :: cut sizes _) = _
        rw [List.intercalate_cons_cons, List.append_assoc]
        rfl
      rw [hgroups, hgroups, append_lt_append_iff hlength, List.cons_lt_cons_self, ih ha' hb',
        ← append_lt_append_iff hlength, List.take_append_drop, List.take_append_drop]

/-- Identifiers stand in the order of their written forms. -/
theorem lt_iff_text_lt {a b : ItemId} : a < b ↔ a.text < b.text := by
  have hlength : ∀ id : ItemId, id.hexChars.length = groupSizes.sum := fun id =>
    length_fixedHex hexDigit 32 id.toNat
  rw [String.lt_iff, text, text, String.toList_ofList, String.toList_ofList,
    intercalate_cut_lt_iff (hlength a) (hlength b), hexChars, hexChars,
    fixedHex_lt_fixedHex_iff a.value.isLt b.value.isLt]
  rfl

end RentBilling.ItemId
