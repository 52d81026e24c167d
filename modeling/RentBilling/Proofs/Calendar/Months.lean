import RentBilling.Proofs.Numeral.Order
import RentBilling.Proofs.Storage.Values
import RentBilling.Proofs.Text.Slices

/-!
Months and their texts.

A text is read as a month if and only if it is laid out as four digits, a hyphen and two digits from
01 to 12 (`ofText_eq_ok_iff`, `exists_ofText_iff`), and then it is the text of that month. Reading
may as well look at bytes and cut the text at two of them: the cuts never fall into a character, and
both numbers fit their words (`ofBytes?_eq`).

However a month was made, its year has four digits and its month has a name. Digits fill their
width, so months stand in the order of their texts (`lt_iff_text_lt`).
-/

namespace RentBilling.ReferenceMonth

open Numeral Text

/-! ## Layout -/

/-- The text is four digits, a hyphen and two digits. -/
structure Layout (text : String) (year month : List Char) : Prop where
  toList_eq : text.toList = year ++ '-' :: month
  isDigit : ∀ c ∈ year ++ month, c.isDigit
  length_year : year.length = 4
  length_month : month.length = 2

section

variable {text : String} {year month : List Char}

theorem Layout.isDigit_year (h : Layout text year month) : ∀ c ∈ year, c.isDigit :=
  (List.forall_mem_append.mp h.isDigit).1

theorem Layout.isDigit_month (h : Layout text year month) : ∀ c ∈ month, c.isDigit :=
  (List.forall_mem_append.mp h.isDigit).2

theorem Layout.year_lt (h : Layout text year month) : ofDigits year < 10000 := by
  simpa [h.length_year] using ofDigits_lt h.isDigit_year

theorem Layout.month_lt (h : Layout text year month) : ofDigits month < 100 := by
  simpa [h.length_month] using ofDigits_lt h.isDigit_month

/-- Padding the two numbers gives the digits back. -/
theorem Layout.padded_year (h : Layout text year month) : padded 4 (ofDigits year) = year :=
  (padded_ofDigits_eq_iff h.isDigit_year (by decide)).mpr
    ⟨h.length_year.ge, fun _ => h.length_year⟩

theorem Layout.padded_month (h : Layout text year month) : padded 2 (ofDigits month) = month :=
  (padded_ofDigits_eq_iff h.isDigit_month (by decide)).mpr
    ⟨h.length_month.ge, fun _ => h.length_month⟩

theorem Layout.exists_chars (h : Layout text year month) :
    ∃ a b c d e f, year = [a, b, c, d] ∧ month = [e, f] := by
  obtain ⟨a, b, c, d, hyear⟩ := List.length_eq_four.mp h.length_year
  obtain ⟨e, f, hmonth⟩ := List.length_eq_two.mp h.length_month
  exact ⟨a, b, c, d, e, f, hyear, hmonth⟩

/-! ## Reading -/

theorem of?_eq_ok_iff {year month : Nat} {m : ReferenceMonth} :
    of? year month = .ok m ↔
      year ≤ 9999 ∧ (1 ≤ month ∧ month ≤ 12) ∧ m.year = year ∧ m.month = month := by
  constructor
  · intro h
    unfold of? at h
    split at h
    · rename_i hyear
      split at h
      · rename_i hmonth
        obtain rfl := Except.ok.inj h
        exact ⟨hyear, hmonth, rfl, rfl⟩
      · contradiction
    · contradiction
  · rintro ⟨-, -, rfl, rfl⟩
    exact m.of?_self

theorem ofText_of_layout (h : Layout text year month) :
    ofText text = of? (ofDigits year) (ofDigits month) := by
  obtain ⟨a, b, c, d, e, f, rfl, rfl⟩ := h.exists_chars
  have hall : [a, b, c, d, e, f].all Char.isDigit := List.all_eq_true.mpr h.isDigit
  rw [ofText, h.toList_eq]
  exact if_pos hall

theorem ofText_of_no_layout (h : ∀ year month, ¬ Layout text year month) :
    ofText text = .error (.malformed text) := by
  unfold ofText
  split
  · rename_i a b c d e f hchars
    have hnot : ¬ [a, b, c, d, e, f].all Char.isDigit := fun hall =>
      h [a, b, c, d] [e, f] ⟨hchars, List.all_eq_true.mp hall, rfl, rfl⟩
    exact if_neg hnot
  · rfl

theorem layout_text (m : ReferenceMonth) : Layout m.text (padded 4 m.year) (padded 2 m.month) where
  toList_eq := String.toList_ofList
  isDigit c hc := by
    rcases List.mem_append.mp hc with hc | hc
    · exact isDigit_of_mem_padded hc
    · exact isDigit_of_mem_padded hc
  length_year := length_padded_of_lt (by decide) (Nat.lt_succ_of_le m.year_le)
  length_month := length_padded_of_lt (by decide) (m.month_le.trans_lt (by decide))

/-- A text is read as a month if and only if it is the text of that month. -/
theorem ofText_eq_ok_iff {m : ReferenceMonth} : ofText text = .ok m ↔ m.text = text := by
  constructor
  · intro h
    by_cases hlayout : ∃ year month, Layout text year month
    · obtain ⟨year, month, hlayout⟩ := hlayout
      rw [ofText_of_layout hlayout] at h
      obtain ⟨-, -, hyear, hmonth⟩ := of?_eq_ok_iff.mp h
      rw [← String.toList_inj, ReferenceMonth.text, String.toList_ofList, hyear, hmonth,
        hlayout.padded_year, hlayout.padded_month, hlayout.toList_eq]
    · rw [ofText_of_no_layout fun year month h => hlayout ⟨year, month, h⟩] at h
      contradiction
  · rintro rfl
    exact m.ofText_text

theorem exists_ofText_iff : (∃ m, ofText text = .ok m) ↔
    ∃ year month, Layout text year month ∧ 1 ≤ ofDigits month ∧ ofDigits month ≤ 12 := by
  constructor
  · rintro ⟨m, h⟩
    obtain rfl := ofText_eq_ok_iff.mp h
    refine ⟨_, _, m.layout_text, ?_⟩
    rw [ofDigits_padded]
    exact ⟨m.one_le_month, m.month_le⟩
  · rintro ⟨year, month, hlayout, hmonth⟩
    have hyear : ofDigits year ≤ 9999 := Nat.le_of_lt_succ hlayout.year_lt
    refine ⟨⟨_, _, hyear, hmonth.1, hmonth.2⟩, ?_⟩
    rw [ofText_of_layout hlayout, of?_eq_ok_iff]
    exact ⟨hyear, hmonth, rfl, rfl⟩

end

/-! ## Reading bytes -/

/-- Seven elements, the fifth a hyphen and the others digits. -/
def Pattern {α : Type} (isDigit : α → Bool) (hyphen : α) (l : List α) : Prop :=
  l.length = 7 ∧ l[4]? = some hyphen ∧ (l.take 4).all isDigit ∧ (l.drop 5).all isDigit

instance {α : Type} [DecidableEq α] (isDigit : α → Bool) (hyphen : α) (l : List α) :
    Decidable (Pattern isDigit hyphen l) :=
  inferInstanceAs (Decidable (_ ∧ _ ∧ _ ∧ _))

/-- The byte of a decimal digit. -/
def isDigitByte (byte : UInt8) : Bool := decide (48 ≤ byte.toNat ∧ byte.toNat ≤ 57)

/-- The number that a run of digits denotes, if it fits in a word with so many values. -/
def wordNumber? (values : Nat) (s : String) : Option Nat :=
  if ofDigits s.toList < values then some (ofDigits s.toList) else none

/-- The month that a text names, told from its bytes. The two numbers are cut out of the text; there
is nothing if a cut falls into a character or a number does not fit its word. -/
def ofBytes? (text : String) : Option (Except Fault ReferenceMonth) :=
  if Pattern isDigitByte 45 (utf8Bytes text.toList) then do
    let year ← wordNumber? UInt16.size (← upTo? text 4)
    let month ← wordNumber? UInt8.size (← startingAt? text 5)
    some (of? year month)
  else some (.error (.malformed text))

section

variable {α β : Type} {isDigit : α → Bool} {hyphen : α} {l : List α}

theorem pattern_iff : Pattern isDigit hyphen l ↔ ∃ front back, l = front ++ hyphen :: back ∧
    (∀ a ∈ front ++ back, isDigit a) ∧ front.length = 4 ∧ back.length = 2 := by
  constructor
  · rintro ⟨hlength, hhyphen, hfront, hback⟩
    obtain ⟨hlt, hget⟩ := List.getElem?_eq_some_iff.mp hhyphen
    refine ⟨l.take 4, l.drop 5, ?_, ?_, by rw [List.length_take, hlength]; rfl,
      by rw [List.length_drop, hlength]⟩
    · rw [← hget, ← List.drop_eq_getElem_cons hlt, List.take_append_drop]
    · exact List.forall_mem_append.mpr ⟨List.all_eq_true.mp hfront, List.all_eq_true.mp hback⟩
  · rintro ⟨front, back, rfl, hdigits, hfront, hback⟩
    rw [List.forall_mem_append] at hdigits
    have htake : (front ++ hyphen :: back).take 4 = front := List.take_left' hfront
    have hdrop : (front ++ hyphen :: back).drop 5 = back := by
      rw [List.append_cons]
      exact List.drop_left' (by rw [List.length_append, hfront]; rfl)
    refine ⟨by rw [List.length_append, List.length_cons, hfront, hback], ?_, ?_, ?_⟩
    · rw [List.getElem?_append_right hfront.le, hfront]
      rfl
    · rw [htake]
      exact List.all_eq_true.mpr hdigits.1
    · rw [hdrop]
      exact List.all_eq_true.mpr hdigits.2

/-- What holds of digits and of the hyphen holds of all. -/
theorem Pattern.forall_mem (h : Pattern isDigit hyphen l) {p : α → Prop}
    (hdigit : ∀ a, isDigit a → p a) (hhyphen : p hyphen) : ∀ a ∈ l, p a := by
  obtain ⟨front, back, rfl, hdigits, -⟩ := pattern_iff.mp h
  rw [List.forall_mem_append] at hdigits ⊢
  rw [List.forall_mem_cons]
  exact ⟨fun a ha => hdigit a (hdigits.1 a ha), hhyphen, fun a ha => hdigit a (hdigits.2 a ha)⟩

/-- A map that tells digits and the hyphen from all else keeps the pattern. -/
theorem pattern_map_iff {f : α → β} {isDigit' : β → Bool} {hyphen' : β}
    (hdigit : ∀ a ∈ l, isDigit' (f a) = isDigit a)
    (hhyphen : ∀ a ∈ l, f a = hyphen' ↔ a = hyphen) :
    Pattern isDigit' hyphen' (l.map f) ↔ Pattern isDigit hyphen l := by
  have hall : ∀ l' : List α, l' ⊆ l → (l'.map f).all isDigit' = l'.all isDigit := fun l' hl' => by
    rw [List.all_map, Bool.eq_iff_iff, List.all_eq_true, List.all_eq_true]
    exact forall₂_congr fun a ha => by rw [Function.comp, hdigit a (hl' ha)]
  have hfifth : (l.map f)[4]? = some hyphen' ↔ l[4]? = some hyphen := by
    rw [List.getElem?_map]
    cases h : l[4]? with
    | none => exact iff_of_false nofun nofun
    | some a => simpa using hhyphen a (List.mem_of_getElem? h)
  rw [Pattern, Pattern, List.length_map, ← List.map_take, ← List.map_drop, hfifth,
    hall _ (List.take_subset 4 l), hall _ (List.drop_subset 5 l)]

end

theorem isDigitByte_toUInt8 {c : Char} (h : isAsciiChar c) :
    isDigitByte c.val.toUInt8 = c.isDigit := by
  rw [Bool.eq_iff_iff, isDigitByte, toNat_toUInt8 h]
  simp only [Char.isDigit, Bool.and_eq_true, decide_eq_true_eq, ge_iff_le,
    UInt32.le_iff_toNat_le]
  rfl

theorem toUInt8_eq_hyphen_iff {c : Char} (h : isAsciiChar c) : c.val.toUInt8 = 45 ↔ c = '-' := by
  rw [← UInt8.toNat_inj, toNat_toUInt8 h, ← Char.toNat_inj]
  rfl

theorem layout_iff_pattern {text : String} :
    (∃ year month, Layout text year month) ↔ Pattern Char.isDigit '-' text.toList := by
  rw [pattern_iff]
  constructor
  · rintro ⟨year, month, h⟩
    exact ⟨year, month, h.toList_eq, h.isDigit, h.length_year, h.length_month⟩
  · rintro ⟨year, month, hchars, hdigits, hyear, hmonth⟩
    exact ⟨year, month, hchars, hdigits, hyear, hmonth⟩

/-- The bytes show the pattern of the characters, and of no others: bytes of digits and hyphens are
ASCII. -/
theorem pattern_utf8Bytes_iff {cs : List Char} :
    Pattern isDigitByte 45 (utf8Bytes cs) ↔ Pattern Char.isDigit '-' cs := by
  have hsame : cs.all isAsciiChar →
      (Pattern isDigitByte 45 (utf8Bytes cs) ↔ Pattern Char.isDigit '-' cs) := by
    intro hascii
    rw [List.all_eq_true] at hascii
    rw [utf8Bytes_eq_map (List.all_eq_true.mpr hascii)]
    exact pattern_map_iff (fun c hc => isDigitByte_toUInt8 (hascii c hc)) fun c hc =>
      toUInt8_eq_hyphen_iff (hascii c hc)
  constructor
  · intro h
    have hlow : ∀ byte ∈ utf8Bytes cs, byte.toNat < 128 :=
      h.forall_mem (fun byte hbyte => (of_decide_eq_true hbyte).2.trans_lt (by decide)) (by decide)
    exact (hsame (all_isAsciiChar_of_utf8Bytes hlow)).mp h
  · intro h
    have hascii : ∀ c ∈ cs, isAsciiChar c :=
      h.forall_mem (fun _ => isAsciiChar_of_isDigit) (by decide)
    exact (hsame (List.all_eq_true.mpr hascii)).mpr h

theorem wordNumber?_of_lt {values : Nat} {cs : List Char} (h : ofDigits cs < values) :
    wordNumber? values (.ofList cs) = some (ofDigits cs) := by
  rw [wordNumber?, String.toList_ofList, if_pos h]

section

variable {text : String} {year month : List Char}

theorem Layout.upTo? (h : Layout text year month) : upTo? text 4 = some (.ofList year) := by
  have hbytes : byteLength year = 4 := by
    rw [byteLength_eq_length (List.all_eq_true.mpr fun c hc =>
      isAsciiChar_of_isDigit (h.isDigit_year c hc)), h.length_year]
  rw [← String.ofList_toList (s := text), h.toList_eq, upTo?_append hbytes]

theorem Layout.startingAt? (h : Layout text year month) :
    startingAt? text 5 = some (.ofList month) := by
  have hascii : (year ++ ['-']).all isAsciiChar := by
    rw [List.all_append, Bool.and_eq_true, List.all_eq_true]
    exact ⟨fun c hc => isAsciiChar_of_isDigit (h.isDigit_year c hc), by decide⟩
  have hbytes : byteLength (year ++ ['-']) = 5 := by
    rw [byteLength_eq_length hascii, List.length_append, h.length_year]
    rfl
  rw [← String.ofList_toList (s := text), h.toList_eq, List.append_cons, startingAt?_append hbytes]

end

/-- No cut falls into a character and no number is too large, and what is read is the same. -/
theorem ofBytes?_eq (text : String) : ofBytes? text = some (ofText text) := by
  unfold ofBytes?
  by_cases hpattern : Pattern isDigitByte 45 (utf8Bytes text.toList)
  · obtain ⟨year, month, h⟩ := layout_iff_pattern.mpr (pattern_utf8Bytes_iff.mp hpattern)
    have hyear : ofDigits year < UInt16.size := h.year_lt.trans (by decide)
    have hmonth : ofDigits month < UInt8.size := h.month_lt.trans (by decide)
    rw [if_pos hpattern, h.upTo?, h.startingAt?, ofText_of_layout h]
    simp only [Option.bind_eq_bind, Option.bind_some, wordNumber?_of_lt hyear,
      wordNumber?_of_lt hmonth]
  · have hnone : ∀ year month, ¬ Layout text year month := fun year month h =>
      hpattern (pattern_utf8Bytes_iff.mpr (layout_iff_pattern.mp ⟨year, month, h⟩))
    rw [if_neg hpattern, ofText_of_no_layout hnone]

/-! ## Stored months and labels -/

theorem ofJson_eq_ok_iff {j : Json} {m : ReferenceMonth} :
    ofJson j = .ok m ↔ ∃ text, j = .text text ∧ ofText text = .ok m := by
  constructor
  · intro h
    match j with
    | .string (some text) =>
      rw [← Json.text, ofJson_text, readMonth, mapError_eq_ok, mapError_eq_ok] at h
      exact ⟨text, rfl, h⟩
    | .string none | .null | .bool _ | .natural _ | .otherNumber | .array _ | .object _ =>
      contradiction
  · rintro ⟨text, rfl, h⟩
    rw [ofJson_text, readMonth, mapError_eq_ok, mapError_eq_ok]
    exact h

theorem decode_eq_ok_iff {source : String} {m : ReferenceMonth} :
    Storage.decode source = .ok m ↔
      ∃ text, Json.read source = some (.text text, false) ∧ ofText text = .ok m := by
  simp only [Storage.decode_eq_ok, ofJson_eq_ok_iff]
  constructor
  · rintro ⟨j, hread, text, rfl, h⟩
    exact ⟨text, hread, h⟩
  · rintro ⟨text, hread, h⟩
    exact ⟨_, hread, text, rfl, h⟩

/-- The label of a year and a month, looked up at the place before the month; nothing if there is no
such place or no name at it. -/
def label? (year month : Nat) : Option String :=
  if 1 ≤ month then names[month - 1]?.map (· ++ "/" ++ .ofList (padded 4 year)) else none

theorem label?_self (m : ReferenceMonth) : label? m.year m.month = some m.label := by
  have hplace : m.month - 1 < names.length := by
    have hlength : names.length = 12 := rfl
    have := m.one_le_month
    have := m.month_le
    omega
  rw [label?, if_pos m.one_le_month, List.getElem?_eq_getElem hplace]
  rfl

/-! ## Order -/

/-- Months stand in the order of their texts. -/
theorem lt_iff_text_lt {a b : ReferenceMonth} : a < b ↔ a.text < b.text := by
  have hyear : ∀ m : ReferenceMonth, m.year < 10 ^ 4 := fun m => Nat.lt_succ_of_le m.year_le
  have hmonth : ∀ m : ReferenceMonth, m.month < 10 ^ 2 := fun m =>
    m.month_le.trans_lt (by decide)
  have hlength : (padded 4 a.year).length = (padded 4 b.year).length := by
    rw [length_padded_of_lt (by decide) (hyear a), length_padded_of_lt (by decide) (hyear b)]
  rw [String.lt_iff, text, text, String.toList_ofList, String.toList_ofList,
    append_lt_append_iff hlength, List.cons_lt_cons_self,
    padded_lt_padded_iff (by decide) (hyear a) (hyear b),
    padded_lt_padded_iff (by decide) (hmonth a) (hmonth b), padded_inj]
  rfl

theorem le_iff_text_le {a b : ReferenceMonth} : a ≤ b ↔ a.text ≤ b.text :=
  not_congr lt_iff_text_lt

/-- Sorted months have sorted texts. -/
theorem map_text_sort (months : List ReferenceMonth) :
    (sort months).map text = (months.map text).mergeSort (fun s t => s ≤ t) :=
  List.map_mergeSort fun _ _ _ _ => decide_eq_decide.mpr le_iff_text_le

/-- **Months and their texts.** The texts that are read are those of four digits, a hyphen and two
digits from 01 to 12; each is the text of the month it is read as, and no cut of its bytes falls
into a character. Months are made from numbers in their ranges, from such texts and from JSON
strings of such texts, and from nothing else; each of them has a label and is read back from its
text. Months stand in the order of their texts, so sorting the ones sorts the others. -/
theorem months_are_their_texts :
    (∀ text : String,
      ((∃ m, ofText text = .ok m) ↔
        ∃ year month, Layout text year month ∧ 1 ≤ ofDigits month ∧ ofDigits month ≤ 12) ∧
      (∀ m, ofText text = .ok m → m.text = text) ∧ ofBytes? text = some (ofText text)) ∧
    (∀ year month m, of? year month = .ok m ↔
      year ≤ 9999 ∧ (1 ≤ month ∧ month ≤ 12) ∧ m.year = year ∧ m.month = month) ∧
    (∀ (source : String) m, Storage.decode source = .ok m ↔
      ∃ text, Json.read source = some (.text text, false) ∧ ofText text = .ok m) ∧
    (∀ m : ReferenceMonth, m.year ≤ 9999 ∧ (1 ≤ m.month ∧ m.month ≤ 12) ∧
      label? m.year m.month = some m.label ∧ ofText m.text = .ok m) ∧
    (∀ a b : ReferenceMonth, a < b ↔ a.text < b.text) ∧
    ∀ months, (sort months).map text = (months.map text).mergeSort (fun s t => s ≤ t) := by
  refine ⟨fun text => ⟨exists_ofText_iff, fun m => ofText_eq_ok_iff.mp, ofBytes?_eq text⟩,
    fun year month m => of?_eq_ok_iff, fun source m => decode_eq_ok_iff, fun m => ?_,
    fun a b => lt_iff_text_lt, map_text_sort⟩
  exact ⟨m.year_le, ⟨m.one_le_month, m.month_le⟩, m.label?_self, m.ofText_text⟩

/-- The first month there is, a month past the last, a text with a character of two bytes before its
hyphen, and two months whose years differ in their first digit. -/
theorem months_are_their_texts_edges :
    (∃ m, ofText "0000-01" = .ok m ∧ m.text = "0000-01") ∧
      (¬ ∃ m, of? 2025 13 = .ok m) ∧
      ofBytes? "20é-03" = some (.error (.malformed "20é-03")) ∧
      (⟨999, 12, by decide, by decide, by decide⟩ : ReferenceMonth).text <
        (⟨1000, 1, by decide, by decide, by decide⟩ : ReferenceMonth).text := by
  obtain ⟨htexts, hnumbers, -, -, horder, -⟩ := months_are_their_texts
  have hdigits : ∀ c ∈ "0000".toList ++ "01".toList, c.isDigit := List.all_eq_true.mp (by decide)
  obtain ⟨m, hm⟩ := (htexts "0000-01").1.mpr
    ⟨"0000".toList, "01".toList, ⟨by decide, hdigits, by decide, by decide⟩, by decide⟩
  refine ⟨⟨m, hm, (htexts "0000-01").2.1 m hm⟩, ?_, ?_, (horder _ _).mp (by decide)⟩
  · rintro ⟨m, hm⟩
    exact absurd ((hnumbers 2025 13 m).mp hm).2.1 (by decide)
  · rw [(htexts "20é-03").2.2]
    rfl

end RentBilling.ReferenceMonth
