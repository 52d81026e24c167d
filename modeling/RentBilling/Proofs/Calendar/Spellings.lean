import RentBilling.Calendar.DueDate
import RentBilling.Proofs.Calendar.Written
import RentBilling.Proofs.Outcome
import RentBilling.Proofs.Text.Blank

/-!
Which texts are read as due dates, and which of them are written again.

A text that is read has a day and a month of one or two digits and a year of up to four, or of any
count behind a sign; blanks may stand in front of the month and of the year (`Spelling`). Once it is
trimmed, a text is read as a date if and only if it is a spelling of that date
(`ofText_eq_ok_iff`), and no text has two spellings (`Spelling.eq_of_chars_eq`). Writing a date
always takes the one spelling that fills two and four places and has a sign for years outside 0 to
9999 only (`Spelling.eq_printed_iff`). Any other spelling is read as well, but comes back as another
text.
-/

namespace RentBilling.DueDate

open Numeral Text

/-! ## Spellings -/

/-- A sign in front of a year. -/
inductive Sign where
  | plus
  | minus
  deriving DecidableEq

def Sign.char : Sign → Char
  | plus => '+'
  | minus => '-'

def signChars (sign : Option Sign) : List Char := (sign.map Sign.char).toList

/-- The year of a number behind a sign, or behind none. -/
def signedYear : Option Sign → Nat → Int
  | none, n => n
  | some .plus, n => n
  | some .minus, n => -n

theorem natAbs_signedYear (sign : Option Sign) (n : Nat) : (signedYear sign n).natAbs = n := by
  match sign with
  | none => rfl
  | some .plus => rfl
  | some .minus => exact Int.natAbs_neg n

/-- How many digits are read as a year. -/
def yearLimit : Option Sign → Option Nat
  | none => some 4
  | some _ => none

/-- One digit or more, up to a limit if there is one. -/
structure IsNumeral (most : Option Nat) (ds : List Char) : Prop where
  isDigit : ∀ c ∈ ds, c.isDigit
  ne_nil : ds ≠ []
  length_le : ∀ n ∈ most, ds.length ≤ n

/-- A way to write a due date down. -/
@[ext]
structure Spelling where
  day : List Char
  monthBlanks : List Char
  month : List Char
  yearBlanks : List Char
  sign : Option Sign
  year : List Char
  isNumeral_day : IsNumeral (some 2) day
  isNumeral_month : IsNumeral (some 2) month
  isNumeral_year : IsNumeral (yearLimit sign) year
  isBlank_month : ∀ c ∈ monthBlanks, isBlank c
  isBlank_year : ∀ c ∈ yearBlanks, isBlank c

namespace Spelling

/-- What stands behind the second slash. -/
def fromYear (s : Spelling) : List Char := s.yearBlanks ++ (signChars s.sign ++ s.year)

/-- What stands behind the first slash. -/
def fromMonth (s : Spelling) : List Char := s.monthBlanks ++ (s.month ++ '/' :: s.fromYear)

def chars (s : Spelling) : List Char := s.day ++ '/' :: s.fromMonth

def text (s : Spelling) : String := .ofList s.chars

def yearNumber (s : Spelling) : Int := signedYear s.sign (ofDigits s.year)

/-- The date that is spelled, if the calendar has it. -/
def date? (s : Spelling) : Option Date :=
  Date.of? s.yearNumber (ofDigits s.month) (ofDigits s.day)

/-- Two-digit day and month, no blanks, a year of four digits, or of more that do not begin with
zero, and a sign if and only if the year lies outside 0 to 9999. -/
structure Strict (s : Spelling) : Prop where
  day : s.day.length = 2
  month : s.month.length = 2
  blanks : s.monthBlanks = [] ∧ s.yearBlanks = []
  year : 4 ≤ s.year.length ∧ (s.year.head? = some '0' → s.year.length = 4)
  sign : s.sign.isSome ↔ ¬ (0 ≤ s.yearNumber ∧ s.yearNumber ≤ 9999)

end Spelling

theorem not_isBlank_of_isDigit {c : Char} (h : c.isDigit) : isBlank c = false := by
  have hall : ∀ n < 10, isBlank n.digitChar = false := by decide
  obtain ⟨n, hn, rfl⟩ := exists_digitChar h
  exact hall n hn

theorem IsNumeral.head?_append {most : Option Nat} {ds : List Char} (h : IsNumeral most ds)
    (rest : List Char) : ∀ c ∈ (ds ++ rest).head?, c.isDigit := by
  obtain ⟨d, ds, rfl⟩ := List.exists_cons_of_ne_nil h.ne_nil
  intro c hc
  obtain rfl := Option.some.inj hc
  exact h.isDigit _ (.head _)

theorem IsNumeral.head? {most : Option Nat} {ds : List Char} (h : IsNumeral most ds) :
    ∀ c ∈ ds.head?, c.isDigit := by
  simpa using h.head?_append []

theorem IsNumeral.eq_padded_two {ds : List Char} (h : IsNumeral (some 2) ds)
    (hlength : ds.length = 2) : ds = padded 2 (ofDigits ds) :=
  ((padded_ofDigits_eq_iff h.isDigit (by decide)).mpr ⟨hlength.ge, fun _ => hlength⟩).symm

theorem IsNumeral.not_isBlank {most : Option Nat} {ds : List Char} (h : IsNumeral most ds)
    (rest : List Char) : ∀ c ∈ (ds ++ rest).head?, isBlank c = false :=
  fun c hc => not_isBlank_of_isDigit (h.head?_append rest c hc)

theorem not_isBlank_signed {ds : List Char} (h : ∀ c ∈ ds.head?, c.isDigit) :
    ∀ (sign : Option Sign), ∀ c ∈ (signChars sign ++ ds).head?, isBlank c = false
  | some .plus => fun _ hc => Option.some.inj hc ▸ rfl
  | some .minus => fun _ hc => Option.some.inj hc ▸ rfl
  | none => fun c hc => not_isBlank_of_isDigit (h c hc)

/-- No digit runs on into the slash behind it. -/
theorem slash_stops (cs : List Char) : ∀ c ∈ ('/' :: cs).head?, c.isDigit = false := by
  simp

/-! ## Reading the parts -/

/-- The digits in front, up to a limit if there is one. -/
def leadingDigits (most : Option Nat) (cs : List Char) : List Char :=
  match most with
  | some n => (cs.takeWhile Char.isDigit).take n
  | none => cs.takeWhile Char.isDigit

theorem isDigit_of_mem_leadingDigits {most : Option Nat} {cs : List Char} {c : Char}
    (h : c ∈ leadingDigits most cs) : c.isDigit := by
  cases most with
  | none => exact List.mem_takeWhile_imp h
  | some n => exact List.mem_takeWhile_imp (List.mem_of_mem_take h)

theorem leadingDigits_append_drop (most : Option Nat) (cs : List Char) :
    leadingDigits most cs ++ cs.drop (leadingDigits most cs).length = cs := by
  have hrun : cs.takeWhile Char.isDigit <+: cs := List.takeWhile_prefix _
  refine List.prefix_iff_eq_append.mp ?_
  cases most with
  | none => exact hrun
  | some n =>
    have htaken : (cs.takeWhile Char.isDigit).take n <+: cs.takeWhile Char.isDigit :=
      List.take_prefix n _
    exact htaken.trans hrun

theorem isNumeral_leadingDigits {most : Option Nat} {c : Char} {cs : List Char}
    (hmost : most ≠ some 0) (hc : c.isDigit) : IsNumeral most (leadingDigits most (c :: cs)) where
  isDigit _ := isDigit_of_mem_leadingDigits
  ne_nil := by
    have hrun : (c :: cs).takeWhile Char.isDigit ≠ [] := by simp [hc]
    cases most with
    | none => exact hrun
    | some n =>
      have hn : n ≠ 0 := fun h => hmost (congrArg some h)
      simpa [leadingDigits, hn] using hrun
  length_le n hn := by
    obtain rfl := Option.mem_def.mp hn
    exact List.length_take_le n _

theorem leadingDigits_append {most : Option Nat} {ds rest : List Char} (h : IsNumeral most ds)
    (hrest : ∀ c ∈ rest.head?, c.isDigit = false) : leadingDigits most (ds ++ rest) = ds := by
  have hrun : (ds ++ rest).takeWhile Char.isDigit = ds :=
    takeWhile_append_of_stop h.isDigit hrest
  cases most with
  | none => exact hrun
  | some n => rw [leadingDigits, hrun, List.take_of_length_le (h.length_le n rfl)]

/-- Where no digit follows, a numeral and its number have been read. -/
theorem readNumber_eq_ok_iff {most : Option Nat} {cs rest : List Char} {n : Nat}
    (hmost : most ≠ some 0) (hrest : ∀ c ∈ rest.head?, c.isDigit = false) :
    readNumber most cs = .ok (n, rest) ↔
      ∃ ds, IsNumeral most ds ∧ cs = ds ++ rest ∧ n = ofDigits ds := by
  have hread : ∀ c cs, c.isDigit → readNumber most (c :: cs) =
      .ok (ofDigits (leadingDigits most (c :: cs)),
        (c :: cs).drop (leadingDigits most (c :: cs)).length) := fun c cs hc => if_pos hc
  constructor
  · intro h
    cases cs with
    | nil => contradiction
    | cons c cs =>
      by_cases hc : c.isDigit
      · obtain ⟨rfl, rfl⟩ := Prod.mk.inj (Except.ok.inj ((hread c cs hc).symm.trans h))
        exact ⟨_, isNumeral_leadingDigits hmost hc, (leadingDigits_append_drop most _).symm, rfl⟩
      · have herror : readNumber most (c :: cs) = .error .badCharacter := if_neg hc
        rw [herror] at h
        contradiction
  · rintro ⟨ds, hds, rfl, rfl⟩
    have hlead := leadingDigits_append hds hrest
    obtain ⟨d, ds, rfl⟩ := List.exists_cons_of_ne_nil hds.ne_nil
    rw [List.cons_append, hread d _ (hds.isDigit d (.head _)), ← List.cons_append, hlead,
      List.drop_left]

theorem readPart_eq_ok_iff {greatest : Nat} {cs rest : List Char} {n : Nat} :
    readPart greatest cs = .ok (n, rest) ↔
      readNumber (some 2) (trimFront cs) = .ok (n, rest) ∧ 1 ≤ n ∧ n ≤ greatest := by
  unfold readPart
  refine bind_eq_ok.trans ⟨?_, ?_⟩
  · rintro ⟨⟨m, tail⟩, hread, h⟩
    dsimp only at h
    split at h
    · obtain ⟨rfl, rfl⟩ := Prod.mk.inj (Except.ok.inj h)
      exact ⟨hread, ‹_›⟩
    · contradiction
  · rintro ⟨hread, hrange⟩
    exact ⟨_, hread, if_pos hrange⟩

/-- A day or a month that no digit follows is a numeral with blanks in front. -/
theorem readPart_numeral_iff {greatest : Nat} {cs rest : List Char} {n : Nat}
    (hrest : ∀ c ∈ rest.head?, c.isDigit = false) :
    readPart greatest cs = .ok (n, rest) ↔ ∃ blanks ds, (∀ c ∈ blanks, isBlank c) ∧
      IsNumeral (some 2) ds ∧ cs = blanks ++ (ds ++ rest) ∧ n = ofDigits ds ∧
      1 ≤ n ∧ n ≤ greatest := by
  rw [readPart_eq_ok_iff, readNumber_eq_ok_iff (by decide) hrest]
  constructor
  · rintro ⟨⟨ds, hds, htrim, hn⟩, hrange⟩
    obtain ⟨blanks, hblanks, hcs⟩ := exists_blanks cs
    exact ⟨blanks, ds, hblanks, hds, htrim ▸ hcs, hn, hrange⟩
  · rintro ⟨blanks, ds, hblanks, hds, rfl, hn, hrange⟩
    exact ⟨⟨ds, hds, trimFront_append hblanks (hds.not_isBlank _), hn⟩, hrange⟩

theorem readSlash_eq_ok_iff {cs rest : List Char} : readSlash cs = .ok rest ↔ cs = '/' :: rest := by
  cases cs with
  | nil => exact ⟨nofun, nofun⟩
  | cons c cs =>
    rw [readSlash, List.cons.injEq]
    split
    · rename_i hc
      rw [Except.ok.injEq]
      exact ⟨fun h => ⟨hc, h⟩, And.right⟩
    · rename_i hc
      exact ⟨nofun, fun h => absurd h.1 hc⟩

/-! ## Reading the year -/

theorem exists_sign (cs : List Char) : ∃ sign ds, cs = signChars sign ++ ds ∧
    (sign = none → ∀ c ∈ ds.head?, c ≠ '-' ∧ c ≠ '+') := by
  by_cases hminus : cs.head? = some '-'
  · obtain ⟨ds, rfl⟩ := List.head?_eq_some_iff.mp hminus
    exact ⟨some .minus, ds, rfl, nofun⟩
  · by_cases hplus : cs.head? = some '+'
    · obtain ⟨ds, rfl⟩ := List.head?_eq_some_iff.mp hplus
      exact ⟨some .plus, ds, rfl, nofun⟩
    · exact ⟨none, cs, rfl, fun _ c hc => ⟨fun h => hminus (h ▸ hc), fun h => hplus (h ▸ hc)⟩⟩

/-- A year is a number behind its sign. -/
theorem readYear_of_trimFront {cs ds : List Char} {sign : Option Sign}
    (h : trimFront cs = signChars sign ++ ds)
    (hsign : sign = none → ∀ c ∈ ds.head?, c ≠ '-' ∧ c ≠ '+') :
    readYear cs = (readNumber (yearLimit sign) ds).bind fun (n, rest) =>
      if Int32.minValue.toInt ≤ signedYear sign n ∧ signedYear sign n ≤ Int32.maxValue.toInt then
        .ok (signedYear sign n, rest)
      else .error .outOfRange := by
  unfold readYear
  rw [h]
  -- The reader looks for either sign in front; what it does with the number is always the same.
  match sign with
  | some .minus => exact map_bind
  | some .plus => exact map_bind
  | none =>
    have hnil : signChars none ++ ds = ds := rfl
    rw [hnil]
    split
    · exact absurd rfl (hsign rfl _ rfl).1
    · exact absurd rfl (hsign rfl _ rfl).2
    · exact map_bind

/-- A year that no digit follows is a numeral, perhaps with a sign, and with blanks in front. -/
theorem readYear_numeral_iff {cs rest : List Char} {year : Int}
    (hrest : ∀ c ∈ rest.head?, c.isDigit = false) :
    readYear cs = .ok (year, rest) ↔ ∃ blanks sign ds, (∀ c ∈ blanks, isBlank c) ∧
      IsNumeral (yearLimit sign) ds ∧ cs = blanks ++ (signChars sign ++ (ds ++ rest)) ∧
      year = signedYear sign (ofDigits ds) ∧
      Int32.minValue.toInt ≤ year ∧ year ≤ Int32.maxValue.toInt := by
  have hmost : ∀ sign, yearLimit sign ≠ some 0
    | none => by decide
    | some _ => nofun
  constructor
  · intro h
    obtain ⟨sign, tail, htrim, hsign⟩ := exists_sign (trimFront cs)
    obtain ⟨blanks, hblanks, hcs⟩ := exists_blanks cs
    rw [readYear_of_trimFront htrim hsign] at h
    obtain ⟨⟨n, behind⟩, hread, h⟩ := bind_eq_ok.mp h
    dsimp only at h
    split at h
    · rename_i hrange
      obtain ⟨rfl, rfl⟩ := Prod.mk.inj (Except.ok.inj h)
      obtain ⟨ds, hds, rfl, rfl⟩ := (readNumber_eq_ok_iff (hmost sign) hrest).mp hread
      exact ⟨blanks, sign, ds, hblanks, hds, htrim ▸ hcs, rfl, hrange⟩
    · contradiction
  · rintro ⟨blanks, sign, ds, hblanks, hds, rfl, rfl, hrange⟩
    have hfirst := hds.head?_append rest
    have hsign : sign = none → ∀ c ∈ (ds ++ rest).head?, c ≠ '-' ∧ c ≠ '+' := fun _ c hc =>
      ⟨ne_of_isDigit (hfirst c hc) (by decide), ne_of_isDigit (hfirst c hc) (by decide)⟩
    rw [readYear_of_trimFront (trimFront_append hblanks (not_isBlank_signed hfirst sign)) hsign]
    have hread : readNumber (yearLimit sign) (ds ++ rest) = .ok (ofDigits ds, rest) :=
      (readNumber_eq_ok_iff (hmost sign) hrest).mpr ⟨ds, hds, rfl, rfl⟩
    exact bind_eq_ok.mpr ⟨_, hread, if_pos hrange⟩

/-! ## Reading a date -/

theorem ofChars_eq_ok_iff {cs : List Char} {d : Date} :
    ofChars cs = .ok d ↔ ∃ afterDay afterMonth, readPart 31 cs = .ok (d.day, '/' :: afterDay) ∧
      readPart 12 afterDay = .ok (d.month, '/' :: afterMonth) ∧
      readYear afterMonth = .ok (d.year, []) := by
  unfold ofChars
  constructor
  · intro h
    obtain ⟨⟨day, slashMonth⟩, hday, h⟩ := bind_eq_ok.mp h
    obtain ⟨afterDay, hslash, h⟩ := bind_eq_ok.mp h
    obtain ⟨⟨month, slashYear⟩, hmonth, h⟩ := bind_eq_ok.mp h
    obtain ⟨afterMonth, hslash', h⟩ := bind_eq_ok.mp h
    obtain ⟨⟨year, rest⟩, hyear, h⟩ := bind_eq_ok.mp h
    dsimp only at h
    split at h
    · contradiction
    · rename_i hrest
      obtain rfl := not_not.mp hrest
      split at h
      · rename_i date hdate
        obtain rfl := Except.ok.inj h
        obtain ⟨rfl, rfl, rfl⟩ := Date.parts_of_of? hdate
        rw [readSlash_eq_ok_iff.mp hslash] at hday
        rw [readSlash_eq_ok_iff.mp hslash'] at hmonth
        exact ⟨afterDay, afterMonth, hday, hmonth, hyear⟩
      · contradiction
  · rintro ⟨afterDay, afterMonth, hday, hmonth, hyear⟩
    refine bind_eq_ok.mpr ⟨_, hday, bind_eq_ok.mpr ⟨_, readSlash_eq_ok_iff.mpr rfl, ?_⟩⟩
    refine bind_eq_ok.mpr ⟨_, hmonth, bind_eq_ok.mpr ⟨_, readSlash_eq_ok_iff.mpr rfl, ?_⟩⟩
    refine bind_eq_ok.mpr ⟨_, hyear, ?_⟩
    dsimp only
    rw [if_neg (by simp), d.of?_self]

/-- From its first character that is not blank on, what is read as a date spells it. -/
theorem ofChars_eq_ok_iff_spelling {cs : List Char} {d : Date} :
    ofChars cs = .ok d ↔ ∃ s : Spelling, trimFront cs = s.chars ∧ s.date? = some d := by
  rw [ofChars_eq_ok_iff]
  constructor
  · rintro ⟨afterDay, afterMonth, hday, hmonth, hyear⟩
    obtain ⟨blanks, day, hblanks, hdayDigits, hcs, hdayValue, -⟩ :=
      (readPart_numeral_iff (slash_stops _)).mp hday
    obtain ⟨monthBlanks, month, hmonthBlanks, hmonthDigits, hafterDay, hmonthValue, -⟩ :=
      (readPart_numeral_iff (slash_stops _)).mp hmonth
    obtain ⟨yearBlanks, sign, year, hyearBlanks, hyearDigits, hafterMonth, hyearValue, -⟩ :=
      (readYear_numeral_iff (by simp)).mp hyear
    rw [List.append_nil] at hafterMonth
    refine ⟨⟨day, monthBlanks, month, yearBlanks, sign, year, hdayDigits, hmonthDigits,
      hyearDigits, hmonthBlanks, hyearBlanks⟩, ?_, ?_⟩
    · rw [hcs, trimFront_append hblanks (hdayDigits.not_isBlank _), hafterDay, hafterMonth]
      rfl
    · rw [Spelling.date?, Spelling.yearNumber, ← hdayValue, ← hmonthValue, ← hyearValue, d.of?_self]
  · rintro ⟨s, hcs, hdate⟩
    obtain ⟨blanks, hblanks, htrim⟩ := exists_blanks cs
    obtain ⟨hyear, hmonth, hday⟩ := Date.parts_of_of? hdate
    have hchars : cs = blanks ++ s.chars := hcs ▸ htrim
    refine ⟨s.fromMonth, s.fromYear, (readPart_numeral_iff (slash_stops _)).mpr ?_,
      (readPart_numeral_iff (slash_stops _)).mpr ?_, (readYear_numeral_iff (by simp)).mpr ?_⟩
    · exact ⟨blanks, s.day, hblanks, s.isNumeral_day, hchars, hday, d.day_bounds⟩
    · exact ⟨s.monthBlanks, s.month, s.isBlank_month, s.isNumeral_month, rfl, hmonth,
        d.month_bounds⟩
    · exact ⟨s.yearBlanks, s.sign, s.year, s.isBlank_year, s.isNumeral_year,
        by rw [List.append_nil, Spelling.fromYear], hyear, d.year_bounds⟩

theorem Spelling.eq_text_iff {s : Spelling} {t : String} : t = s.text ↔ t.toList = s.chars := by
  rw [← String.toList_inj, text, String.toList_ofList]

/-- A text is read as a date if and only if it spells the date once it is trimmed. -/
theorem ofText_eq_ok_iff {t : String} {d : Date} :
    ofText t = .ok d ↔ ∃ s : Spelling, trim t = s.text ∧ s.date? = some d := by
  simp only [ofText, ofChars_eq_ok_iff_spelling, trimFront_trimChars, Spelling.eq_text_iff,
    toList_trim]

/-! ## The spelling that is written -/

theorem signChars_append_inj {sign sign' : Option Sign} {ds ds' : List Char}
    (hds : ∀ c ∈ ds.head?, c.isDigit) (hds' : ∀ c ∈ ds'.head?, c.isDigit)
    (h : signChars sign ++ ds = signChars sign' ++ ds') : sign = sign' ∧ ds = ds' := by
  have hnot : ∀ sign, ∀ c ∈ signChars sign, !c.isDigit
    | none => by simp [signChars]
    | some .plus => by simp [signChars, Sign.char]
    | some .minus => by simp [signChars, Sign.char]
  have hinj : ∀ sign sign', signChars sign = signChars sign' → sign = sign' := by
    rintro (_ | _ | _) (_ | _ | _) h <;> first | rfl | (exact absurd h (by decide))
  obtain ⟨hsign, hrest⟩ := append_inj_of_stop (hnot sign) (by simpa using hds) (hnot sign')
    (by simpa using hds') h
  exact ⟨hinj _ _ hsign, hrest⟩

namespace Spelling

/-- No two spellings look the same. -/
theorem eq_of_chars_eq {s s' : Spelling} (h : s.chars = s'.chars) : s = s' := by
  obtain ⟨hday, hrest⟩ := append_inj_of_stop s.isNumeral_day.isDigit (slash_stops _)
    s'.isNumeral_day.isDigit (slash_stops _) h
  obtain ⟨hmonthBlanks, hrest⟩ := append_inj_of_stop s.isBlank_month
    (s.isNumeral_month.not_isBlank _) s'.isBlank_month (s'.isNumeral_month.not_isBlank _)
    (List.cons.inj hrest).2
  obtain ⟨hmonth, hrest⟩ := append_inj_of_stop s.isNumeral_month.isDigit (slash_stops _)
    s'.isNumeral_month.isDigit (slash_stops _) hrest
  obtain ⟨hyearBlanks, hrest⟩ := append_inj_of_stop s.isBlank_year
    (not_isBlank_signed s.isNumeral_year.head? _) s'.isBlank_year
    (not_isBlank_signed s'.isNumeral_year.head? _) (List.cons.inj hrest).2
  obtain ⟨hsign, hyear⟩ := signChars_append_inj s.isNumeral_year.head? s'.isNumeral_year.head?
    hrest
  exact Spelling.ext hday hmonthBlanks hmonth hyearBlanks hsign hyear

theorem eq_of_text_eq {s s' : Spelling} (h : s.text = s'.text) : s = s' :=
  eq_of_chars_eq (String.ofList_injective h)

/-- The sign that a year is written with. -/
def printedSign (year : Int) : Option Sign :=
  if 0 ≤ year ∧ year ≤ 9999 then none else if year < 0 then some .minus else some .plus

theorem signedYear_printedSign (year : Int) : signedYear (printedSign year) year.natAbs = year := by
  unfold printedSign
  split
  · rw [signedYear]
    omega
  · split <;> rw [signedYear] <;> omega

theorem isSome_printedSign (year : Int) :
    (printedSign year).isSome ↔ ¬ (0 ≤ year ∧ year ≤ 9999) := by
  unfold printedSign
  split
  · exact iff_of_false (by decide) (not_not.mpr ‹_›)
  · exact iff_of_true (by split <;> rfl) ‹_›

/-- A sign that stands exactly where one is needed is the one that is written. -/
theorem eq_printedSign {sign : Option Sign} {n : Nat}
    (h : sign.isSome ↔ ¬ (0 ≤ signedYear sign n ∧ signedYear sign n ≤ 9999)) :
    sign = printedSign (signedYear sign n) := by
  unfold printedSign
  match sign with
  | none =>
    have hin : 0 ≤ signedYear none n ∧ signedYear none n ≤ 9999 := by simpa using h
    rw [if_pos hin]
  | some .plus =>
    have hnonneg : ¬ signedYear (some .plus) n < 0 := Int.not_lt.mpr (Int.natCast_nonneg n)
    rw [if_neg (h.mp rfl), if_neg hnonneg]
  | some .minus =>
    have hout := h.mp rfl
    have hneg : signedYear (some .minus) n < 0 := by
      rw [signedYear] at hout ⊢
      omega
    rw [if_neg hout, if_pos hneg]

theorem isNumeral_padded {most : Option Nat} {width n : Nat}
    (h : ∀ k ∈ most, (padded width n).length ≤ k) : IsNumeral most (padded width n) where
  isDigit _ := isDigit_of_mem_padded
  ne_nil := List.append_ne_nil_of_right_ne_nil _ (digits_ne_nil n)
  length_le := h

theorem isNumeral_padded_two {n : Nat} (h : n < 100) : IsNumeral (some 2) (padded 2 n) :=
  isNumeral_padded (by simp [length_padded_of_lt (by decide : 0 < 2) h])

theorem isNumeral_padded_four (year : Int) :
    IsNumeral (yearLimit (printedSign year)) (padded 4 year.natAbs) := by
  refine isNumeral_padded fun k hk => ?_
  unfold printedSign at hk
  split at hk
  · have hlt : year.natAbs < 10 ^ 4 := by omega
    obtain rfl := Option.some.inj hk
    exact le_of_eq (length_padded_of_lt (by decide) hlt)
  · split at hk <;> cases hk

/-- The spelling that fills two and four places and has a sign only where it must. -/
def printed (d : Date) : Spelling where
  day := padded 2 d.day
  monthBlanks := []
  month := padded 2 d.month
  yearBlanks := []
  sign := printedSign d.year
  year := padded 4 d.year.natAbs
  isNumeral_day := isNumeral_padded_two d.day_lt
  isNumeral_month := isNumeral_padded_two d.month_lt
  isNumeral_year := isNumeral_padded_four d.year
  isBlank_month := nofun
  isBlank_year := nofun

theorem yearText_eq (year : Int) :
    Date.yearText year = signChars (printedSign year) ++ padded 4 year.natAbs := by
  unfold Date.yearText printedSign
  split
  · have habs : year.toNat = year.natAbs := by omega
    rw [habs]
    rfl
  · split <;> rfl

theorem text_printed (d : Date) : DueDate.text d = (printed d).text := by
  rw [eq_text_iff, DueDate.text, String.toList_ofList, yearText_eq]
  simp [chars, fromMonth, fromYear, printed]

theorem yearNumber_printed (d : Date) : (printed d).yearNumber = d.year := by
  rw [yearNumber, printed, ofDigits_padded, signedYear_printedSign]

theorem date?_printed (d : Date) : (printed d).date? = some d := by
  rw [date?, yearNumber_printed, printed, ofDigits_padded, ofDigits_padded, d.of?_self]

theorem strict_printed (d : Date) : (printed d).Strict where
  day := length_padded_of_lt (by decide) d.day_lt
  month := length_padded_of_lt (by decide) d.month_lt
  blanks := ⟨rfl, rfl⟩
  year := (padded_ofDigits_eq_iff (isNumeral_padded_four d.year).isDigit (by decide)).mp
    (by rw [ofDigits_padded])
  sign := by
    rw [yearNumber_printed]
    exact isSome_printedSign d.year

/-- The written spelling is the one strict spelling of a date. -/
theorem eq_printed_iff {s : Spelling} {d : Date} (h : s.date? = some d) :
    s = printed d ↔ s.Strict := by
  obtain ⟨hyear, hmonth, hday⟩ := Date.parts_of_of? h
  constructor
  · rintro rfl
    exact strict_printed d
  · intro hs
    have hsign : s.sign = printedSign d.year := hyear ▸ eq_printedSign hs.sign
    have hdayDigits : s.day = padded 2 d.day := by
      rw [hday]
      exact s.isNumeral_day.eq_padded_two hs.day
    have hmonthDigits : s.month = padded 2 d.month := by
      rw [hmonth]
      exact s.isNumeral_month.eq_padded_two hs.month
    have hyearDigits : s.year = padded 4 d.year.natAbs := by
      rw [hyear, yearNumber, natAbs_signedYear]
      exact ((padded_ofDigits_eq_iff s.isNumeral_year.isDigit (by decide)).mpr hs.year).symm
    exact Spelling.ext hdayDigits hs.blanks.1 hmonthDigits hs.blanks.2 hsign hyearDigits

end Spelling

/-- **What is read as a due date.** A text is read as a date if and only if it spells the date once
it is trimmed. It comes back as it was, blanks around it aside, exactly if its spelling is strict:
other spellings are read as well, but are written as the strict one. -/
theorem ofText_spellings (t : String) :
    (∀ d, ofText t = .ok d ↔ ∃ s : Spelling, trim t = s.text ∧ s.date? = some d) ∧
    ∀ d, ofText t = .ok d → (text d = trim t ↔ ∃ s : Spelling, trim t = s.text ∧ s.Strict) := by
  refine ⟨fun d => ofText_eq_ok_iff, fun d hread => ?_⟩
  obtain ⟨s, htext, hdate⟩ := ofText_eq_ok_iff.mp hread
  constructor
  · intro h
    rw [← h, Spelling.text_printed]
    exact ⟨_, rfl, Spelling.strict_printed d⟩
  · rintro ⟨s', htext', hstrict⟩
    obtain rfl := Spelling.eq_of_text_eq (htext'.symm.trans htext)
    obtain rfl := (Spelling.eq_printed_iff hdate).mpr hstrict
    rw [htext, Spelling.text_printed]

/-- A day and a month of one digit, and a year of two. -/
def shortSample : Spelling where
  day := ['1']
  monthBlanks := []
  month := ['4']
  yearBlanks := []
  sign := none
  year := ['2', '5']
  isNumeral_day := ⟨by simp, by decide, by decide⟩
  isNumeral_month := ⟨by simp, by decide, by decide⟩
  isNumeral_year := ⟨by simp, by decide, by decide⟩
  isBlank_month := nofun
  isBlank_year := nofun

def shortDate : Date := ⟨25, 4, 1, by decide⟩

theorem ofText_spellings_short :
    ofText "1/4/25" = .ok shortDate ∧ text shortDate ≠ trim "1/4/25" ∧
      ¬ ∃ s : Spelling, trim "1/4/25" = s.text ∧ s.Strict := by
  obtain ⟨hreads, hkeeps⟩ := ofText_spellings "1/4/25"
  have hread := (hreads shortDate).mpr ⟨shortSample, by decide, by decide⟩
  have hother : text shortDate ≠ trim "1/4/25" := by decide
  exact ⟨hread, hother, fun h => hother ((hkeeps shortDate hread).mpr h)⟩

/-- A short date is read, and written back it is another text. -/
theorem short_date_not_written_back :
    ¬ ∀ (t : String) (d : Date), ofText t = .ok d → text d = trim t := by
  intro h
  have hread : ofText "1/4/25" = .ok shortDate :=
    ofText_eq_ok_iff.mpr ⟨shortSample, by decide, by decide⟩
  exact absurd (h _ _ hread) (by decide)

end RentBilling.DueDate
