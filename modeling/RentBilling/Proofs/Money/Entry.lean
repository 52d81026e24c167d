import Mathlib.Tactic.Positivity
import RentBilling.Money.Entry
import RentBilling.Proofs.Money.PlainText
import RentBilling.Proofs.Money.Sum
import RentBilling.Proofs.Numeral.Rounding

/-!
What typed amounts are read as.

A text writes a number down if it is digits with at most one point, or digits with one comma as the
decimal mark and points anywhere (`PlainDecimal`). Reading it takes the exact number to
`ofReais?`, whichever way it was written (`ofEntry?_of_plainDecimal`); only the three roundings
stand between the number and the amount. Up to `greatestExact` centavos they cancel: each of them
is off by too little to reach the next integer, and above `2 ^ 45` reais, where the doubles get
coarser, five amounts still come out right and the sixth does not (`ofEntry?_exact`).
-/

namespace RentBilling

open Numeral Text

namespace DecimalNumeral

/-! ## Numerals without sign and power -/

theorem readSign_of_unsigned {cs : List Char} (h : ∀ c ∈ cs, c.isDigit ∨ c = '.') :
    readSign cs = (false, cs) := by
  unfold readSign
  split
  · rename_i rest
    simpa using h '-' (.head rest)
  · rename_i rest
    simpa using h '+' (.head rest)
  · rfl

theorem readUnsigned_digits {whole : List Char} (hw : ∀ c ∈ whole, c.isDigit) (hne : whole ≠ [])
    (negative : Bool) : readUnsigned negative whole = some ⟨negative, whole, [], 0⟩ := by
  have ht : whole.takeWhile Char.isDigit = whole := List.takeWhile_eq_self_iff.mpr hw
  have hd : whole.dropWhile Char.isDigit = [] := List.dropWhile_eq_nil_iff.mpr hw
  simp [readUnsigned, ht, hd, hne, readPower]

theorem readUnsigned_point {whole fraction : List Char} (hw : ∀ c ∈ whole, c.isDigit)
    (hf : ∀ c ∈ fraction, c.isDigit) (hne : whole ++ fraction ≠ []) (negative : Bool) :
    readUnsigned negative (whole ++ '.' :: fraction) = some ⟨negative, whole, fraction, 0⟩ := by
  have ht : fraction.takeWhile Char.isDigit = fraction := List.takeWhile_eq_self_iff.mpr hf
  have hd : fraction.dropWhile Char.isDigit = [] := List.dropWhile_eq_nil_iff.mpr hf
  have hpoint : ∀ c ∈ ('.' :: fraction).head?, c.isDigit = false := by simp
  have hsome : ¬ (whole = [] ∧ fraction = []) := by simpa using hne
  simp [readUnsigned, takeWhile_append_of_stop hw hpoint, dropWhile_append_of_stop hw hpoint, ht,
    hd, hsome, readPower]

/-- Without a power, the scale is the number of places, far from where it is cut off. -/
theorem magnitude_of_power_zero (negative : Bool) (whole fraction : List Char) :
    magnitude ⟨negative, whole, fraction, 0⟩ =
      (ofDigits (whole ++ fraction) : Rat) / 10 ^ fraction.length := by
  have hscale : scale ⟨negative, whole, fraction, 0⟩ = -(fraction.length : Int) := by
    unfold scale
    dsimp only
    omega
  rw [magnitude, hscale, zpow_neg, zpow_natCast, ← div_eq_mul_inv]

theorem ofChars?_of_decimalValue? {cs : List Char} {x : Rat} (h : decimalValue? cs = some x) :
    ∃ d, ofChars? cs = some d ∧ d.negative = false ∧ d.magnitude = x := by
  obtain ⟨whole, fraction, hdigits, hne, rfl, hcs⟩ := decimalValue?_cases h
  obtain ⟨hw, hf⟩ := List.forall_mem_append.mp hdigits
  refine ⟨⟨false, whole, fraction, 0⟩, ?_, rfl, magnitude_of_power_zero _ _ _⟩
  rcases hcs with ⟨rfl, rfl⟩ | rfl
  · rw [ofChars?, readSign_of_unsigned fun c hc => .inl (hw c hc)]
    exact readUnsigned_digits hw (by simpa using hne) false
  · have hsign : ∀ c ∈ whole ++ '.' :: fraction, c.isDigit ∨ c = '.' := by
      simp only [List.mem_append, List.mem_cons]
      rintro c (hc | rfl | hc)
      · exact .inl (hw c hc)
      · exact .inr rfl
      · exact .inl (hf c hc)
    rw [ofChars?, readSign_of_unsigned hsign]
    exact readUnsigned_point hw hf hne false

end DecimalNumeral

namespace Centavos

/-! ## Texts that write a number down -/

/-- The text says `x`, between blanks: in digits with at most one point, or in digits with one comma
where the places begin, and with points anywhere. -/
inductive PlainDecimal (text : String) (x : Rat) : Prop
  | point (h : decimalValue? (Text.trimChars text.toList) = some x)
  | comma {whole fraction : List Char}
      (htext : (Text.trimChars text.toList).filter (· ≠ '.') = whole ++ ',' :: fraction)
      (hdigits : ∀ c ∈ whole ++ fraction, c.isDigit) (hne : whole ++ fraction ≠ [])
      (hx : x = (ofDigits (whole ++ fraction) : Rat) / 10 ^ fraction.length)

theorem withDecimalPoint_of_not_mem {cs : List Char} (h : ',' ∉ cs) : withDecimalPoint cs = cs :=
  if_neg h

theorem withDecimalPoint_of_filter {cs whole fraction : List Char}
    (h : cs.filter (· ≠ '.') = whole ++ ',' :: fraction)
    (hdigits : ∀ c ∈ whole ++ fraction, c.isDigit) :
    withDecimalPoint cs = whole ++ '.' :: fraction := by
  have hmem : ',' ∈ cs.filter (· ≠ '.') := by
    rw [h]
    simp
  obtain ⟨hw, hf⟩ := List.forall_mem_append.mp hdigits
  have hkeep : ∀ l : List Char, (∀ c ∈ l, c.isDigit) →
      l.map (fun c => if c = ',' then '.' else c) = l := by
    intro l hl
    refine (List.map_congr_left fun c hc => ?_).trans (List.map_id l)
    exact if_neg (ne_of_isDigit (hl c hc) (by decide))
  rw [withDecimalPoint, if_pos (List.mem_filter.mp hmem).1, h, List.map_append, List.map_cons,
    hkeep whole hw, hkeep fraction hf, if_pos rfl]

theorem not_mem_comma_of_decimalValue? {cs : List Char} {x : Rat}
    (h : decimalValue? cs = some x) : ',' ∉ cs := by
  obtain ⟨whole, fraction, hdigits, -, -, hcs⟩ := decimalValue?_cases h
  intro hmem
  have hdigit : ',' ∈ whole ++ fraction := by
    rcases hcs with ⟨rfl, rfl⟩ | rfl
    · simpa using hmem
    · simpa using hmem
  exact ne_of_isDigit (hdigits ',' hdigit) (by decide) rfl

theorem PlainDecimal.value {text : String} {x : Rat} (h : PlainDecimal text x) :
    decimalValue? (withDecimalPoint (Text.trimChars text.toList)) = some x := by
  cases h with
  | point h => rwa [withDecimalPoint_of_not_mem (not_mem_comma_of_decimalValue? h)]
  | comma htext hdigits hne hx =>
    obtain ⟨hw, hf⟩ := List.forall_mem_append.mp hdigits
    rw [withDecimalPoint_of_filter htext hdigits, decimalValue?_point hw hf hne, hx]

/-- What the text says goes to the roundings as it is, however it was written. -/
theorem ofEntry?_of_plainDecimal {text : String} {x : Rat} (h : PlainDecimal text x) :
    ofEntry? text = ofReais? x := by
  obtain ⟨d, hd, hsign, rfl⟩ := DecimalNumeral.ofChars?_of_decimalValue? h.value
  unfold ofEntry?
  simp [hd, hsign]

/-! ## Where the roundings cancel -/

/-- The centavos that `x` reais come to by way of doubles. -/
def nearestCentavos (x : Rat) : Int := roundHalfEven (nearestDouble (nearestDouble x * 100))

theorem ofReais?_eq (x : Rat) : ofReais? x = ofNat? (nearestCentavos x).toNat := rfl

/-- The amount up to which any text that says an amount is read as that amount. -/
def greatestExact : Nat := 3518437208883204

/-- Below `2 ^ 45` reais, both roundings to doubles together stay less than half a centavo off. -/
theorem nearestCentavos_of_lt {c : Nat} (h : c < 2 ^ 45 * 100) :
    nearestCentavos ((c : Rat) / 100) = c := by
  have hc : (c : ℚ) < 2 ^ 45 * 100 := by exact_mod_cast h
  have hreais : (c : ℚ) / 100 < 2 ^ (45 : ℤ) := by
    rw [div_lt_iff₀ (by norm_num)]
    exact_mod_cast h
  unfold nearestCentavos
  generalize hd : nearestDouble ((c : ℚ) / 100) = d
  have hparse : |d - (c : ℚ) / 100| ≤ 2 ^ (45 - 54 : ℤ) := by
    rw [← hd]
    exact abs_nearestDouble_sub_le_of_lt (by positivity) (by norm_num) hreais
  have hnear : |d * 100 - c| ≤ 100 / 512 := by
    norm_num [abs_le] at hparse ⊢
    constructor <;> linarith
  have hd0 : 0 ≤ d * 100 := by
    rw [← hd]
    exact mul_nonneg (nearestDouble_nonneg _) (by norm_num)
  have hcentavos : d * 100 < 2 ^ (52 : ℤ) := by
    have hupper := (abs_le.mp hnear).2
    norm_num at hc ⊢
    linarith
  have hproduct : |nearestDouble (d * 100) - d * 100| ≤ 2 ^ (52 - 54 : ℤ) :=
    abs_nearestDouble_sub_le_of_lt hd0 (by norm_num) hcentavos
  apply roundHalfEven_eq_of_near
  calc |nearestDouble (d * 100) - (c : ℤ)|
      ≤ |nearestDouble (d * 100) - d * 100| + |d * 100 - c| := by
        simpa using abs_sub_le (nearestDouble (d * 100)) (d * 100) c
    _ ≤ 2 ^ (52 - 54 : ℤ) + 100 / 512 := add_le_add hproduct hnear
    _ < 1 / 2 := by norm_num

/-- The five amounts from `2 ^ 45` reais on, where a double is off by up to `2 ^ -8` reais. -/
theorem nearestCentavos_above : ∀ k < 5,
    nearestCentavos (((2 ^ 45 * 100 + k : Nat) : Rat) / 100) = (2 ^ 45 * 100 + k : Nat) := by
  decide +kernel

/-- The next amount after them comes out as one less. -/
theorem nearestCentavos_next :
    nearestCentavos (((greatestExact + 1 : Nat) : Rat) / 100) = (greatestExact : Nat) := by
  decide +kernel

theorem ofReais?_hundredths {a : Centavos} (h : a.toNat ≤ greatestExact) :
    ofReais? ((a.toNat : Rat) / 100) = some a := by
  have hround : nearestCentavos ((a.toNat : Rat) / 100) = a.toNat := by
    by_cases hbelow : a.toNat < 2 ^ 45 * 100
    · exact nearestCentavos_of_lt hbelow
    · obtain ⟨k, hk⟩ := Nat.exists_eq_add_of_le (not_lt.mp hbelow)
      rw [hk]
      exact nearestCentavos_above k (by unfold greatestExact at h; omega)
  rw [ofReais?_eq, hround, Int.toNat_natCast, ofNat?_toNat]

theorem ofEntry?_hundredths {text : String} {a : Centavos}
    (ht : PlainDecimal text ((a.toNat : Rat) / 100)) (h : a.toNat ≤ greatestExact) :
    ofEntry? text = some a :=
  (ofEntry?_of_plainDecimal ht).trans (ofReais?_hundredths h)

/-! ## Texts of amounts -/

theorem isBlank_of_isDigit {c : Char} (h : c.isDigit) : Text.isBlank c = false := by
  have hc := toNat_of_isDigit h
  unfold Text.isBlank
  simp only [Bool.or_eq_false_iff, Bool.and_eq_false_iff, decide_eq_false_iff_not,
    beq_eq_false_iff_ne]
  omega

theorem plainDecimal_plainText (a : Centavos) :
    PlainDecimal a.plainText ((a.toNat : Rat) / 100) := by
  have htrim : Text.trimChars a.plainText.toList = a.plainText.toList := by
    apply Text.trimChars_of_not_isBlank
    simp only [plainText, String.toList_ofList, List.mem_append, List.mem_cons]
    rintro c (hc | rfl | hc)
    · exact isBlank_of_isDigit (isDigit_of_mem_digits hc)
    · decide
    · exact isBlank_of_isDigit (isDigit_of_mem_padded hc)
  exact .point (by rw [htrim, decimalValue?_plainText])

theorem isDigit_of_mem_reais_cents (a : Centavos) :
    ∀ c ∈ digits a.reais ++ padded 2 a.cents, c.isDigit :=
  List.forall_mem_append.mpr
    ⟨fun _ hc => isDigit_of_mem_digits hc, fun _ hc => isDigit_of_mem_padded hc⟩

theorem filter_fieldText (a : Centavos) : a.fieldText.toList.filter (· ≠ '.') =
    digits a.reais ++ ',' :: padded 2 a.cents := by
  have hcents : (padded 2 a.cents).filter (· ≠ '.') = padded 2 a.cents :=
    List.filter_eq_self.mpr fun c hc => by
      simpa using ne_of_isDigit (isDigit_of_mem_padded hc) (by decide)
  rw [fieldText, String.toList_ofList, List.filter_append, filter_grouped,
    List.filter_cons_of_pos (by decide), hcents]

theorem plainDecimal_fieldText (a : Centavos) :
    PlainDecimal a.fieldText ((a.toNat : Rat) / 100) := by
  have htrim : Text.trimChars a.fieldText.toList = a.fieldText.toList := by
    apply Text.trimChars_of_not_isBlank
    simp only [fieldText, String.toList_ofList, List.mem_append, List.mem_cons]
    rintro c (hc | rfl | hc)
    · rcases isDigit_or_point_of_mem_grouped hc with hc | rfl
      · exact isBlank_of_isDigit hc
      · decide
    · decide
    · exact isBlank_of_isDigit (isDigit_of_mem_padded hc)
  have htext : (Text.trimChars a.fieldText.toList).filter (· ≠ '.') =
      digits a.reais ++ ',' :: padded 2 a.cents := by
    rw [htrim, filter_fieldText]
  refine .comma htext (isDigit_of_mem_reais_cents a) (by simp [digits_ne_nil]) ?_
  rw [ofDigits_reais_cents, length_padded_cents]
  norm_num

theorem PlainDecimal.nonneg {text : String} {x : Rat} (h : PlainDecimal text x) : 0 ≤ x := by
  obtain ⟨whole, fraction, -, -, rfl, -⟩ := decimalValue?_cases h.value
  positivity

/-- **What is typed is what is billed.** Any text that says a whole number of centavos, up to
`greatestExact`, is read as that amount, and so are both ways in which amounts are written. The
bound is sharp: the amount after it is misread from its own text. -/
theorem ofEntry?_exact :
    (∀ (text : String) (c : Int), PlainDecimal text ((c : Rat) / 100) → c ≤ greatestExact →
      ∃ a : Centavos, ofEntry? text = some a ∧ (a.toNat : Int) = c) ∧
    (∀ a : Centavos, a.toNat ≤ greatestExact →
      ofEntry? a.fieldText = some a ∧ ofEntry? a.plainText = some a) ∧
    (∀ a : Centavos, a.toNat = greatestExact + 1 → ofEntry? a.fieldText ≠ some a) := by
  refine ⟨fun text c ht hc => ?_, fun a ha => ?_, fun a ha => ?_⟩
  · have hnonneg : 0 ≤ c := by
      have hx : 0 ≤ (c : Rat) / 100 := ht.nonneg
      have hcast : (0 : Rat) ≤ c := by linarith
      exact_mod_cast hcast
    obtain ⟨n, rfl⟩ := Int.eq_ofNat_of_zero_le hnonneg
    have hn : n ≤ greatestExact := by exact_mod_cast hc
    obtain ⟨a, rfl⟩ : ∃ a : Centavos, a.toNat = n :=
      ⟨⟨.ofNat n⟩, toNat_of_lt (hn.trans_lt (by decide))⟩
    exact ⟨a, ofEntry?_hundredths ht hn, rfl⟩
  · exact ⟨ofEntry?_hundredths (plainDecimal_fieldText a) ha,
      ofEntry?_hundredths (plainDecimal_plainText a) ha⟩
  · rw [ofEntry?_of_plainDecimal (plainDecimal_fieldText a), ofReais?_eq, ha,
      nearestCentavos_next, Int.toNat_natCast]
    intro hsame
    have htoNat := ofNat?_eq_some_iff.mp hsame
    omega

/-- A typed amount between blanks, with its thousands marked and one place only. -/
theorem ofEntry?_exact_typed :
    PlainDecimal " 2.850,5 " ((285050 : Int) / 100 : Rat) ∧
      ofEntry? " 2.850,5 " = some ⟨285050⟩ ∧
      ofEntry? (fieldText ⟨285050⟩) = some ⟨285050⟩ ∧
      ofEntry? (fieldText ⟨3518437208883205⟩) ≠ some ⟨3518437208883205⟩ := by
  have htyped : PlainDecimal " 2.850,5 " ((285050 : Int) / 100 : Rat) :=
    .comma (show _ = "2850".toList ++ ',' :: "5".toList by decide +kernel)
      (List.all_eq_true.mp (by decide)) (by decide) (by decide +kernel)
  obtain ⟨a, ha, hc⟩ := ofEntry?_exact.1 _ _ htyped (by decide)
  obtain rfl : a = ⟨285050⟩ := toNat_injective (by exact_mod_cast hc)
  exact ⟨htyped, ha, (ofEntry?_exact.2.1 _ (by decide)).1, ofEntry?_exact.2.2 _ (by decide)⟩

end Centavos

end RentBilling
