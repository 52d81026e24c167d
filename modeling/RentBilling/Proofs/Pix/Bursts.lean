import RentBilling.Proofs.Pix.Payload
import RentBilling.Proofs.Pix.Remainder
import RentBilling.Proofs.Text.Slices

/-!
Changes that the checksum notices.

A change that stays within sixteen bits in a row is a polynomial of less than sixteen powers, moved
up. The generator has sixteen powers and nothing in common with the moving up, so it divides the
change only if there is none (`eq_zero_of_generator_dvd`), and the checksum is another one
(`ofBytes_ne_of_differWithin`).

In a payload the digits of the checksum may be changed as well. They stand behind the header of the
checksum field, which every payload that verifies has, so a change of two characters in a row
cannot reach both the text before the header and the digits (`not_verify_of_differWithin`).
-/

namespace RentBilling.Pix

open Text

/-! ## Differences close together -/

/-- The runs differ at no more than `width` places in a row. -/
def DifferWithin {α : Type} (width : ℕ) (as bs : List α) : Prop :=
  ∃ first, ∀ i, as[i]? ≠ bs[i]? → first ≤ i ∧ i < first + width

section

variable {α β : Type} {width : ℕ} {as bs cs ds : List α}

theorem exists_getElem?_ne (hne : as ≠ bs) : ∃ i : ℕ, as[i]? ≠ bs[i]? := by
  by_contra hall
  exact hne (List.ext_getElem? fun i => not_not.mp fun hi => hall ⟨i, hi⟩)

theorem lt_length_of_getElem?_ne (hl : as.length = bs.length) {i : ℕ} (hi : as[i]? ≠ bs[i]?) :
    i < as.length := by
  by_contra hge
  exact hi (by rw [List.getElem?_eq_none (by omega), List.getElem?_eq_none (by omega)])

theorem DifferWithin.of_append (hl : as.length = bs.length)
    (h : DifferWithin width (as ++ cs) (bs ++ ds)) : DifferWithin width as bs := by
  obtain ⟨first, hfirst⟩ := h
  refine ⟨first, fun i hi => hfirst i ?_⟩
  have hlt := lt_length_of_getElem?_ne hl hi
  rwa [List.getElem?_append_left hlt, List.getElem?_append_left (hl ▸ hlt)]

theorem differWithin_zero_iff : DifferWithin 0 as bs ↔ as = bs := by
  constructor
  · rintro ⟨first, hfirst⟩
    by_contra hne
    obtain ⟨i, hi⟩ := exists_getElem?_ne hne
    have hin := hfirst i hi
    omega
  · rintro rfl
    exact ⟨0, fun i hi => absurd rfl hi⟩

/-- If there is a difference in front of a common part as long as the others can spread, there is
none behind it. -/
theorem DifferWithin.eq_of_append {mid : List α} (hl : as.length = bs.length) (hne : as ≠ bs)
    (hmid : width ≤ mid.length + 1) (h : DifferWithin width (as ++ mid ++ cs) (bs ++ mid ++ ds)) :
    cs = ds := by
  obtain ⟨first, hfirst⟩ := h
  obtain ⟨i, hi⟩ := exists_getElem?_ne hne
  have hlt := lt_length_of_getElem?_ne hl hi
  have hfront := hfirst i (by
    rwa [List.append_assoc, List.append_assoc, List.getElem?_append_left hlt,
      List.getElem?_append_left (hl ▸ hlt)])
  apply List.ext_getElem?
  intro j
  by_contra hj
  have hback := hfirst ((as ++ mid).length + j) (by
    have hlm : (as ++ mid).length = (bs ++ mid).length := by simp [hl]
    rw [List.getElem?_append_right (Nat.le_add_right ..), hlm,
      List.getElem?_append_right (Nat.le_add_right ..), Nat.add_sub_cancel_left]
    exact hj)
  rw [List.length_append] at hback
  omega

/-- Exchanging a few elements in the middle. -/
theorem differWithin_middle {front back : List α} (hl : as.length = bs.length)
    (hw : as.length ≤ width) :
    DifferWithin width (front ++ as ++ back) (front ++ bs ++ back) := by
  refine ⟨front.length, fun i hi => ?_⟩
  by_contra hout
  apply hi
  by_cases hfront : i < front.length
  · rw [List.append_assoc, List.append_assoc, List.getElem?_append_left hfront,
      List.getElem?_append_left hfront]
  · have hlong : (front ++ as).length = (front ++ bs).length := by simp [hl]
    have hback : (front ++ as).length ≤ i := by rw [List.length_append]; omega
    rw [List.getElem?_append_right hback, List.getElem?_append_right (hlong ▸ hback), hlong]

/-- Rewriting the elements one by one, without making two of them equal. -/
theorem differWithin_map_iff {f : α → β} (hf : ∀ a ∈ as, ∀ b ∈ bs, f a = f b → a = b) :
    DifferWithin width (as.map f) (bs.map f) ↔ DifferWithin width as bs := by
  have hiff : ∀ i : ℕ, (as.map f)[i]? ≠ (bs.map f)[i]? ↔ as[i]? ≠ bs[i]? := by
    intro i
    rw [List.getElem?_map, List.getElem?_map, not_iff_not]
    cases ha : as[i]? with
    | none => cases bs[i]? <;> simp
    | some a =>
      cases hb : bs[i]? with
      | none => simp
      | some b =>
        have hab := hf a (List.mem_of_getElem? ha) b (List.mem_of_getElem? hb)
        simpa using ⟨hab, congrArg f⟩
  exact exists_congr fun first => forall_congr' fun i => by rw [hiff i]

end

/-! ## Bytes and their bits -/

namespace Checksum

open Polynomial

theorem getElem?_bits (bytes : List UInt8) (i : ℕ) :
    (bits bytes)[i]? = bytes[i / 8]?.map fun byte => byte.toBitVec.getMsbD (i % 8) := by
  induction bytes generalizing i with
  | nil => rfl
  | cons byte bytes ih =>
    rw [bits, List.flatMap_cons, ← bits, List.getElem?_append, length_wordBits]
    split
    · rename_i h
      rw [wordBits, List.getElem?_map, List.getElem?_range h, Nat.div_eq_of_lt h,
        Nat.mod_eq_of_lt h]
      rfl
    · rename_i h
      have hdiv : i / 8 = (i - 8) / 8 + 1 := by omega
      have hmod : i % 8 = (i - 8) % 8 := by omega
      rw [ih, hdiv, hmod, List.getElem?_cons_succ]

theorem bits_injective {as bs : List UInt8} (hl : as.length = bs.length)
    (h : bits as = bits bs) : as = bs := by
  apply List.ext_getElem hl
  intro i hi hi'
  apply UInt8.toBitVec_inj.mp
  apply BitVec.eq_of_getMsbD_eq
  intro j hj
  have hbit := congrArg (·[8 * i + j]?) h
  have hdiv : (8 * i + j) / 8 = i := by omega
  have hmod : (8 * i + j) % 8 = j := by omega
  simp only [getElem?_bits, hdiv, hmod, List.getElem?_eq_getElem hi,
    List.getElem?_eq_getElem hi', Option.map_some] at hbit
  exact Option.some.inj hbit

theorem differWithin_bits {width : ℕ} {as bs : List UInt8} (h : DifferWithin width as bs) :
    DifferWithin (8 * width) (bits as) (bits bs) := by
  obtain ⟨first, hfirst⟩ := h
  refine ⟨8 * first, fun i hi => ?_⟩
  have hbyte := hfirst (i / 8) fun he => hi (by rw [getElem?_bits, getElem?_bits, he])
  omega

/-! ## Short differences of messages -/

theorem polynomialOf_injective {as bs : List Bool} (hl : as.length = bs.length)
    (h : polynomialOf as = polynomialOf bs) : as = bs := by
  apply List.reverse_injective
  have hrev : as.reverse.length = bs.reverse.length := by simp [hl]
  apply List.ext_getElem hrev
  intro i hi hi'
  have hcoeff := congrArg (coeff · i) h
  simp only [coeff_polynomialOf, List.getElem?_eq_getElem hi, List.getElem?_eq_getElem hi',
    Option.getD_some] at hcoeff
  exact coefficient_injective hcoeff

/-- The coefficients of a difference are zero outside of sixteen in a row. -/
theorem coeff_sub_eq_zero {as bs : List Bool} (hl : as.length = bs.length) {first : ℕ}
    (hfirst : ∀ i, as[i]? ≠ bs[i]? → first ≤ i ∧ i < first + 16) {i : ℕ}
    (hi : i < as.length - (first + 16) ∨ as.length - (first + 16) + 16 ≤ i) :
    (polynomialOf as - polynomialOf bs).coeff i = 0 := by
  rw [coeff_sub, coeff_polynomialOf, coeff_polynomialOf, sub_eq_zero]
  congr 2
  by_cases hlt : i < as.length
  · rw [List.getElem?_reverse hlt, List.getElem?_reverse (hl ▸ hlt), ← hl]
    by_contra hne
    have hin := hfirst _ hne
    omega
  · rw [List.getElem?_eq_none (by rw [List.length_reverse]; omega),
      List.getElem?_eq_none (by rw [List.length_reverse]; omega)]

/-- The generator divides nothing but zero among the polynomials of sixteen powers in a row. -/
theorem eq_zero_of_generator_dvd {d : (ZMod 2)[X]} (hd : generator ∣ d) {low : ℕ}
    (hlow : ∀ i, i < low ∨ low + 16 ≤ i → d.coeff i = 0) : d = 0 := by
  obtain ⟨e, rfl⟩ := X_pow_dvd_iff.mpr fun i hi => hlow i (.inl hi)
  have he : generator ∣ e := (isCoprime_generator_X_pow low).dvd_of_dvd_mul_left hd
  have hdegree : e.degree < generator.degree := by
    rw [degree_generator]
    refine (degree_lt_iff_coeff_zero e 16).mpr fun i hi => ?_
    rw [← coeff_X_pow_mul e low i]
    exact hlow (i + low) (.inr (by omega))
  rw [eq_zero_of_dvd_of_degree_lt he hdegree, mul_zero]

theorem ofBytes_ne_of_differWithin {as bs : List UInt8} (hl : as.length = bs.length)
    (hne : as ≠ bs) (h : DifferWithin 16 (bits as) (bits bs)) : ofBytes as ≠ ofBytes bs := by
  intro heq
  have hbits : (bits as).length = (bits bs).length := by rw [length_bits, length_bits, hl]
  obtain ⟨first, hfirst⟩ := h
  have hzero := eq_zero_of_generator_dvd ((ofBytes_eq_iff hl).mp heq)
    fun i hi => coeff_sub_eq_zero hbits hfirst hi
  exact hne (bits_injective hl (polynomialOf_injective hbits (sub_eq_zero.mp hzero)))

theorem text_injective {crc crc' : BitVec 16} (h : text crc = text crc') : crc = crc' := by
  have hvalue := (isUpperHex_text crc).value
  rw [h, (isUpperHex_text crc').value] at hvalue
  exact BitVec.eq_of_toNat_eq (Option.some.inj hvalue).symm

end Checksum

/-! ## Changed payloads -/

theorem eq_of_toUInt8_eq {c d : Char} (hc : isAsciiChar c) (hd : isAsciiChar d)
    (h : c.val.toUInt8 = d.val.toUInt8) : c = d := by
  have hn := congrArg UInt8.toNat h
  rw [toNat_toUInt8 hc, toNat_toUInt8 hd] at hn
  exact Char.toNat_inj.mp hn

/-- In ASCII texts, bytes differ where characters do. -/
theorem differWithin_utf8Bytes_iff {width : ℕ} {as bs : List Char} (ha : as.all isAsciiChar)
    (hb : bs.all isAsciiChar) :
    DifferWithin width (utf8Bytes as) (utf8Bytes bs) ↔ DifferWithin width as bs := by
  rw [utf8Bytes_eq_map ha, utf8Bytes_eq_map hb]
  exact differWithin_map_iff fun a hma b hmb =>
    eq_of_toUInt8_eq (List.all_eq_true.mp ha a hma) (List.all_eq_true.mp hb b hmb)

theorem ofChars_ne_of_differWithin {as bs : List Char} (ha : as.all isAsciiChar)
    (hb : bs.all isAsciiChar) (hl : as.length = bs.length) (hne : as ≠ bs)
    (h : DifferWithin 2 as bs) : Checksum.ofChars as ≠ Checksum.ofChars bs := by
  intro heq
  have hbytes : (utf8Bytes as).length = (utf8Bytes bs).length := by
    rw [length_utf8Bytes ha, length_utf8Bytes hb, hl]
  have hdiffer := (differWithin_utf8Bytes_iff ha hb).mpr h
  refine Checksum.ofBytes_ne_of_differWithin hbytes (fun hsame => hne ?_)
    (Checksum.differWithin_bits hdiffer) (Checksum.text_injective heq)
  rw [← differWithin_zero_iff, differWithin_utf8Bytes_iff ha hb] at hsame
  exact differWithin_zero_iff.mp hsame

/-- A payload in which a few characters in a row are exchanged does not verify. -/
theorem not_verify_of_differWithin {p q : String} (hp : verify p) (hne : q ≠ p)
    (hl : q.toList.length = p.toList.length) (h : DifferWithin 2 p.toList q.toList) :
    ¬ verify q := by
  intro hq
  obtain ⟨body, ha, hbody⟩ := Request.eq_close_of_verify hp
  obtain ⟨body', ha', hbody'⟩ := Request.eq_close_of_verify hq
  have hheader : checksumHeader.all isAsciiChar := by decide
  have hbodies : body ≠ body' := by
    rintro rfl
    exact hne (String.toList_inj.mp (hbody'.trans hbody.symm))
  have hlength : body.length = body'.length := by
    rw [hbody, hbody', Request.length_close, Request.length_close, List.length_append,
      List.length_append] at hl
    omega
  rw [hbody, hbody', Request.close, Request.close] at h
  -- The header keeps the digits out of reach, so they are the same; but what they sum is not.
  have hdigits := h.eq_of_append hlength hbodies (by decide)
  refine ofChars_ne_of_differWithin ?_ ?_ ?_ ?_ (h.of_append ?_) hdigits
  · rw [List.all_append, ha, hheader]; rfl
  · rw [List.all_append, ha', hheader]; rfl
  · rw [List.length_append, List.length_append, hlength]
  · exact fun hsame => hbodies (List.append_cancel_right hsame)
  · rw [List.length_append, List.length_append, hlength]

theorem isAscii_of_verify {p : String} (h : verify p) : isAscii p := by
  simp only [verify, Bool.and_eq_true] at h
  exact h.1.1.1

/-- **Short bursts are noticed.** Messages of one length that differ within sixteen bits in a row
have different checksums. A payload that verifies stops verifying when it is changed within two
bytes in a row and keeps its number of bytes; in particular when one character is exchanged for
another, or two neighbours change places. -/
theorem notices_bursts :
    (∀ as bs : List UInt8, as.length = bs.length → as ≠ bs →
      DifferWithin 16 (Checksum.bits as) (Checksum.bits bs) →
        Checksum.ofBytes as ≠ Checksum.ofBytes bs) ∧
    (∀ p q : String, verify p → q ≠ p →
      (utf8Bytes q.toList).length = (utf8Bytes p.toList).length →
      DifferWithin 2 (utf8Bytes p.toList) (utf8Bytes q.toList) → ¬ verify q) ∧
    (∀ front back : List Char, ∀ c d : Char, c ≠ d →
      verify (.ofList (front ++ [c] ++ back)) → ¬ verify (.ofList (front ++ [d] ++ back))) ∧
    (∀ front back : List Char, ∀ c d : Char, c ≠ d →
      verify (.ofList (front ++ [c, d] ++ back)) →
        ¬ verify (.ofList (front ++ [d, c] ++ back))) := by
  refine ⟨fun as bs hl hne h => Checksum.ofBytes_ne_of_differWithin hl hne h, ?_, ?_, ?_⟩
  · intro p q hp hne hl h hq
    have hpa : p.toList.all isAsciiChar := isAscii_of_verify hp
    have hqa : q.toList.all isAsciiChar := isAscii_of_verify hq
    rw [length_utf8Bytes hpa, length_utf8Bytes hqa] at hl
    exact not_verify_of_differWithin hp hne hl ((differWithin_utf8Bytes_iff hpa hqa).mp h) hq
  · intro front back c d hne hp
    refine not_verify_of_differWithin hp (by simp [Ne.symm hne]) (by simp) ?_
    rw [String.toList_ofList, String.toList_ofList]
    exact differWithin_middle rfl (by simp)
  · intro front back c d hne hp
    refine not_verify_of_differWithin hp (by simp [Ne.symm hne]) (by simp) ?_
    rw [String.toList_ofList, String.toList_ofList]
    exact differWithin_middle rfl (by simp)

/-- A short payload, and the same with a letter of its name exchanged. -/
theorem notices_bursts_renamed :
    Checksum.ofBytes (utf8Bytes "Name".toList) ≠ Checksum.ofBytes (utf8Bytes "Nome".toList) ∧
      verify "5904Name63043FF3" ∧ ¬ verify "5904Nome63043FF3" := by
  have hname : DifferWithin 2 ("N".toList ++ ['a'] ++ "me".toList)
      ("N".toList ++ ['o'] ++ "me".toList) := differWithin_middle rfl (by decide)
  have hpayload : DifferWithin 2 ("5904N".toList ++ ['a'] ++ "me63043FF3".toList)
      ("5904N".toList ++ ['o'] ++ "me63043FF3".toList) := differWithin_middle rfl (by decide)
  have hnameBytes : DifferWithin 2 (utf8Bytes "Name".toList) (utf8Bytes "Nome".toList) :=
    (differWithin_utf8Bytes_iff (by decide) (by decide)).mpr hname
  have hverify : verify "5904Name63043FF3" := by decide +kernel
  exact ⟨notices_bursts.1 _ _ (by decide) (by decide) (Checksum.differWithin_bits hnameBytes),
    hverify, notices_bursts.2.1 _ _ hverify (by decide) (by decide)
      ((differWithin_utf8Bytes_iff (by decide) (by decide)).mpr hpayload)⟩

end RentBilling.Pix
