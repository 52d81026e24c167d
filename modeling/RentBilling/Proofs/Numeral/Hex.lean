import Mathlib.Data.List.Induction
import RentBilling.Numeral.HexLemmas
import RentBilling.Proofs.Numeral.Order

/-!
Hexadecimal digits of a fixed width, read and compared.

Digits that are read as a number are the digits of that number, letter case apart
(`fixedHex_of_ofHex?`). Of two numbers written with the same width the smaller one comes first in
the order of texts (`fixedHex_lt_fixedHex_iff`).
-/

namespace RentBilling.Numeral

/-! ## Reading -/

/-- The digit of a value is written in lower case, however it was read. -/
theorem hexDigit_of_hexValue? {c : Char} {d : Nat} (h : hexValue? c = some d) :
    d < 16 ∧ hexDigit d = c.toLower := by
  have hlt : c.toNat < 103 := by
    unfold hexValue? at h
    dsimp only at h
    split at h
    · omega
    · split at h
      · omega
      · split at h
        · omega
        · contradiction
  have hall : ∀ n < 103, ∀ d ∈ hexValue? (Char.ofNat n),
      d < 16 ∧ hexDigit d = (Char.ofNat n).toLower := by decide
  have hc := hall c.toNat hlt d
  rw [Char.ofNat_toNat] at hc
  exact hc h

theorem ofHex?_concat (ds : List Char) (c : Char) :
    ofHex? (ds ++ [c]) = (ofHex? ds).bind fun n => (hexValue? c).map (16 * n + ·) := by
  unfold ofHex?
  rw [List.foldlM_append]
  simp

theorem exists_ofHex? {ds : List Char} (h : ∀ c ∈ ds, isHexDigit c) : ∃ n, ofHex? ds = some n := by
  induction ds using List.reverseRecOn with
  | nil => exact ⟨0, rfl⟩
  | append_singleton ds c ih =>
    obtain ⟨n, hn⟩ := ih fun d hd => h d (List.mem_append_left _ hd)
    have hc : isHexDigit c := h c (List.mem_append_right _ (List.mem_singleton_self c))
    obtain ⟨d, hd⟩ := Option.isSome_iff_exists.mp hc
    refine ⟨16 * n + d, ?_⟩
    rw [ofHex?_concat, hn, hd]
    rfl

/-- What is read from digits has these as its digits. -/
theorem fixedHex_of_ofHex? {ds : List Char} {n : Nat} (h : ofHex? ds = some n) :
    n < 16 ^ ds.length ∧ fixedHex hexDigit ds.length n = ds.map Char.toLower := by
  induction ds using List.reverseRecOn generalizing n with
  | nil =>
    obtain rfl := Option.some.inj h
    exact ⟨Nat.one_pos, rfl⟩
  | append_singleton ds c ih =>
    rw [ofHex?_concat] at h
    obtain ⟨m, hm, h⟩ := Option.bind_eq_some_iff.mp h
    obtain ⟨d, hd, rfl⟩ := Option.map_eq_some_iff.mp h
    obtain ⟨hlt, hdigits⟩ := ih hm
    obtain ⟨hd16, hdigit⟩ := hexDigit_of_hexValue? hd
    have hrest : (16 * m + d) / 16 = m := by omega
    have hlast : (16 * m + d) % 16 = d := by omega
    rw [List.length_append, List.length_singleton, Nat.pow_succ]
    refine ⟨by omega, ?_⟩
    rw [fixedHex, hrest, hlast, hdigits, hdigit, List.map_append]
    rfl

/-! ## Order -/

theorem hexDigit_lt_hexDigit_iff : ∀ a < 16, ∀ b < 16, hexDigit a < hexDigit b ↔ a < b := by decide

theorem fixedHex_inj {width m n : Nat} (hm : m < 16 ^ width) (hn : n < 16 ^ width) :
    fixedHex hexDigit width m = fixedHex hexDigit width n ↔ m = n := by
  constructor
  · intro h
    have hread := ofHex?_fixedHex hexValue?_hexDigit width m
    rw [h, ofHex?_fixedHex hexValue?_hexDigit, Nat.mod_eq_of_lt hm, Nat.mod_eq_of_lt hn] at hread
    exact (Option.some.inj hread).symm
  · intro h
    rw [h]

/-- Digits of one width stand in the order of their numbers. -/
theorem fixedHex_lt_fixedHex_iff {width m n : Nat} (hm : m < 16 ^ width) (hn : n < 16 ^ width) :
    fixedHex hexDigit width m < fixedHex hexDigit width n ↔ m < n := by
  induction width generalizing m n with
  | zero =>
    have hmn : ¬ m < n := by
      rw [Nat.pow_zero] at hn
      omega
    exact iff_of_false (List.lt_irrefl _) hmn
  | succ width ih =>
    rw [Nat.pow_succ] at hm hn
    have hm' : m / 16 < 16 ^ width := by omega
    have hn' : n / 16 < 16 ^ width := by omega
    have hlength : (fixedHex hexDigit width (m / 16)).length =
        (fixedHex hexDigit width (n / 16)).length := by
      rw [length_fixedHex, length_fixedHex]
    have hlast : [hexDigit (m % 16)] < [hexDigit (n % 16)] ↔ m % 16 < n % 16 := by
      rw [List.cons_lt_cons_iff, hexDigit_lt_hexDigit_iff _ (by omega) _ (by omega)]
      simp
    -- All digits but the last decide, and the last one where these are the same.
    rw [fixedHex, fixedHex, append_lt_append_iff hlength, ih hm' hn', fixedHex_inj hm' hn', hlast]
    omega

end RentBilling.Numeral
