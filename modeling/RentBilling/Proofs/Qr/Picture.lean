import RentBilling.Proofs.Qr.Segments
import RentBilling.Qr.Picture

/-!
Which pictures can be drawn.

The side of a picture is worked out in words of 32 bits, yet it comes to the side over the natural
numbers or to nothing (`side?_eq_some_iff`): whatever does not fit in a word is too large anyway. So
what becomes of a drawing is said without words (`render_result`). By default, data that is short
enough is always drawn (`exists_picture`).
-/

namespace RentBilling

theorem Text.length_utf8Bytes_eq_byteLength (cs : List Char) :
    (utf8Bytes cs).length = byteLength cs := by
  induction cs with
  | nil => rfl
  | cons c cs ih =>
    rw [utf8Bytes, List.flatMap_cons, List.length_append, String.length_utf8EncodeChar, ← utf8Bytes,
      ih, byteLength_cons]

namespace Qr

open Text

/-! ## Sides -/

theorem plus?_eq_some_iff {a b c : UInt32} : plus? a b = some c ↔ c.toNat = a.toNat + b.toNat := by
  unfold plus?
  constructor
  · intro h
    obtain ⟨hlt, hc⟩ := Option.ite_none_right_eq_some.mp h
    obtain rfl := Option.some.inj hc
    rw [UInt32.toNat_add, Nat.mod_eq_of_lt hlt]
  · intro h
    have hlt : a.toNat + b.toNat < UInt32.size := h ▸ c.toNat_lt
    rw [if_pos hlt, Option.some.injEq, ← UInt32.toNat_inj, UInt32.toNat_add, Nat.mod_eq_of_lt hlt,
      h]

theorem product?_eq_some_iff {a b c : UInt32} :
    product? a b = some c ↔ c.toNat = a.toNat * b.toNat := by
  unfold product?
  constructor
  · intro h
    obtain ⟨hlt, hc⟩ := Option.ite_none_right_eq_some.mp h
    obtain rfl := Option.some.inj hc
    rw [UInt32.toNat_mul, Nat.mod_eq_of_lt hlt]
  · intro h
    have hlt : a.toNat * b.toNat < UInt32.size := h ▸ c.toNat_lt
    rw [if_pos hlt, Option.some.injEq, ← UInt32.toNat_inj, UInt32.toNat_mul, Nat.mod_eq_of_lt hlt,
      h]

theorem toNat_ofNat_of_le_maxSide {n : Nat} (h : n ≤ 10000) : (UInt32.ofNat n).toNat = n :=
  UInt32.toNat_ofNat_of_lt' (Nat.lt_of_le_of_lt h (by decide))

theorem toNat_pos_iff {w : UInt32} : 0 < w.toNat ↔ w ≠ 0 := by
  rw [Nat.pos_iff_ne_zero, ne_eq, ne_eq, ← UInt32.toNat_inj]
  rfl

/-- The side is the one over the natural numbers, if that is not too large. -/
theorem Drawing.side?_eq_some_iff {d : Drawing} {modules side : UInt32} (h : d.boxSize ≠ 0) :
    d.side? modules = some side ↔
      side.toNat = (2 * d.border.toNat + modules.toNat) * d.boxSize.toNat ∧
        side.toNat ≤ 10000 := by
  unfold side?
  simp only [Option.bind_eq_bind, Option.bind_eq_some_iff, product?_eq_some_iff, plus?_eq_some_iff,
    Option.ite_none_right_eq_some]
  have htwo : (2 : UInt32).toNat = 2 := rfl
  have hmax : ∀ s : UInt32, s ≤ maxSide ↔ s.toNat ≤ 10000 := fun _ => UInt32.le_iff_toNat_le
  constructor
  · rintro ⟨quiet, hquiet, span, hspan, s, hside, hle, hs⟩
    obtain rfl := Option.some.inj hs
    refine ⟨?_, (hmax s).mp hle⟩
    rw [hside, hspan, hquiet, htwo, Nat.mul_comm 2]
  · rintro ⟨hside, hle⟩
    have hpos := toNat_pos_iff.mpr h
    have hspan : 2 * d.border.toNat + modules.toNat ≤ 10000 := by
      calc 2 * d.border.toNat + modules.toNat
          ≤ (2 * d.border.toNat + modules.toNat) * d.boxSize.toNat := Nat.le_mul_of_pos_right _ hpos
        _ ≤ 10000 := hside ▸ hle
    have hquiet : (UInt32.ofNat (2 * d.border.toNat)).toNat = 2 * d.border.toNat :=
      toNat_ofNat_of_le_maxSide (by omega)
    have hsum := toNat_ofNat_of_le_maxSide hspan
    exact ⟨_, hquiet.trans (Nat.mul_comm 2 _), _, by rw [hsum, hquiet], side, by rw [hside, hsum],
      (hmax side).mpr hle, rfl⟩

theorem Drawing.side?_of_le {d : Drawing} (modules : UInt32) (hbox : d.boxSize ≠ 0)
    (hside : (2 * d.border.toNat + modules.toNat) * d.boxSize.toNat ≤ 10000) :
    d.side? modules =
      some (.ofNat ((2 * d.border.toNat + modules.toNat) * d.boxSize.toNat)) := by
  have hfits := toNat_ofNat_of_le_maxSide hside
  exact (side?_eq_some_iff hbox).mpr ⟨hfits, by rw [hfits]; exact hside⟩

theorem Drawing.side?_eq_none_iff {d : Drawing} (modules : UInt32) (hbox : d.boxSize ≠ 0) :
    d.side? modules = none ↔
      10000 < (2 * d.border.toNat + modules.toNat) * d.boxSize.toNat := by
  constructor
  · intro hnone
    by_contra hsmall
    rw [side?_of_le modules hbox (Nat.not_lt.mp hsmall)] at hnone
    contradiction
  · intro hlarge
    rw [Option.eq_none_iff_forall_ne_some]
    intro side hside
    obtain ⟨hproduct, hle⟩ := (side?_eq_some_iff hbox).mp hside
    exact Nat.not_le.mpr hlarge (hproduct ▸ hle)

theorem Symbol.toNat_width (symbol : Symbol) : (UInt32.ofNat symbol.width).toNat = symbol.width :=
  toNat_ofNat_of_le_maxSide (Nat.le_trans symbol.width_le (by decide))

/-! ## Pictures -/

/-- What becomes of a drawing: the first of three refusals that applies, or else the picture. -/
theorem render_result (payload : String) (d : Drawing) :
    (render payload d).result =
      if d.boxSize.toNat = 0 then .error (.badDrawing .emptyBoxes)
      else match Symbol.ofBytes? d.level (utf8Bytes payload.toList) with
        | none => .error .dataTooLong
        | some symbol =>
          if 10000 < (2 * d.border.toNat + symbol.width) * d.boxSize.toNat then
            .error (.badDrawing (.tooLarge d.boxSize d.border))
          else .ok (.ofGrid symbol.grid d.border.toNat d.boxSize.toNat) := by
  unfold render
  by_cases hbox : d.boxSize = 0
  · rw [if_pos hbox, if_pos (by rw [hbox]; rfl)]
  · rw [if_neg hbox, if_neg (Nat.pos_iff_ne_zero.mp (toNat_pos_iff.mpr hbox))]
    cases Symbol.ofBytes? d.level (utf8Bytes payload.toList) with
    | none => rfl
    | some symbol =>
      have hnone := Drawing.side?_eq_none_iff (.ofNat symbol.width) hbox
      rw [symbol.toNat_width] at hnone
      dsimp only
      split
      · next hside => rw [if_pos (hnone.mp hside)]
      · next hside =>
        rw [if_neg fun hlarge => Option.some_ne_none _ (hside.symm.trans (hnone.mpr hlarge))]

/-- A symbol of data is drawn unless the side of its picture is too large. -/
theorem render_result_of_symbol {payload : String} {d : Drawing} {symbol : Symbol}
    (hbox : 0 < d.boxSize.toNat)
    (hsymbol : Symbol.ofBytes? d.level (utf8Bytes payload.toList) = some symbol)
    (hside : (2 * d.border.toNat + symbol.width) * d.boxSize.toNat ≤ 10000) :
    (render payload d).result = .ok (.ofGrid symbol.grid d.border.toNat d.boxSize.toNat) := by
  rw [render_result, if_neg (Nat.pos_iff_ne_zero.mp hbox), hsymbol]
  exact if_neg (Nat.not_lt.mpr hside)

/-- Data of at most 666 bytes has a symbol with medium error correction. -/
theorem exists_symbol {bs : List UInt8} (h : bs.length ≤ 666) :
    ∃ symbol, Symbol.ofBytes? .medium bs = some symbol := by
  have hcapacity : (Version.Group.largest .large).capacity .medium = 18672 := by decide
  have hplan : (Segment.plan? .medium bs).isSome :=
    Segment.plan?_isSome (by rw [hcapacity]; omega)
  rw [← Option.isSome_iff_exists, Symbol.ofBytes?, Option.isSome_map]
  exact hplan

/-- By default such data is drawn: even the widest symbol fits. -/
theorem exists_picture {payload : String} (h : byteLength payload.toList ≤ 666) :
    ∃ picture, (render payload .default).result = .ok picture := by
  rw [← length_utf8Bytes_eq_byteLength] at h
  obtain ⟨symbol, hsymbol⟩ := exists_symbol h
  have hwidth := symbol.width_le
  refine ⟨_, render_result_of_symbol (by decide) hsymbol ?_⟩
  show (2 * 2 + symbol.width) * 10 ≤ 10000
  omega

end Qr

end RentBilling
