import RentBilling.Proofs.Qr.Painting

/-!
Which drawings are refused.

The side of a picture is worked out step by step, and each step that does not fit in a word of 32
bits ends it. What comes out is the side over the natural numbers, so that no overflow brings one
that is too large below the bound (`map_toNat_checkedSide?`). Boxes without pixels are refused
before anything else, and then data that no version has room for (`render_refusals`).
-/

namespace RentBilling.Qr

open Text

/-! ## The checked side -/

/-- The side of a picture of so many modules. Their number has to fit in a word as well. -/
def Drawing.checkedSide? (d : Drawing) (modules : Nat) : Option UInt32 :=
  (word? modules).bind d.side?

namespace Drawing

variable {d : Drawing} {modules : Nat}

theorem checkedSide?_of_le (hbox : 0 < d.boxSize.toNat)
    (hside : (2 * d.border.toNat + modules) * d.boxSize.toNat ≤ 10000) :
    d.checkedSide? modules =
      some (.ofNat ((2 * d.border.toNat + modules) * d.boxSize.toNat)) := by
  obtain ⟨word, hword, rfl⟩ := word?_of_le (width_le_of_side hbox hside)
  rw [checkedSide?, hword, Option.bind_some, side?_of_le word (toNat_pos_iff.mp hbox) hside]

theorem checkedSide?_of_lt (hbox : 0 < d.boxSize.toNat)
    (hside : 10000 < (2 * d.border.toNat + modules) * d.boxSize.toNat) :
    d.checkedSide? modules = none := by
  rw [checkedSide?, Option.bind_eq_none_iff]
  intro word hword
  obtain ⟨hlt, hofNat⟩ := Option.ite_none_right_eq_some.mp hword
  obtain rfl := Option.some.inj hofNat
  rw [side?_eq_none_iff _ (toNat_pos_iff.mp hbox), UInt32.toNat_ofNat_of_lt' hlt]
  exact hside

theorem map_toNat_checkedSide? (hbox : 0 < d.boxSize.toNat) (modules : Nat) :
    (d.checkedSide? modules).map UInt32.toNat =
      if 10000 < (2 * d.border.toNat + modules) * d.boxSize.toNat then none
      else some ((2 * d.border.toNat + modules) * d.boxSize.toNat) := by
  split
  · next hlarge => rw [checkedSide?_of_lt hbox hlarge, Option.map_none]
  · next hsmall =>
    have hle := Nat.not_lt.mp hsmall
    rw [checkedSide?_of_le hbox hle, Option.map_some, toNat_ofNat_of_le_maxSide hle]

/-- The width of a symbol always fits in a word. -/
theorem checkedSide?_width (d : Drawing) (symbol : Symbol) :
    d.checkedSide? symbol.width = d.side? (.ofNat symbol.width) := by
  have hword : word? symbol.width = some (.ofNat symbol.width) :=
    if_pos (Nat.lt_of_le_of_lt symbol.width_le (by decide))
  rw [checkedSide?, hword, Option.bind_some]

end Drawing

/-! ## Data without a symbol -/

/-- No version has more bits for data. -/
theorem Version.Group.capacity_largest_le (g : Version.Group) (level : Level) :
    g.largest.capacity level ≤ 23648 := by
  cases g <;> cases level <;> decide

/-- Ten bits for three of these bytes would be more than that. -/
theorem ofBytes?_eq_none {bs : List UInt8} (h : 7094 < bs.length) (level : Level) :
    Symbol.ofBytes? level bs = none := by
  have hplan : Segment.plan? level bs = none := by
    refine Segment.plan?_eq_none fun g => ?_
    have hcapacity := g.capacity_largest_le level
    omega
  rw [Symbol.ofBytes?, hplan, Option.map_none]

/-! ## Refusals -/

/-- **Which drawings are refused.** For any number of modules the side that is worked out in words
of 32 bits is the one over the natural numbers, or none if that is more than ten thousand. Boxes
without pixels are refused whatever the payload, also one that is too long for any symbol, as all of
more than 7094 bytes are. Otherwise a payload without a symbol is refused, and after that exactly
those drawings whose side over the natural numbers is more than ten thousand. All others are drawn,
without an overflow. -/
theorem render_refusals (d : Drawing) :
    (0 < d.boxSize.toNat → ∀ modules : Nat,
      (d.checkedSide? modules).map UInt32.toNat =
        if 10000 < (2 * d.border.toNat + modules) * d.boxSize.toNat then none
        else some ((2 * d.border.toNat + modules) * d.boxSize.toNat)) ∧
    ∀ payload : String,
      let symbol? := Symbol.ofBytes? d.level (utf8Bytes payload.toList)
      (7094 < byteLength payload.toList → symbol? = none) ∧
      (d.boxSize.toNat = 0 → (render payload d).result = .error (.badDrawing .emptyBoxes)) ∧
      (0 < d.boxSize.toNat → symbol? = none → (render payload d).result = .error .dataTooLong) ∧
      (0 < d.boxSize.toNat → ∀ symbol, symbol? = some symbol →
        d.checkedSide? symbol.width = d.side? (.ofNat symbol.width) ∧
        ((render payload d).result = .error (.badDrawing (.tooLarge d.boxSize d.border)) ↔
          10000 < (2 * d.border.toNat + symbol.width) * d.boxSize.toNat) ∧
        ((2 * d.border.toNat + symbol.width) * d.boxSize.toNat ≤ 10000 →
          ∃ picture, (render payload d).result = .ok picture ∧
            picture.side = (2 * d.border.toNat + symbol.width) * d.boxSize.toNat ∧
            d.paint? symbol.grid = some picture)) := by
  refine ⟨Drawing.map_toNat_checkedSide?, fun payload => ⟨?long, ?empty, ?none, ?symbol⟩⟩
  case long =>
    intro hlength
    rw [← length_utf8Bytes_eq_byteLength] at hlength
    exact ofBytes?_eq_none hlength d.level
  case empty =>
    intro hbox
    rw [render_result, if_pos hbox]
  case none =>
    intro hbox hnone
    rw [render_result, if_neg (Nat.pos_iff_ne_zero.mp hbox), hnone]
  case symbol =>
    intro hbox symbol hsymbol
    refine ⟨d.checkedSide?_width symbol, ?_, fun hside => ?_⟩
    · rw [render_result, if_neg (Nat.pos_iff_ne_zero.mp hbox), hsymbol]
      dsimp only
      split
      · next hlarge => exact iff_of_true rfl hlarge
      · next hsmall => exact iff_of_false nofun hsmall
    · exact ⟨_, render_result_of_symbol hbox hsymbol hside, rfl,
        paint?_eq_picture symbol.grid hbox hside⟩

/-- A payload of so many ones. -/
def onesOnly (n : Nat) : String := .ofList (List.replicate n '1')

theorem byteLength_onesOnly (n : Nat) : byteLength (onesOnly n).toList = n := by
  have hascii : (List.replicate n '1').all isAsciiChar := by
    rw [List.all_eq_true]
    intro c hc
    rw [List.eq_of_mem_replicate hc]
    rfl
  rw [onesOnly, String.toList_ofList, byteLength_eq_length hascii, List.length_replicate]

/-- A quiet zone so wide that together with the 21 modules of the smallest symbol it would come to
one module in words that wrap around. -/
def wrappingDrawing : Drawing := ⟨10, 2147483638, .medium⟩

/-- Too long a payload with empty boxes and with boxes of one pixel, and short ones of which one has
a side that only words that wrap around would let pass. -/
theorem render_refusals_wrapping :
    (render (onesOnly 7095) ⟨0, 2, .medium⟩).result = .error (.badDrawing .emptyBoxes) ∧
      (render (onesOnly 7095) ⟨1, 2, .medium⟩).result = .error .dataTooLong ∧
      (render "abc" wrappingDrawing).result =
        .error (.badDrawing (.tooLarge 10 2147483638)) ∧
      ((2 * wrappingDrawing.border + 21) * wrappingDrawing.boxSize).toNat = 10 ∧
      ∃ picture, (render "abc" .default).result = .ok picture := by
  have hlong : 7094 < byteLength (onesOnly 7095).toList := by
    rw [byteLength_onesOnly]
    decide
  have hshort : (utf8Bytes "abc".toList).length ≤ 666 := by decide
  obtain ⟨symbol, hsymbol⟩ := exists_symbol hshort
  have hwidth := symbol.width_le
  obtain ⟨-, hempty, -, -⟩ := (render_refusals ⟨0, 2, .medium⟩).2 (onesOnly 7095)
  obtain ⟨hnosymbol, -, hnone, -⟩ := (render_refusals ⟨1, 2, .medium⟩).2 (onesOnly 7095)
  obtain ⟨-, -, -, hwraps⟩ := (render_refusals wrappingDrawing).2 "abc"
  obtain ⟨-, -, -, hdraws⟩ := (render_refusals .default).2 "abc"
  have hlarge : 10000 <
      (2 * wrappingDrawing.border.toNat + symbol.width) * wrappingDrawing.boxSize.toNat := by
    show 10000 < (2 * 2147483638 + symbol.width) * 10
    omega
  have hsmall : (2 * Drawing.default.border.toNat + symbol.width) *
      Drawing.default.boxSize.toNat ≤ 10000 := by
    show (2 * 2 + symbol.width) * 10 ≤ 10000
    omega
  obtain ⟨picture, hpicture, -⟩ := (hdraws (by decide) symbol hsymbol).2.2 hsmall
  exact ⟨hempty rfl, hnone (by decide) (hnosymbol hlong),
    (hwraps (by decide) symbol hsymbol).2.1.mpr hlarge, by decide, picture, hpicture⟩

end RentBilling.Qr
