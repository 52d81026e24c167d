import RentBilling.Qr.Picture

/-!
The pixels of a picture.

The picture of a grid is a square (`isSquare_ofGrid`). Dividing a pixel's column and row by the
pixels of a module gives the module that it belongs to, counted from the outer edge of the quiet
zone, and the pixel is black if that one lies in the grid and is dark there (`pixel?_ofGrid`). The
pixels make the picture (`Picture.IsSquare.ext`).
-/

namespace RentBilling.Qr

/-! ## Rows of equal length -/

/-- Rows of equal length, one after the other, are counted through by quotient and remainder. -/
theorem getElem?_flatten_of_length {α : Type} {k : Nat} {rows : List (List α)}
    (h : ∀ row ∈ rows, row.length = k) (hk : 0 < k) (i : Nat) :
    rows.flatten[i]? = rows[i / k]?.bind (·[i % k]?) := by
  induction rows generalizing i with
  | nil => simp
  | cons row rows ih =>
    rw [List.forall_mem_cons] at h
    rw [List.flatten_cons, List.getElem?_append, h.1]
    by_cases hi : i < k
    · rw [if_pos hi, Nat.div_eq_of_lt hi, Nat.mod_eq_of_lt hi]
      rfl
    · have hle := Nat.le_of_not_lt hi
      rw [if_neg hi, ih h.2, Nat.div_eq_sub_div hk hle, Nat.mod_eq_sub_mod hle]
      rfl

theorem length_stretch {α : Type} (k : Nat) (l : List α) :
    (stretch k l).length = l.length * k := by
  induction l with
  | nil => simp [stretch]
  | cons a l ih =>
    rw [stretch] at ih ⊢
    rw [List.flatMap_cons, List.length_append, List.length_replicate, ih, List.length_cons,
      Nat.succ_mul, Nat.add_comm]

theorem getElem?_stretch {α : Type} {k : Nat} (hk : 0 < k) (l : List α) (i : Nat) :
    (stretch k l)[i]? = l[i / k]? := by
  have hlength : ∀ row ∈ l.map (List.replicate k), row.length = k := by
    simp
  have hmod := Nat.mod_lt i hk
  rw [stretch, List.flatMap_def, getElem?_flatten_of_length hlength hk, List.getElem?_map]
  cases l[i / k]? with
  | none => rfl
  | some a => simp [hmod]

theorem length_framed {α : Type} (k : Nat) (a : α) (l : List α) :
    (framed k a l).length = 2 * k + l.length := by
  simp only [framed, List.length_append, List.length_replicate]
  omega

theorem getElem?_framed_inside {α : Type} {k : Nat} {a : α} {l : List α} {i : Nat} (hk : k ≤ i)
    (hi : i < k + l.length) : (framed k a l)[i]? = l[i - k]? := by
  have hframe : (List.replicate k a).length ≤ i := by
    rw [List.length_replicate]
    exact hk
  rw [framed, List.append_assoc, List.getElem?_append_right hframe, List.length_replicate,
    List.getElem?_append_left (by omega)]

theorem getElem?_framed_outside {α : Type} {k : Nat} {a : α} {l : List α} {i : Nat}
    (hout : ¬ (k ≤ i ∧ i < k + l.length)) (hi : i < 2 * k + l.length) :
    (framed k a l)[i]? = some a := by
  unfold framed
  by_cases hbefore : i < k
  · have hfirst : i < (List.replicate k a ++ l).length := by
      rw [List.length_append, List.length_replicate]
      omega
    rw [List.getElem?_append_left hfirst, List.getElem?_append_left (by simpa using hbefore),
      List.getElem?_replicate, if_pos hbefore]
  · have hlast : (List.replicate k a ++ l).length ≤ i := by
      rw [List.length_append, List.length_replicate]
      omega
    rw [List.getElem?_append_right hlast, List.length_append, List.length_replicate,
      List.getElem?_replicate, if_pos (by omega)]

/-! ## Grids -/

namespace Grid

variable {width : Nat}

theorem length_of_mem_rowLists {g : Grid width} {row : List Bool} (h : row ∈ g.rowLists) :
    row.length = width := by
  obtain ⟨v, -, rfl⟩ := List.mem_map.mp h
  exact v.length_toList

theorem lt_of_isDark {g : Grid width} {x y : Nat} (h : g.isDark x y) : x < width ∧ y < width := by
  unfold isDark at h
  split at h
  · split at h
    · exact ⟨‹_›, ‹_›⟩
    · contradiction
  · contradiction

theorem exists_row (g : Grid width) {y : Nat} (hy : y < width) :
    ∃ row, g.rowLists[y]? = some row ∧ row.length = width ∧
      ∀ x < width, row[x]? = some (g.isDark x y) := by
  refine ⟨g.rows[y].toList, by simp [rowLists, hy], g.rows[y].length_toList, fun x hx => ?_⟩
  simp [isDark, hx, hy]

/-- The modules, one row after the other. -/
theorem getElem?_flatten_rowLists (g : Grid width) {i : Nat} (hi : i < width * width) :
    g.rowLists.flatten[i]? = some (g.isDark (i % width) (i / width)) := by
  have hwidth : 0 < width := Nat.pos_of_mul_pos_left (Nat.lt_of_le_of_lt (Nat.zero_le i) hi)
  obtain ⟨row, hrow, -, hmodules⟩ := g.exists_row (Nat.div_lt_of_lt_mul hi)
  rw [getElem?_flatten_of_length (fun _ => length_of_mem_rowLists) hwidth, hrow]
  exact hmodules _ (Nat.mod_lt i hwidth)

theorem length_flatten_rowLists (g : Grid width) : g.rowLists.flatten.length = width * width := by
  have hrow : g.rowLists.map List.length = List.replicate width width :=
    List.eq_replicate_iff.mpr ⟨by rw [List.length_map, g.length_rowLists], fun n hn => by
      obtain ⟨row, hmem, rfl⟩ := List.mem_map.mp hn
      exact length_of_mem_rowLists hmem⟩
  rw [List.length_flatten, hrow, List.sum_replicate_nat]

/-- What is drawn for the module at this column and line, both counted from the outer edge of the
quiet zone. -/
def shade (g : Grid width) (border column line : Nat) : Shade :=
  shadeOf (decide (border ≤ column) && decide (border ≤ line) &&
    g.isDark (column - border) (line - border))

theorem shade_eq_black_iff {g : Grid width} {border column line : Nat} :
    g.shade border column line = .black ↔
      (border ≤ column ∧ column < border + width) ∧ (border ≤ line ∧ line < border + width) ∧
        g.isDark (column - border) (line - border) := by
  have hblack : ∀ dark : Bool, shadeOf dark = .black ↔ dark := by decide
  rw [shade, hblack, Bool.and_eq_true, Bool.and_eq_true, decide_eq_true_iff, decide_eq_true_iff]
  constructor
  · rintro ⟨⟨hcolumn, hline⟩, hdark⟩
    have hin := lt_of_isDark hdark
    exact ⟨⟨hcolumn, by omega⟩, ⟨hline, by omega⟩, hdark⟩
  · rintro ⟨⟨hcolumn, -⟩, ⟨hline, -⟩, hdark⟩
    exact ⟨⟨hcolumn, hline⟩, hdark⟩

/-- The quiet zone is white. -/
theorem shade_of_outside {g : Grid width} {border column line : Nat}
    (h : ¬ ((border ≤ column ∧ column < border + width) ∧
      (border ≤ line ∧ line < border + width))) : g.shade border column line = .white := by
  cases hshade : g.shade border column line with
  | white => rfl
  | black =>
    obtain ⟨hcolumn, hline, -⟩ := shade_eq_black_iff.mp hshade
    exact absurd ⟨hcolumn, hline⟩ h

theorem shade_of_inside (g : Grid width) {border column line : Nat} (hcolumn : border ≤ column)
    (hline : border ≤ line) :
    g.shade border column line = shadeOf (g.isDark (column - border) (line - border)) := by
  rw [shade, decide_eq_true hcolumn, decide_eq_true hline, Bool.true_and, Bool.true_and]

end Grid

/-! ## Pictures -/

namespace Picture

/-- `side` rows of `side` pixels. -/
structure IsSquare (p : Picture) (side : Nat) : Prop where
  side_eq : p.side = side
  length_rows : p.rows.length = side
  length_row : ∀ row ∈ p.rows, row.length = side

theorem IsSquare.pixel?_eq {p : Picture} {side : Nat} (h : p.IsSquare side) {x y : Nat}
    (hx : x < side) (hy : y < side) :
    ∃ (hrow : y < p.rows.length) (hpixel : x < p.rows[y].length),
      p.pixel? x y = some p.rows[y][x] := by
  have hrow : y < p.rows.length := h.length_rows ▸ hy
  have hpixel : x < p.rows[y].length := by
    rw [h.length_row _ (List.getElem_mem hrow)]
    exact hx
  refine ⟨hrow, hpixel, ?_⟩
  rw [pixel?, List.getElem?_eq_getElem hrow, Option.bind_some, List.getElem?_eq_getElem hpixel]

/-- Squares with the same pixels are the same. -/
theorem IsSquare.ext {p q : Picture} {side : Nat} (hp : p.IsSquare side) (hq : q.IsSquare side)
    (h : ∀ x y, x < side → y < side → p.pixel? x y = q.pixel? x y) : p = q := by
  have hrows : p.rows = q.rows := by
    refine List.ext_getElem (hp.length_rows.trans hq.length_rows.symm) fun y hy hy' => ?_
    have hrow := hp.length_row _ (List.getElem_mem hy)
    have hrow' := hq.length_row _ (List.getElem_mem hy')
    refine List.ext_getElem (hrow.trans hrow'.symm) fun x hx hx' => ?_
    have hxs : x < side := hrow ▸ hx
    have hys : y < side := hp.length_rows ▸ hy
    obtain ⟨_, _, hpixel⟩ := hp.pixel?_eq hxs hys
    obtain ⟨_, _, hpixel'⟩ := hq.pixel?_eq hxs hys
    have hsame := h x y hxs hys
    rw [hpixel, hpixel'] at hsame
    exact Option.some.inj hsame
  cases p
  cases q
  simp only [Picture.mk.injEq]
  exact ⟨hp.side_eq.trans hq.side_eq.symm, hrows⟩

variable {width : Nat}

theorem isSquare_ofGrid (g : Grid width) (border box : Nat) :
    (ofGrid g border box).IsSquare ((2 * border + width) * box) where
  side_eq := rfl
  length_rows := by
    simp only [ofGrid, length_stretch, length_framed, List.length_map, g.length_rowLists]
  length_row := by
    intro row hrow
    obtain ⟨line, hline, hrow⟩ := List.mem_flatMap.mp hrow
    rw [List.eq_of_mem_replicate hrow]
    rw [framed] at hline
    simp only [List.mem_append, List.mem_replicate, List.mem_map] at hline
    rcases hline with (⟨-, rfl⟩ | ⟨modules, hmodules, rfl⟩) | ⟨-, rfl⟩
    · exact List.length_replicate
    · rw [length_stretch, length_framed, List.length_map, Grid.length_of_mem_rowLists hmodules]
    · exact List.length_replicate

theorem pixel?_ofGrid (g : Grid width) {border box x y : Nat}
    (hx : x < (2 * border + width) * box) (hy : y < (2 * border + width) * box) :
    (ofGrid g border box).pixel? x y = some (g.shade border (x / box) (y / box)) := by
  have hbox : 0 < box := Nat.pos_of_mul_pos_left (Nat.lt_of_le_of_lt (Nat.zero_le x) hx)
  have hcolumn : x / box < 2 * border + width := Nat.div_lt_of_lt_mul (Nat.mul_comm _ box ▸ hx)
  have hline : y / box < 2 * border + width := Nat.div_lt_of_lt_mul (Nat.mul_comm _ box ▸ hy)
  unfold pixel? ofGrid
  dsimp only
  rw [getElem?_stretch hbox]
  by_cases hiny : border ≤ y / box ∧ y / box < border + width
  · obtain ⟨row, hrow, hlength, hmodules⟩ := g.exists_row (y := y / box - border) (by omega)
    rw [getElem?_framed_inside hiny.1 (by simpa [g.length_rowLists] using hiny.2),
      List.getElem?_map, hrow, Option.map_some, Option.bind_some, getElem?_stretch hbox]
    by_cases hinx : border ≤ x / box ∧ x / box < border + width
    · rw [getElem?_framed_inside hinx.1 (by simpa [hlength] using hinx.2), List.getElem?_map,
        hmodules _ (by omega), Option.map_some, g.shade_of_inside hinx.1 hiny.1]
    · rw [getElem?_framed_outside (by simpa [hlength] using hinx)
          (by simpa [hlength] using hcolumn), Grid.shade_of_outside fun h => hinx h.1]
  · rw [getElem?_framed_outside (by simpa [g.length_rowLists] using hiny)
      (by simpa [g.length_rowLists] using hline), Option.bind_some, List.getElem?_replicate,
      if_pos hx, Grid.shade_of_outside fun h => hiny h.2]

end Picture

end RentBilling.Qr
