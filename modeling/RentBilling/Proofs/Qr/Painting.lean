import Mathlib.Data.List.Basic
import RentBilling.Proofs.Qr.Picture
import RentBilling.Proofs.Qr.Pixels

/-!
Pictures painted pixel by pixel.

Painting goes through the modules in one run, works out where the box of a dark one begins by
division and remainder, and blackens its pixels one after the other. All of it happens in words of
32 bits and inside the picture, and each step that would leave either fails (`Drawing.paint?`). Each
step on its own blackens a region (`Paints`), and a loop of such steps blackens what its rounds do
(`Paints.foldlM`). The boxes of two modules share no pixel and leave none out, so that what is
painted is the picture of the grid, without one step that fails (`paint?_eq_picture`).
-/

namespace RentBilling.Qr

/-! ## Painting -/

/-- The word for a number, if it fits in one. -/
def word? (n : Nat) : Option UInt32 := if n < UInt32.size then some (.ofNat n) else none

namespace Picture

/-- The white picture. -/
def blank (side : Nat) : Picture := ⟨side, List.replicate side (List.replicate side .white)⟩

/-- The picture with a black pixel in column `x` of row `y`, if it has that pixel. -/
def blacken? (p : Picture) (x y : UInt32) : Option Picture :=
  if x.toNat < p.side ∧ y.toNat < p.side then
    some { p with rows := p.rows.modify y.toNat (·.set x.toNat .black) }
  else none

end Picture

namespace Drawing

variable (d : Drawing)

/-- Where the boxes of a column or a line of modules begin. -/
def start? (position : UInt32) : Option UInt32 := do
  let bordered ← plus? position d.border
  product? bordered d.boxSize

/-- Blackens a box from its upper left pixel on. -/
def paintBox? (left top : UInt32) (p : Picture) : Option Picture :=
  (List.range d.boxSize.toNat).foldlM (fun p dy =>
    (List.range d.boxSize.toNat).foldlM (fun p dx => do
      let x ← plus? left (.ofNat dx)
      let y ← plus? top (.ofNat dy)
      p.blacken? x y) p) p

/-- Blackens the box of the `i`-th module, if it is dark, in a symbol `modules` wide. -/
def paintModule? (modules : UInt32) (p : Picture) (module : Bool × Nat) : Option Picture :=
  if module.1 then do
    let i ← word? module.2
    let left ← d.start? (i % modules)
    let top ← d.start? (i / modules)
    d.paintBox? left top p
  else some p

/-- Paints the modules of a grid row by row onto the white picture. -/
def paint? {width : Nat} (g : Grid width) : Option Picture := do
  let modules ← word? width
  let side ← d.side? modules
  g.rowLists.flatten.zipIdx.foldlM (d.paintModule? modules) (.blank side.toNat)

end Drawing

/-! ## Words -/

theorem word?_of_le {n : Nat} (h : n ≤ 10000) : ∃ w, word? n = some w ∧ w.toNat = n :=
  ⟨.ofNat n, if_pos (Nat.lt_of_le_of_lt h (by decide)), toNat_ofNat_of_le_maxSide h⟩

theorem exists_plus? {a b : UInt32} (h : a.toNat + b.toNat ≤ 10000) :
    ∃ c, plus? a b = some c ∧ c.toNat = a.toNat + b.toNat :=
  ⟨.ofNat (a.toNat + b.toNat), plus?_eq_some_iff.mpr (toNat_ofNat_of_le_maxSide h),
    toNat_ofNat_of_le_maxSide h⟩

theorem exists_product? {a b : UInt32} (h : a.toNat * b.toNat ≤ 10000) :
    ∃ c, product? a b = some c ∧ c.toNat = a.toNat * b.toNat :=
  ⟨.ofNat (a.toNat * b.toNat), product?_eq_some_iff.mpr (toNat_ofNat_of_le_maxSide h),
    toNat_ofNat_of_le_maxSide h⟩

/-! ## Regions -/

/-- Done to any square picture of this side, the step succeeds, and the pixels of a region are what
it blackens and all that it changes. -/
def Paints (side : Nat) (region : Nat → Nat → Prop) (step : Picture → Option Picture) : Prop :=
  ∀ p : Picture, p.IsSquare side → ∃ q, step p = some q ∧ q.IsSquare side ∧ ∀ x y,
    (region x y → q.pixel? x y = some .black) ∧ (¬ region x y → q.pixel? x y = p.pixel? x y)

section Regions

variable {side : Nat} {region region' : Nat → Nat → Prop} {step : Picture → Option Picture}

theorem Paints.congr (h : Paints side region step) (hregion : ∀ x y, region x y ↔ region' x y) :
    Paints side region' step := by
  intro p hp
  obtain ⟨q, hq, hsquare, hpixels⟩ := h p hp
  refine ⟨q, hq, hsquare, fun x y => ?_⟩
  rw [← hregion x y]
  exact hpixels x y

theorem paints_nothing (h : ∀ x y, ¬ region x y) : Paints side region some :=
  fun p hp => ⟨p, rfl, hp, fun x y => ⟨fun hxy => absurd hxy (h x y), fun _ => rfl⟩⟩

/-- A loop blackens what one of its rounds does; no round takes back what another did. -/
theorem Paints.foldlM {α : Type} {round : Picture → α → Option Picture}
    {region : α → Nat → Nat → Prop} {l : List α}
    (h : ∀ a ∈ l, Paints side (region a) (round · a)) :
    Paints side (fun x y => ∃ a ∈ l, region a x y) (l.foldlM round) := by
  induction l with
  | nil => exact paints_nothing (by simp)
  | cons a l ih =>
    rw [List.forall_mem_cons] at h
    intro p hp
    obtain ⟨q, hq, hsquare, hpixels⟩ := h.1 p hp
    obtain ⟨r, hr, hsquare', hpixels'⟩ := ih h.2 q hsquare
    refine ⟨r, ?_, hsquare', fun x y => ⟨fun hxy => ?_, fun hxy => ?_⟩⟩
    · show (a :: l).foldlM round p = some r
      rw [List.foldlM_cons, show round p a = some q from hq]
      exact hr
    · -- Black is black whether the first round or a later one did it.
      by_cases hlater : ∃ b ∈ l, region b x y
      · exact (hpixels' x y).1 hlater
      · have hnow : region a x y := by
          obtain ⟨b, hb, hxy⟩ := hxy
          rcases List.mem_cons.mp hb with rfl | hb
          · exact hxy
          · exact absurd ⟨b, hb, hxy⟩ hlater
        rw [(hpixels' x y).2 hlater, (hpixels x y).1 hnow]
    · have hnow : ¬ region a x y := fun hnow => hxy ⟨a, .head l, hnow⟩
      have hlater : ¬ ∃ b ∈ l, region b x y := fun ⟨b, hb, hb'⟩ => hxy ⟨b, .tail a hb, hb'⟩
      rw [(hpixels' x y).2 hlater, (hpixels x y).2 hnow]

end Regions

/-! ## One pixel -/

theorem Picture.isSquare_blank (side : Nat) : (blank side).IsSquare side where
  side_eq := rfl
  length_rows := List.length_replicate
  length_row := fun row hrow => by
    rw [List.eq_of_mem_replicate hrow, List.length_replicate]

theorem Picture.pixel?_blank {side x y : Nat} (hx : x < side) (hy : y < side) :
    (blank side).pixel? x y = some .white := by
  simp [blank, pixel?, hx, hy]

theorem paints_blacken? {side : Nat} {x y : UInt32} (hx : x.toNat < side) (hy : y.toNat < side) :
    Paints side (fun x' y' => x' = x.toNat ∧ y' = y.toNat) (·.blacken? x y) := by
  intro p hp
  have hinside : x.toNat < p.side ∧ y.toNat < p.side := by
    rw [hp.side_eq]
    exact ⟨hx, hy⟩
  refine ⟨_, if_pos hinside, ⟨hp.side_eq, ?_, ?_⟩, fun x' y' => ⟨?_, ?_⟩⟩
  · rw [List.length_modify, hp.length_rows]
  · intro row hrow
    obtain ⟨i, hi⟩ := List.mem_iff_getElem?.mp hrow
    rw [List.getElem?_modify] at hi
    obtain ⟨old, hold, rfl⟩ := Option.map_eq_some_iff.mp hi
    have hlength := hp.length_row old (List.mem_of_getElem? hold)
    split
    · rw [List.length_set, hlength]
    · exact hlength
  · rintro ⟨rfl, rfl⟩
    obtain ⟨hrow, hpixel, -⟩ := hp.pixel?_eq hx hy
    simp [Picture.pixel?, hrow, hpixel]
  · intro hother
    rw [Picture.pixel?, Picture.pixel?, List.getElem?_modify]
    cases p.rows[y']? with
    | none => rfl
    | some row =>
      by_cases hy' : y.toNat = y'
      · have hx' : x.toNat ≠ x' := fun hx' => hother ⟨hx'.symm, hy'.symm⟩
        simp [hy', List.getElem?_set_ne hx']
      · simp [hy']

/-! ## One module -/

section Boxes

variable {d : Drawing} {side : Nat}

theorem paints_paintBox? {left top : UInt32} (hside : side ≤ 10000)
    (hleft : left.toNat + d.boxSize.toNat ≤ side) (htop : top.toNat + d.boxSize.toNat ≤ side) :
    Paints side (fun x y => (left.toNat ≤ x ∧ x < left.toNat + d.boxSize.toNat) ∧
      (top.toNat ≤ y ∧ y < top.toNat + d.boxSize.toNat)) (d.paintBox? left top) := by
  have hpixel : ∀ dy ∈ List.range d.boxSize.toNat, ∀ dx ∈ List.range d.boxSize.toNat,
      Paints side (fun x y => x = left.toNat + dx ∧ y = top.toNat + dy)
        (fun p => do
          let x ← plus? left (.ofNat dx)
          let y ← plus? top (.ofNat dy)
          p.blacken? x y) := by
    intro dy hdy dx hdx
    rw [List.mem_range] at hdy hdx
    have hwordx : (UInt32.ofNat dx).toNat = dx := toNat_ofNat_of_le_maxSide (by omega)
    have hwordy : (UInt32.ofNat dy).toNat = dy := toNat_ofNat_of_le_maxSide (by omega)
    obtain ⟨x, hx, hxn⟩ := exists_plus? (a := left) (b := .ofNat dx) (by omega)
    obtain ⟨y, hy, hyn⟩ := exists_plus? (a := top) (b := .ofNat dy) (by omega)
    rw [hwordx] at hxn
    rw [hwordy] at hyn
    rw [hx, hy, ← hxn, ← hyn]
    exact paints_blacken? (by omega) (by omega)
  refine Paints.congr (.foldlM fun dy hdy => .foldlM fun dx hdx => hpixel dy hdy dx hdx) ?_
  intro x y
  simp only [List.mem_range]
  constructor
  · rintro ⟨dy, hdy, dx, hdx, rfl, rfl⟩
    omega
  · rintro ⟨hx, hy⟩
    exact ⟨y - top.toNat, by omega, x - left.toNat, by omega, by omega, by omega⟩

theorem width_le_of_side {width border box : Nat} (hbox : 0 < box)
    (hside : (2 * border + width) * box ≤ 10000) : width ≤ 10000 := by
  have hspan := Nat.le_mul_of_pos_right (2 * border + width) hbox
  omega

/-- So few modules can be counted in a word, which is then divided as their number is. -/
theorem exists_position {width i : Nat} {modules : UInt32} (hmodules : modules.toNat = width)
    (hwidth : width ≤ 10000) (hi : i < width * width) :
    ∃ n, word? i = some n ∧ (n % modules).toNat = i % width ∧ (n / modules).toNat = i / width := by
  have hcount : width * width ≤ 10000 * 10000 := Nat.mul_le_mul hwidth hwidth
  have hword : i < UInt32.size := Nat.lt_of_lt_of_le hi (Nat.le_trans hcount (by decide))
  refine ⟨.ofNat i, if_pos hword, ?_, ?_⟩
  · rw [UInt32.toNat_mod, UInt32.toNat_ofNat_of_lt' hword, hmodules]
  · rw [UInt32.toNat_div, UInt32.toNat_ofNat_of_lt' hword, hmodules]

/-- The box of a module ends before the picture does. -/
theorem box_le {width box position : Nat} (border : Nat) (h : position < width) :
    (position + border) * box + box ≤ (2 * border + width) * box := by
  rw [← Nat.succ_mul]
  exact Nat.mul_le_mul_right box (by omega)

theorem exists_start? {width : Nat} {position : UInt32} (hposition : position.toNat < width)
    (hbox : 0 < d.boxSize.toNat)
    (hside : (2 * d.border.toNat + width) * d.boxSize.toNat ≤ 10000) :
    ∃ start, d.start? position = some start ∧
      start.toNat = (position.toNat + d.border.toNat) * d.boxSize.toNat := by
  have hend : (position.toNat + d.border.toNat) * d.boxSize.toNat + d.boxSize.toNat ≤
      (2 * d.border.toNat + width) * d.boxSize.toNat := box_le d.border.toNat hposition
  have hspan : position.toNat + d.border.toNat ≤
      (position.toNat + d.border.toNat) * d.boxSize.toNat := Nat.le_mul_of_pos_right _ hbox
  obtain ⟨bordered, hbordered, hsum⟩ :=
    exists_plus? (a := position) (b := d.border) (by omega)
  obtain ⟨start, hstart, hproduct⟩ :=
    exists_product? (a := bordered) (b := d.boxSize) (by rw [hsum]; omega)
  refine ⟨start, ?_, by rw [hproduct, hsum]⟩
  rw [Drawing.start?, hbordered]
  exact hstart

/-- The pixels of a box have one quotient by the pixels of a module. -/
theorem mem_box_iff {box start x : Nat} (hbox : 0 < box) :
    (start * box ≤ x ∧ x < start * box + box) ↔ x / box = start := by
  rw [Nat.div_eq_iff hbox]
  omega

theorem paints_paintModule? {width i : Nat} {modules : UInt32} {dark : Bool}
    (hmodules : modules.toNat = width) (hi : i < width * width) (hbox : 0 < d.boxSize.toNat)
    (hside : (2 * d.border.toNat + width) * d.boxSize.toNat ≤ 10000) :
    Paints ((2 * d.border.toNat + width) * d.boxSize.toNat)
      (fun x y => dark ∧ x / d.boxSize.toNat = i % width + d.border.toNat ∧
        y / d.boxSize.toNat = i / width + d.border.toNat)
      (d.paintModule? modules · (dark, i)) := by
  cases dark with
  | false => exact paints_nothing (by simp)
  | true =>
    have hwidth : 0 < width := Nat.pos_of_mul_pos_left (Nat.lt_of_le_of_lt (Nat.zero_le i) hi)
    have hcolumnlt : i % width < width := Nat.mod_lt i hwidth
    have hlinelt : i / width < width := Nat.div_lt_of_lt_mul hi
    obtain ⟨n, hn, hcolumn, hline⟩ := exists_position hmodules (width_le_of_side hbox hside) hi
    obtain ⟨left, hleft, hleftn⟩ := exists_start? (hcolumn ▸ hcolumnlt) hbox hside
    obtain ⟨top, htop, htopn⟩ := exists_start? (hline ▸ hlinelt) hbox hside
    rw [hcolumn] at hleftn
    rw [hline] at htopn
    have hpaints := paints_paintBox? hside (hleftn ▸ box_le d.border.toNat hcolumnlt)
      (htopn ▸ box_le d.border.toNat hlinelt)
    have hstep : (d.paintModule? modules · (true, i)) = d.paintBox? left top := by
      funext p
      rw [Drawing.paintModule?, if_pos rfl, hn]
      simp only [Option.bind_eq_bind, Option.bind_some, hleft, htop]
    rw [hstep]
    refine hpaints.congr fun x y => ?_
    rw [hleftn, htopn, mem_box_iff hbox, mem_box_iff hbox]
    exact (and_iff_right rfl).symm

end Boxes

/-! ## The whole grid -/

section Grids

variable {width : Nat} {d : Drawing}

theorem mem_modules_iff {g : Grid width} {dark : Bool} {i : Nat} :
    (dark, i) ∈ g.rowLists.flatten.zipIdx ↔
      i < width * width ∧ g.isDark (i % width) (i / width) = dark := by
  rw [List.mk_mem_zipIdx_iff_getElem?]
  constructor
  · intro h
    have hi : i < width * width := by
      rw [← g.length_flatten_rowLists]
      exact (List.getElem?_eq_some_iff.mp h).1
    rw [g.getElem?_flatten_rowLists hi] at h
    exact ⟨hi, Option.some.inj h⟩
  · rintro ⟨hi, rfl⟩
    exact g.getElem?_flatten_rowLists hi

/-- Counting row by row comes to every column of every row. -/
theorem exists_place {width x y : Nat} (hx : x < width) (hy : y < width) :
    ∃ i < width * width, i % width = x ∧ i / width = y := by
  have hwidth : 0 < width := Nat.zero_lt_of_lt hx
  have hlt : y * width + x < width * width :=
    calc y * width + x < y * width + width := Nat.add_lt_add_left hx _
      _ = (y + 1) * width := (Nat.succ_mul _ _).symm
      _ ≤ width * width := Nat.mul_le_mul_right width hy
  refine ⟨y * width + x, hlt, ?_, ?_⟩
  · rw [Nat.mul_add_mod_self_right, Nat.mod_eq_of_lt hx]
  · rw [Nat.mul_comm, Nat.mul_add_div hwidth, Nat.div_eq_of_lt hx, Nat.add_zero]

/-- The dark modules that are come to are the black places of the picture. -/
theorem exists_module_iff {g : Grid width} {border column line : Nat} :
    (∃ module ∈ g.rowLists.flatten.zipIdx, module.1 ∧ column = module.2 % width + border ∧
      line = module.2 / width + border) ↔ g.shade border column line = .black := by
  rw [Grid.shade_eq_black_iff]
  constructor
  · rintro ⟨⟨dark, i⟩, hmem, hdark, hcolumn, hline⟩
    obtain ⟨-, hmodule⟩ := mem_modules_iff.mp hmem
    have hlight : g.isDark (i % width) (i / width) := hmodule.trans hdark
    obtain ⟨hx, hy⟩ := Grid.lt_of_isDark hlight
    obtain rfl : column = i % width + border := hcolumn
    obtain rfl : line = i / width + border := hline
    rw [Nat.add_sub_cancel, Nat.add_sub_cancel]
    exact ⟨⟨Nat.le_add_left _ _, by omega⟩, ⟨Nat.le_add_left _ _, by omega⟩, hlight⟩
  · rintro ⟨⟨hcolumn, -⟩, ⟨hline, -⟩, hdark⟩
    obtain ⟨hx, hy⟩ := Grid.lt_of_isDark hdark
    obtain ⟨i, hi, hmod, hdiv⟩ := exists_place hx hy
    refine ⟨(true, i), ?_, rfl, ?_, ?_⟩
    · rw [mem_modules_iff, hmod, hdiv]
      exact ⟨hi, hdark⟩
    · rw [hmod, Nat.sub_add_cancel hcolumn]
    · rw [hdiv, Nat.sub_add_cancel hline]

theorem paint?_eq_picture (g : Grid width) (hbox : 0 < d.boxSize.toNat)
    (hside : (2 * d.border.toNat + width) * d.boxSize.toNat ≤ 10000) :
    d.paint? g = some (.ofGrid g d.border.toNat d.boxSize.toNat) := by
  obtain ⟨modules, hmodules, hmodulesn⟩ := word?_of_le (width_le_of_side hbox hside)
  have hside' : d.side? modules =
      some (.ofNat ((2 * d.border.toNat + modules.toNat) * d.boxSize.toNat)) :=
    Drawing.side?_of_le modules (toNat_pos_iff.mp hbox) (by rw [hmodulesn]; exact hside)
  have hfits := toNat_ofNat_of_le_maxSide hside
  have hpaints : Paints ((2 * d.border.toNat + width) * d.boxSize.toNat)
      (fun x y => g.shade d.border.toNat (x / d.boxSize.toNat) (y / d.boxSize.toNat) = .black)
      (g.rowLists.flatten.zipIdx.foldlM (d.paintModule? modules)) := by
    refine Paints.congr (.foldlM fun module hmem => ?_) fun x y => exists_module_iff
    obtain ⟨dark, i⟩ := module
    exact paints_paintModule? hmodulesn (mem_modules_iff.mp hmem).1 hbox hside
  obtain ⟨p, hp, hsquare, hpixels⟩ := hpaints _ (Picture.isSquare_blank _)
  have hsame : p = .ofGrid g d.border.toNat d.boxSize.toNat := by
    refine hsquare.ext (Picture.isSquare_ofGrid g _ _) fun x y hx hy => ?_
    rw [Picture.pixel?_ofGrid g hx hy]
    cases hshade : g.shade d.border.toNat (x / d.boxSize.toNat) (y / d.boxSize.toNat) with
    | black => exact (hpixels x y).1 hshade
    | white =>
      rw [(hpixels x y).2 (by simp [hshade]), Picture.pixel?_blank hx hy]
  rw [Drawing.paint?, hmodules, Option.bind_eq_bind, Option.bind_some, hside', Option.bind_some,
    hmodulesn, hfits, ← hsame]
  exact hp

/-- A picture is rendered if and only if there is a symbol that it is the picture of, and room for
it. -/
theorem render_result_eq_ok_iff {payload : String} {p : Picture} :
    (render payload d).result = .ok p ↔ 0 < d.boxSize.toNat ∧
      ∃ symbol, Symbol.ofBytes? d.level (Text.utf8Bytes payload.toList) = some symbol ∧
        (2 * d.border.toNat + symbol.width) * d.boxSize.toNat ≤ 10000 ∧
        p = .ofGrid symbol.grid d.border.toNat d.boxSize.toNat := by
  constructor
  · intro h
    rw [render_result] at h
    split at h
    · contradiction
    next hbox =>
      split at h
      · contradiction
      next symbol hsymbol =>
        split at h
        · contradiction
        next hside =>
          exact ⟨Nat.pos_iff_ne_zero.mpr hbox, symbol, hsymbol, Nat.not_lt.mp hside,
            (Except.ok.inj h).symm⟩
  · rintro ⟨hbox, symbol, hsymbol, hside, rfl⟩
    exact render_result_of_symbol hbox hsymbol hside

/-- **Every pixel shows its module.** If the side is not too large, painting a grid succeeds, so
that none of its words overflows and none of its pixels is outside. What it paints is the picture of
the grid: a square of this side, black where the quotients lead to a dark module of the grid, and
white everywhere else. Every picture that is rendered is painted like this from the symbol of its
payload. -/
theorem painted_pixels :
    (∀ {width : ℕ} (g : Grid width) (d : Drawing), 0 < d.boxSize.toNat →
      (2 * d.border.toNat + width) * d.boxSize.toNat ≤ 10000 →
      ∃ p, d.paint? g = some p ∧ p = .ofGrid g d.border.toNat d.boxSize.toNat ∧
        p.IsSquare ((2 * d.border.toNat + width) * d.boxSize.toNat) ∧
        ∀ x y, x < p.side → y < p.side →
          (p.pixel? x y = some .black ↔
            (d.border.toNat ≤ x / d.boxSize.toNat ∧
              x / d.boxSize.toNat < d.border.toNat + width) ∧
            (d.border.toNat ≤ y / d.boxSize.toNat ∧
              y / d.boxSize.toNat < d.border.toNat + width) ∧
            g.isDark (x / d.boxSize.toNat - d.border.toNat)
              (y / d.boxSize.toNat - d.border.toNat)) ∧
          (p.pixel? x y = some .black ∨ p.pixel? x y = some .white)) ∧
    (∀ (payload : String) (d : Drawing) (p : Picture), (render payload d).result = .ok p →
      ∃ symbol, Symbol.ofBytes? d.level (Text.utf8Bytes payload.toList) = some symbol ∧
        (2 * d.border.toNat + symbol.width) * d.boxSize.toNat ≤ 10000 ∧
        d.paint? symbol.grid = some p) := by
  refine ⟨fun g d hbox hside => ?_, fun payload d p h => ?_⟩
  · refine ⟨_, paint?_eq_picture g hbox hside, rfl, Picture.isSquare_ofGrid g _ _,
      fun x y hx hy => ?_⟩
    rw [Picture.pixel?_ofGrid g hx hy, Option.some.injEq, Option.some.injEq]
    refine ⟨Grid.shade_eq_black_iff, ?_⟩
    cases g.shade d.border.toNat (x / d.boxSize.toNat) (y / d.boxSize.toNat) with
    | black => exact .inl rfl
    | white => exact .inr rfl
  · obtain ⟨hbox, symbol, hsymbol, hside, rfl⟩ := render_result_eq_ok_iff.mp h
    exact ⟨symbol, hsymbol, hside, paint?_eq_picture symbol.grid hbox hside⟩

/-- A diagonal of two modules, three pixels each behind two light ones; and a payload. -/
theorem painted_pixels_diagonal :
    (∃ p, Drawing.paint? ⟨3, 2, .medium⟩ (.ofFn 2 fun x y => x == y) = some p ∧ p.side = 18 ∧
      p.pixel? 6 8 = some .black ∧ p.pixel? 9 8 ≠ some .black ∧ p.pixel? 11 9 = some .black ∧
      p.pixel? 5 8 ≠ some .black) ∧
    ∃ p, (render "abc" .default).result = .ok p ∧
      ∃ symbol, Symbol.ofBytes? .medium (Text.utf8Bytes "abc".toList) = some symbol ∧
        (2 * 2 + symbol.width) * 10 ≤ 10000 ∧ Drawing.default.paint? symbol.grid = some p := by
  obtain ⟨p, hp, -, hsquare, hpixels⟩ := painted_pixels.1
    (.ofFn 2 fun x y => x == y) ⟨3, 2, .medium⟩ (by decide) (by decide)
  have hside : p.side = 18 := hsquare.side_eq
  have hlt : ∀ n, n < 18 → n < p.side := fun n hn => hside ▸ hn
  have hshort : Text.byteLength "abc".toList ≤ 666 := by decide
  obtain ⟨picture, hpicture⟩ := exists_picture hshort
  refine ⟨⟨p, hp, hside, ?_, ?_, ?_, ?_⟩, picture, hpicture,
    painted_pixels.2 "abc" .default picture hpicture⟩
  · exact (hpixels 6 8 (hlt 6 (by decide)) (hlt 8 (by decide))).1.mpr (by decide)
  · exact fun h => absurd ((hpixels 9 8 (hlt 9 (by decide)) (hlt 8 (by decide))).1.mp h) (by decide)
  · exact (hpixels 11 9 (hlt 11 (by decide)) (hlt 9 (by decide))).1.mpr (by decide)
  · exact fun h => absurd ((hpixels 5 8 (hlt 5 (by decide)) (hlt 8 (by decide))).1.mp h) (by decide)

end Grids

end RentBilling.Qr
