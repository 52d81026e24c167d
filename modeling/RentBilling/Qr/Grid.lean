/-!
Square grids of modules, each dark or light.
-/

namespace RentBilling.Qr

/-- A square of `width` rows of `width` modules; `true` is dark. -/
structure Grid (width : Nat) where
  rows : Vector (Vector Bool width) width
  deriving DecidableEq, Repr

namespace Grid

variable {width : Nat}

/-- The grid whose module in column `x` of row `y` is `dark x y`. -/
def ofFn (width : Nat) (dark : Nat → Nat → Bool) : Grid width :=
  ⟨Vector.ofFn fun y => Vector.ofFn fun x => dark x.val y.val⟩

/-- The module in column `x` of row `y`. Outside the grid all is light. -/
def isDark (g : Grid width) (x y : Nat) : Bool :=
  if hy : y < width then if hx : x < width then g.rows[y][x] else false else false

/-- The rows from top to bottom. -/
def rowLists (g : Grid width) : List (List Bool) := g.rows.toList.map Vector.toList

/-- The columns from left to right. -/
def columnLists (g : Grid width) : List (List Bool) :=
  (List.range width).map fun x => g.rows.toList.map fun row => row.toArray.getD x false

theorem length_rowLists (g : Grid width) : g.rowLists.length = width := by simp [rowLists]

end Grid

end RentBilling.Qr
