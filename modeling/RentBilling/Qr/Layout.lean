import RentBilling.Qr.Version

/-!
Where things are in a symbol.

Three corners carry finder patterns, a grid of places carries alignment patterns, and timing
patterns run along the seventh row and column. Beside the finders stand the format bits and, from
version 7 on, the version bits. All other modules carry data, in columns two modules wide that run
up and down in turn from the right.
-/

namespace RentBilling.Qr

/-- The remainder of `n`, with `count` zero bits behind it, by a polynomial of that degree. -/
def checkBits (polynomial count : Nat) (n : Nat) : Nat :=
  Nat.repeat (fun r => (2 * r) ^^^ (if r.testBit (count - 1) then polynomial else 0)) count n

/-- The number of a level in the format bits. -/
def Level.formatNumber : Level → Nat
  | .low => 1
  | .medium => 0
  | .quartile => 3
  | .high => 2

/-- The fifteen format bits for a level and a mask. -/
def formatBits (level : Level) (mask : Nat) : Nat :=
  let data := level.formatNumber * 8 + mask
  (data * 1024 + checkBits 0x537 10 data) ^^^ 0x5412

/-- The eighteen version bits. -/
def versionBits (v : Version) : Nat := v.number * 4096 + checkBits 0x1F25 12 v.number

/-- How far apart two places are along one side. -/
def apart (a b : Nat) : Nat := max a b - min a b

/-- The distance of a module from a centre, counted in rings of a square. -/
def ring (x y cx cy : Nat) : Nat := max (apart x cx) (apart y cy)

namespace Version

/-- A finder with the light border and the format bits beside it. -/
def inCorner (v : Version) (x y : Nat) : Bool :=
  let n := v.width
  (x < 9 && y < 9) || (n - 8 ≤ x && y < 9) || (x < 9 && n - 8 ≤ y)

/-- The centre of the alignment pattern that a module belongs to. None stands on a finder. -/
def alignmentCentre? (v : Version) (x y : Nat) : Option (Nat × Nat) :=
  match v.alignmentPlaces.find? (apart x · ≤ 2), v.alignmentPlaces.find? (apart y · ≤ 2) with
  | some cx, some cy =>
    let last := v.width - 7
    if (cx = 6 ∧ cy = 6) ∨ (cx = 6 ∧ cy = last) ∨ (cx = last ∧ cy = 6) then none else some (cx, cy)
  | _, _ => none

/-- Which version bit stands in a module. -/
def versionBit? (v : Version) (x y : Nat) : Option Nat :=
  let n := v.width
  if v.number < 7 then none
  else if n - 11 ≤ x ∧ x < n - 8 ∧ y < 6 then some (3 * y + (x - (n - 11)))
  else if n - 11 ≤ y ∧ y < n - 8 ∧ x < 6 then some (3 * x + (y - (n - 11)))
  else none

/-- Which format bit stands in a module of the corners; every bit stands in two modules. -/
def formatBit? (v : Version) (x y : Nat) : Option Nat :=
  let n := v.width
  if x = 8 ∧ y ≤ 5 then some y
  else if x = 8 ∧ y = 7 then some 6
  else if x = 8 ∧ y = 8 then some 7
  else if x = 8 ∧ n - 7 ≤ y then some (y - (n - 15))
  else if y = 8 ∧ x = 7 then some 8
  else if y = 8 ∧ x ≤ 5 then some (14 - x)
  else if y = 8 ∧ n - 8 ≤ x then some (n - 1 - x)
  else none

/-- The module carries no data. -/
def isReserved (v : Version) (x y : Nat) : Bool :=
  v.inCorner x y || x = 6 || y = 6 || (v.alignmentCentre? x y).isSome || (v.versionBit? x y).isSome

/-- A module of a corner that carries no format bit: a finder, its border, or beside them. -/
def cornerDark (v : Version) (x y : Nat) : Bool :=
  let n := v.width
  let d := ring x y (if x < 9 then 3 else n - 4) (if y < 9 then 3 else n - 4)
  (x = 8 ∧ y = n - 8) || (d ≤ 3 && d ≠ 2)

/-- A module that carries no data is dark, for a level and a mask. -/
def reservedDark (v : Version) (level : Level) (mask : Nat) (x y : Nat) : Bool :=
  match v.formatBit? x y with
  | some i => (formatBits level mask).testBit i
  | none =>
    if v.inCorner x y ∧ ¬((x = 6 ∧ y = 8) ∨ (x = 8 ∧ y = 6)) then v.cornerDark x y
    else match v.alignmentCentre? x y with
      | some (cx, cy) => ring x y cx cy ≠ 1
      | none => match v.versionBit? x y with
        | some i => (versionBits v).testBit i
        | none => (if x = 6 then y else x) % 2 = 0

/-- The right-hand sides of the double columns, from the right; the timing column is left out. -/
def columnPairs (v : Version) : List Nat :=
  (List.range ((v.width - 7) / 2)).map (fun i => v.width - 1 - 2 * i) ++ [5, 3, 1]

/-- The modules of a double column, upwards or downwards, the right one of each row first. -/
def columnPath (v : Version) (upward : Bool) (right : Nat) : List (Nat × Nat) :=
  let down := (List.range v.width)
  (if upward then down.reverse else down).flatMap fun y => [(right, y), (right - 1, y)]

/-- The modules that carry data, as columns and rows, in the order in which they are filled. -/
def dataPath (v : Version) : List (Nat × Nat) :=
  (v.columnPairs.zipIdx.flatMap fun (right, i) => v.columnPath (i % 2 = 0) right).filter
    fun (x, y) => !v.isReserved x y

end Version

end RentBilling.Qr
