/-!
Sizes of QR symbols: versions, levels of error correction, and how many codewords each holds.

A version from 1 to 40 fixes the width of the symbol; a level fixes how much of it is spent on error
correction and into how many blocks the codewords are parted.
-/

namespace RentBilling.Qr

/-- How much damage a symbol survives. -/
inductive Level where
  | low
  | medium
  | quartile
  | high
  deriving DecidableEq, Repr

/-- The size of a symbol. -/
structure Version where
  number : Nat
  bounds : 1 ≤ number ∧ number ≤ 40
  deriving DecidableEq, Repr

namespace Version

/-- Modules along a side. -/
def width (v : Version) : Nat := 17 + 4 * v.number

theorem width_le (v : Version) : v.width ≤ 177 := by
  have := v.bounds
  unfold width; omega

/-- All versions, the smallest first. -/
def all : List Version :=
  (List.range 40).attach.map fun ⟨i, h⟩ =>
    ⟨i + 1, by have := List.mem_range.mp h; omega⟩

/-- Places along a side that alignment patterns are centred on. -/
def alignmentPlaces (v : Version) : List Nat :=
  if v.number = 1 then []
  else
    let count := v.number / 7 + 2
    let step :=
      if v.number = 32 then 26 else (v.number * 4 + count * 2 + 1) / (count * 2 - 2) * 2
    6 :: ((List.range (count - 1)).map fun i => v.width - 7 - i * step).reverse

/-- Modules that are left for codewords and remainder bits. -/
def dataModules (v : Version) : Nat :=
  let all := (16 * v.number + 128) * v.number + 64
  if v.number = 1 then all
  else
    let count := v.number / 7 + 2
    let aligned := all - ((25 * count - 10) * count - 55)
    if v.number < 7 then aligned else aligned - 36

/-- Codewords of all kinds. -/
def codewords (v : Version) : Nat := v.dataModules / 8

/-- Error-correction codewords of each block, by version. -/
def correctionTable : Level → List Nat
  | .low =>
    [7, 10, 15, 20, 26, 18, 20, 24, 30, 18, 20, 24, 26, 30, 22, 24, 28, 30, 28, 28, 28, 28, 30, 30,
      26, 28, 30, 30, 30, 30, 30, 30, 30, 30, 30, 30, 30, 30, 30, 30]
  | .medium =>
    [10, 16, 26, 18, 24, 16, 18, 22, 22, 26, 30, 22, 22, 24, 24, 28, 28, 26, 26, 26, 26, 28, 28, 28,
      28, 28, 28, 28, 28, 28, 28, 28, 28, 28, 28, 28, 28, 28, 28, 28]
  | .quartile =>
    [13, 22, 18, 26, 18, 24, 18, 22, 20, 24, 28, 26, 24, 20, 30, 24, 28, 28, 26, 30, 28, 30, 30, 30,
      30, 28, 30, 30, 30, 30, 30, 30, 30, 30, 30, 30, 30, 30, 30, 30]
  | .high =>
    [17, 28, 22, 16, 22, 28, 26, 26, 24, 28, 24, 28, 22, 24, 24, 30, 28, 28, 26, 28, 30, 24, 30, 30,
      30, 30, 30, 30, 30, 30, 30, 30, 30, 30, 30, 30, 30, 30, 30, 30]

/-- Blocks that the codewords are parted into, by version. -/
def blockTable : Level → List Nat
  | .low =>
    [1, 1, 1, 1, 1, 2, 2, 2, 2, 4, 4, 4, 4, 4, 6, 6, 6, 6, 7, 8, 8, 9, 9, 10, 12, 12, 12, 13, 14,
      15, 16, 17, 18, 19, 19, 20, 21, 22, 24, 25]
  | .medium =>
    [1, 1, 1, 2, 2, 4, 4, 4, 5, 5, 5, 8, 9, 9, 10, 10, 11, 13, 14, 16, 17, 17, 18, 20, 21, 23, 25,
      26, 28, 29, 31, 33, 35, 37, 38, 40, 43, 45, 47, 49]
  | .quartile =>
    [1, 1, 2, 2, 4, 4, 6, 6, 8, 8, 8, 10, 12, 16, 12, 17, 16, 18, 21, 20, 23, 23, 25, 27, 29, 34,
      34, 35, 38, 40, 43, 45, 48, 51, 53, 56, 59, 62, 65, 68]
  | .high =>
    [1, 1, 2, 4, 4, 4, 5, 6, 8, 8, 11, 11, 16, 16, 18, 16, 19, 21, 25, 25, 25, 34, 30, 32, 35, 37,
      40, 42, 45, 48, 51, 54, 57, 60, 63, 66, 70, 74, 77, 81]

/-- Error-correction codewords of each block. -/
def correction (v : Version) (level : Level) : Nat := (correctionTable level).getD (v.number - 1) 0

/-- Blocks that the codewords are parted into. -/
def blocks (v : Version) (level : Level) : Nat := (blockTable level).getD (v.number - 1) 1

/-- Codewords that carry data. -/
def dataCodewords (v : Version) (level : Level) : Nat :=
  v.codewords - v.correction level * v.blocks level

/-- Bits of data that fit. -/
def capacity (v : Version) (level : Level) : Nat := 8 * v.dataCodewords level

/-- Versions in groups with equally wide length fields. -/
inductive Group where
  | small
  | medium
  | large
  deriving DecidableEq, Repr

def group (v : Version) : Group :=
  if v.number ≤ 9 then .small else if v.number ≤ 26 then .medium else .large

/-- The largest version of a group. -/
def Group.largest : Group → Version
  | small => ⟨9, by decide, by decide⟩
  | medium => ⟨26, by decide, by decide⟩
  | large => ⟨40, by decide, by decide⟩

end Version

end RentBilling.Qr
