import RentBilling.Qr.Correction
import RentBilling.Qr.Layout
import RentBilling.Qr.Mask
import RentBilling.Qr.Packing

/-!
QR symbols.

The symbol of some data is that of the smallest version with room, under the mask with the lowest
penalty; of equally good masks the first is taken. Data that no version has room for has no symbol.
-/

namespace RentBilling.Qr

/-- A drawn symbol. -/
structure Symbol where
  version : Version
  grid : Grid version.width

namespace Symbol

/-- Modules along a side. -/
def width (s : Symbol) : Nat := s.version.width

/-- The bits of codewords, the most significant of each first. -/
def bitsOf (words : List UInt8) : List Bool := words.flatMap fun w => bits 8 w.toNat

/-- The bits along the data path, in one array of all modules by rows; modules without a bit are
light. -/
def place (v : Version) (path : List (Nat × Nat)) (bs : List Bool) : Array Bool :=
  (path.zip bs).foldl (fun cells ((x, y), b) => cells.setIfInBounds (y * v.width + x) b)
    (Array.replicate (v.width * v.width) false)

/-- The reserved modules, in one array by rows. -/
def reserved (v : Version) : Array Bool :=
  ((List.range v.width).flatMap fun y => (List.range v.width).map fun x => v.isReserved x y).toArray

/-- The grid with placed bits under a mask. -/
def masked (v : Version) (level : Level) (reserved cells : Array Bool) (mask : Nat) :
    Grid v.width :=
  .ofFn v.width fun x y =>
    if reserved.getD (y * v.width + x) false then v.reservedDark level mask x y
    else cells.getD (y * v.width + x) false != Qr.masked mask x y

/-- The grid with the lower penalty; the first of two equally good ones. -/
def better {width : Nat} (best : Nat × Grid width) (g : Grid width) : Nat × Grid width :=
  let p := penalty g
  if p < best.1 then (p, g) else best

/-- The symbol of codewords. -/
def ofCodewords (v : Version) (level : Level) (words : List UInt8) : Symbol :=
  let reserved := reserved v
  let cells := place v v.dataPath (bitsOf words)
  let first := masked v level reserved cells 0
  let others := (List.range (maskCount - 1)).map fun i => i + 1
  let best := others.foldl (fun best mask => better best (masked v level reserved cells mask))
    (penalty first, first)
  ⟨v, best.2⟩

/-- The symbol of some data, if a version has room for it. -/
def ofBytes? (level : Level) (bytes : List UInt8) : Option Symbol :=
  (Segment.plan? level bytes).map fun (v, segments) =>
    ofCodewords v level (allCodewords v level (dataCodewords v level segments))

theorem width_le (s : Symbol) : s.width ≤ 177 := s.version.width_le

end Symbol

end RentBilling.Qr
