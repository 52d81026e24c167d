import RentBilling.Log.Event
import RentBilling.Pix.Error
import RentBilling.Qr.Symbol
import RentBilling.Text.Utf8

/-!
Pictures of QR symbols.

Each module becomes a square of pixels, dark ones black and light ones white, with a quiet zone of
light modules all around. A picture has at most ten thousand pixels along a side; its size is worked
out in words of 32 bits, and what does not fit in one is too large.
-/

namespace RentBilling.Qr

/-- How a symbol is drawn. -/
structure Drawing where
  /-- Pixels along the side of a module. -/
  boxSize : UInt32
  /-- Width of the quiet zone, in modules. -/
  border : UInt32
  level : Level
  deriving DecidableEq, Repr

/-- Ten pixels to a module, a quiet zone of two modules, and medium error correction. -/
def Drawing.default : Drawing := ⟨10, 2, .medium⟩

/-- The most pixels along a side. -/
def maxSide : UInt32 := 10000

/-- The sum, if it fits in a word. -/
def plus? (a b : UInt32) : Option UInt32 :=
  if a.toNat + b.toNat < UInt32.size then some (a + b) else none

/-- The product, if it fits in a word. -/
def product? (a b : UInt32) : Option UInt32 :=
  if a.toNat * b.toNat < UInt32.size then some (a * b) else none

/-- Pixels along the side of a symbol of `modules` modules, if they are not too many. -/
def Drawing.side? (d : Drawing) (modules : UInt32) : Option UInt32 := do
  let quiet ← product? d.border 2
  let span ← plus? quiet modules
  let side ← product? span d.boxSize
  if side ≤ maxSide then some side else none

inductive Shade where
  | black
  | white
  deriving DecidableEq, Repr

/-- A square picture, as rows from top to bottom. -/
structure Picture where
  side : Nat
  rows : List (List Shade)
  deriving DecidableEq, Repr

/-- The pixel in column `x` of row `y`. -/
def Picture.pixel? (p : Picture) (x y : Nat) : Option Shade := p.rows[y]?.bind (·[x]?)

/-- Every element `k` times over. -/
def stretch {α : Type} (k : Nat) (l : List α) : List α := l.flatMap (List.replicate k)

/-- The list between `k` copies of `a` on either side. -/
def framed {α : Type} (k : Nat) (a : α) (l : List α) : List α :=
  List.replicate k a ++ l ++ List.replicate k a

def shadeOf (dark : Bool) : Shade := if dark then .black else .white

/-- The picture of a grid with a quiet zone of `border` modules and `box` pixels to a module. -/
def Picture.ofGrid {width : Nat} (g : Grid width) (border box : Nat) : Picture :=
  let span := 2 * border + width
  let light := List.replicate (span * box) Shade.white
  let drawn := g.rowLists.map fun row => stretch box (framed border .white (row.map shadeOf))
  ⟨span * box, stretch box (framed border light drawn)⟩

/-- The picture of a payload. -/
def render (payload : String) (d : Drawing) : Logged (Except Pix.Error Picture) :=
  if d.boxSize = 0 then ⟨[], .error (.badDrawing .emptyBoxes)⟩
  else match Symbol.ofBytes? d.level (Text.utf8Bytes payload.toList) with
    | none => ⟨[], .error .dataTooLong⟩
    | some symbol =>
      match d.side? (.ofNat symbol.width) with
      | none => ⟨[], .error (.badDrawing (.tooLarge d.boxSize d.border))⟩
      | some _ =>
        ⟨[.symbolDrawn symbol.width],
          .ok (.ofGrid symbol.grid d.border.toNat d.boxSize.toNat)⟩

end RentBilling.Qr
