import RentBilling.Qr.Version

/-!
Error correction: Reed–Solomon codewords over the field of 256 elements.

The codewords of a symbol are parted into blocks, each with its own correction; the blocks are then
interleaved, data first.
-/

namespace RentBilling.Qr

/-- Multiplies by `x` in the field, whose modulus is `x^8 + x^4 + x^3 + x^2 + 1`. -/
def timesX (a : UInt8) : UInt8 := if a &&& 0x80 = 0 then a <<< 1 else (a <<< 1) ^^^ 0x1D

/-- The product in the field, with `steps` digits of `b` still to use. -/
def timesAux (a : UInt8) : Nat → UInt8 → UInt8
  | 0, _ => 0
  | steps + 1, b => (if b &&& 1 = 0 then 0 else a) ^^^ timesX (timesAux a steps (b >>> 1))

/-- The product in the field. -/
def times (a b : UInt8) : UInt8 := timesAux a 8 b

/-- Multiplies a polynomial, highest power first and without its leading one, by `x + root`. -/
def timesLinear (p : List UInt8) (root : UInt8) : List UInt8 :=
  List.zipWith (· ^^^ ·) (p ++ [0]) ((1 :: p).map (times root))

/-- The generator with `degree` roots, the powers of `x` from the zeroth on. -/
def generator : Nat → List UInt8
  | 0 => []
  | degree + 1 => timesLinear (generator degree) (Nat.repeat timesX degree 1)

/-- Takes one more codeword into a remainder. -/
def remainderStep (divisor remainder : List UInt8) (word : UInt8) : List UInt8 :=
  match remainder with
  | [] => []
  | top :: rest =>
    let factor := word ^^^ top
    List.zipWith (· ^^^ ·) (rest ++ [0]) (divisor.map (times factor))

/-- The correction codewords of a block: the remainder of its data by the generator. -/
def correctionWords (count : Nat) (data : List UInt8) : List UInt8 :=
  let divisor := generator count
  data.foldl (remainderStep divisor) (List.replicate count 0)

/-! ## Blocks -/

/-- Cuts data into `long` pieces of `size + 1` after `short` pieces of `size`. -/
def cutBlocks (size : Nat) : (short long : Nat) → List UInt8 → List (List UInt8)
  | short + 1, long, data => data.take size :: cutBlocks size short long (data.drop size)
  | 0, long + 1, data => data.take (size + 1) :: cutBlocks size 0 long (data.drop (size + 1))
  | 0, 0, _ => []

/-- Reads blocks crosswise: all first codewords, all second ones, and so on. -/
def interleave (length : Nat) (blocks : List (List UInt8)) : List UInt8 :=
  let blocks := blocks.map List.toArray
  (List.range length).flatMap fun i => blocks.filterMap (·[i]?)

/-- All codewords of a symbol in the order in which they are drawn. -/
def allCodewords (v : Version) (level : Level) (data : List UInt8) : List UInt8 :=
  let count := v.blocks level
  let size := v.dataCodewords level / count
  let long := v.dataCodewords level % count
  let blocks := cutBlocks size (count - long) long data
  interleave (size + 1) blocks ++
    interleave (v.correction level) (blocks.map (correctionWords (v.correction level)))

end RentBilling.Qr
