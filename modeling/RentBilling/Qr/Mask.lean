import RentBilling.Qr.Grid

/-!
Masks, and the penalty of a masked symbol.

A mask turns data modules over in a pattern so that symbols are easy to read. The penalty counts
what makes a symbol hard to read: long runs and blocks of one colour, runs that look like part of a
finder, and too much of one colour.
-/

namespace RentBilling.Qr

/-- A mask turns over the module in column `x` of row `y`. -/
def masked (mask x y : Nat) : Bool :=
  match mask with
  | 0 => (x + y) % 2 = 0
  | 1 => y % 2 = 0
  | 2 => x % 3 = 0
  | 3 => (x + y) % 3 = 0
  | 4 => (x / 3 + y / 2) % 2 = 0
  | 5 => x * y % 2 + x * y % 3 = 0
  | 6 => (x * y % 2 + x * y % 3) % 2 = 0
  | _ => ((x + y) % 2 + x * y % 3) % 2 = 0

def maskCount : Nat := 8

/-- What a run of `n` equal modules costs. -/
def runCost (n : Nat) : Nat := if 5 ≤ n then n - 2 else 0

/-- What the runs of a line cost, after `n` modules of one colour. -/
def runCostAfter (colour : Bool) (n : Nat) : List Bool → Nat
  | [] => runCost n
  | b :: line =>
    if b = colour then runCostAfter colour (n + 1) line
    else runCost n + runCostAfter b 1 line

/-- What the runs of equal modules in a line cost. -/
def runPenalty : List Bool → Nat
  | [] => 0
  | b :: line => runCostAfter b 1 line

/-- Blocks of two by two modules of one colour in two neighbouring lines. -/
def blockCount : List Bool → List Bool → Nat
  | a :: b :: upper, c :: d :: lower =>
    (if a = b ∧ a = c ∧ a = d then 1 else 0) + blockCount (b :: upper) (d :: lower)
  | _, _ => 0

/-- Counts the places where dark, light and dark modules stand as in a finder and four modules
before or after them are light, in a line with four light modules added at both ends. -/
def finderCount : List Bool → Nat
  | b0 :: line =>
    match line with
    | b1 :: b2 :: b3 :: true :: false :: true :: true :: true :: false :: true ::
        a0 :: a1 :: a2 :: a3 :: _ =>
      (if (!b0 && !b1 && !b2 && !b3) || (!a0 && !a1 && !a2 && !a3) then 1 else 0) + finderCount line
    | _ => finderCount line
  | [] => 0

/-- What looks like a finder in a line costs. -/
def finderPenalty (line : List Bool) : Nat :=
  let quiet := List.replicate 4 false
  40 * finderCount (quiet ++ line ++ quiet)

/-- What an excess of one colour costs among `total` modules. -/
def balancePenalty (dark total : Nat) : Nat :=
  let share := 200 * dark / total
  max share 100 - min share 100

/-- The penalty of a grid of modules. -/
def penalty {width : Nat} (g : Grid width) : Nat :=
  let rows := g.rowLists
  let lines := rows ++ g.columnLists
  let blocks := List.zipWith blockCount rows rows.tail
  lines.foldl (fun cost line => cost + runPenalty line + finderPenalty line) 0 +
    3 * blocks.foldl (· + ·) 0 + balancePenalty (rows.flatten.count true) (width * width)

end RentBilling.Qr
