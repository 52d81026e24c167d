import RentBilling.Qr.Version

/-!
Segments: data cut into runs that are packed in the same way.

Digits, upper-case text and pairs of bytes that form a Kanji in the Shift JIS encoding pack more
densely than plain bytes. Data is first cut wherever the kind of its bytes changes; then neighbours
are merged from the left as long as that costs no more bits.
-/

namespace RentBilling.Qr

/-- A way of packing. -/
inductive Mode where
  | numeric
  | alphanumeric
  | byte
  | kanji
  deriving DecidableEq, Repr

namespace Mode

/-- The densest way that packs what either of two can pack. -/
def join : Mode → Mode → Mode
  | numeric, numeric => numeric
  | numeric, alphanumeric | alphanumeric, numeric | alphanumeric, alphanumeric => alphanumeric
  | kanji, kanji => kanji
  | _, _ => byte

/-- Width of the field that holds the number of characters. -/
def lengthBits : Mode → Version.Group → Nat
  | numeric, .small => 10
  | numeric, .medium => 12
  | numeric, .large => 14
  | alphanumeric, .small => 9
  | alphanumeric, .medium => 11
  | alphanumeric, .large => 13
  | byte, .small => 8
  | byte, _ => 16
  | kanji, .small => 8
  | kanji, .medium => 10
  | kanji, .large => 12

/-- Bits that a run of `n` bytes takes. -/
def dataBits : Mode → Nat → Nat
  | numeric, n => (10 * n + 2) / 3
  | alphanumeric, n => (11 * n + 1) / 2
  | byte, n => 8 * n
  | kanji, n => 13 * (n / 2)

end Mode

/-- A run of bytes and the way it is packed. -/
structure Segment where
  mode : Mode
  bytes : List UInt8
  deriving DecidableEq, Repr

namespace Segment

/-- Bits that the segment takes, its header included. -/
def size (s : Segment) (g : Version.Group) : Nat :=
  4 + s.mode.lengthBits g + s.mode.dataBits s.bytes.length

/-- Two neighbours as one segment. -/
def merge (s t : Segment) : Segment := ⟨s.mode.join t.mode, s.bytes ++ t.bytes⟩

/-! ## Cutting -/

/-- Kinds of bytes. The high ones can begin a pair and the low ones can only end one. -/
inductive ByteKind where
  | symbol
  | digit
  | letter
  | high1
  | high2
  | high3
  | low1
  | low2
  | other
  deriving DecidableEq, Repr

def kindOf (b : UInt8) : ByteKind :=
  let n := b.toNat
  if n ∈ [0x20, 0x24, 0x25, 0x2A, 0x2B, 0x2D, 0x2E, 0x2F, 0x3A] then .symbol
  else if 0x30 ≤ n ∧ n ≤ 0x39 then .digit
  else if 0x41 ≤ n ∧ n ≤ 0x5A then .letter
  else if 0x81 ≤ n ∧ n ≤ 0x9F then .high1
  else if 0xE0 ≤ n ∧ n ≤ 0xEA then .high2
  else if n = 0xEB then .high3
  else if n = 0x40 ∨ (0x5B ≤ n ∧ n ≤ 0x7E) ∨ n = 0x80 ∨ (0xA0 ≤ n ∧ n ≤ 0xBF) then .low1
  else if (0xC0 ≤ n ∧ n ≤ 0xDF) ∨ (0xEC ≤ n ∧ n ≤ 0xFC) then .low2
  else .other

/-- The run being cut, its bytes in reverse. -/
inductive Run where
  | empty
  | plain (mode : Mode) (bytes : List UInt8)
  | pairs (bytes : List UInt8)
  | /-- Complete pairs, and the first byte of another. -/
    halfPair (pairs : List UInt8) (first : UInt8)

namespace Run

/-- The run that begins with a byte. -/
def begin (b : UInt8) : Run :=
  match kindOf b with
  | .digit => plain .numeric [b]
  | .symbol | .letter => plain .alphanumeric [b]
  | .high1 | .high2 | .high3 => halfPair [] b
  | .low1 | .low2 | .other => plain .byte [b]

/-- The segments of a run that ends; half a pair is a byte by itself. -/
def close : Run → List Segment
  | empty => []
  | plain mode bytes => [⟨mode, bytes.reverse⟩]
  | pairs bytes => [⟨.kanji, bytes.reverse⟩]
  | halfPair [] first => [⟨.byte, [first]⟩]
  | halfPair bytes first => [⟨.kanji, bytes.reverse⟩, ⟨.byte, [first]⟩]

/-- A plain run goes on with this kind. -/
def continues : Mode → ByteKind → Bool
  | .numeric, .digit | .alphanumeric, .symbol | .alphanumeric, .letter => true
  | .byte, .low1 | .byte, .low2 | .byte, .other => true
  | _, _ => false

/-- A pair that begins with `first` can end with `b`. -/
def completes (first b : UInt8) : Bool :=
  match kindOf first, kindOf b with
  | .high3, .letter | .high3, .high1 | .high3, .low1 => true
  | .high3, _ => false
  | _, .symbol | _, .digit | _, .other => false
  | _, _ => true

/-- The run with another byte, or `none` if the byte does not belong to it. -/
def extend? (run : Run) (b : UInt8) : Option Run :=
  match run with
  | empty => some (begin b)
  | plain mode bytes => if continues mode (kindOf b) then some (plain mode (b :: bytes)) else none
  | pairs bytes =>
    match kindOf b with
    | .high1 | .high2 | .high3 => some (halfPair bytes b)
    | _ => none
  | halfPair bytes first => if completes first b then some (pairs (b :: first :: bytes)) else none

end Run

/-- Cuts bytes after a run that is not closed yet. -/
def cutAfter (run : Run) : List UInt8 → List Segment
  | [] => run.close
  | b :: bytes =>
    match run.extend? b with
    | some run => cutAfter run bytes
    | none => run.close ++ cutAfter (.begin b) bytes

/-- Cuts data wherever the kind of its bytes changes. -/
def cut (bytes : List UInt8) : List Segment := cutAfter .empty bytes

/-! ## Merging -/

/-- Merges segments into the one before them as long as that costs no more bits. -/
def mergeInto (g : Version.Group) (s : Segment) : List Segment → List Segment
  | [] => [s]
  | t :: rest =>
    if (s.merge t).size g ≤ s.size g + t.size g then mergeInto g (s.merge t) rest
    else s :: mergeInto g t rest

/-- The segments for a group of versions. -/
def mergeAll (g : Version.Group) : List Segment → List Segment
  | [] => []
  | s :: rest => mergeInto g s rest

/-- Bits that all segments take. -/
def totalSize (g : Version.Group) (segments : List Segment) : Nat :=
  segments.foldr (fun s bits => s.size g + bits) 0

/-! ## Choosing a version -/

/-- The segments and the version for a group, if its largest version has room. -/
def fit? (level : Level) (pieces : List Segment) (g : Version.Group) :
    Option (Version × List Segment) :=
  let segments := mergeAll g pieces
  let size := totalSize g segments
  if size ≤ g.largest.capacity level then
    (Version.all.find? (size ≤ ·.capacity level)).map (·, segments)
  else none

/-- The segments of data and the smallest version for them, of the first group with room. -/
def plan? (level : Level) (bytes : List UInt8) : Option (Version × List Segment) :=
  let pieces := cut bytes
  [.small, .medium, .large].findSome? (fit? level pieces)

end Segment

end RentBilling.Qr
