import RentBilling.Qr.Segment

/-!
Packing segments into data codewords.

Each segment gives its mode, its number of characters and its characters. A terminator, zeros up to
a full codeword and two alternating pad codewords fill the room that is left.
-/

namespace RentBilling.Qr

/-- The last `width` binary digits of `n`, the most significant first. -/
def bits : Nat → Nat → List Bool
  | 0, _ => []
  | width + 1, n => n.testBit width :: bits width n

/-- The number that binary digits denote. -/
def ofBits (bs : List Bool) : Nat := bs.foldl (fun n b => 2 * n + b.toNat) 0

namespace Mode

def indicator : Mode → Nat
  | numeric => 1
  | alphanumeric => 2
  | byte => 4
  | kanji => 8

end Mode

/-- The number of an upper-case letter, digit or symbol. -/
def alphanumericValue (b : UInt8) : Nat :=
  ("0123456789ABCDEFGHIJKLMNOPQRSTUVWXYZ $%*+-./:".toList).idxOf (Char.ofNat b.toNat)

/-- The number of a Kanji, from its two bytes. -/
def kanjiValue (first second : UInt8) : Nat :=
  let code := first.toNat * 256 + second.toNat
  let place := code - (if code < 0xE040 then 0x8140 else 0xC140)
  place / 256 * 0xC0 + place % 256

/-- Three digits take ten bits, two take seven and one takes four. -/
def numericBits : List UInt8 → List Bool
  | a :: b :: c :: rest =>
    bits 10 (100 * (a.toNat - 48) + 10 * (b.toNat - 48) + (c.toNat - 48)) ++ numericBits rest
  | [a, b] => bits 7 (10 * (a.toNat - 48) + (b.toNat - 48))
  | [a] => bits 4 (a.toNat - 48)
  | [] => []

/-- Two characters take eleven bits and one takes six. -/
def alphanumericBits : List UInt8 → List Bool
  | a :: b :: rest =>
    bits 11 (45 * alphanumericValue a + alphanumericValue b) ++ alphanumericBits rest
  | [a] => bits 6 (alphanumericValue a)
  | [] => []

/-- A Kanji takes thirteen bits. -/
def kanjiBits : List UInt8 → List Bool
  | a :: b :: rest => bits 13 (kanjiValue a b) ++ kanjiBits rest
  | _ => []

namespace Segment

/-- Number of characters. -/
def count (s : Segment) : Nat :=
  match s.mode with
  | .kanji => s.bytes.length / 2
  | _ => s.bytes.length

/-- The packed characters. -/
def payloadBits (s : Segment) : List Bool :=
  match s.mode with
  | .numeric => numericBits s.bytes
  | .alphanumeric => alphanumericBits s.bytes
  | .byte => s.bytes.flatMap fun b => bits 8 b.toNat
  | .kanji => kanjiBits s.bytes

/-- The packed segment. -/
def allBits (s : Segment) (g : Version.Group) : List Bool :=
  bits 4 s.mode.indicator ++ bits (s.mode.lengthBits g) s.count ++ s.payloadBits

end Segment

/-- The codeword of up to eight bits, filled up with zeros. -/
def toCodeword (bs : List Bool) : UInt8 :=
  .ofNat (ofBits (bs ++ List.replicate (8 - bs.length) false))

/-- Cuts bits into codewords; a last incomplete one is filled up with zeros. -/
def toCodewords : List Bool → List UInt8
  | [] => []
  | b :: rest => toCodeword (b :: rest.take 7) :: toCodewords (rest.drop 7)
termination_by bs => bs.length
decreasing_by simp only [List.length_drop, List.length_cons]; omega

/-- The pad codewords that follow the data. -/
def padding : Nat → List UInt8
  | 0 => []
  | 1 => [0xEC]
  | n + 2 => 0xEC :: 0x11 :: padding n

/-- The data codewords of a symbol. -/
def dataCodewords (v : Version) (level : Level) (segments : List Segment) : List UInt8 :=
  let packed := segments.flatMap (·.allBits v.group)
  let room := v.capacity level - packed.length
  let words := toCodewords (packed ++ List.replicate (min 4 room) false)
  words ++ padding (v.dataCodewords level - words.length)

end RentBilling.Qr
