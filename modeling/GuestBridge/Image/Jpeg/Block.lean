import GuestBridge.Image.Jpeg.CodedBits

/-!
# Blocks of coefficients

A block of eight by eight samples is sent as 64 frequency coefficients. The first one is sent as the
difference to that of the block before. Of the others only those that are not zero are sent, each
with the number of zeros before it. Scans of a progressive image bring some of the coefficients, or
one more bit of each of them.
-/

namespace GuestBridge.Image.Jpeg

/-- Coefficients or samples of a block, row by row. -/
abbrev Block := Array Int32

namespace Block

def zero : Block := Array.replicate 64 0

def get (b : Block) (i : Nat) : Int32 := (b[i]?).getD 0

/-- A number cut down to the 16 bits that progressive coefficients have. -/
def short (v : Int32) : Int32 := v.toInt16.toInt32

/-- The difference of the first coefficient to the one before. There must be a bit to read. -/
def readDifference (code : PrefixCode) (s : CodedBits) : Option (Int32 × CodedBits) := do
  let s ← s.refill
  if s.count = 0 then none
  let (size, s) ← s.symbol code
  if size = 0 then return (0, s)
  let (v, s) := s.number size
  return (CodedBits.signed v size, s)

/-- One of the further coefficients: its place and value, or how far to go on without one. -/
inductive Item where
  | coefficient (place : Nat) (value : Int32)
  | zeros
  | finish (run : Nat)

/-- The most bits of a code word together with its number that are read in one piece. -/
def piece : Nat := 9

/-- Reads an item; `k` is the number of the next coefficient. Behind the last coefficient a short
item stays there, and a long one starts again from the front. -/
def readItem (code : PrefixCode) (k : Nat) (s : CodedBits) : Option (Item × CodedBits) := do
  let s ← s.refill
  let (symbol, length) ← code.find? s.bit
  let run := symbol / 16
  let size := symbol % 16
  if size = 0 then
    return (if run = 15 then .zeros else .finish run, s.drop length)
  let value := CodedBits.signed (s.peek (length + size) % (1 <<< size)) size
  if length + size ≤ piece && -128 ≤ value && value ≤ 127 then
    return (.coefficient (min (k + run) 63) value, s.drop (length + size))
  let (v, s) := (s.drop length).number size
  return (.coefficient (k + run) (CodedBits.signed v size), s)

/-- Reads the further coefficients of a block from number `k` on, scaled by a table. -/
def readFurther (code : PrefixCode) (table : Array Int32) :
    (fuel : Nat) → (k : Nat) → Block → CodedBits → Option (Block × CodedBits)
  | 0, _, block, s => some (block, s)
  | fuel + 1, k, block, s =>
    if 64 ≤ k then some (block, s)
    else
      match readItem code k s with
      | none => none
      | some (.finish _, s) => some (block, s)
      | some (.zeros, s) => readFurther code table fuel (k + 16) block s
      | some (.coefficient place value, s) =>
        let i := zigzagPlace place
        readFurther code table fuel (place + 1) (block.setIfInBounds i (value * get table i)) s

end Block

end GuestBridge.Image.Jpeg
