import GuestBridge.Image.Jpeg.Setup

/-!
# Coded bits

The blocks of a scan are sent as bits, high bit first. A byte of all ones in them is followed by a
zero byte that does not count; followed by anything else it is a marker, where the bits end. Bits
are taken over from the file in groups and read through a window of 64 bits.

Bits that are missing have to be made up. Behind a marker they are zero. At the end of the file the
window is not filled any more, and the bits that were read as numbers come round in it again.
-/

namespace GuestBridge.Image.Jpeg

/-- The bits of a file from some place on. -/
structure CodedBits where
  file : ByteArray
  /-- The place of the next byte. -/
  position : Nat
  /-- The bits taken over, the last one in the lowest place. -/
  taken : UInt64 := 0
  /-- The bits that come next, the first one in the highest place. -/
  window : UInt64 := 0
  /-- How many bits of the window count. -/
  count : UInt8 := 0
  marker : Option Marker := none
  /-- Whether the end of the file has been reached. -/
  isStarved : Bool := false
  /-- Whether the marker at the end of the image has been passed. -/
  isOver : Bool := false
  /-- Blocks without further coefficients that are still to come. -/
  emptyBlocks : Nat := 0

namespace CodedBits

/-- Starts afresh with the next byte. -/
def reset (s : CodedBits) : CodedBits :=
  { s with taken := 0, window := 0, count := 0, marker := none, emptyBlocks := 0 }

/-- Moves the bits that have not been read to the high end of the window. -/
def align (s : CodedBits) : CodedBits :=
  { s with window := s.taken <<< (64 - s.count).toUInt64 }

/-- Takes over `n` zero bits. -/
def appendZeros (s : CodedBits) (n : UInt8) : CodedBits :=
  { s with taken := s.taken <<< n.toUInt64, count := s.count + n }.align

/-- The next byte of the file; zero at its end. -/
def nextByte (s : CodedBits) : UInt8 × CodedBits :=
  (byteAt s.file s.position, { s with position := min s.file.size (s.position + 1) })

/-- The first byte that is not all ones, starting with `b`. -/
def skipOnes : (fuel : Nat) → (b : UInt8) → CodedBits → UInt8 × CodedBits
  | 0, b, s => (b, s)
  | fuel + 1, b, s =>
    if b = 0xFF then
      let (b, s) := s.nextByte
      skipOnes fuel b s
    else (b, s)

/-- Stops at a marker; none if it has no meaning. -/
def stopAt (s : CodedBits) (m : Marker) : Option CodedBits :=
  let s := if s.count = 0 then s else s.align
  if !Marker.isKnown m then none
  else
    let s := { s with marker := some m }
    some (if m = Marker.endOfImage then s.appendZeros 8 else s)

/-- Takes over `n` bytes, or those up to a marker. -/
def takeBytes : (n : Nat) → CodedBits → Option CodedBits
  | 0, s => some s.align
  | n + 1, s =>
    let (b, next) := s.nextByte
    let next := { next with isStarved := next.isStarved || next.file.size ≤ next.position }
    let grown (s : CodedBits) : CodedBits :=
      { s with taken := (s.taken <<< 8) ||| b.toUInt64, count := s.count + 8 }
    if b = 0xFF then
      let (m, next) := next.nextByte
      let (m, next) := skipOnes (next.file.size + 1) m next
      if m = 0 then takeBytes n (grown next) else next.stopAt m
    else takeBytes n (grown next)

/-- Whether four bytes are left that cannot be part of a marker. -/
def hasPlainGroup (s : CodedBits) : Bool :=
  s.position + 4 ≤ s.file.size
    && (List.range 4).all fun i => byteAt s.file (s.position + i) != 0xFF

/-- Makes sure that at least 32 bits can be read, if there are any; none at a marker without
meaning. The end of the file is only noticed by the group behind the last plain one. -/
def refill (s : CodedBits) : Option CodedBits :=
  if 32 ≤ s.count then some s
  else if s.marker.isSome || s.isOver then some (s.appendZeros 32)
  else if s.isStarved then some s
  else if s.hasPlainGroup then (s.takeBytes 4).map fun s => { s with isStarved := false }
  else s.takeBytes 4

/-- The bit `ahead` places from here. -/
def bit (s : CodedBits) (ahead : Nat) : Nat :=
  ((s.window >>> (63 - UInt64.ofNat ahead)) &&& 1).toNat

/-- The number that the next `n` bits make up. -/
def peek (s : CodedBits) (n : Nat) : Nat :=
  if n = 0 then 0 else (s.window >>> (64 - UInt64.ofNat n)).toNat

/-- Goes on behind `n` bits; zeros come into the window. -/
def drop (s : CodedBits) (n : Nat) : CodedBits :=
  let n := UInt8.ofNat n
  { s with
    window := s.window <<< n.toUInt64
    count := if s.count < n then 0 else s.count - n }

/-- Reads the next `n` bits as a number; they come into the window again at its low end. -/
def number (s : CodedBits) (n : Nat) : Nat × CodedBits :=
  let v := s.peek n
  (v, { s with
        window := (s.window <<< UInt64.ofNat n) ||| UInt64.ofNat v
        count := s.count - UInt8.ofNat n })

/-- Reads one bit. -/
def flag (s : CodedBits) : Bool × CodedBits := (s.peek 1 = 1, s.drop 1)

/-- The next symbol of a code; none if no word matches. -/
def symbol (s : CodedBits) (code : PrefixCode) : Option (Nat × CodedBits) :=
  (code.find? s.bit).map fun (symbol, length) => (symbol, s.drop length)

/-- The signed number of `n` bits that `v` stands for; the lower half of the range stands for
negative numbers. -/
def signed (v n : Nat) : Int32 :=
  if n ≠ 0 && v < 1 <<< (n - 1) then Int32.ofInt ((v : Int) + 1 - (1 <<< n : Nat))
  else Int32.ofNat v

/-- Looks for the next marker and passes over everything before it; none if it has no meaning. -/
def findMarker : (fuel : Nat) → CodedBits → Option Marker × CodedBits
  | 0, s => (none, s)
  | fuel + 1, s =>
    if s.file.size ≤ s.position then (none, s)
    else
      let (b, s) := s.nextByte
      if b ≠ 0xFF then findMarker fuel s
      else
        let (m, s) := s.nextByte
        let (m, s) := skipOnes (s.file.size + 1) m s
        if m = 0 then findMarker fuel s
        else (if Marker.isKnown m then some m else none, s)

/-- The marker where the bits ended, or else the next one. -/
def nextMarker (s : CodedBits) : Option Marker × CodedBits :=
  match s.marker with
  | some m => (some m, { s with marker := none })
  | none => findMarker (s.file.size + 1) s

end CodedBits

end GuestBridge.Image.Jpeg
