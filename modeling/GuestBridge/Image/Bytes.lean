/-!
# Blocks of bytes

Files and pixels are blocks of bytes. A byte past the end of a block reads as zero.
-/

namespace GuestBridge.Image

/-- The byte at a place; zero past the end. -/
def byteAt (bytes : ByteArray) (i : Nat) : UInt8 := if h : i < bytes.size then bytes[i] else 0

/-- A number with its high byte first. -/
def bigEndian (bytes : ByteArray) : Nat := bytes.foldl (fun n b => 256 * n + b.toNat) 0

/-- The big-endian number in the `count` bytes at `start`; bytes past the end are left out. -/
def numberAt (bytes : ByteArray) (start count : Nat) : Nat :=
  bigEndian (bytes.extract start (start + count))

/-- Appends `count` equal bytes. -/
def padded (b : UInt8) : (count : Nat) → ByteArray → ByteArray
  | 0, bytes => bytes
  | count + 1, bytes => padded b count (bytes.push b)

/-- A block of equal bytes. -/
def uniform (count : Nat) (b : UInt8) : ByteArray := padded b count (.emptyWithCapacity count)

/-- Puts bytes over those at a place. -/
def overwrite (bytes : ByteArray) : (start : Nat) → List UInt8 → ByteArray
  | _, [] => bytes
  | start, b :: rest => overwrite (bytes.set! start b) (start + 1) rest

end GuestBridge.Image
