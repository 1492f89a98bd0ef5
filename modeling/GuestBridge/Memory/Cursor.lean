/-!
# A byte source with a position

Reading an exact number of bytes either delivers them and moves past them, or delivers nothing and
moves to the end of the source.
-/

namespace GuestBridge

/-- Bytes and the position of the next one to read, which may lie past the end. -/
structure Cursor where
  bytes : List UInt8
  position : Nat
deriving DecidableEq, Repr

namespace Cursor

/-- What is left to read. -/
def remaining (c : Cursor) : List UInt8 := c.bytes.drop c.position

/-- Exactly `n` bytes, or none when fewer are left. -/
def readExact (c : Cursor) (n : Nat) : Option (List UInt8) × Cursor :=
  if n ≤ c.remaining.length then
    (some (c.remaining.take n), { c with position := c.position + n })
  else (none, { c with position := c.bytes.length })

end Cursor

end GuestBridge
