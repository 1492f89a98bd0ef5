/-!
# What can go wrong with guest memory
-/

namespace GuestBridge

/-- An error of input or output, as it shows itself. -/
structure IoError where
  message : String
  /-- The error with its fields by name, as log lines show it. -/
  fields : String
deriving DecidableEq, Repr

/-- Why an access to a memory failed. -/
inductive MemoryError where
  /-- The range does not lie inside the memory. -/
  | outOfBounds (offset len : UInt64) (size : Nat)
  /-- A guest address below zero. -/
  | negativeAddress (addr : Int32)
  /-- No NUL byte at or after the offset. -/
  | unterminated (offset : UInt64) (size : Nat)
  /-- A byte source ended before the range was filled. -/
  | shortSource
  /-- Any other error of a byte source. -/
  | io (error : IoError)
deriving DecidableEq, Repr

namespace MemoryError

def message : MemoryError → String
  | .outOfBounds offset len size =>
    s!"access of {len} bytes at offset {offset} is out of bounds (size={size})"
  | .negativeAddress addr => s!"guest address {addr} is negative"
  | .unterminated offset size => s!"no NUL terminator after offset {offset} (size={size})"
  | .shortSource => "I/O error while filling memory: failed to fill whole buffer"
  | .io error => "I/O error while filling memory: " ++ error.message

/-- The error with its fields by name, as log lines show it. -/
def fields : MemoryError → String
  | .outOfBounds offset len size =>
    "OutOfBounds \x7b offset: " ++ toString offset ++ ", len: " ++ toString len ++ ", size: "
      ++ toString size ++ " \x7d"
  | .negativeAddress addr => "NegativeAddress \x7b addr: " ++ toString addr ++ " \x7d"
  | .unterminated offset size =>
    "Unterminated \x7b offset: " ++ toString offset ++ ", size: " ++ toString size ++ " \x7d"
  | .shortSource =>
    "Io(Error \x7b kind: UnexpectedEof, message: \"failed to fill whole buffer\" \x7d)"
  | .io error => "Io(" ++ error.fields ++ ")"

end MemoryError

end GuestBridge
