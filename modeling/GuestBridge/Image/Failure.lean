/-!
# Failures of image decoders

A file that breaks the rules of its format fails with a cause of that format. The other failures are
the same for all formats.
-/

namespace GuestBridge.Image

/-- Why an image cannot be decoded. -/
inductive Failure (Cause : Type) where
  | malformed (cause : Cause)
  | endOfFile
  | invalidData
  | tooLarge
deriving DecidableEq, Repr

namespace Failure

variable {Cause : Type}

/-- The text of a failure, with `describe` for the causes of the format. -/
def message (format : String) (describe : Cause → String) : Failure Cause → String
  | malformed cause => s!"Format error decoding {format}: {describe cause}: {describe cause}"
  | endOfFile => "unexpected end of file"
  | invalidData => "invalid data"
  | tooLarge => "Memory limit exceeded"

end Failure

/-- The most bytes that the pixels of an image may take up. -/
def pixelMemory : Nat := 512 * 1024 * 1024

end GuestBridge.Image
