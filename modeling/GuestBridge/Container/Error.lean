import GuestBridge.Memory.Error
import GuestBridge.Text.Hex

/-!
# What can go wrong with a container
-/

namespace GuestBridge

/-- Faults of the byte streams under a container. -/
inductive StreamFault where
  /-- A single byte was asked for at the end of the stream. -/
  | endOfStream
  /-- A payload is shorter than its size says. -/
  | shortPayload
  /-- A sink takes no more bytes. -/
  | sinkFull
  /-- Any other error of a stream. -/
  | other (error : IoError)
deriving DecidableEq, Repr

namespace StreamFault

def message : StreamFault → String
  | .endOfStream => "failed to fill whole buffer"
  | .shortPayload => "unexpected end of file"
  | .sinkFull => "failed to write whole buffer"
  | .other error => error.message

/-- The fault with its fields by name, as log lines show it. -/
def fields : StreamFault → String
  | .endOfStream => "Error \x7b kind: UnexpectedEof, message: \"failed to fill whole buffer\" \x7d"
  | .shortPayload => "Kind(UnexpectedEof)"
  | .sinkFull => "Error \x7b kind: WriteZero, message: \"failed to write whole buffer\" \x7d"
  | .other error => error.fields

end StreamFault

/-- Why a container could not be read or written. -/
inductive ContainerError where
  /-- The first four bytes are not the mark of a container. -/
  | badMagic (index : Nat) (found expected : UInt8)
  /-- A record whose tag cannot be loaded. -/
  | unknownRecordType (tag : UInt8) (handle : UInt32)
  /-- A number of more than 28 bits. -/
  | varintTooLarge (value : UInt32)
  | stream (fault : StreamFault)
  /-- No handle is left for another resource. -/
  | handlesExhausted
deriving DecidableEq, Repr

namespace ContainerError

def message : ContainerError → String
  | .badMagic index found expected =>
    "bad container magic: byte " ++ toString index ++ " is " ++ Text.hexByte found
      ++ ", expected " ++ Text.hexByte expected
  | .unknownRecordType tag handle => s!"unknown record type {tag} at handle {handle}"
  | .varintTooLarge value =>
    "varint value " ++ Text.hex value.toNat ++ " does not fit in 28 bits"
  | .stream fault => "I/O error: " ++ fault.message
  | .handlesExhausted => "no resource handles left (last is 2147483647)"

/-- The error with its fields by name, as log lines show it. -/
def fields : ContainerError → String
  | .badMagic index found expected =>
    "BadMagic \x7b index: " ++ toString index ++ ", found: " ++ toString found ++ ", expected: "
      ++ toString expected ++ " \x7d"
  | .unknownRecordType tag handle =>
    "UnknownRecordType \x7b ty: " ++ toString tag ++ ", handle: " ++ toString handle ++ " \x7d"
  | .varintTooLarge value => "VarintTooLarge(" ++ toString value ++ ")"
  | .stream fault => "Io(" ++ fault.fields ++ ")"
  | .handlesExhausted => "Resource(HandlesExhausted)"

end ContainerError

end GuestBridge
