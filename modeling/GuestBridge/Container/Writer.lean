import GuestBridge.Container.Error
import GuestBridge.Resource.Kind
import GuestBridge.Text.Utf8
import GuestBridge.Varint

/-!
# Writing containers

A container starts with its mark, the number of records and the sum of their payload sizes. Each
record is a tag byte, a size and that many payload bytes; a zero byte ends the container. The
header is computed from the records, so a written container always agrees with it.
-/

namespace GuestBridge

/-- The bytes that every container starts with. -/
def Container.magic : List UInt8 := [0x4D, 0x41, 0x52, 0x53]

/-- A place to write bytes to that may hold only so many. The last byte comes first. -/
structure Sink where
  reversed : List UInt8
  room : Option Nat
deriving DecidableEq, Repr

namespace Sink

def unlimited : Sink := ⟨[], none⟩

def limited (room : Nat) : Sink := ⟨[], some room⟩

/-- The bytes written so far. -/
def bytes (s : Sink) : List UInt8 := s.reversed.reverse

/-- Writes as many of the bytes as fit, and tells whether all did. -/
def push (s : Sink) (data : List UInt8) : Bool × Sink :=
  match s.room with
  | none => (true, { s with reversed := data.reverseAux s.reversed })
  | some room =>
    (data.length ≤ room,
      ⟨(data.take room).reverseAux s.reversed, some (room - data.length)⟩)

end Sink

/-- An action that writes to a sink and may fail; what it wrote before stays written. -/
abbrev Writing := ExceptT ContainerError (StateM Sink)

namespace Writing

def bytes (data : List UInt8) : Writing Unit := do
  if !(← modifyGet fun s => s.push data) then throw (.stream .sinkFull)

/-- Writes a number and returns how many bytes that took. Nothing is written of one too large. -/
def varint (v : UInt32) : Writing Nat := do
  match Varint.encode? v with
  | none => throw (.varintTooLarge v)
  | some data =>
    bytes data
    return data.length

end Writing

/-- One record as it is written. Any tag is possible, also one that no reader knows. -/
structure Record where
  tag : UInt8
  payload : List UInt8
deriving DecidableEq, Repr

/-- The records of a container, in order. -/
structure Container where
  records : List Record
deriving DecidableEq, Repr

/-- A size as a number of 32 bits; the largest one stands for all that do not fit. -/
def clampedSize (n : Nat) : UInt32 := UInt32.ofNat (min n 0xFFFFFFFF)

namespace Container

def empty : Container := ⟨[]⟩

def raw (c : Container) (tag : UInt8) (payload : List UInt8) : Container :=
  ⟨c.records ++ [⟨tag, payload⟩]⟩

def record (c : Container) (kind : ResourceKind) (payload : List UInt8) : Container :=
  c.raw kind.tag payload

def placeholder (c : Container) : Container := c.record .placeholder []

def binary (c : Container) (payload : List UInt8) : Container := c.record .binary payload

def ubin (c : Container) (payload : List UInt8) : Container := c.record .ubin payload

/-- An image record; the payload is the compressed image. -/
def image (c : Container) (payload : List UInt8) : Container := c.record .image payload

/-- A label record; its text ends in a NUL. -/
def label (c : Container) (name : String) : Container :=
  c.record .label (Text.Utf8.encode name ++ [0])

/-- The sum of the payload sizes. -/
def payloadBytes (c : Container) : Nat := c.records.foldr (fun r total => r.payload.length + total) 0

def writeRecord (r : Record) : Writing Unit := do
  Writing.bytes [r.tag]
  discard <| Writing.varint (clampedSize r.payload.length)
  Writing.bytes r.payload

def write (c : Container) : Writing Unit := do
  Writing.bytes magic
  discard <| Writing.varint (clampedSize c.records.length)
  discard <| Writing.varint (clampedSize c.payloadBytes)
  c.records.forM writeRecord
  Writing.bytes [0]

/-- The written container. -/
def toBytes (c : Container) : Except ContainerError (List UInt8) :=
  let (result, sink) := c.write.run.run Sink.unlimited
  result.map fun _ => sink.bytes

end Container

end GuestBridge
