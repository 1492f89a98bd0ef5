import GuestBridge.Memory.Basic
import GuestBridge.Resource.Kind
import GuestBridge.Text.Utf8

/-!
# Resources and their handles

A resource is a payload under a kind; the two are independent. Handles are the positive numbers
that guest code names resources by.
-/

namespace GuestBridge

/-- A decoded image, four bytes a pixel in rows from the top. -/
structure Bitmap where
  width : Nat
  height : Nat
  rgba : List UInt8
deriving DecidableEq, Repr

/-- A bitmap whose bytes are all zero. -/
def Bitmap.blank (width height : Nat) : Bitmap :=
  ⟨width, height, List.replicate (width * height * 4) 0⟩

inductive Payload where
  | empty
  | binary (memory : Memory)
  | image (bitmap : Bitmap)
  | label (text : String)
deriving DecidableEq, Repr

/-- The size in bytes that the guest sees. -/
def Payload.byteSize : Payload → Nat
  | .empty => 0
  | .binary m => m.size
  | .image b => b.rgba.length
  | .label s => s.utf8ByteSize

structure Resource where
  kind : ResourceKind
  payload : Payload
deriving DecidableEq, Repr

namespace Resource

def placeholder : Resource := ⟨.placeholder, .empty⟩

def binary (m : Memory) : Resource := ⟨.binary, .binary m⟩

def image (b : Bitmap) : Resource := ⟨.image, .image b⟩

def memory? (r : Resource) : Option Memory :=
  match r.payload with
  | .binary m => some m
  | _ => none

def bitmap? (r : Resource) : Option Bitmap :=
  match r.payload with
  | .image b => some b
  | _ => none

end Resource

/-- A number from one up that names a resource. -/
structure Handle where
  raw : UInt32
  raw_ne_zero : raw ≠ 0
deriving DecidableEq, Repr

namespace Handle

def ofRaw? (raw : UInt32) : Option Handle := if h : raw = 0 then none else some ⟨raw, h⟩

/-- The handle that a guest word names; zero and negative words name none. -/
def ofGuest? (word : Int32) : Option Handle :=
  if word.toInt < 0 then none else ofRaw? word.toUInt32

def first : Handle := ⟨1, by decide⟩

/-- The highest handle that a guest word can name. -/
def last : Handle := ⟨2147483647, by decide⟩

/-- The handle after this one, up to the last. -/
def next? (h : Handle) : Option Handle := if h.raw < last.raw then ofRaw? (h.raw + 1) else none

def text (h : Handle) : String := toString h.raw

end Handle

end GuestBridge
