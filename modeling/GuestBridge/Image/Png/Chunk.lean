import GuestBridge.Image.Bytes
import GuestBridge.Text.Quoted

/-!
# Chunks of PNG files

A file is a signature and a sequence of chunks. A chunk has a length, a name of four letters, its
data and a checksum over name and data. The case of each letter tells a property of the chunk.
-/

namespace GuestBridge.Image.Png

/-- One bit of the division that the checksum of a chunk is the remainder of. -/
def checksumBit (crc : UInt32) : UInt32 :=
  if crc &&& 1 = 1 then (crc >>> 1) ^^^ 0xEDB88320 else crc >>> 1

def checksumByte (crc : UInt32) (b : UInt8) : UInt32 :=
  (List.range 8).foldl (fun crc _ => checksumBit crc) (crc ^^^ b.toUInt32)

def checksum (bytes : ByteArray) : UInt32 :=
  (bytes.foldl checksumByte 0xFFFFFFFF) ^^^ 0xFFFFFFFF

/-- The name of a chunk as its four bytes. -/
structure ChunkName where
  bytes : List UInt8
deriving DecidableEq, Repr

namespace ChunkName

def ofString (s : String) : ChunkName := ⟨s.toUTF8.toList⟩

def header : ChunkName := ofString "IHDR"
def palette : ChunkName := ofString "PLTE"
def transparency : ChunkName := ofString "tRNS"
def background : ChunkName := ofString "bKGD"
def codePoints : ChunkName := ofString "cICP"
def frameControl : ChunkName := ofString "fcTL"
def frameData : ChunkName := ofString "fdAT"
def data : ChunkName := ofString "IDAT"
def finish : ChunkName := ofString "IEND"

/-- Whether letter `i` of the name is small. -/
def isSmall (name : ChunkName) (i : Nat) : Bool := (name.bytes[i]?).any fun b => b &&& 0x20 ≠ 0

/-- Whether the image cannot be shown without it. -/
def isCritical (name : ChunkName) : Bool := !name.isSmall 0

/-- The written form of a byte of a name; a single quote is escaped as well. -/
def letter (b : UInt8) : List Char :=
  if b = 0x27 then ['\\', Char.ofNat 0x27] else Text.quotedChar (Char.ofNat b.toNat)

/-- The name with its properties. -/
def render (name : ChunkName) : String :=
  let letters := String.ofList (name.bytes.flatMap letter)
  "ChunkType \x7b type: " ++ letters
    ++ s!", critical: {name.isCritical}, private: {name.isSmall 1}, reserved: {name.isSmall 2}"
    ++ s!", safecopy: {name.isSmall 3} \x7d"

end ChunkName

/-- A chunk that starts at a place of a file. Its data may be cut off. -/
structure Chunk where
  name : ChunkName
  length : Nat
  data : ByteArray
  /-- The place behind the checksum. -/
  next : Nat
  /-- The checksum in the file; none if the file ends before. -/
  stored : Option UInt32

namespace Chunk

/-- The chunk at `start`; none if the file ends before its name does. -/
def at? (file : ByteArray) (start : Nat) : Option Chunk :=
  if file.size < start + 8 then none
  else
    let length := numberAt file start 4
    let finish := start + 8 + length
    some
      { name := ⟨(file.extract (start + 4) (start + 8)).toList⟩
        length
        data := file.extract (start + 8) finish
        next := finish + 4
        stored :=
          if finish + 4 ≤ file.size then some (UInt32.ofNat (numberAt file finish 4)) else none }

/-- The checksum that the chunk should have. -/
def computed (c : Chunk) : UInt32 := checksum (c.name.bytes.toByteArray ++ c.data)

end Chunk

end GuestBridge.Image.Png
