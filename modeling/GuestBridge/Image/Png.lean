import GuestBridge.Image.Png.Unpacking
import GuestBridge.Resource.Basic

/-!
# PNG images

Behind the header and the chunks that belong to it come the compressed rows, in chunks that follow
each other directly. What follows the rows does not matter, except that there must be something.
-/

namespace GuestBridge.Image.Png

def signatureSize : Nat := 8

/-- Reads the chunks with rows from `start` on. -/
def readRows (m : Metadata) (file : ByteArray) :
    (fuel : Nat) → (start : Nat) → Unpacking → Result (Array Row)
  | 0, _, _ => .error .endOfFile
  | fuel + 1, start, u => do
    let some chunk := Chunk.at? file start | throw .endOfFile
    if chunk.name ≠ .data then u.finish
    else
      let u ← u.add m chunk.data
      let some stored := chunk.stored | throw .endOfFile
      if stored ≠ chunk.computed then
        reject (.wrongChecksum chunk.name stored chunk.computed)
      readRows m file fuel chunk.next u

/-- Decodes a file that starts with the signature. -/
def decode (file : ByteArray) : Result Bitmap := do
  let (m, start) ← readMetadata file signatureSize
  let h := m.header
  if pixelMemory < h.expandedSize m.transparency.isSome then throw .tooLarge
  let rows ← readRows m file (file.size + 1) start (.initial h)
  return ⟨h.width, h.height, (m.draw rows).toList⟩

end GuestBridge.Image.Png
