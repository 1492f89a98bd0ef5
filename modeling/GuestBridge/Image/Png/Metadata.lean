import GuestBridge.Image.Png.Header

/-!
# What precedes the rows of PNG images

The chunks before the rows bring a palette, a transparency and frame controls. A chunk that the
image needs is refused for its length before its data are looked at, and damage to it makes the
image unreadable. Most other chunks are passed over when they are damaged or do not suit the image.
-/

namespace GuestBridge.Image.Png

/-- What has been read before the rows. -/
structure Metadata where
  header : Header
  palette : Option ByteArray := none
  transparency : Option ByteArray := none
  /-- The number of the last frame control. -/
  frame : Option Nat := none
  hasCodePoints : Bool := false

namespace Metadata

/-- Colours of the palette. -/
def paletteSize (m : Metadata) : Nat := (m.palette.getD .empty).size / 3

def withPalette (m : Metadata) (data : ByteArray) : Result Metadata := do
  if m.palette.isSome then reject (.repeated .palette)
  if data.size = 0 || data.size % 3 ≠ 0 then reject (.wrongLength .palette)
  return { m with palette := some data }

/-- Keeps a transparency that suits the colours of the image. -/
def withTransparency (m : Metadata) (data : ByteArray) : Metadata :=
  let fits : Bool :=
    m.transparency.isNone &&
    match m.header.color with
    | .gray => 2 ≤ data.size
    | .rgb => 6 ≤ data.size
    | .indexed => m.palette.isSome && data.size ≤ m.paletteSize
    | .grayAlpha | .rgba => false
  if fits then { m with transparency := some data } else m

/-- The background of an indexed image has to come after its palette. -/
def checkBackground (m : Metadata) : Result Unit :=
  if m.header.color = .indexed && m.palette.isNone then .error .invalidData else .ok ()

/-- Four numbers that name a colour space: the third one is zero, and the last one zero or one. -/
def withCodePoints (m : Metadata) (data : ByteArray) : Result Metadata := do
  if m.hasCodePoints || m.palette.isSome then return m
  if byteAt data 2 ≠ 0 || 1 < byteAt data 3 then throw .invalidData
  return { m with hasCodePoints := true }

/-- A frame control carries the next number, and its frame covers the whole image. -/
def withFrameControl (m : Metadata) (data : ByteArray) : Result Metadata := do
  let number := numberAt data 0 4
  let expected : Nat := match m.frame with
    | some n => n + 1
    | none => 0
  if number ≠ expected then reject (.frameOrder expected number)
  let disposal := (byteAt data 24).toNat
  if 2 < disposal then reject (.disposal disposal)
  let blending := (byteAt data 25).toNat
  if 1 < blending then reject (.blending blending)
  let width := numberAt data 4 4
  let height := numberAt data 8 4
  if width = 0 || height = 0 then reject .emptyImage
  if width ≠ m.header.width || height ≠ m.header.height || numberAt data 12 8 ≠ 0 then
    reject .frameOutside
  return { m with frame := some number }

/-- Whether the data of a chunk may have some length. -/
def isLength (name : ChunkName) (length : Nat) : Bool :=
  if name = .header then length == Header.size
  else if name = .palette then length ≤ 768
  else if name = .finish then length == 0
  else if name = .frameControl then length == 26
  else if name = .transparency then length ≤ 256
  else if name = .background then 1 ≤ length && length ≤ 6
  else if name = .codePoints then length == 4
  else true

/-- Whether a chunk of another length is passed over. -/
def isPassedOver (name : ChunkName) : Bool := !name.isCritical && name != .frameControl

/-- Regards name and length of a chunk before its data. The data of frames come behind the rows. -/
def checkStart (chunk : Chunk) : Result Unit := do
  let name := chunk.name
  if name = .frameData then reject (.misplacedData name)
  if !isLength name chunk.length && !isPassedOver name then reject (.wrongLength name)
  if name.isCritical && !([ChunkName.header, .palette, .finish].contains name) then
    reject (.unknownCritical name)

/-- Takes in an undamaged chunk. -/
def add (m : Metadata) (name : ChunkName) (data : ByteArray) : Result Metadata := do
  if !isLength name data.size then return m
  if name = .header then reject (.repeated name)
  else if name = .palette then m.withPalette data
  else if name = .finish then reject .noData
  else if name = .transparency then return m.withTransparency data
  else if name = .background then
    m.checkBackground
    return m
  else if name = .codePoints then m.withCodePoints data
  else if name = .frameControl then m.withFrameControl data
  else return m

/-- Reads the chunks from `start` up to the first one with rows; the place of that one. -/
def read (m : Metadata) (file : ByteArray) : (fuel : Nat) → (start : Nat) → Result (Metadata × Nat)
  | 0, _ => .error .endOfFile
  | fuel + 1, start => do
    let some chunk := Chunk.at? file start | throw .endOfFile
    if chunk.name = .data then return (m, start)
    checkStart chunk
    let some stored := chunk.stored | throw .endOfFile
    if stored = chunk.computed then
      read (← m.add chunk.name chunk.data) file fuel chunk.next
    else if chunk.name.isCritical then
      reject (.wrongChecksum chunk.name stored chunk.computed)
    else read m file fuel chunk.next

end Metadata

/-- Reads all chunks up to the first one with rows; `start` is the place behind the signature. -/
def readMetadata (file : ByteArray) (start : Nat) : Result (Metadata × Nat) := do
  let some chunk := Chunk.at? file start | throw .endOfFile
  if chunk.name ≠ .header then reject (.beforeHeader chunk.name)
  if chunk.length ≠ Header.size then reject (.wrongLength chunk.name)
  let some stored := chunk.stored | throw .endOfFile
  if stored ≠ chunk.computed then reject (.wrongChecksum chunk.name stored chunk.computed)
  let header ← Header.read chunk.data
  Metadata.read { header } file (file.size + 1) chunk.next

end GuestBridge.Image.Png
