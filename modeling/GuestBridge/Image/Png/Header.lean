import GuestBridge.Image.Failure
import GuestBridge.Image.Inflate
import GuestBridge.Image.Png.Chunk

/-!
# Headers of PNG images

The first chunk gives the size of the image and how its pixels are stored. This module also lists
what can be wrong with a file.
-/

namespace GuestBridge.Image.Png

inductive Color where
  | gray
  | rgb
  | indexed
  | grayAlpha
  | rgba
deriving DecidableEq, Repr

namespace Color

def ofNat? : Nat → Option Color
  | 0 => some .gray
  | 2 => some .rgb
  | 3 => some .indexed
  | 4 => some .grayAlpha
  | 6 => some .rgba
  | _ => none

def name : Color → String
  | gray => "Grayscale"
  | rgb => "Rgb"
  | indexed => "Indexed"
  | grayAlpha => "GrayscaleAlpha"
  | rgba => "Rgba"

/-- Samples of a pixel in the file. -/
def channels : Color → Nat
  | .gray | .indexed => 1
  | .grayAlpha => 2
  | .rgb => 3
  | .rgba => 4

/-- The sample widths that go with it. -/
def depths : Color → List Nat
  | .gray => [1, 2, 4, 8, 16]
  | .indexed => [1, 2, 4, 8]
  | .rgb | .grayAlpha | .rgba => [8, 16]

end Color

/-- The sample widths, with their names. -/
def depthNames : List (Nat × String) :=
  [(1, "One"), (2, "Two"), (4, "Four"), (8, "Eight"), (16, "Sixteen")]

inductive Error where
  | beforeHeader (name : ChunkName)
  | wrongChecksum (name : ChunkName) (stored computed : UInt32)
  | wrongLength (name : ChunkName)
  | repeated (name : ChunkName)
  | unknownCritical (name : ChunkName)
  | emptyImage
  | depth (n : Nat)
  | color (n : Nat)
  | combination (color : Color) (depth : Nat)
  | compression (n : Nat)
  | filter (n : Nat)
  | interlacing (n : Nat)
  | noData
  | frameOrder (expected found : Nat)
  | disposal (n : Nat)
  | blending (n : Nat)
  | frameOutside
  | misplacedData (name : ChunkName)
  | unpacking (error : Inflate.Error)
  | tooFewRows
  | noPalette
deriving DecidableEq, Repr

/-- A number in hexadecimal digits. -/
def hexadecimal (n : UInt32) : String := String.ofList (Nat.toDigits 16 n.toNat)

def Error.message : Error → String
  | beforeHeader name => s!"{name.render} chunk appeared before IHDR chunk"
  | wrongChecksum name stored computed =>
    s!"CRC error: expected 0x{hexadecimal stored} have 0x{hexadecimal computed} "
      ++ s!"while decoding {name.render} chunk."
  | wrongLength name => s!"Chunk length wrong: {name.render}"
  | repeated name => s!"Chunk {name.render} must appear at most once."
  | unknownCritical name => s!"Unrecognized critical chunk: {name.render}"
  | emptyImage => "Invalid image dimensions"
  | depth n => s!"Invalid bit depth {n}."
  | color n => s!"Invalid color type {n}."
  | combination pixel bits =>
    s!"Invalid color/depth combination in header: {pixel.name}/"
      ++ (depthNames.lookup bits).getD ""
  | compression n => s!"Unknown compression method {n}."
  | filter n => s!"Unknown filter method {n}."
  | interlacing n => s!"Unknown interlace method {n}."
  | noData => "IDAT or fdAT chunk is missing."
  | frameOrder expected found =>
    s!"Sequence is not in order, expected #{expected} got #{found}."
  | disposal n => s!"Invalid dispose op {n}."
  | blending n => s!"Invalid blend op {n}."
  | frameOutside => "Sub frame is out-of-bounds."
  | misplacedData name => s!"Unexpected restart of {name.render} chunk sequence"
  | unpacking error => s!"Corrupt deflate stream. {error.name}"
  | tooFewRows => "IDAT or fDAT chunk does not have enough data for image."
  | noPalette => "Missing palette of indexed image."

/-- The outcome of a step of reading. -/
abbrev Result (α : Type) := Except (Failure Error) α

/-- Gives up because of a broken rule. -/
def reject {α : Type} (error : Error) : Result α := .error (.malformed error)

structure Header where
  width : Nat
  height : Nat
  depth : Nat
  color : Color
  isInterlaced : Bool

namespace Header

/-- Bytes of the data of the header chunk. -/
def size : Nat := 13

/-- Reads the data of the header chunk. -/
def read (data : ByteArray) : Result Header := do
  let width := numberAt data 0 4
  let height := numberAt data 4 4
  if width = 0 || height = 0 then reject .emptyImage
  let number (i : Nat) : Nat := (byteAt data i).toNat
  let depth := number 8
  if (depthNames.lookup depth).isNone then reject (.depth depth)
  let some color := Color.ofNat? (number 9) | reject (.color (number 9))
  if !color.depths.contains depth then reject (.combination color depth)
  if number 10 ≠ 0 then reject (.compression (number 10))
  if number 11 ≠ 0 then reject (.filter (number 11))
  if 1 < number 12 then reject (.interlacing (number 12))
  return ⟨width, height, depth, color, number 12 = 1⟩

def bitsPerPixel (h : Header) : Nat := h.color.channels * h.depth

/-- Bytes of a row of `width` pixels, without its filter. -/
def rowBytes (h : Header) (width : Nat) : Nat := (width * h.bitsPerPixel + 7) / 8

/-- Bytes that the pixels take up when palette and transparency have been applied to them. -/
def expandedSize (h : Header) (isTransparent : Bool) : Nat :=
  let channels : Nat :=
    match h.color with
    | .indexed | .rgb => if isTransparent then 4 else 3
    | .gray => if isTransparent then 2 else 1
    | .grayAlpha => 2
    | .rgba => 4
  h.width * h.height * channels * (if h.depth = 16 then 2 else 1)

end Header

end GuestBridge.Image.Png
